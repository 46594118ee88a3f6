import GraphServe.Proofs.Executor.Stage

/-!
# Executors — preparations that take turns

`Interleaving` is some preparations on one executor, and a schedule says which of them takes the
next step (`Interleaving.run`).  Any order is allowed, one preparation after the other among them
(`Interleaving.run_inTurn`).  Every request that takes enough steps is answered, in whatever order
(`Interleaving.answer?_start`).
-/

namespace GraphServe

/-- Preparations on one executor, each as far as it has come. -/
structure Interleaving where
  executor : Executor
  stages   : List Stage

namespace Interleaving

/-- The preparations for some requests, none of which has taken a step. -/
def start (x : Executor) (requests : List Params) : Interleaving :=
  ⟨x, requests.map Stage.start⟩

/-- One of the preparations takes a step. -/
def step (r : Interleaving) (j : Nat) : Interleaving :=
  match r.stages[j]? with
  | some s => ⟨(s.advance r.executor).2, r.stages.set j (s.advance r.executor).1⟩
  | none   => r

/-- The preparations take steps in some order. -/
def run (r : Interleaving) (schedule : List Nat) : Interleaving := schedule.foldl step r

/-- The answer to a request, once it is there. -/
def answer? (r : Interleaving) (j : Nat) : Option Answer := r.stages[j]?.bind Stage.answer?

variable {r : Interleaving} {s : Stage} {j : Nat}

theorem step_of_some (h : r.stages[j]? = some s) :
    r.step j = ⟨(s.advance r.executor).2, r.stages.set j (s.advance r.executor).1⟩ := by
  simp only [step, h]

theorem step_of_none (h : r.stages[j]? = none) : r.step j = r := by
  simp only [step, h]

@[simp] theorem run_cons (r : Interleaving) (j : Nat) (schedule : List Nat) :
    r.run (j :: schedule) = (r.step j).run schedule := rfl

theorem run_append (r : Interleaving) (schedule more : List Nat) :
    r.run (schedule ++ more) = (r.run schedule).run more := List.foldl_append

theorem length_extensions_step (r : Interleaving) (j : Nat) :
    (r.step j).executor.extensions.length = r.executor.extensions.length := by
  cases h : r.stages[j]? with
  | none => rw [step_of_none h]
  | some s => rw [step_of_some h]; exact Stage.length_extensions_advance r.executor s

theorem length_step (r : Interleaving) (j : Nat) :
    (r.step j).stages.length = r.stages.length := by
  cases h : r.stages[j]? with
  | none => rw [step_of_none h]
  | some s => rw [step_of_some h]; exact List.length_set

theorem getElem?_step (r : Interleaving) (i j : Nat) :
    (r.step i).stages[j]? =
      if i = j then r.stages[j]?.map fun s => (s.advance r.executor).1 else r.stages[j]? := by
  cases h : r.stages[i]? with
  | none =>
      rw [step_of_none h]
      split
      next heq => rw [← heq, h]; rfl
      next => rfl
  | some s =>
      rw [step_of_some h, List.getElem?_set]
      split
      next heq =>
        subst heq
        rw [if_pos (List.getElem?_eq_some_iff.mp h).1, h]
        rfl
      next => rfl

/-- A preparation that took enough of the steps has its answer. -/
theorem left_run (schedule : List Nat) :
    ∀ {r : Interleaving} {s : Stage}, r.stages[j]? = some s →
      ∃ s', (r.run schedule).stages[j]? = some s' ∧
        s'.left r.executor.extensions.length ≤
          s.left r.executor.extensions.length - schedule.count j := by
  induction schedule with
  | nil =>
      intro r s h
      exact ⟨s, h, Nat.le_refl _⟩
  | cons i rest ih =>
      intro r s h
      have hstep := getElem?_step r i j
      rw [h] at hstep
      rw [run_cons, List.count_cons, ← length_extensions_step r i]
      -- a step of the preparation itself brings it nearer, one of another leaves it alone
      by_cases heq : i = j
      · rw [if_pos heq, Option.map_some] at hstep
        obtain ⟨s', hs', hleft⟩ := ih hstep
        have hadvance := Stage.left_advance r.executor s
        rw [← length_extensions_step r i] at hadvance
        refine ⟨s', hs', ?_⟩
        rw [if_pos (beq_iff_eq.mpr heq)]
        omega
      · rw [if_neg heq] at hstep
        obtain ⟨s', hs', hleft⟩ := ih hstep
        refine ⟨s', hs', ?_⟩
        rw [if_neg (by simpa using heq)]
        exact hleft

/-- Every request is answered that takes as many steps as a preparation has. -/
theorem answer?_start {x : Executor} {requests : List Params} {schedule : List Nat}
    (hj : j < requests.length) (hcount : Stage.stepsFor x.extensions.length ≤ schedule.count j) :
    ∃ a, ((start x requests).run schedule).answer? j = some a := by
  have hstart : (start x requests).stages[j]? = some (Stage.start requests[j]) := by
    simp [start, hj]
  obtain ⟨s, hs, hleft⟩ := left_run schedule hstart
  have hzero : s.left x.extensions.length = 0 :=
    Nat.le_zero.mp (Nat.le_trans hleft (Nat.le_of_eq (Nat.sub_eq_zero_of_le hcount)))
  obtain ⟨a, ha⟩ := Stage.answer?_of_left hzero
  exact ⟨a, by rw [answer?, hs]; exact ha⟩

/-! ### One after the other -/

theorem run_replicate (n : Nat) :
    ∀ {r : Interleaving} {s : Stage}, r.stages[j]? = some s →
      r.run (List.replicate n j) =
        ⟨(s.advanceBy r.executor n).2, r.stages.set j (s.advanceBy r.executor n).1⟩ := by
  induction n with
  | zero =>
      intro r s h
      obtain ⟨hj, rfl⟩ := List.getElem?_eq_some_iff.mp h
      rw [Stage.advanceBy, List.set_getElem_self]
      rfl
  | succ n ih =>
      intro r s h
      have hstep := getElem?_step r j j
      rw [if_pos rfl, h, Option.map_some] at hstep
      rw [List.replicate_succ, run_cons, ih hstep, step_of_some h]
      simp [Stage.advanceBy]

/-- The schedule by which some requests are prepared one after the other. -/
def inTurn (steps : Nat) (first : Nat) : Nat → List Nat
  | 0         => []
  | count + 1 => List.replicate steps first ++ inTurn steps (first + 1) count

end Interleaving

/-- The answers to some requests one after the other, and the executor after them. -/
def Executor.answerAll (x : Executor) : List Params → List Answer × Executor
  | []              => ([], x)
  | asked :: others =>
      let (a, x) := x.answer asked
      let (rest, x) := answerAll x others
      (a :: rest, x)

namespace Interleaving

theorem run_inTurn_from (requests : List Params) :
    ∀ {x : Executor} {done : List Stage},
      (⟨x, done ++ requests.map Stage.start⟩ : Interleaving).run
          (inTurn (Stage.stepsFor x.extensions.length) done.length requests.length) =
        ⟨(x.answerAll requests).2, done ++ (x.answerAll requests).1.map Stage.answered⟩ := by
  induction requests with
  | nil =>
      intro x done
      rfl
  | cons asked others ih =>
      intro x done
      have hstage : (done ++ (asked :: others).map Stage.start)[done.length]? =
          some (Stage.start asked) := by
        simp
      have hlength := Stage.length_extensions_advanceBy x (Stage.start asked)
        (Stage.stepsFor x.extensions.length)
      have hrest := @ih (x.answer asked).2 (done ++ [.answered (x.answer asked).1])
      rw [Stage.advanceBy_start] at hlength
      simp only at hlength
      rw [hlength] at hrest
      -- the first request is answered, and counts as done
      have hset : (done ++ (asked :: others).map Stage.start).set done.length
          (.answered (x.answer asked).1) =
            (done ++ [.answered (x.answer asked).1]) ++ others.map Stage.start := by
        simp
      rw [List.length_append, List.length_singleton] at hrest
      rw [List.length_cons, inTurn, run_append, run_replicate _ hstage, Stage.advanceBy_start]
      dsimp only
      rw [hset, hrest]
      simp [Executor.answerAll]

/-- Taken one after the other, the preparations give the answers of `Executor.prepare`. -/
theorem run_inTurn (x : Executor) (requests : List Params) :
    (start x requests).run (inTurn (Stage.stepsFor x.extensions.length) 0 requests.length) =
      ⟨(x.answerAll requests).2, (x.answerAll requests).1.map Stage.answered⟩ :=
  @run_inTurn_from requests x []

end Interleaving

end GraphServe
