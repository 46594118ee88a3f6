import GraphServe.Chain

/-!
# Chains — composition and order

A middleware may be any function of a context and of what runs further in (`Around`).  What runs
further in is a place in the chain and an endpoint (`Next`); to run it is to hand the middleware at
that place what is left behind it.

**Chains compose** (`Chain.composes`).  A chain that is pushed together from two runs as the first
around the second, whatever its middleware.  The chains of this library are such chains
(`Chain.run_eq_next`), of middleware that uses what runs further in at most once, and so does the
whole of a chain (`Chain.run_eq_whole`).  If each middleware marks its entry and its exit, the marks
are those of the entries in the order of registration, up to the first that answers or to the
endpoint, and then those of the exits in the reverse order (`Chain.run_marked`).
-/

namespace GraphServe

/-! ### Arbitrary middleware -/

section

variable {m : Type → Type} {C A : Type}

/-- A middleware as any function of a context and of what runs further in. -/
abbrev Around (m : Type → Type) (C A : Type) := C → (C → m A) → m A

/-- What is left of a chain: the middleware from a place on, and the endpoint. -/
structure Next (m : Type → Type) (C A : Type) where
  chain    : List (Around m C A)
  place    : Nat := 0
  endpoint : C → m A

/-- Hand the middleware at the place what is left behind it; behind the last is the endpoint. -/
def Next.run (next : Next m C A) (context : C) : m A :=
  match h : next.chain[next.place]? with
  | some mw =>
      have := (List.getElem?_eq_some_iff.mp h).1
      mw context fun c => Next.run { next with place := next.place + 1 } c
  | none    => next.endpoint context
termination_by next.chain.length - next.place

/-- Put middleware behind what is in a chain, one after the other. -/
def pushAll {α : Type} (chain others : List α) : List α :=
  others.foldl (fun chain mw => chain ++ [mw]) chain

theorem pushAll_eq {α : Type} (chain others : List α) : pushAll chain others = chain ++ others := by
  induction others generalizing chain with
  | nil => exact (List.append_nil chain).symm
  | cons mw others ih =>
      show pushAll (chain ++ [mw]) others = _
      rw [ih, List.append_assoc, List.singleton_append]

/-- To run what is left of a chain is to fold its middleware around the endpoint. -/
theorem Next.run_eq_foldr (next : Next m C A) :
    next.run = (next.chain.drop next.place).foldr (fun mw inner c => mw c inner) next.endpoint := by
  obtain ⟨chain, place, endpoint⟩ := next
  -- by what is left of the chain, at whatever place it starts
  generalize hrest : chain.drop place = rest
  induction rest generalizing place with
  | nil =>
      have hnone : chain[place]? = none := List.getElem?_eq_none (List.drop_eq_nil_iff.mp hrest)
      funext c
      rw [Next.run]
      split
      · rename_i mw hmw
        cases hnone.symm.trans hmw
      · rfl
  | cons mw rest ih =>
      have hmw : chain[place]? = some mw := by
        rw [← List.head?_drop, hrest, List.head?_cons]
      have hdrop : chain.drop (place + 1) = rest := by
        rw [← List.tail_drop, hrest, List.tail_cons]
      funext c
      rw [Next.run]
      split
      · rename_i mw' hmw'
        cases hmw.symm.trans hmw'
        show mw c (Next.run ⟨chain, place + 1, endpoint⟩) = _
        rw [ih (place + 1) hdrop]
        rfl
      · rename_i hnone
        cases hmw.symm.trans hnone

/-- A chain of two halves is the first around the second. -/
theorem Next.run_pushAll (xs ys : List (Around m C A)) (endpoint : C → m A) :
    Next.run ⟨pushAll (pushAll [] xs) ys, 0, endpoint⟩ =
      Next.run ⟨pushAll [] xs, 0, Next.run ⟨pushAll [] ys, 0, endpoint⟩⟩ := by
  simp only [pushAll_eq, Next.run_eq_foldr, List.nil_append, List.drop_zero, List.foldr_append]

/-- A middleware as a function of a context and of what runs further in, which it uses at most
once. -/
def Middleware.around [Monad m] (mw : Middleware m C A) : Around m C A := fun c inner => do
  match ← mw c with
  | .answer a        => pure a
  | .callOn c' after => inner c' >>= after

/-- A chain runs by handing on what is left of it. -/
theorem Chain.run_eq_next [Monad m] (chain : Chain m C A) (endpoint : C → m A) :
    chain.run endpoint = Next.run ⟨chain.map Middleware.around, 0, endpoint⟩ := by
  rw [Next.run_eq_foldr, List.drop_zero, List.foldr_map]
  induction chain with
  | nil => rfl
  | cons mw rest ih =>
      funext c
      rw [Chain.run, ih]
      rfl

/-- A chain as one middleware: it answers where one of it does, and else it calls on as the
innermost of it. -/
def Chain.whole [Monad m] : Chain m C A → Middleware m C A
  | [],         c => return .callOn c pure
  | mw :: rest, c => do
      match ← mw c with
      | .answer a        => return .answer a
      | .callOn c' after =>
          match ← whole rest c' with
          | .answer a          => return .answer (← after a)
          | .callOn c'' after' => return .callOn c'' fun a => after' a >>= after

/-- A chain is one middleware, so it uses its endpoint at most once, also if it is unwound. -/
theorem Chain.run_eq_whole [Monad m] [LawfulMonad m] (chain : Chain m C A) (endpoint : C → m A) :
    chain.run endpoint = fun c => chain.whole.around c endpoint := by
  induction chain with
  | nil => funext c; simp only [Chain.run, Middleware.around, Chain.whole, pure_bind, bind_pure]
  | cons mw rest ih =>
      funext c
      simp only [Chain.run, ih, Middleware.around, Chain.whole, bind_assoc]
      refine bind_congr fun step => ?_
      cases step with
      | answer a => simp only [pure_bind]
      | callOn c' after =>
          simp only [bind_assoc]
          refine bind_congr fun step => ?_
          cases step with
          | answer a            => simp only [pure_bind, bind_assoc, bind_pure]
          | callOn c'' after' => simp only [pure_bind, bind_assoc]

end

/-! ### Marks -/

/-- What is marked of the run of a chain: that the middleware at a place is entered, that it is
left, and that the endpoint runs. -/
inductive Mark where
  | entry (place : Nat)
  | exit (place : Nat)
  | endpoint
deriving DecidableEq, Repr

/-- The marks of a run through a chain of `n` middleware, the first of them at a place, that turns
back behind `k` of them: at the next, or at the endpoint. -/
def Mark.trail (place n k : Nat) : List Mark :=
  (List.range' place k).map .entry
    ++ (if k < n then [.entry (place + k), .exit (place + k)] else [.endpoint])
    ++ (List.range' place k).reverse.map .exit

theorem Mark.trail_zero (place n : Nat) : trail place (n + 1) 0 = [.entry place, .exit place] := rfl

theorem Mark.trail_succ (place n k : Nat) :
    trail place (n + 1) (k + 1) = .entry place :: (trail (place + 1) n k ++ [.exit place]) := by
  have hplace : place + (k + 1) = place + 1 + k := by omega
  simp only [trail, List.range'_succ, List.map_cons, List.reverse_cons, List.map_append,
    List.map_nil, List.cons_append, List.append_assoc, Nat.add_lt_add_iff_right, hplace]

/-- The endpoint is in a trail once if it was reached, and else not at all. -/
theorem Mark.count_endpoint_trail (place n k : Nat) :
    (trail place n k).count .endpoint = if k < n then 0 else 1 := by
  have hentries (l : List Nat) : (l.map Mark.entry).count .endpoint = 0 :=
    List.count_eq_zero.mpr fun h => by simp at h
  have hexits (l : List Nat) : (l.map Mark.exit).count .endpoint = 0 :=
    List.count_eq_zero.mpr fun h => by simp at h
  rw [trail, List.count_append, List.count_append, hentries, hexits]
  split <;> rfl

section

variable {σ C A : Type}

/-- Put a mark at the end of a log. -/
def Mark.put (mark : Mark) : StateT (List Mark) (StateM σ) Unit := modify (· ++ [mark])

/-- A stage whose run is marked. -/
abbrev Marked (σ α : Type) := StateT (List Mark) (StateM σ) α

namespace Marked

variable {α β : Type} (log : List Mark) (s : σ)

theorem put_apply (mark : Mark) : (mark.put : Marked σ Unit) log s = (((), log ++ [mark]), s) := rfl

theorem pure_apply (a : α) : (pure a : Marked σ α) log s = ((a, log), s) := rfl

theorem bind_apply (w : Marked σ α) (f : α → Marked σ β) :
    (w >>= f) log s = f (w log s).1.1 (w log s).1.2 (w log s).2 := rfl

theorem lift_apply (w : StateM σ α) :
    (liftM w : Marked σ α) log s = (((w s).1, log), (w s).2) := rfl

end Marked

/-- A middleware that marks its entry and its exit, and else does what another does. -/
def Middleware.marked (place : Nat) (mw : Middleware (StateM σ) C A) :
    Middleware (StateT (List Mark) (StateM σ)) C A := fun c => do
  Mark.put (.entry place)
  match ← (mw c : StateM σ _) with
  | .answer a => do
      Mark.put (.exit place)
      return .answer a
  | .callOn c' after =>
      return .callOn c' fun a => do
        let a ← (after a : StateM σ A)
        Mark.put (.exit place)
        return a

/-- A chain of middleware that marks its entries and exits, the first of it at a place. -/
def Chain.marked : Nat → Chain (StateM σ) C A → Chain (StateT (List Mark) (StateM σ)) C A
  | _,     []         => []
  | place, mw :: rest => mw.marked place :: marked (place + 1) rest

/-- An endpoint that marks that it runs. -/
def markedEndpoint (endpoint : C → StateM σ A) : C → StateT (List Mark) (StateM σ) A := fun c => do
  Mark.put .endpoint
  endpoint c

/-- A run of a chain turns back behind so many of its middleware, which call on: at the first that
answers, or at the endpoint. -/
inductive Chain.Turns : Chain (StateM σ) C A → C → σ → Nat → Prop where
  | endpoint (c : C) (s : σ) : Turns [] c s 0
  | answer {mw : Middleware (StateM σ) C A} {rest : Chain (StateM σ) C A} {c : C} {s s' : σ} {a : A}
      (answers : mw c s = (.answer a, s')) : Turns (mw :: rest) c s 0
  | on {mw : Middleware (StateM σ) C A} {rest : Chain (StateM σ) C A} {c c' : C} {s s' : σ}
      {after : A → StateM σ A} {k : Nat} (calls : mw c s = (.callOn c' after, s'))
      (turns : Turns rest c' s' k) : Turns (mw :: rest) c s (k + 1)

section

variable {mw : Middleware (StateM σ) C A} {c : C} {s s' : σ}

theorem Middleware.marked_answer {a : A} (h : mw c s = (.answer a, s')) (place : Nat)
    (log : List Mark) :
    mw.marked place c log s = ((.answer a, log ++ [.entry place] ++ [.exit place]), s') := by
  simp only [Middleware.marked, Marked.bind_apply, Marked.put_apply, Marked.lift_apply, h,
    Marked.pure_apply]

theorem Middleware.marked_callOn {c' : C} {after : A → StateM σ A}
    (h : mw c s = (.callOn c' after, s')) (place : Nat) (log : List Mark) :
    mw.marked place c log s =
      ((.callOn c' fun a => do
        let a ← (after a : StateM σ A)
        Mark.put (.exit place)
        return a, log ++ [.entry place]), s') := by
  simp only [Middleware.marked, Marked.bind_apply, Marked.put_apply, Marked.lift_apply, h,
    Marked.pure_apply]

end

/-- Marks change nothing of a run, and they are the trail to where it turns back. -/
theorem Chain.run_marked (chain : Chain (StateM σ) C A) (endpoint : C → StateM σ A) (place : Nat)
    (c : C) (s : σ) (log : List Mark) :
    ∃ k, chain.Turns c s k ∧
      (chain.marked place).run (markedEndpoint endpoint) c log s =
        (((chain.run endpoint c s).1, log ++ Mark.trail place chain.length k),
          (chain.run endpoint c s).2) := by
  have hbind {α β : Type} (w : StateM σ α) (f : α → StateM σ β) (s : σ) :
      (w >>= f) s = f (w s).1 (w s).2 := rfl
  induction chain generalizing place c s log with
  | nil => exact ⟨0, .endpoint c s, rfl⟩
  | cons mw rest ih =>
      -- the marked middleware takes the step of the plain one, and marks its entry
      rw [Chain.marked, Chain.run, Chain.run, Marked.bind_apply, hbind]
      rcases hstep : mw c s with ⟨a | ⟨c', after⟩, s'⟩
      · refine ⟨0, .answer hstep, ?_⟩
        rw [Middleware.marked_answer hstep, List.length_cons, Mark.trail_zero, List.append_assoc]
        rfl
      · obtain ⟨k, hturns, hrun⟩ := ih (place + 1) c' s' (log ++ [.entry place])
        refine ⟨k + 1, .on hstep hturns, ?_⟩
        have hlog : log ++ [.entry place] ++ Mark.trail (place + 1) rest.length k ++ [.exit place] =
            log ++ .entry place :: (Mark.trail (place + 1) rest.length k ++ [.exit place]) := by
          simp only [List.append_assoc, List.cons_append, List.nil_append]
        rw [Middleware.marked_callOn hstep, List.length_cons, Mark.trail_succ, ← hlog]
        dsimp only
        rw [Marked.bind_apply, hrun, hbind]
        rfl

end

/-! ### Chains -/

/-- **Chains compose.**

* A chain that is pushed together from two, of any functions of a context and of what runs further
  in, runs around an endpoint as the first does around the run of the second around it; so it is for
  the chains of this library, which run by handing on what is left of them.
* A chain of this library is one middleware, which answers or calls on once, so the endpoint runs at
  most once, whatever the effects are that unwind a run.
* If each middleware marks its entry and its exit, a run is marked by the entries in the order of
  registration up to the first that answers, or up to the endpoint, and then by the exits in the
  reverse order, and by nothing else: the endpoint is marked at most once, and nothing else of the
  run changes. -/
theorem Chain.composes :
    (∀ {m : Type → Type} {C A : Type} (xs ys : List (Around m C A)) (endpoint : C → m A),
      Next.run ⟨pushAll (pushAll [] xs) ys, 0, endpoint⟩ =
        Next.run ⟨pushAll [] xs, 0, Next.run ⟨pushAll [] ys, 0, endpoint⟩⟩) ∧
    (∀ {m : Type → Type} [Monad m] {C A : Type} (xs ys : Chain m C A) (endpoint : C → m A),
      Chain.run (pushAll (pushAll [] xs) ys) endpoint =
          Chain.run (pushAll [] xs) (Chain.run (pushAll [] ys) endpoint) ∧
        Chain.run xs endpoint = Next.run ⟨xs.map Middleware.around, 0, endpoint⟩) ∧
    (∀ {m : Type → Type} [Monad m] [LawfulMonad m] {C A : Type} (chain : Chain m C A),
      ∃ mw : Middleware m C A, ∀ (endpoint : C → m A) (c : C),
        chain.run endpoint c = mw.around c endpoint) ∧
    ∀ {σ C A : Type} (chain : Chain (StateM σ) C A) (endpoint : C → StateM σ A) (c : C) (s : σ)
      (log : List Mark),
      ∃ k, chain.Turns c s k ∧
        (chain.marked 0).run (markedEndpoint endpoint) c log s =
          (((chain.run endpoint c s).1, log ++ Mark.trail 0 chain.length k),
            (chain.run endpoint c s).2) ∧
        (Mark.trail 0 chain.length k).count .endpoint ≤ 1 := by
  refine ⟨Next.run_pushAll, fun xs ys endpoint => ⟨?_, Chain.run_eq_next xs endpoint⟩,
    fun chain => ⟨chain.whole, fun endpoint c => congrFun (Chain.run_eq_whole chain endpoint) c⟩,
    fun chain endpoint c s log => ?_⟩
  · simp only [pushAll_eq, List.nil_append]
    exact Chain.run_append xs ys endpoint
  · obtain ⟨k, hturns, hrun⟩ := Chain.run_marked chain endpoint 0 c s log
    refine ⟨k, hturns, hrun, ?_⟩
    rw [Mark.count_endpoint_trail]
    split <;> decide

/-- Calls on with the double of a number, and adds one to what comes back. -/
def Chain.doubling : Middleware (ExceptT String Id) Nat Nat := fun n =>
  return .callOn (2 * n) fun a => return a + 1

/-- Answers ten and more by itself, and is unwound by zero. -/
def Chain.guarding : Middleware (ExceptT String Id) Nat Nat := fun n =>
  if n = 0 then throw "nothing" else
  if 10 ≤ n then return .answer n else return .callOn n pure

/-- A chain that calls on, one that answers in its midst, and one that is unwound are each as one
middleware. -/
theorem Chain.composes_of_two : LawfulMonad (ExceptT String Id) ∧
    (∃ mw : Middleware (ExceptT String Id) Nat Nat, ∀ (endpoint : Nat → ExceptT String Id Nat) c,
      Chain.run [Chain.doubling, Chain.guarding] endpoint c = mw.around c endpoint) ∧
    Chain.run [Chain.doubling, Chain.guarding] (fun n => pure (n + 100)) 3 = Except.ok 107 ∧
    Chain.run [Chain.doubling, Chain.guarding] (fun n => pure (n + 100)) 5 = Except.ok 11 ∧
    Chain.run [Chain.doubling, Chain.guarding] (fun n => pure (n + 100)) 0 =
      Except.error "nothing" :=
  ⟨inferInstance, Chain.composes.2.2.1 [Chain.doubling, Chain.guarding], rfl, rfl, rfl⟩

end GraphServe
