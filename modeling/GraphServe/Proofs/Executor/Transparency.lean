import GraphServe.Proofs.Executor.Soundness
import GraphServe.Proofs.Resolved
import Mathlib.Data.List.Forall2

/-!
# Executors — the cache of documents against none

A history on an executor is compared with the same history, in the same order of steps, on that
executor without a cache of documents (`Executor.uncached`).  The two go in lockstep (`Mirrors`):

* what extensions remember is the same in both;
* a preparation is at the same stage in both (`Stage.Matches`), but for the key that a document
  read without a cache would be kept under;
* unless the keys crossed for it (`CrossedIn`).  Then it has a document with the cache, and is
  answered with the faults of its text without one (`Stage.Parted`).

So answers agree exactly where the keys do not cross (`answers_agree_iff`).
-/

namespace GraphServe

open Document
open Extension (PersistedQuery persistContext limitComplexity limitComplexity_context limitComplexity_error)

/-- The executor without a cache of documents. -/
def Executor.uncached (x : Executor) : Executor := { x with documents := .none }

/-- Answers that agree: in the document, the operation, its variables and what extensions recorded,
or in the errors. -/
def Answer.Agrees : Answer → Answer → Prop
  | .ok c,    .ok c'    =>
      c.document = c'.document ∧ c.operation = c'.operation ∧
        c.variableValues = c'.variableValues ∧ c.stats = c'.stats
  | .error r, .error r' => r.errors = r'.errors
  | _,        _         => False

theorem Answer.agrees_refl (a : Answer) : a.Agrees a := by
  cases a with
  | ok c => exact ⟨rfl, rfl, rfl, rfl⟩
  | error r => exact rfl

theorem Answer.map_isOk_eq {as as' : List Answer} (h : List.Forall₂ Answer.Agrees as as') :
    as.map (·.isOk) = as'.map (·.isOk) := by
  induction h with
  | nil => rfl
  | @cons a a' _ _ hagrees _ ih =>
      rw [List.map_cons, List.map_cons, ih]
      cases a <;> cases a' <;> first | rfl | exact absurd hagrees id

namespace Stage

/-- Stages that differ at most in the key to keep a document under: with a cache it was found. -/
inductive Matches : Stage → Stage → Prop where
  | same (s : Stage) : Matches s s
  | found (params : Params) (text : String) (context : OperationContext) (d : Executable)
      (key : String) :
      Matches (keeping params text context d none) (keeping params text context d (some key))

/-- A preparation without a hash that has a document; it is not refused for its text. -/
def HasDocument : Stage → Prop
  | hooking ..                => False
  | seeking ..                => False
  | keeping _ _ context _ _   => context.stats.persisted? = none
  | checking _ context        => context.stats.persisted? = none
  | answered (.ok _)          => True
  | answered (.error refusal) => ∀ e ∈ refusal.errors, ¬ e.IsCoded .parseFailed

/-- A preparation that was refused for its text. -/
def Refused (s : Stage) : Prop :=
  ∃ refusal, s = answered (.error refusal) ∧ refusal.errors ≠ [] ∧
    ∀ e ∈ refusal.errors, e.IsCoded .parseFailed

/-- A preparation that has a document with a cache, and is refused without one. -/
def Parted (s s' : Stage) : Prop := s.HasDocument ∧ s'.Refused

variable {texts : List String} {x : Executor} {s s' : Stage}

/-! ### In lockstep -/

/-- A step that finds what reading would give, or none that looks for a document. -/
theorem advance_matches (hx : x.Sound texts) (hcollision : NoCollision texts)
    (hs : s.Sound x.service.schema texts) (h : Matches s s') (hcross : ¬ s.Crosses x) :
    Matches (s.advance x).1 (s'.advance x.uncached).1 ∧
      (s'.advance x.uncached).2 = (s.advance x).2.uncached := by
  cases h with
  | found params text context d key => exact ⟨.same _, rfl⟩
  | same =>
      cases s with
      | answered a => exact ⟨.same _, rfl⟩
      | keeping params text context d key? => cases key? <;> exact ⟨.same _, rfl⟩
      | hooking asked i params stats =>
          cases he : x.extensions[i]? with
          | some e =>
              have he' : x.uncached.extensions[i]? = some e := he
              rw [advance_hooking he, advance_hooking he']
              exact ⟨.same _, rfl⟩
          | none =>
              have he' : x.uncached.extensions[i]? = none := he
              rw [advance_hooking_none he, advance_hooking_none he']
              exact ⟨.same _, rfl⟩
      | checking i context =>
          cases he : x.extensions[i]? with
          | some e =>
              have he' : x.uncached.extensions[i]? = some e := he
              rw [advance_checking he, advance_checking he']
              exact ⟨.same _, rfl⟩
          | none =>
              have he' : x.uncached.extensions[i]? = none := he
              rw [advance_checking_none he, advance_checking_none he']
              exact ⟨.same _, rfl⟩
      | seeking params text context =>
          -- the only step in which the two differ: what is found has to be what reading gives
          refine ⟨?_, rfl⟩
          show Matches (sought _ _ _ _ (x.documents.get _).1) (sought _ _ _ _ none)
          cases hfound : (x.documents.get (Executor.documentKey context.stats text)).1 with
          | none => exact .same _
          | some d =>
              have hread := Sound.read_of_found hx hcollision hs hcross hfound
              have hsought : sought x.service.schema params text context none =
                  keeping params text context d
                    (some (Executor.documentKey context.stats text)) := by
                simp only [sought, hread]
              exact hsought ▸ .found params text context d _

/-! ### Parted -/

/-- Where the keys cross, a document is found with a cache, and the text refused without one. -/
theorem advance_crosses (h : Matches s s') (hcross : s.Crosses x) :
    Parted (s.advance x).1 (s'.advance x.uncached).1 ∧
      (s'.advance x.uncached).2 = (s.advance x).2.uncached := by
  cases h with
  | found => exact absurd hcross id
  | same =>
      cases s with
      | seeking params text context =>
          obtain ⟨hpersisted, ⟨hash, htext⟩, d, hfound⟩ := hcross
          -- without a hash the text is the key, and here it is the key of a hash too
          have hkey : Executor.documentKey context.stats text = text := by
            rw [Executor.documentKey, hpersisted]
          refine ⟨⟨?_, ?_⟩, rfl⟩
          · show (sought _ _ _ _ (x.documents.get _).1).HasDocument
            rw [hkey, hfound]
            exact hpersisted
          · obtain ⟨errors, hne, hcoded, hread⟩ :=
              Executor.readDocument_persistedKey x.service.schema hash
            refine ⟨⟨context, errors⟩, ?_, hne, hcoded⟩
            show sought x.service.schema params text context none = _
            rw [← htext] at hread
            simp only [sought, hread]
      | _ => exact absurd hcross id

/-- Neither the selection of an operation nor its variables are at fault for a text. -/
theorem hasDocument_selected {params : Params} {d : Executable} {context : OperationContext}
    {s : Schema} (h : context.stats.persisted? = none) :
    (selected (Executor.selectOperation s params d context)).HasDocument := by
  -- one code is not the other
  have validation {e : Error} (he : e.IsCoded .validationFailed) : ¬ e.IsCoded .parseFailed :=
    fun hparse => by cases he.unique hparse
  unfold Executor.selectOperation
  dsimp only
  cases d.select params.operationName with
  | error e =>
      intro e' he'
      cases List.mem_singleton.mp he'
      exact validation rfl
  | ok o =>
      dsimp only
      cases hv : Variables.ofRequest s o params.variableValues with
      | error e =>
          intro e' he'
          cases List.mem_singleton.mp he'
          exact validation (Variables.ofRequest_code hv)
      | ok variableValues => exact h

/-- The hooks on an operation without a hash remember nothing, and are not at fault for a text. -/
theorem hasDocument_checked {e : Extension} {context : OperationContext} (service : Service)
    (i : Nat) (he : e.Sound texts) (h : context.stats.persisted? = none) :
    (checked i (e.onContext service context).1).HasDocument ∧ (e.onContext service context).2 = e := by
  cases e with
  | introspection => exact ⟨h, rfl⟩
  | tracing => exact ⟨h, rfl⟩
  | custom hooks => exact absurd he id
  | persistedQueries store =>
      have hpersist : persistContext store context = ({ context }, store) := by
        simp only [persistContext, h]
      dsimp only [Extension.onContext]
      rw [hpersist]
      exact ⟨h, rfl⟩
  | complexityLimit limit =>
      refine ⟨?_, rfl⟩
      obtain ⟨complexity?, hcontext⟩ := @limitComplexity_context limit service context
      show (checked i (limitComplexity limit service context)).HasDocument
      unfold checked
      cases herror : (limitComplexity limit service context).error with
      | none =>
          dsimp only
          rw [hcontext]
          exact h
      | some error =>
          intro e' he' hparse
          cases List.mem_singleton.mp he'
          cases (limitComplexity_error herror).unique hparse

theorem advance_parted (hx : x.Sound texts) (h : Parted s s') :
    Parted (s.advance x).1 (s'.advance x.uncached).1 ∧
      (s'.advance x.uncached).2 = (s.advance x).2.uncached := by
  obtain ⟨hdocument, refusal, rfl, hne, hcoded⟩ := h
  have hrefused : Refused (answered (.error refusal)) := ⟨refusal, rfl, hne, hcoded⟩
  cases s with
  | hooking asked i params stats => exact absurd hdocument id
  | seeking params text context => exact absurd hdocument id
  | answered a => exact ⟨⟨hdocument, hrefused⟩, rfl⟩
  | keeping params text context d key? =>
      exact ⟨⟨hasDocument_selected hdocument, hrefused⟩, rfl⟩
  | checking i context =>
      cases he : x.extensions[i]? with
      | none =>
          rw [advance_checking_none he]
          exact ⟨⟨trivial, hrefused⟩, rfl⟩
      | some e =>
          obtain ⟨hchecked, hsame⟩ := hasDocument_checked x.service (i + 1)
            (hx.extensions e (List.mem_of_getElem? he)) hdocument
          -- the extension stays as it is, so the executor without cache need not take the step
          obtain ⟨hi, rfl⟩ := List.getElem?_eq_some_iff.mp he
          rw [advance_checking he, hsame, List.set_getElem_self]
          exact ⟨⟨hchecked, hrefused⟩, rfl⟩

/-- A step in both, where the keys crossed before, cross now, or do not cross. -/
theorem advance_lockstep {crossed : Prop} (hx : x.Sound texts) (hcollision : NoCollision texts)
    (hs : s.Sound x.service.schema texts) (hparted : crossed → s.Parted s')
    (hmatches : ¬ crossed → s.Matches s') :
    (crossed ∨ s.Crosses x → (s.advance x).1.Parted (s'.advance x.uncached).1) ∧
      (¬ (crossed ∨ s.Crosses x) → (s.advance x).1.Matches (s'.advance x.uncached).1) ∧
      (s'.advance x.uncached).2 = (s.advance x).2.uncached := by
  by_cases hbefore : crossed
  · obtain ⟨hstill, hexecutor⟩ := advance_parted hx (hparted hbefore)
    exact ⟨fun _ => hstill, fun hnot => absurd (.inl hbefore) hnot, hexecutor⟩
  · by_cases hnow : s.Crosses x
    · obtain ⟨hparts, hexecutor⟩ := advance_crosses (hmatches hbefore) hnow
      exact ⟨fun _ => hparts, fun hnot => absurd (.inr hnow) hnot, hexecutor⟩
    · obtain ⟨hstill, hexecutor⟩ := advance_matches hx hcollision hs (hmatches hbefore) hnow
      exact ⟨fun hc => absurd hc (not_or.mpr ⟨hbefore, hnow⟩), fun _ => hstill, hexecutor⟩

end Stage

namespace Interleaving

/-! ### Whole histories -/

/-- The next step of a preparation crosses the keys. -/
def CrossesAt (r : Interleaving) (j : Nat) : Prop :=
  ∃ s, r.stages[j]? = some s ∧ s.Crosses r.executor

/-- One of the steps of a preparation crosses the keys. -/
def CrossedIn (r : Interleaving) : List Nat → Nat → Prop
  | [],        _ => False
  | i :: rest, j => (i = j ∧ r.CrossesAt j) ∨ (r.step i).CrossedIn rest j

/-- A history with a cache and without one, where some of the requests have crossed the keys. -/
structure Mirrors (crossed : Nat → Prop) (r r' : Interleaving) : Prop where
  executor  : r'.executor = r.executor.uncached
  length    : r'.stages.length = r.stages.length
  parted    : ∀ j s s', r.stages[j]? = some s → r'.stages[j]? = some s' → crossed j → s.Parted s'
  matching  : ∀ j s s', r.stages[j]? = some s → r'.stages[j]? = some s' → ¬ crossed j → s.Matches s'

variable {texts : List String} {crossed : Nat → Prop} {r r' : Interleaving}

theorem mirrors_start (x : Executor) (requests : List Params) :
    Mirrors (fun _ => False) (start x requests) (start x.uncached requests) where
  executor := rfl
  length := rfl
  parted _ _ _ _ _ h := absurd h id
  matching j s s' hs hs' _ := by
    cases Option.some.inj (hs.symm.trans hs')
    exact .same s

theorem Mirrors.exists_stage (h : Mirrors crossed r r') {j : Nat} {s : Stage}
    (hs : r.stages[j]? = some s) : ∃ s', r'.stages[j]? = some s' :=
  ⟨_, List.getElem?_eq_getElem (h.length ▸ (List.getElem?_eq_some_iff.mp hs).1)⟩

/-- The stage of the preparation that takes a step, in both histories. -/
theorem Mirrors.lockstep (hr : r.Sound texts) (hcollision : NoCollision texts)
    (h : Mirrors crossed r r') {j : Nat} {s s' : Stage} (hs : r.stages[j]? = some s)
    (hs' : r'.stages[j]? = some s') :
    (crossed j ∨ s.Crosses r.executor →
        (s.advance r.executor).1.Parted (s'.advance r'.executor).1) ∧
      (¬ (crossed j ∨ s.Crosses r.executor) →
        (s.advance r.executor).1.Matches (s'.advance r'.executor).1) ∧
      (s'.advance r'.executor).2 = (s.advance r.executor).2.uncached := by
  rw [h.executor]
  exact Stage.advance_lockstep hr.executor hcollision (hr.stages s (List.mem_of_getElem? hs))
    (h.parted j s s' hs hs') (h.matching j s s' hs hs')

/-- A step of one of the preparations, with a cache and without. -/
theorem mirrors_step (hr : r.Sound texts) (hcollision : NoCollision texts)
    (h : Mirrors crossed r r') (i : Nat) :
    Mirrors (fun j => crossed j ∨ (i = j ∧ r.CrossesAt j)) (r.step i) (r'.step i) := by
  have hcrosses (j : Nat) (s : Stage) (hs : r.stages[j]? = some s) :
      r.CrossesAt j ↔ s.Crosses r.executor := by
    refine ⟨?_, fun hc => ⟨s, hs, hc⟩⟩
    rintro ⟨t, ht, hc⟩
    cases Option.some.inj (ht.symm.trans hs)
    exact hc
  -- what a preparation's stage is afterwards: one step further for the one that takes it.
  have hstages (j : Nat) (t t' : Stage) (ht : (r.step i).stages[j]? = some t)
      (ht' : (r'.step i).stages[j]? = some t') :
      (crossed j ∨ (i = j ∧ r.CrossesAt j) → t.Parted t') ∧
        (¬ (crossed j ∨ (i = j ∧ r.CrossesAt j)) → t.Matches t') := by
    rw [getElem?_step] at ht ht'
    by_cases heq : i = j
    · rw [if_pos heq] at ht ht'
      obtain ⟨s, hs, rfl⟩ := Option.map_eq_some_iff.mp ht
      obtain ⟨s', hs', rfl⟩ := Option.map_eq_some_iff.mp ht'
      obtain ⟨hparted, hmatches, -⟩ := h.lockstep hr hcollision hs hs'
      rw [hcrosses j s hs]
      refine ⟨fun hc => hparted (hc.imp id (·.2)), fun hc => hmatches fun hc' => hc ?_⟩
      exact hc'.imp id fun hcross => ⟨heq, hcross⟩
    · rw [if_neg heq] at ht ht'
      refine ⟨fun hc => h.parted j t t' ht ht' (hc.elim id fun hc => absurd hc.1 heq),
        fun hc => h.matching j t t' ht ht' fun hbefore => hc (.inl hbefore)⟩
  refine ⟨?_, ?_, fun j t t' ht ht' => (hstages j t t' ht ht').1,
    fun j t t' ht ht' => (hstages j t t' ht ht').2⟩
  · cases hs : r.stages[i]? with
    | none =>
        have hs' : r'.stages[i]? = none := by
          rw [List.getElem?_eq_none_iff, h.length]
          exact List.getElem?_eq_none_iff.mp hs
        rw [step_of_none hs, step_of_none hs']
        exact h.executor
    | some s =>
        obtain ⟨s', hs'⟩ := h.exists_stage hs
        rw [step_of_some hs, step_of_some hs']
        exact (h.lockstep hr hcollision hs hs').2.2
  · rw [length_step, length_step, h.length]

theorem Mirrors.congr {before after : Nat → Prop} (h : Mirrors before r r')
    (hiff : ∀ j, before j ↔ after j) : Mirrors after r r' where
  executor := h.executor
  length := h.length
  parted j s s' hs hs' hc := h.parted j s s' hs hs' ((hiff j).mpr hc)
  matching j s s' hs hs' hc := h.matching j s s' hs hs' fun hbefore => hc ((hiff j).mp hbefore)

/-- A whole schedule, by induction on its steps. -/
theorem mirrors_run (hcollision : NoCollision texts) (schedule : List Nat) :
    ∀ {crossed : Nat → Prop} {r r' : Interleaving}, r.Sound texts → Mirrors crossed r r' →
      Mirrors (fun j => crossed j ∨ r.CrossedIn schedule j) (r.run schedule) (r'.run schedule) := by
  induction schedule with
  | nil =>
      intro crossed r r' hr h
      exact h.congr fun j => (or_iff_left id).symm
  | cons i rest ih =>
      intro crossed r r' hr h
      have hrest := ih (sound_step hr i) (mirrors_step hr hcollision h i)
      exact hrest.congr fun j => or_assoc

/-! ### Answers -/

/-- An answer that has a document agrees with no refusal for the text. -/
theorem not_agrees_of_refused {a : Answer} {refusal : Refusal}
    (hdocument : (Stage.answered a).HasDocument)
    (hrefused : refusal.errors ≠ [] ∧ ∀ e ∈ refusal.errors, e.IsCoded .parseFailed) :
    ¬ a.Agrees (.error refusal) := by
  intro hagrees
  cases a with
  | ok c => exact hagrees
  | error r =>
      obtain ⟨e, he⟩ := List.exists_mem_of_ne_nil _ hrefused.1
      have hsame : r.errors = refusal.errors := hagrees
      exact hdocument e (hsame ▸ he) (hrefused.2 e he)

/-- The cache of documents is transparent but where keys cross.  For every history on an executor
that starts with nothing remembered, in every order of steps: a request that is answered with the
cache is answered without it; the answers agree exactly if its keys did not cross, and are then the
same in all parts.  A request that takes enough steps is answered. -/
theorem answers_agree_iff {x : Executor} {requests : List Params} (hfresh : x.Fresh)
    (hcollision : NoCollision (textsOf requests)) (schedule : List Nat) (j : Nat) :
    (∀ a, ((start x requests).run schedule).answer? j = some a →
      ∃ a', ((start x.uncached requests).run schedule).answer? j = some a' ∧
        (a.Agrees a' ↔ ¬ (start x requests).CrossedIn schedule j) ∧
        (¬ (start x requests).CrossedIn schedule j → a' = a)) ∧
      (j < requests.length → Stage.stepsFor x.extensions.length ≤ schedule.count j →
        ∃ a, ((start x requests).run schedule).answer? j = some a) := by
  refine ⟨fun a ha => ?_, answer?_start⟩
  have hmirrors := mirrors_run hcollision schedule (sound_start hfresh) (mirrors_start x requests)
  obtain ⟨s, hs, hanswer⟩ := Option.bind_eq_some_iff.mp ha
  obtain ⟨s', hs'⟩ := hmirrors.exists_stage hs
  cases s with
  | answered b =>
      cases Option.some.inj hanswer
      -- where the keys crossed the answer is a refusal for the text, and otherwise the same
      by_cases hcrossed : (start x requests).CrossedIn schedule j
      · obtain ⟨hdocument, refusal, rfl, hrefused⟩ := hmirrors.parted j _ _ hs hs' (.inr hcrossed)
        refine ⟨.error refusal, by rw [answer?, hs']; rfl, ?_, fun hnot => absurd hcrossed hnot⟩
        exact iff_of_false (not_agrees_of_refused hdocument hrefused) (not_not_intro hcrossed)
      · cases hmirrors.matching j _ _ hs hs' (not_or.mpr ⟨id, hcrossed⟩)
        refine ⟨a, by rw [answer?, hs']; rfl, ?_, fun _ => rfl⟩
        exact iff_of_true a.agrees_refl hcrossed
  | _ => cases hanswer

end Interleaving

/-! ### Keys that cross -/

namespace Crossing

/-- The hash of the text `{ a }`. -/
def hash : String := "1c7e1e347f726166b5b1c55afd61f278cc9b45e00c108ec33d540a566379811b"

/-- A service with one field. -/
def service : Service where
  schema :=
    { types :=
        [⟨"Int", none, [], .scalar⟩,
         ⟨"Query", none, [], .object [] [{ name := "a", type := .named "Int" false }]⟩]
      directives := []
      query := some "Query" }
  query := .uniform "Query" (.leaf (.int 1))

/-- An executor that remembers documents and texts. -/
def executor : Executor where
  service
  extensions := [.persistedQueries .unbounded]
  documents := .unbounded

/-- A text that comes with its hash, and then the key of this hash as a text. -/
def requests : List Params :=
  [{ query := some "{ a }"
     extensions := [(PersistedQuery.key,
       .object [("version", .int 1), ("sha256Hash", .string hash)])] },
   { query := some ("apq|" ++ hash) }]

theorem fresh : executor.Fresh where
  documents := rfl
  extensions e he := by
    cases List.mem_singleton.mp he
    exact rfl

theorem noCollision : NoCollision (textsOf requests) :=
  noCollision_pair (by decide +kernel)

/-- The two requests, the first of which is answered before the second takes a step. -/
theorem answers_agree_iff_requests :
    executor.Fresh ∧ NoCollision (textsOf requests) ∧
      ∃ a a', ((Interleaving.start executor requests).run
          (Interleaving.inTurn 6 0 2)).answer? 1 = some a ∧
        ((Interleaving.start executor.uncached requests).run
          (Interleaving.inTurn 6 0 2)).answer? 1 = some a' ∧
        (a.Agrees a' ↔ ¬ (Interleaving.start executor requests).CrossedIn
          (Interleaving.inTurn 6 0 2) 1) := by
  obtain ⟨hagree, hanswered⟩ :=
    Interleaving.answers_agree_iff fresh noCollision (Interleaving.inTurn 6 0 2) 1
  obtain ⟨a, ha⟩ := hanswered (by decide) (by decide)
  obtain ⟨a', ha', hiff, -⟩ := hagree a ha
  exact ⟨fresh, noCollision, a, a', ha, ha', hiff⟩

/-- One after the other, the second request finds the document of the first, and is refused without
a cache. -/
theorem not_forall_agrees : executor.Fresh ∧ NoCollision (textsOf requests) ∧
    ¬ List.Forall₂ Answer.Agrees (executor.answerAll requests).1
      (executor.uncached.answerAll requests).1 := by
  refine ⟨fresh, noCollision, fun h => ?_⟩
  have hsame := Answer.map_isOk_eq h
  have hcached : (executor.answerAll requests).1.map (·.isOk) = [true, true] := by decide +kernel
  have huncached : (executor.uncached.answerAll requests).1.map (·.isOk) = [true, false] := by
    decide +kernel
  rw [hcached, huncached] at hsame
  cases hsame

end Crossing

end GraphServe
