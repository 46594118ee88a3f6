import GraphServe.Proofs.Executor.Interleaving
import GraphServe.Proofs.Executor.Preparing

/-!
# Executors — preparations only admit what was checked

Of a preparation the invariant is what its operation went through so far (`Stage.Admitted`).  Every
step keeps it, and leaves an executor that remembers only documents that were read
(`Stage.advance_admitted`).  So

* `Interleaving.admits_of_answer`: whatever order the steps of some preparations take, also where
  some never come to their end, the operations that are answered are admitted;
* `Executor.prepare_ok`, `Executor.prepare_continues`: so is the operation that is prepared without
  a break;
* `Executor.silent_prepare`: no resolver is called while it is.
-/

namespace GraphServe

open Document

namespace Stage

variable {x x' : Executor} {asked params : Params} {s : Stage} {i : Nat}

/-- What an operation went through up to a stage.  While its hooks run it was chosen, and is within
the limits of the extensions that are done. -/
def Admitted (x : Executor) (asked : Params) : Stage → Prop
  | hooking _ _ params _     => ∃ query, params = { asked with query }
  | seeking params _ _       => ∃ query, params = { asked with query }
  | keeping params _ _ d _   =>
      (∃ query, params = { asked with query }) ∧ Executor.IsRead x.service.schema d
  | checking i c             => ∃ d o, Executor.Chosen x.service.schema asked c d o ∧
      ∀ limit, some limit ∈ x.limits.take i → Executor.Within x.service c d o limit
  | answered (.ok c)         => ∃ d o, x.Admits asked c d o
  | answered (.error _)      => True

/-- What is known of a stage stays known while other preparations take steps. -/
theorem Admitted.of_continues (h : s.Admitted x asked) (hc : x.Continues x') :
    s.Admitted x' asked := by
  cases s with
  | hooking _ _ params stats => exact h
  | seeking params text context => exact h
  | keeping params text context d key? =>
      refine ⟨h.1, ?_⟩
      rw [hc.service]
      exact h.2
  | checking i c =>
      obtain ⟨d, o, hchosen, hwithin⟩ := h
      refine ⟨d, o, ?_, fun limit hmem => ?_⟩
      · rw [hc.service]
        exact hchosen
      · rw [hc.service]
        exact hwithin limit (hc.limits ▸ hmem)
  | answered a =>
      cases a with
      | error refusal => trivial
      | ok c =>
          obtain ⟨d, o, hadmits⟩ := h
          refine ⟨d, o, ?_, fun limit hmem => ?_⟩
          · rw [hc.service]
            exact hadmits.toChosen
          · rw [hc.service]
            have hmem' := Executor.mem_limits.mpr hmem
            rw [hc.limits] at hmem'
            exact hadmits.limited limit (Executor.mem_limits.mp hmem')

/-! ### What comes after a step -/

/-- A change of the text after another. -/
theorem sameRequest {params' : Params} (h : ∃ query, params = { asked with query })
    (h' : ∃ query, params' = { params with query }) : ∃ query, params' = { asked with query } := by
  obtain ⟨query, rfl⟩ := h
  obtain ⟨query', rfl⟩ := h'
  exact ⟨query', rfl⟩

theorem admitted_hooked {outcome : ParamsOutcome} (asked' : Params)
    (h : ∃ query, outcome.params = { asked with query }) :
    (hooked asked' i outcome).Admitted x asked := by
  unfold hooked
  cases outcome.error with
  | none => exact h
  | some e => trivial

theorem admitted_ready {stats : Stats} (asked' : Params)
    (h : ∃ query, params = { asked with query }) :
    (ready asked' params stats).Admitted x asked := by
  unfold ready
  cases params.query with
  | none => trivial
  | some text => exact h

/-- What was found was read before; otherwise it is read now. -/
theorem admitted_sought {text : String} {context : OperationContext} {found : Option Executable}
    (h : ∃ query, params = { asked with query })
    (hread : ∀ d, found = some d → Executor.IsRead x.service.schema d) :
    (sought x.service.schema params text context found).Admitted x asked := by
  unfold sought
  cases found with
  | some d => exact ⟨h, hread d rfl⟩
  | none =>
      cases hnow : Executor.readDocument x.service.schema text with
      | error errors => trivial
      | ok d => exact ⟨h, text, hnow⟩

theorem admitted_selected {context : OperationContext} {d : Executable}
    (h : ∃ query, params = { asked with query }) (hread : Executor.IsRead x.service.schema d) :
    (selected (Executor.selectOperation x.service.schema params d context)).Admitted x asked := by
  cases hselect : Executor.selectOperation x.service.schema params d context with
  | error refusal => trivial
  | ok c =>
      obtain ⟨o, hchosen⟩ := Executor.chosen_of_select hread hselect
      obtain ⟨query, rfl⟩ := h
      -- the text does not count any more, and no extension is done yet.
      refine ⟨d, o, ⟨hchosen.document, hchosen.isRead, hchosen.operation, hchosen.picked,
        hchosen.coerced⟩, fun limit hmem => ?_⟩
      rw [List.take_zero] at hmem
      exact absurd hmem List.not_mem_nil

/-- A hook on the operation that reports no error leaves it chosen, and within one limit more. -/
theorem admitted_checked {c : OperationContext} {e : Extension} (he : x.extensions[i]? = some e)
    (hbuilt : e.BuiltIn) (h : (checking i c).Admitted x asked) :
    (checked (i + 1) (e.onContext x.service c).1).Admitted x asked := by
  obtain ⟨d, o, hchosen, hwithin⟩ := h
  obtain ⟨halike, -, -⟩ := @Extension.onContext_builtIn e c x.service hbuilt
  unfold checked
  cases herror : (e.onContext x.service c).1.error with
  | some error => trivial
  | none =>
      refine ⟨d, o, hchosen.alike halike, fun limit hmem => ?_⟩
      have hlimit : x.limits[i]? = some e.limit? := by
        rw [Executor.limits, List.getElem?_map, he, Option.map_some]
      rw [List.take_add_one, hlimit, Option.toList_some] at hmem
      rcases List.mem_append.mp hmem with hmem | hmem
      · exact (hwithin limit hmem).alike halike
      · have heq : e = .complexityLimit limit :=
          Extension.limit?_eq_some.mp (List.mem_singleton.mp hmem).symm
        subst heq
        exact (Executor.within_of_limit hchosen herror).alike halike

/-- Once no extension is left, the operation is within every limit. -/
theorem admitted_answered {c : OperationContext} (he : x.extensions[i]? = none)
    (h : (checking i c).Admitted x asked) : (answered (.ok c)).Admitted x asked := by
  obtain ⟨d, o, hchosen, hwithin⟩ := h
  refine ⟨d, o, hchosen, fun limit hmem => hwithin limit ?_⟩
  rw [List.take_of_length_le]
  · exact Executor.mem_limits.mpr hmem
  · rw [Executor.limits, List.length_map]
    exact List.getElem?_eq_none_iff.mp he

/-! ### A step -/

/-- One step of a preparation keeps what its operation went through, and leaves an executor that
continues the one before. -/
theorem advance_admitted (hbuilt : x.BuiltIn) (hremembers : x.Remembers)
    (h : s.Admitted x asked) :
    (s.advance x).1.Admitted x asked ∧ x.Continues (s.advance x).2 := by
  cases s with
  | hooking asked' i params stats =>
      cases he : x.extensions[i]? with
      | none =>
          rw [advance_hooking_none he]
          exact ⟨admitted_ready asked' h, .refl hbuilt hremembers⟩
      | some e =>
          obtain ⟨hparams, -, he'⟩ := @Extension.onParams_builtIn e params stats
            (hbuilt e (List.mem_of_getElem? he))
          rw [advance_hooking he]
          exact ⟨admitted_hooked asked' (sameRequest h hparams),
            Executor.continues_setExtension hbuilt hremembers he he' Extension.limit?_onParams⟩
  | seeking params text context =>
      exact ⟨admitted_sought h fun d hd => hremembers.found hd,
        Executor.continues_setDocuments hbuilt (hremembers.get _)⟩
  | keeping params text context d key? =>
      refine ⟨admitted_selected h.1 h.2, Executor.continues_setDocuments hbuilt ?_⟩
      cases key? with
      | none => exact hremembers
      | some key => exact hremembers.add h.2
  | checking i c =>
      cases he : x.extensions[i]? with
      | none =>
          rw [advance_checking_none he]
          exact ⟨admitted_answered he h, .refl hbuilt hremembers⟩
      | some e =>
          have hextension := hbuilt e (List.mem_of_getElem? he)
          obtain ⟨-, -, he'⟩ := @Extension.onContext_builtIn e c x.service hextension
          rw [advance_checking he]
          exact ⟨admitted_checked he hextension h,
            Executor.continues_setExtension hbuilt hremembers he he' Extension.limit?_onContext⟩
  | answered a => exact ⟨h, .refl hbuilt hremembers⟩

/-- Some steps without a break. -/
theorem advanceBy_admitted (hbuilt : x.BuiltIn) (hremembers : x.Remembers)
    (h : s.Admitted x asked) (n : Nat) :
    (s.advanceBy x n).1.Admitted (s.advanceBy x n).2 asked ∧ x.Continues (s.advanceBy x n).2 := by
  induction n generalizing x s with
  | zero => exact ⟨h, .refl hbuilt hremembers⟩
  | succ n ih =>
      obtain ⟨hnext, hcontinues⟩ := advance_admitted hbuilt hremembers h
      obtain ⟨hlast, hcontinues'⟩ :=
        ih hcontinues.builtIn hcontinues.remembers (hnext.of_continues hcontinues)
      exact ⟨hlast, hcontinues.trans hcontinues'⟩

theorem admitted_start (x : Executor) (asked : Params) : (start asked).Admitted x asked :=
  ⟨asked.query, rfl⟩

end Stage

/-! ### Preparations in any order -/

namespace Interleaving

variable {r : Interleaving} {x : Executor} {requests : List Params} {j : Nat}

/-- What is known of each preparation, by what it was asked for. -/
def Admitted (r : Interleaving) (requests : List Params) : Prop :=
  ∀ (j : Nat) (s : Stage), r.stages[j]? = some s →
    ∃ asked, requests[j]? = some asked ∧ s.Admitted r.executor asked

theorem admitted_start (x : Executor) (requests : List Params) :
    (start x requests).Admitted requests := by
  intro j s hs
  rw [start, List.getElem?_map, Option.map_eq_some_iff] at hs
  obtain ⟨asked, hasked, rfl⟩ := hs
  exact ⟨asked, hasked, Stage.admitted_start x asked⟩

theorem step_admitted (hbuilt : r.executor.BuiltIn) (hremembers : r.executor.Remembers)
    (h : r.Admitted requests) (i : Nat) :
    (r.step i).Admitted requests ∧ r.executor.Continues (r.step i).executor := by
  cases hs : r.stages[i]? with
  | none =>
      rw [step_of_none hs]
      exact ⟨h, .refl hbuilt hremembers⟩
  | some s =>
      obtain ⟨asked, hasked, hadmitted⟩ := h i s hs
      obtain ⟨hnext, hcontinues⟩ := Stage.advance_admitted hbuilt hremembers hadmitted
      rw [step_of_some hs]
      refine ⟨fun j s' hs' => ?_, hcontinues⟩
      by_cases heq : i = j
      · subst heq
        obtain ⟨hi, -⟩ := List.getElem?_eq_some_iff.mp hs
        rw [List.getElem?_set_self hi] at hs'
        cases hs'
        exact ⟨asked, hasked, hnext.of_continues hcontinues⟩
      · -- The others stay where they are, on the executor after the step.
        rw [List.getElem?_set_ne heq] at hs'
        obtain ⟨asked', hasked', hadmitted'⟩ := h j s' hs'
        exact ⟨asked', hasked', hadmitted'.of_continues hcontinues⟩

theorem run_admitted (hbuilt : r.executor.BuiltIn) (hremembers : r.executor.Remembers)
    (h : r.Admitted requests) (schedule : List Nat) :
    (r.run schedule).Admitted requests ∧ r.executor.Continues (r.run schedule).executor := by
  induction schedule generalizing r with
  | nil => exact ⟨h, .refl hbuilt hremembers⟩
  | cons i rest ih =>
      obtain ⟨hnext, hcontinues⟩ := step_admitted hbuilt hremembers h i
      obtain ⟨hlast, hcontinues'⟩ := ih hcontinues.builtIn hcontinues.remembers hnext
      exact ⟨hlast, hcontinues.trans hcontinues'⟩

/-- Preparations that take steps in some order leave an executor that continues the first. -/
theorem continues_run (hbuilt : x.BuiltIn) (hremembers : x.Remembers) (requests : List Params)
    (schedule : List Nat) : x.Continues ((start x requests).run schedule).executor :=
  (run_admitted (r := start x requests) hbuilt hremembers (admitted_start x requests) schedule).2

/-- **Only what was checked is answered**: an operation that some order of steps answers was admitted
for the parameters that asked for it. -/
theorem admits_of_answer {schedule : List Nat} {c : OperationContext} (hbuilt : x.BuiltIn)
    (hremembers : x.Remembers)
    (h : ((start x requests).run schedule).answer? j = some (.ok c)) :
    ∃ asked d o, requests[j]? = some asked ∧ x.Admits asked c d o := by
  obtain ⟨hadmitted, hcontinues⟩ :=
    run_admitted (r := start x requests) hbuilt hremembers (admitted_start x requests) schedule
  rw [answer?, Option.bind_eq_some_iff] at h
  obtain ⟨s, hs, hanswer⟩ := h
  obtain ⟨asked, hasked, hstage⟩ := hadmitted j s hs
  cases s with
  | answered a =>
      cases hanswer
      obtain ⟨d, o, hadmits⟩ := hstage
      exact ⟨asked, d, o, hasked, hcontinues.admits hadmits⟩
  | hooking | seeking | keeping | checking => cases hanswer

end Interleaving

/-! ### One preparation without a break -/

namespace Executor

variable {x : Executor} {params : Params} {c : OperationContext}

/-- Every operation that an executor prepares is admitted. -/
theorem prepare_ok (hbuilt : x.BuiltIn) (hremembers : x.Remembers)
    (h : (x.prepare params).1 = .ok c) : ∃ d o, Admits x params c d o := by
  obtain ⟨hadmitted, hcontinues⟩ := Stage.advanceBy_admitted hbuilt hremembers
    (Stage.admitted_start x params) (Stage.stepsFor x.extensions.length)
  rw [Stage.advanceBy_start] at hadmitted hcontinues
  rw [show (x.answer params).1 = .ok c from h] at hadmitted
  obtain ⟨d, o, hadmits⟩ := hadmitted
  exact ⟨d, o, hcontinues.admits hadmits⟩

theorem prepare_continues (hbuilt : x.BuiltIn) (hremembers : x.Remembers) (params : Params) :
    x.Continues (x.prepare params).2.1 := by
  obtain ⟨-, hcontinues⟩ := Stage.advanceBy_admitted hbuilt hremembers
    (Stage.admitted_start x params) (Stage.stepsFor x.extensions.length)
  rw [Stage.advanceBy_start] at hcontinues
  exact hcontinues

/-! ### The journal of a preparation -/

/-- The hooks on the parameters call no resolver, and leave extensions of the library. -/
theorem silent_runParamsHooks {extensions : List Extension} (params : Params) (stats : Stats)
    (h : ∀ e ∈ extensions, e.BuiltIn) :
    Silent (runParamsHooks extensions params stats).1.entries ∧
      ∀ e ∈ (runParamsHooks extensions params stats).2, e.BuiltIn := by
  induction extensions generalizing params stats with
  | nil => exact ⟨silent_nil, fun e he => absurd he List.not_mem_nil⟩
  | cons e rest ih =>
      obtain ⟨he, hrest⟩ := List.forall_mem_cons.mp h
      obtain ⟨-, hsilent, he'⟩ := @Extension.onParams_builtIn e params stats he
      rw [runParamsHooks]
      generalize e.onParams params stats = hook at *
      dsimp only
      cases hook.1.error with
      | some error => exact ⟨hsilent, List.forall_mem_cons.mpr ⟨he', hrest⟩⟩
      | none =>
          obtain ⟨hsilent', hafter⟩ := ih hook.1.params hook.1.stats hrest
          exact ⟨hsilent.append hsilent', List.forall_mem_cons.mpr ⟨he', hafter⟩⟩

/-- The hooks on an operation call no resolver. -/
theorem silent_runContextHooks {extensions : List Extension} (service : Service)
    (context : OperationContext) (h : ∀ e ∈ extensions, e.BuiltIn) :
    Silent (runContextHooks service extensions context).1.entries := by
  induction extensions generalizing context with
  | nil => exact silent_nil
  | cons e rest ih =>
      obtain ⟨he, hrest⟩ := List.forall_mem_cons.mp h
      obtain ⟨-, hsilent, -⟩ := @Extension.onContext_builtIn e context service he
      rw [runContextHooks]
      generalize e.onContext service context = hook at *
      dsimp only
      cases hook.1.error with
      | some error => exact hsilent
      | none => exact hsilent.append (ih hook.1.context hrest)

theorem silent_findDocument (x : Executor) (key text : String) :
    Silent (x.findDocument key text).2.2 := by
  rw [findDocument]
  rcases x.documents.get key with ⟨_ | d, documents⟩
  · dsimp only
    cases readDocument x.service.schema text with
    | error errors => exact silent_nil
    | ok d => exact silent_nil
  · exact silent_event _

/-- No resolver is called while an operation is prepared. -/
theorem silent_prepare (hbuilt : x.BuiltIn) (params : Params) : Silent (x.prepare params).2.2 := by
  obtain ⟨hsilent, hbuilt'⟩ := silent_runParamsHooks params {} hbuilt
  unfold prepare
  generalize runParamsHooks x.extensions params {} = hooked at *
  dsimp only
  split
  · exact hsilent
  · split
    · exact hsilent
    · next text _ =>
      have hfind := silent_findDocument { x with extensions := hooked.2 }
        (documentKey hooked.1.stats text) text
      generalize findDocument { x with extensions := hooked.2 }
        (documentKey hooked.1.stats text) text = found at *
      split
      · exact hsilent.append hfind
      · split
        · exact hsilent.append hfind
        · next context _ =>
          have hlast := silent_runContextHooks x.service context hbuilt'
          split <;> exact (hsilent.append hfind).append hlast

end Executor

end GraphServe
