import GraphServe.Proofs.Executor.Passing

/-!
# Executors — running and refusing operations

With middleware that passes through, an operation is run by executing it on the root object for its
type, and no resolver is called but by this (`Ran`).  A subscription has no root object.  A request
for which no operation was built gets the errors met in its response, in order, and no data
(`Executor.refuse_passes`).
-/

namespace GraphServe

open Document

namespace Executor

/-- The root object for a type of operation. -/
def root? (x : Executor) : OperationType → Option (ObjectValue Resolved)
  | .query        => some x.service.query
  | .mutation     => x.service.mutation
  | .subscription => none

/-- The middleware around operations and responses passes through, and failures are presented as
they are. -/
structure Transparent (x : Executor) : Prop where
  operations : ∀ mw ∈ x.operations, OperationMiddleware.Passes mw
  responses  : ∀ mw ∈ x.responses, ResponseMiddleware.Passes mw
  present    : x.presentation.present = Presentation.presentAsIs

/-- A journal was written by executing an operation of a document on its root object, between
entries of no resolver. -/
def Ran (x : Executor) (c : OperationContext) (d : Executable) (o : Operation FieldDefinition)
    (before after : List Entry) : Prop :=
  ∃ root y, x.root? o.type = some root ∧ Extends before y.journal ∧
    Extends (Execution.executeOperation x.service x.fields ⟨c, x.presentation⟩ d o root y).2.journal
      after

variable {x : Executor} {d : Executable} {o : Operation FieldDefinition}

theorem Ran.not_subscription {c : OperationContext} {before after : List Entry}
    (h : x.Ran c d o before after) : o.type ≠ .subscription := by
  obtain ⟨root, -, hroot, -⟩ := h
  intro htype
  rw [htype] at hroot
  cases hroot

/-! ### Running -/

theorem execute_of_root {c : ResponseContext} {root : ObjectValue Resolved}
    (hd : c.operation.document = some d) (ho : c.operation.operation = some o)
    (hroot : x.root? o.type = some root) :
    x.execute c = (do
      return { data := ← Execution.executeOperation x.service x.fields c d o root }) := by
  unfold execute
  rw [hd, ho]
  dsimp only
  cases htype : o.type with
  | query =>
      rw [htype] at hroot
      cases hroot
      rfl
  | mutation =>
      rw [htype] at hroot
      rw [show x.service.mutation = some root from hroot]
  | subscription =>
      rw [htype] at hroot
      cases hroot

/-- Without a root object nothing is executed. -/
theorem execute_of_root_none {c : ResponseContext} (hd : c.operation.document = some d)
    (ho : c.operation.operation = some o) (hroot : x.root? o.type = none) :
    ∃ r, x.execute c = pure r := by
  unfold execute
  rw [hd, ho]
  dsimp only
  cases htype : o.type with
  | query =>
      rw [htype] at hroot
      cases hroot
  | mutation =>
      rw [htype] at hroot
      rw [show x.service.mutation = none from hroot]
      exact ⟨_, rfl⟩
  | subscription => exact ⟨_, rfl⟩

/-- The response of an operation is made by executing it, or without any call of a resolver. -/
theorem produce_passes {c : OperationContext} (h : x.Transparent) (hd : c.document = some d)
    (ho : c.operation = some o) (y : Exchange) :
    ∃ r z, (do (← x.dispatch c).produce : Work Response) y = (.ok r, z) ∧
      (Extends y.journal z.journal ∨ x.Ran c d o y.journal z.journal) := by
  obtain ⟨y₁, hdispatch, hextends⟩ := dispatch_passes h.operations c y
  obtain ⟨y₂, r, z, hrespond, -, -, hbefore, hafter, -⟩ :=
    respond_passes h.responses ⟨c, x.presentation⟩ x.execute y₁.reopen
  refine ⟨r, z, ?_, ?_⟩
  · rw [Work.bind_ok hdispatch, produce_eq]
    exact hrespond
  have hbefore' : Extends y.journal y₂.journal := hextends.trans hbefore
  -- without a root object nothing is executed
  cases hroot : x.root? o.type with
  | none =>
      obtain ⟨r₀, hexecute⟩ := @execute_of_root_none x d o ⟨c, x.presentation⟩ hd ho hroot
      rw [hexecute] at hafter
      exact .inl (hbefore'.trans hafter)
  | some root =>
      refine .inr ⟨root, y₂, hroot, hbefore', ?_⟩
      rw [execute_of_root hd ho hroot] at hafter
      rcases hrun : Execution.executeOperation x.service x.fields ⟨c, x.presentation⟩ d o root y₂
        with ⟨p | data, y₃⟩
      · rw [Work.bind_error hrun] at hafter
        exact hafter
      · rw [Work.bind_ok hrun] at hafter
        exact hafter

/-! ### Refusing -/

/-- A refused request gets the errors met, in order, and no data. -/
theorem refuse_passes (h : x.Transparent) (refusal : Refusal) (y : Exchange) :
    ∃ r z, x.refuse refusal y = (.ok r, z) ∧ r.data = .null ∧ r.errors = refusal.errors ∧
      Extends y.journal z.journal := by
  -- without a path to give, errors stay as they are
  have hsame : x.presented refusal = refusal.errors := by
    rw [presented, h.present]
    exact List.map_id'' Error.orPath_none refusal.errors
  obtain ⟨y', r, z, hrespond, herrors, hflushed, hbefore, hafter, hok⟩ :=
    respond_passes h.responses ⟨refusal.context, x.presentation⟩ (fun _ => return {})
      { y.reopen with errors := x.presented refusal }
  obtain ⟨hdata, hall⟩ := hok {} y' rfl
  refine ⟨r, z, (refuse_eq refusal y).trans hrespond, hdata, ?_, hbefore.trans hafter⟩
  rw [hall, herrors, hflushed, ← hsame]
  rfl

end Executor

end GraphServe
