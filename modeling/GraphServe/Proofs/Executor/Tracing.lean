import GraphServe.Proofs.Execution.Watching
import GraphServe.Proofs.Executor.Delivery
import GraphServe.Proofs.Executor.Running
import GraphServe.Proofs.Json.Value

/-!
# Executors — traces of resolvers

The middleware that keeps traces starts one before the handler of a response and adds it to the
response behind the handler; around a field it adds an entry when the resolver returns.

**A trace lists the calls that return** (`Executor.traces`).  On an executor with no other
middleware, the trace in the response to an operation has the entries of the calls of resolvers that
return, in the order in which they end, each with the path, the object type, the name and the type
of its field.  It has one entry for each call exactly if no call panics: a panic goes past the
middleware around the field before the entry is made.
-/

namespace GraphServe

open Document
open Json.Members (get?_insert get?_foldl_insertNew)

namespace Executor

/-! ### Watching -/

/-- What is executed of an operation. -/
def target? (x : Executor) (c : ResponseContext) :
    Option (Executable × Operation FieldDefinition × ObjectValue Resolved) := do
  let d ← c.operation.document
  let o ← c.operation.operation
  let root ← x.root? o.type
  return (d, o, root)

/-- Execute the selected operation with the fields of each object in an order. -/
def executeBy (x : Executor) (order : Execution.Order) : ResponseHandler := fun c =>
  match x.target? c with
  | some (d, o, root) => do
      return { data := ← Execution.executeOperationBy order x.service x.fields c d o root }
  | none              => x.execute c

/-- Execute the selected operation, and keep a list of the calls of resolvers. -/
def watch (x : Executor) (order : Execution.Order) (c : ResponseContext) : Watched Response :=
  match x.target? c with
  | some (d, o, root) => do
      return { data := ← Execution.watchOperation order x.service x.fields c d o root }
  | none              => liftM (x.execute c)

variable {x : Executor} {c : ResponseContext}

theorem target?_eq_some {d : Executable} {o : Operation FieldDefinition}
    {root : ObjectValue Resolved} (h : x.target? c = some (d, o, root)) :
    c.operation.document = some d ∧ c.operation.operation = some o ∧
      x.root? o.type = some root := by
  simpa [target?, Option.bind_eq_some_iff] using h

/-- In the order of collection this is what the executor does. -/
theorem executeBy_asCollected : x.executeBy .asCollected = x.execute := by
  funext c
  unfold executeBy
  split
  · rename_i d o root htarget
    obtain ⟨hd, ho, hroot⟩ := target?_eq_some htarget
    rw [Execution.executeOperationBy_asCollected, execute_of_root hd ho hroot]
  · rfl

/-- Without something to execute the response is known. -/
theorem execute_of_target?_none (h : x.target? c = none) : ∃ r, x.execute c = pure r := by
  cases hd : c.operation.document with
  | none   => exact ⟨_, by simp only [execute, hd]; rfl⟩
  | some d =>
      cases ho : c.operation.operation with
      | none   => exact ⟨_, by simp only [execute, hd, ho]; rfl⟩
      | some o =>
          refine execute_of_root_none hd ho ?_
          cases hroot : x.root? o.type with
          | none      => rfl
          | some root => simp [target?, hd, ho, hroot] at h

/-- The middleware of an executor is the one that keeps traces, which its resolvers leave alone. -/
structure OnlyTraces (x : Executor) : Prop where
  operations : x.operations = []
  responses  : x.responses = [Extension.traceResponses]
  fields     : x.fields = [Extension.traceFields]
  query      : (Resolved.object x.service.query).Stays Exchange.Untraced
  mutation   : ∀ root, x.service.mutation = some root →
    (Resolved.object root).Stays Exchange.Untraced

theorem OnlyTraces.root (h : x.OnlyTraces) {type : OperationType} {root : ObjectValue Resolved}
    (hroot : x.root? type = some root) : (Resolved.object root).Stays Exchange.Untraced := by
  cases type with
  | query        => cases hroot; exact h.query
  | mutation     => exact h.mutation root hroot
  | subscription => cases hroot

theorem watch_follows (h : x.OnlyTraces) (order : Execution.Order) (c : ResponseContext) :
    Watched.Follows (x.watch order c) (x.executeBy order c) fun _ => True := by
  unfold watch executeBy
  cases htarget : x.target? c with
  | none =>
      obtain ⟨r, hr⟩ := execute_of_target?_none htarget
      dsimp only
      rw [hr]
      exact .lift (Work.leads_pure Exchange.permits_untraced trivial)
  | some target =>
      obtain ⟨d, o, root⟩ := target
      dsimp only
      rw [h.fields]
      exact (Execution.watchOperation_follows order x.service c d o
        (h.root (target?_eq_some htarget).2.2)).bind fun _ _ => .pure trivial

/-! ### Responding -/

/-- A response lists the calls that are made for it from an exchange: its trace has the entries of
those that return, in the order in which they end.  Each call has one exactly if none panics. -/
def Lists (x : Executor) (order : Execution.Order) (c : ResponseContext) (y : Exchange)
    (r : Response) : Prop :=
  ∃ own z calls,
    x.executeBy order c { y with reached := true, trace? := some [] } = (.ok own, z) ∧
    x.watch order c [] { y with reached := true, trace? := some [] } = (.ok (own, calls), z) ∧
    r.data = own.data ∧
    r.extensions.get? "tracing" = some (Extension.traceJson (ResolverCall.entries calls)) ∧
    ((ResolverCall.entries calls).length = calls.length ↔ ∀ call ∈ calls, call.returns = true)

/-- The trace is added to the response that comes back, whatever extensions there are. -/
theorem run_traceResponses {handler : ResponseHandler} {y z : Exchange} {own : Response}
    (h : handler c { y with reached := true, trace? := some [] } = (.ok own, z)) :
    ∃ r, Chain.run [Extension.traceResponses] (reach handler) c y =
        (.ok r, { (z.flush own).2 with trace? := some [] }) ∧
      r.data = own.data ∧
      r.extensions.get? "tracing" = some (Extension.traceJson (z.trace?.getD [])) := by
  have hreach : reach handler c { y with trace? := some [] } =
      (.ok (z.flush own).1, (z.flush own).2) := by
    rw [reach, Work.bind_ok (Work.modify_apply _ _), Work.bind_ok h]
    rfl
  let traced := (z.flush own).1.extensions.insert "tracing"
    (Extension.traceJson (z.trace?.getD []))
  refine ⟨{ (z.flush own).1 with extensions := traced }, ?_, rfl, ?_⟩
  · show (Chain.run [] (reach handler) c >>= _) { y with trace? := some [] } = _
    rw [Chain.run, Work.bind_ok hreach]
    rfl
  · rw [get?_insert, if_pos rfl]

/-- What was reported since the handler changes neither the data nor an extension that is there. -/
theorem flushRest_keeps (r : Response) (z : Exchange) {key : String} {v : Json}
    (h : r.extensions.get? key = some v) :
    ∃ r' z', flushRest r z = (.ok r', z') ∧ r'.data = r.data ∧ r'.extensions.get? key = some v := by
  cases hreached : z.reached with
  | false => exact ⟨r, z, flushRest_unreached hreached, rfl, h⟩
  | true  =>
      refine ⟨_, _, flushRest_reached hreached, rfl, ?_⟩
      show (z.extensions.foldl _ r.extensions).get? key = _
      rw [get?_foldl_insertNew, h, Option.some_or]

/-- A response whose handler executes an operation lists the calls made for it. -/
theorem respond_traces (h : x.OnlyTraces) (order : Execution.Order) (c : ResponseContext)
    (y : Exchange) :
    ∃ r z, respond x.responses c (x.executeBy order) y = (.ok r, z) ∧ x.Lists order c y r := by
  obtain ⟨own, z, calls, hexecute, hwatch, htraced, -⟩ :=
    watch_follows h order c [] { y with reached := true, trace? := some [] }
  obtain ⟨r, hrun, hdata, htracing⟩ :=
    run_traceResponses (y := { y with reached := false }) hexecute
  have hentries : z.trace?.getD [] = ResolverCall.entries calls := by
    rw [htraced]
    rfl
  rw [hentries] at htracing
  obtain ⟨r', z', hflush, hdata', htracing'⟩ :=
    flushRest_keeps r { (z.flush own).2 with trace? := some [] } htracing
  refine ⟨r', z', ?_, own, z, calls, hexecute, hwatch, hdata'.trans hdata, htracing',
    ResolverCall.length_entries_iff calls⟩
  rw [h.responses, respond_of_ok hrun, hflush]

/-- **Traces list the calls of resolvers that return**, of operations that are dispatched, and in
whichever order the fields of each object are executed. -/
theorem traces (h : x.OnlyTraces) :
    (∀ context y, ∃ p y₁ r z, x.dispatch context y = (.ok p, y₁) ∧ p.produce y₁ = (.ok r, z) ∧
      p.operation = context ∧ p.handler = x.executeBy .asCollected ∧
      x.Lists .asCollected ⟨context, x.presentation⟩ y₁.reopen r) ∧
    ∀ order c y, ∃ r z, respond x.responses c (x.executeBy order) y = (.ok r, z) ∧
      x.Lists order c y r := by
  refine ⟨fun context y => ?_, respond_traces h⟩
  obtain ⟨y₁, hdispatch, -⟩ := dispatch_passes (x := x) (fun mw hmw => by
    rw [h.operations] at hmw
    cases hmw) context y
  obtain ⟨r, z, hrespond, hlists⟩ :=
    respond_traces h .asCollected ⟨context, x.presentation⟩ y₁.reopen
  rw [executeBy_asCollected] at hrespond
  exact ⟨_, y₁, r, z, hdispatch, (produce_eq _ y₁).trans hrespond, rfl,
    executeBy_asCollected.symm, hlists⟩

namespace Hasty

/-- An object with a field that panics and one that fails. -/
def hasty : ObjectValue Resolved where
  typeName := "A"
  isMethod := fun _ => true
  isResolver _ := true
  resolve c x := (if c.name = "x" then .error .other else .ok (.error (.message "none")), x)

/-- An executor with the middleware that keeps traces, for a query of the object. -/
def executor : Executor where
  service := { schema := Execution.Reversed.schema, query := .uniform "Query" (.object hasty) }
  extensions := [.tracing]
  responses := [Extension.traceResponses]
  fields := [Extension.traceFields]

/-- The query of both fields. -/
def context : OperationContext where
  document := some Execution.Reversed.document
  operation := some Execution.Reversed.query

theorem onlyTraces : executor.OnlyTraces where
  operations := rfl
  responses := rfl
  fields := rfl
  query := by
    refine .object (fun _ _ => rfl) fun _ _ r hr => ?_
    cases hr
    refine .object (fun _ _ => rfl) fun c _ r hr => ?_
    by_cases hname : c.name = "x" <;> simp [hasty, hname] at hr
  mutation _ hroot := by cases hroot

end Hasty

open Hasty in
/-- What the theorem says of the query: the field that fails has an entry. -/
theorem traces_hasty : executor.OnlyTraces ∧
    (∃ p y₁ r z, executor.dispatch context {} = (.ok p, y₁) ∧ p.produce y₁ = (.ok r, z) ∧
      executor.Lists .asCollected ⟨context, executor.presentation⟩ y₁.reopen r) ∧
    ((executor.dispatch context >>= Producer.produce) {}).1.map (·.extensions.get? "tracing") =
      .ok (some (Extension.traceJson
        [⟨[.key "a"], "Query", "a", "A"⟩, ⟨[.key "a", .key "y"], "A", "y", "Int"⟩])) := by
  obtain ⟨p, y₁, r, z, hdispatch, hproduce, -, -, hlists⟩ := (traces onlyTraces).1 context {}
  exact ⟨onlyTraces, ⟨p, y₁, r, z, hdispatch, hproduce, hlists⟩, rfl⟩

open Hasty in
/-- The resolver that panics is called as the others are, and has no entry. -/
theorem traces_not_all :
    (executor.watch .asCollected ⟨context, .standard⟩ []
        { reached := true, trace? := some [] }).1.map
        (fun found => found.2.map fun call => (call.context.path, call.returns)) =
      .ok [([.key "a"], true), ([.key "a", .key "x"], false), ([.key "a", .key "y"], true)] ∧
    ((executor.dispatch context >>= Producer.produce) {}).1.map (·.extensions.get? "tracing") =
      .ok (some (Extension.traceJson
        [⟨[.key "a"], "Query", "a", "A"⟩, ⟨[.key "a", .key "y"], "A", "y", "Int"⟩])) :=
  ⟨rfl, rfl⟩

end Executor

end GraphServe
