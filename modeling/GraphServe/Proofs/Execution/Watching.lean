import GraphServe.Extension
import GraphServe.Proofs.Execution.Confinement
import GraphServe.Proofs.Execution.Observation
import GraphServe.Proofs.Execution.Ordering

/-!
# Execution — the calls of resolvers

The stages here do what those of the engine do, and keep a list of the calls of resolvers that are
made on the way: what each resolver is told of its field, and how the call ends (`ResolverCall`).
They are executions with the fields of each object in any order, each to its end, so that a call
ends before the next one is made.

A stage with a list follows one without if it does the same, and if a trace that is kept in the
exchange gets the entries of the calls that return (`Watched.Follows`).

**Execution is traced** (`watchOperation_follows`).  Where the middleware around fields is that
which keeps a trace, and resolvers leave the trace alone, the trace of an operation gets one entry
for each call that returns, in the order in which the calls end, and none for a call that panics.
-/

namespace GraphServe

/-- A call of a resolver, through the middleware around it. -/
structure ResolverCall where
  context : FieldContext
  outcome : Except Panic FieldResult

namespace ResolverCall

/-- Whether a call returns, be it with an error. -/
def returns (call : ResolverCall) : Bool := call.outcome.isOk

/-- What a trace says of a call. -/
def entry (call : ResolverCall) : ResolverTrace :=
  ⟨call.context.path, call.context.object, call.context.name, call.context.returnType.render⟩

/-- The entries of the calls that return. -/
def entries (calls : List ResolverCall) : List ResolverTrace := (calls.filter returns).map entry

theorem entries_append (calls more : List ResolverCall) :
    entries (calls ++ more) = entries calls ++ entries more := by
  rw [entries, List.filter_append, List.map_append]
  rfl

/-- Each call has an entry exactly if all of them return. -/
theorem length_entries_iff (calls : List ResolverCall) :
    (entries calls).length = calls.length ↔ ∀ call ∈ calls, call.returns = true := by
  rw [entries, List.length_map, List.length_filter_eq_length_iff]

end ResolverCall

/-- The trace is left alone. -/
def Exchange.Untraced (x y : Exchange) : Prop := y.trace? = x.trace?

theorem Exchange.permits_untraced : Permits Untraced where
  refl _ := rfl
  trans h h' := h'.trans h
  push _ _ := rfl
  journal _ _ := rfl

/-- If a trace is kept, the entries of calls are added to it. -/
def Exchange.Traced (calls : List ResolverCall) (x y : Exchange) : Prop :=
  y.trace? = x.trace?.map (· ++ ResolverCall.entries calls)

namespace Exchange

theorem Untraced.traced {x y : Exchange} (h : x.Untraced y) : Traced [] x y := by
  show y.trace? = x.trace?.map (· ++ [])
  rw [h]
  cases x.trace? <;> simp

theorem Traced.trans {calls more : List ResolverCall} {x y z : Exchange} (h : Traced calls x y)
    (h' : Traced more y z) : Traced (calls ++ more) x z := by
  show z.trace? = x.trace?.map (· ++ ResolverCall.entries (calls ++ more))
  rw [h', h, ResolverCall.entries_append, Option.map_map]
  congr 1
  funext entries
  exact List.append_assoc _ _ _

end Exchange

/-! ### Stages that keep a list of calls -/

/-- A stage that keeps a list of the calls that it makes. -/
abbrev Watched (α : Type) := StateT (List ResolverCall) Work α

namespace Watched

variable {α β : Type}

/-- Put a call into the list. -/
def note (call : ResolverCall) : Watched Unit := modify (· ++ [call])

/-- A stage that keeps a list does what another does, which gives something in `Q`, and what it puts
into the list is traced. -/
def Follows (watched : Watched α) (plain : Work α) (Q : α → Prop) : Prop :=
  ∀ calls x, ∃ a y more, plain x = (.ok a, y) ∧ watched calls x = (.ok (a, calls ++ more), y) ∧
    Exchange.Traced more x y ∧ Q a

namespace Follows

variable {watched : Watched α} {plain : Work α} {P Q : α → Prop}

theorem pure {a : α} (h : Q a) : Follows (Pure.pure a) (Pure.pure a) Q := fun calls x =>
  ⟨a, x, [], rfl, by rw [List.append_nil]; rfl, Exchange.Untraced.traced rfl, h⟩

theorem bind {watched' : α → Watched β} {plain' : α → Work β} {R : β → Prop}
    (h : Follows watched plain P) (h' : ∀ a, P a → Follows (watched' a) (plain' a) R) :
    Follows (watched >>= watched') (plain >>= plain') R := fun calls x => by
  obtain ⟨a, y, more, hplain, hwatched, htraced, hp⟩ := h calls x
  obtain ⟨b, z, rest, hplain', hwatched', htraced', hr⟩ := h' a hp (calls ++ more) y
  refine ⟨b, z, more ++ rest, by rw [Work.bind_ok hplain, hplain'], ?_, htraced.trans htraced', hr⟩
  show (watched calls >>= fun found => watched' found.1 found.2) x = _
  rw [Work.bind_ok hwatched, hwatched', List.append_assoc]

/-- A stage that makes no calls and leaves the trace alone. -/
theorem lift (h : Work.Leads Exchange.Untraced plain Q) : Follows (liftM plain) plain Q :=
  fun calls x => by
    obtain ⟨a, y, hplain, huntraced, hq⟩ := h x
    refine ⟨a, y, [], hplain, ?_, Exchange.Untraced.traced huntraced, hq⟩
    show (plain >>= fun a => Pure.pure (a, calls)) x = _
    rw [Work.bind_ok hplain, List.append_nil]
    rfl

end Follows

end Watched

namespace Execution

open Document

/-! ### Values -/

/-- Watch the items of a list up to the first that leaves nothing. -/
def watchItems (watch : Path → Resolved → Watched Completed) (item : TypeRef) (path : Path) :
    List Resolved → Nat → Watched (Option (List Json))
  | [],            _ => return some []
  | first :: rest, i => do
      match nullify item (← watch (path ++ [.index i]) first) with
      | none       => return none
      | some value =>
          let values ← watchItems watch item path rest (i + 1)
          return values.map (value :: ·)

/-- Watches what is selected of an object of a concrete type at a path. -/
abbrev WatchObject := TypeDefinition → ObjectValue Resolved → Path → Watched (Option Json.Members)

/-- Watch an object that is to be of a named type. -/
def watchMember (s : Schema) (response : ResponseContext) (watch : WatchObject) (name : String)
    (path : Path) (object : ObjectValue Resolved) : Watched Completed :=
  match s.type? name with
  | none      => liftM (raise (α := Json) response path ("type " ++ name ++ " is not defined"))
  | some type =>
      match concreteType s type object.typeName with
      | .ok concrete   => do return (← watch concrete object path).map .object
      | .error message => liftM (raise (α := Json) response path message)

/-- Watch a value that is to be of a type. -/
def watchValue (s : Schema) (response : ResponseContext) (watch : WatchObject) :
    TypeRef → Path → Resolved → Watched Completed
  | .named name _, path, .object o => watchMember s response watch name path o
  | .list item required, path, .list items => do
      match ← watchItems (watchValue s response watch item) item path items 0 with
      | some values => return some (.list values)
      | none        => return nullify (.list item required) none
  | type, path, r => liftM (complete s response (fun _ _ _ => return none) type path r)

/-! ### Fields -/

namespace Run

/-- Watch the call for a field: it ends as the resolver and the middleware around it end. -/
def watchCall (x : Run) (object : ObjectValue Resolved) (c : FieldContext) :
    Watched (Option Resolved) := do
  Watched.note ⟨c, (x.fields.run object.call c (← (get : Work Exchange))).1⟩
  x.resolveField object c

/-- The definition of a field that is resolved: neither the name of the type nor a field that tells
of the schema. -/
def resolved? (parent? : Option Path) (type : TypeDefinition) (field : CollectedField) :
    Option FieldDefinition :=
  let name := field.head.name.node
  if name = "__typename" || (Introspection.isField name && parent?.isNone) then none
  else type.fields.find? (·.name = name)

/-- Watch a field of an object at a path. -/
def watchField (x : Run) (watch : Path → List (List ExecutableSelection) → WatchObject)
    (parent? : Option Path) (type : TypeDefinition) (object : ObjectValue Resolved) (path : Path)
    (field : CollectedField) (fields : List CollectedField) : Watched Completed := do
  let returnType := field.head.note.type
  match resolved? parent? type field with
  | none            =>
      liftM (x.executeField (fun _ _ _ _ _ => return none) parent? type object path field fields)
  | some definition =>
      let c := fieldContext x.response parent? type object path field.head definition
      match ← x.watchCall object c with
      | none          => return nullify returnType none
      | some resolved =>
          let completed ← watchValue x.schema x.response
            (watch path (fields.map (·.selections))) returnType path resolved
          return nullify returnType completed

/-- Watch groups of fields one after the other, and keep what each comes to. -/
def watchGroups (watch : String → CollectedField → List CollectedField → Watched Completed) :
    FieldGroups → Watched (List (String × Completed))
  | []                              => return []
  | (_, []) :: rest                 => watchGroups watch rest
  | (key, field :: fields) :: rest  => do
      let value ← watch key field (field :: fields)
      let values ← watchGroups watch rest
      return (key, value) :: values

/-- Watch what sets of selections ask of an object, with the fields of every object in an order. -/
def watchObject (x : Run) (order : Order) :
    Nat → Option Path → List (List ExecutableSelection) → WatchObject
  | 0,        _,       _    => fun _ _ path =>
      liftM (raise (α := Json.Members) x.response path "selections are nested too deeply")
  | fuel + 1, parent?, sets => fun type object path => do
      let groups := collect x.schema x.document type.name (Conditions.strict x.values) sets
      let results ← watchGroups (fun key field fields =>
        x.watchField (fun path sets => x.watchObject order fuel (some path) sets) parent? type
          object (path ++ [.key key]) field fields)
        (order.arrange path (← (get : Work Exchange)) groups)
      return assemble (inPlace (groups.map Prod.fst) results)

end Run

/-- Watch an operation on a root object. -/
def watchOperation (order : Order) (service : Service)
    (fields : Chain Work FieldContext FieldResult) (response : ResponseContext) (d : Executable)
    (o : Operation FieldDefinition) (root : ObjectValue Resolved) : Watched Json := do
  let introspection ← introspect service response d o
  let x : Run := { service, response, document := d, fields, introspection }
  let rootName := (service.schema.root? o.type).getD ""
  match service.schema.type? rootName with
  | some ⟨name, description, directives, .object interfaces defined⟩ =>
      let type : TypeDefinition := ⟨name, description, directives, .object interfaces defined⟩
      match ← x.watchObject order (d.fieldCount + 1) none [o.selections] type root [] with
      | some data => return .object data
      | none      => return .null
  | _ =>
      response.addError none (.message ("root type " ++ rootName ++ " is not defined"))
      return .null

/-! ### Following -/

/-- The middleware calls on, and if a trace is kept it adds an entry to it when an answer comes
back. -/
theorem traceFields_apply (c : FieldContext) (x : Exchange) :
    ∃ after, Extension.traceFields c x = (.ok (.callOn c after), x) ∧
      ∀ result y, y.trace? = x.trace? → ∃ z, after result y = (.ok result, z) ∧
        z.trace? = x.trace?.map (· ++ [(⟨c, .ok result⟩ : ResolverCall).entry]) := by
  have hget : (get : Work Exchange) x = (.ok x, x) := rfl
  cases htrace : x.trace? with
  | none =>
      refine ⟨pure, ?_, fun result y hy => ⟨y, rfl, hy⟩⟩
      rw [Extension.traceFields, Work.bind_ok hget, htrace]
      rfl
  | some trace =>
      refine ⟨fun result => do
          modify fun x => { x with
            trace? := x.trace?.map (· ++ [(⟨c, .ok result⟩ : ResolverCall).entry]) }
          return result, ?_, fun result y hy => ⟨_, rfl, congrArg (Option.map _) hy⟩⟩
      rw [Extension.traceFields, Work.bind_ok hget, htrace]
      rfl

/-- Around a resolver that leaves the trace alone, the middleware traces its call. -/
theorem run_traceFields {endpoint : FieldContext → Work FieldResult} {P : FieldResult → Prop}
    {c : FieldContext} (he : Work.Stays Exchange.Untraced (endpoint c) P) (x : Exchange) :
    Exchange.Traced [⟨c, (Chain.run [Extension.traceFields] endpoint c x).1⟩] x
        (Chain.run [Extension.traceFields] endpoint c x).2 ∧
      ∀ r, (Chain.run [Extension.traceFields] endpoint c x).1 = .ok r → P r := by
  obtain ⟨huntraced, hp⟩ := he x
  obtain ⟨after, hmw, hafter⟩ := traceFields_apply c x
  have hrun : Chain.run [Extension.traceFields] endpoint c x = (endpoint c >>= after) x := by
    rw [Chain.run, Work.bind_ok hmw]
    rfl
  rw [hrun, Work.bind_apply]
  rcases hend : endpoint c x with ⟨p | result, y⟩ <;> rw [hend] at huntraced hp
  · -- a panic goes past the middleware
    exact ⟨huntraced.traced, fun r hr => by cases hr⟩
  · obtain ⟨z, hz, htrace⟩ := hafter result y huntraced
    dsimp only
    rw [hz]
    exact ⟨htrace, fun r hr => by cases hr; exact hp result rfl⟩

theorem watchItems_follows {watch : Path → Resolved → Watched Completed}
    {complete : Path → Resolved → Work Completed} {item : TypeRef} (path : Path)
    {items : List Resolved}
    (h : ∀ path, ∀ r ∈ items, Watched.Follows (watch path r) (complete path r) fun _ => True)
    (i : Nat) :
    Watched.Follows (watchItems watch item path items i) (completeItems complete item path items i)
      fun _ => True := by
  induction items generalizing i with
  | nil => exact .pure trivial
  | cons first rest ih =>
      rw [watchItems, completeItems]
      refine (h _ first List.mem_cons_self).bind fun found _ => ?_
      cases nullify item found with
      | none       => exact .pure trivial
      | some value =>
          exact (ih (fun path r hr => h path r (List.mem_cons_of_mem _ hr)) _).bind
            fun _ _ => .pure trivial

section

variable {s : Schema} {response : ResponseContext} {watch : WatchObject} {execute : ExecuteObject}

theorem watchMember_follows (h : ∀ concrete object path,
      (Resolved.object object).Stays Exchange.Untraced →
      Watched.Follows (watch concrete object path) (execute concrete object path) fun _ => True)
    (name : String) (path : Path) {o : ObjectValue Resolved}
    (ho : (Resolved.object o).Stays Exchange.Untraced) :
    Watched.Follows (watchMember s response watch name path o)
      (completeObject s response execute name path o) fun _ => True := by
  rw [watchMember, completeObject]
  cases s.type? name with
  | none      => exact .lift (raise_leads Exchange.permits_untraced response path _)
  | some type =>
      dsimp only
      cases concreteType s type o.typeName with
      | ok concrete   => exact (h concrete o path ho).bind fun _ _ => .pure trivial
      | error message => exact .lift (raise_leads Exchange.permits_untraced response path _)

/-- By the type that the value is to be of: that of its items is smaller. -/
theorem watchValue_follows (h : ∀ concrete object path,
      (Resolved.object object).Stays Exchange.Untraced →
      Watched.Follows (watch concrete object path) (execute concrete object path) fun _ => True)
    (type : TypeRef) (path : Path) {r : Resolved} (hr : r.Stays Exchange.Untraced) :
    Watched.Follows (watchValue s response watch type path r)
      (complete s response execute type path r) fun _ => True := by
  -- what asks nothing of an object is completed as it is
  have hplain (type : TypeRef) (path : Path) {r : Resolved} (hr : r.Stays Exchange.Untraced)
      (same : complete s response (fun _ _ _ => return none) type path r =
        complete s response execute type path r) :
      Watched.Follows (liftM (complete s response (fun _ _ _ => return none) type path r))
        (complete s response execute type path r) fun _ => True := by
    rw [← same]
    exact .lift (complete_leads Exchange.permits_untraced
      (fun _ _ _ _ => Work.leads_pure Exchange.permits_untraced trivial) type path hr)
  induction type generalizing path r with
  | named name required =>
      cases hr with
      | leaf v      => exact hplain _ path (.leaf v) (by cases v <;> rfl)
      | list hitems => exact hplain _ path (.list hitems) rfl
      | object stays gives => exact watchMember_follows h name path (.object stays gives)
  | list item required ih =>
      cases hr with
      | leaf v      => exact hplain _ path (.leaf v) (by cases v <;> rfl)
      | list hitems =>
          rw [watchValue, complete]
          refine (watchItems_follows path (fun path r hr => ih path (hitems r hr)) 0).bind
            fun found _ => ?_
          cases found with
          | none        => exact .pure trivial
          | some values => exact .pure trivial
      | object stays gives => exact hplain _ path (.object stays gives) rfl

end

namespace Run

variable {x : Run}

/-- **A call is traced**: one that returns has its entry, and one that panics has none. -/
theorem watchCall_follows (hx : x.fields = [Extension.traceFields]) {object : ObjectValue Resolved}
    (ho : (Resolved.object object).Stays Exchange.Untraced) (c : FieldContext) :
    Watched.Follows (x.watchCall object c) (x.resolveField object c) fun found =>
      ∀ r, found = some r → r.Stays Exchange.Untraced := by
  intro calls y
  have hend : Work.Stays Exchange.Untraced (object.call c) (FieldResult.Stays Exchange.Untraced) :=
    (Work.leads_record Exchange.permits_untraced _).stays.bind Exchange.permits_untraced.trans
      fun _ _ => ho.resolve c
  obtain ⟨htraced, hstays⟩ := run_traceFields hend y
  rw [← hx] at htraced hstays
  -- what is done about the end of a call leaves the trace alone
  have hrest : ∃ found z, x.resolveField object c y = (.ok found, z) ∧
      (x.fields.run object.call c y).2.Untraced z ∧
      ∀ r, found = some r → r.Stays Exchange.Untraced := by
    have hR := Exchange.permits_untraced
    have hnone {w : Work Unit} (hw : Work.Leads Exchange.Untraced w fun _ => True) :
        Work.Leads Exchange.Untraced (do w; return none) fun found : Option Resolved =>
          ∀ r, found = some r → r.Stays Exchange.Untraced :=
      hw.bind hR.trans fun _ _ => Work.leads_pure hR nofun
    have hrecover (p : Panic) : Work.Leads Exchange.Untraced (do
        let e ← x.response.recover (some c.path) p
        modify (·.push e)
        return none) fun found : Option Resolved =>
          ∀ r, found = some r → r.Stays Exchange.Untraced :=
      Work.Leads.bind (P := fun _ => True) hR.trans ((Work.leads_events hR _).bind hR.trans
        fun _ _ => Work.leads_pure hR trivial) fun e _ => hnone (Work.leads_push hR e)
    rw [resolveField, Work.bind_ok (Work.hold_apply _ y)]
    rcases hrun : x.fields.run object.call c y with ⟨p | failure | r, y'⟩ <;> rw [hrun] at hstays
    · exact hrecover p y'
    · exact hnone (x.response.leads_addError hR _ _) y'
    · exact ⟨some r, y', rfl, rfl, fun r' hr' => by cases hr'; exact hstays _ rfl r rfl⟩
  obtain ⟨found, z, hfound, huntraced, hr⟩ := hrest
  refine ⟨found, z, [⟨c, (x.fields.run object.call c y).1⟩], hfound, ?_,
    htraced.trans huntraced.traced, hr⟩
  show (x.resolveField object c >>= fun found =>
    pure (found, calls ++ [⟨c, (x.fields.run object.call c y).1⟩])) y = _
  rw [Work.bind_ok hfound]
  rfl

section

variable {execute : Path → List (List ExecutableSelection) → ExecuteObject} {parent? : Option Path}
  {type : TypeDefinition} {object : ObjectValue Resolved} {path : Path} {field : CollectedField}
  {fields : List CollectedField}

/-- A field that is not resolved asks nothing of an object, and leaves the trace alone. -/
theorem executeField_of_resolved?_none (h : resolved? parent? type field = none) (x : Run)
    (object : ObjectValue Resolved) (path : Path) (fields : List CollectedField) :
    ∃ w, (∀ execute, x.executeField execute parent? type object path field fields = w) ∧
      Work.Leads Exchange.Untraced w fun _ => True := by
  have hR := Exchange.permits_untraced
  by_cases hname : field.head.name.node = "__typename"
  · exact ⟨return some (.string object.typeName),
      fun execute => by simp only [executeField, hname, if_true], Work.leads_pure hR trivial⟩
  by_cases hroot : (Introspection.isField field.head.name.node && parent?.isNone) = true
  · cases hdata : x.introspection with
    | some data =>
        exact ⟨return some ((data.get? field.head.responseKey).getD .null),
          fun execute => by simp only [executeField, hname, hroot, hdata, if_true, if_false],
          Work.leads_pure hR trivial⟩
    | none =>
        exact ⟨do
            x.response.addError (some path) (.message "introspection disabled")
            return nullify field.head.note.type none,
          fun execute => by simp only [executeField, hname, hroot, hdata, if_true, if_false],
          (x.response.leads_addError hR _ _).bind hR.trans fun _ _ => Work.leads_pure hR trivial⟩
  · have hfind : type.fields.find? (·.name = field.head.name.node) = none := by
      simpa [resolved?, hname, hroot] using h
    exact ⟨raise x.response path
        ("field " ++ field.head.name.node ++ " not defined on type " ++ type.name),
      fun execute => by simp only [executeField, hname, hroot, hfind, if_false, Bool.false_eq_true],
      raise_leads hR x.response path _⟩

/-- A field that is resolved is its call, and the completion of what comes back. -/
theorem executeField_of_resolved? {definition : FieldDefinition}
    (h : resolved? parent? type field = some definition)
    (execute : Path → List (List ExecutableSelection) → ExecuteObject) :
    x.executeField execute parent? type object path field fields = (do
      match ← x.resolveField object
          (fieldContext x.response parent? type object path field.head definition) with
      | none          => return nullify field.head.note.type none
      | some resolved =>
          let completed ← complete x.schema x.response
            (execute path (fields.map (·.selections))) field.head.note.type path resolved
          return nullify field.head.note.type completed) := by
  simp only [resolved?] at h
  split at h
  · cases h
  · rename_i hname
    rw [Bool.or_eq_true, not_or] at hname
    unfold executeField
    have hname' : ¬ field.head.name.node = "__typename" := by simpa using hname.1
    simp only [if_neg hname', if_neg hname.2, h]
    rfl

theorem watchField_follows (hx : x.fields = [Extension.traceFields])
    {watch : Path → List (List ExecutableSelection) → WatchObject}
    (h : ∀ path sets concrete object here, (Resolved.object object).Stays Exchange.Untraced →
      Watched.Follows (watch path sets concrete object here)
        (execute path sets concrete object here) fun _ => True)
    (ho : (Resolved.object object).Stays Exchange.Untraced) :
    Watched.Follows (x.watchField watch parent? type object path field fields)
      (x.executeField execute parent? type object path field fields) fun _ => True := by
  rw [watchField]
  cases hresolved : resolved? parent? type field with
  | none =>
      obtain ⟨w, hw, hleads⟩ := executeField_of_resolved?_none hresolved x object path fields
      dsimp only
      rw [hw execute, hw]
      exact .lift hleads
  | some definition =>
      rw [executeField_of_resolved? hresolved execute]
      refine (watchCall_follows hx ho _).bind fun found hfound => ?_
      cases found with
      | none          => exact .pure trivial
      | some resolved =>
          exact (watchValue_follows (h path _) _ path (hfound resolved rfl)).bind
            fun _ _ => .pure trivial

end

theorem watchGroups_follows
    {watch : String → CollectedField → List CollectedField → Watched Completed}
    {execute : String → CollectedField → List CollectedField → Work Completed}
    (h : ∀ key field fields,
      Watched.Follows (watch key field fields) (execute key field fields) fun _ => True)
    (groups : FieldGroups) :
    Watched.Follows (watchGroups watch groups) (runGroups execute groups) fun _ => True := by
  induction groups with
  | nil => exact .pure trivial
  | cons group rest ih =>
      obtain ⟨key, _ | ⟨field, fields⟩⟩ := group
      · exact ih
      · exact (h key field (field :: fields)).bind fun _ _ => ih.bind fun _ _ => .pure trivial

theorem watchObject_follows (hx : x.fields = [Extension.traceFields]) (order : Order) (fuel : Nat)
    (parent? : Option Path) (sets : List (List ExecutableSelection)) (type : TypeDefinition)
    {object : ObjectValue Resolved} (ho : (Resolved.object object).Stays Exchange.Untraced)
    (path : Path) :
    Watched.Follows (x.watchObject order fuel parent? sets type object path)
      (x.executeObjectBy order fuel parent? sets type object path) fun _ => True := by
  induction fuel generalizing parent? sets type object path with
  | zero => exact .lift (raise_leads Exchange.permits_untraced x.response path _)
  | succ fuel ih =>
      rw [watchObject, executeObjectBy]
      refine Watched.Follows.bind (P := fun _ => True)
        (.lift fun y => ⟨y, y, rfl, rfl, trivial⟩) fun y _ => ?_
      refine (watchGroups_follows (fun key field fields => ?_) _).bind fun _ _ => .pure trivial
      exact watchField_follows hx (fun path sets concrete object here ho =>
        ih (some path) sets concrete ho here) ho

end Run

/-- **Execution is traced**, in whichever order the fields of each object are executed. -/
theorem watchOperation_follows (order : Order) (service : Service) (response : ResponseContext)
    (d : Executable) (o : Operation FieldDefinition) {root : ObjectValue Resolved}
    (hroot : (Resolved.object root).Stays Exchange.Untraced) :
    Watched.Follows (watchOperation order service [Extension.traceFields] response d o root)
      (executeOperationBy order service [Extension.traceFields] response d o root)
      fun _ => True := by
  rw [watchOperation, executeOperationBy]
  have hintrospect := introspect_leads Exchange.permits_untraced service response d o
  refine (Watched.Follows.lift hintrospect).bind fun introspection _ => ?_
  dsimp only
  cases htype : service.schema.type? ((service.schema.root? o.type).getD "") with
  | none =>
      exact (Watched.Follows.lift (response.leads_addError Exchange.permits_untraced _ _)).bind
        fun _ _ => .pure trivial
  | some type =>
      obtain ⟨name, description, directives, body⟩ := type
      cases body with
      | object interfaces defined =>
          refine (Run.watchObject_follows rfl order _ none [o.selections] _ hroot []).bind
            fun found _ => ?_
          cases found with
          | none      => exact .pure trivial
          | some data => exact .pure trivial
      | _ =>
          exact (Watched.Follows.lift (response.leads_addError Exchange.permits_untraced _ _)).bind
            fun _ _ => .pure trivial

end Execution

end GraphServe
