import GraphServe.Execution.Engine
import GraphServe.Proofs.Document.Declared
import GraphServe.Proofs.Execution.Bubbling
import GraphServe.Proofs.Execution.Collection
import GraphServe.Proofs.Independence

/-!
# Fields in other orders

The fields of an object may be executed in any order, each to its end, if what they come to is put
in the places in which they were collected.  An `Order` arranges the fields of each object, at its
path and after all that happened so far; `executeOperationBy` executes an operation in that order.
In the order of collection this is the execution itself (`executeOperationBy_asCollected`).

**The order does not matter** (`executeOperation_ordered`).  If resolvers and the middleware around
fields are independent, an operation has the same data in every order and reports the same errors
but for their order.  Each step of the recursion, taken in all orders at once, concurs: what a field
comes to is a function of the field, and what the fields of an object report is put together in the
order in which they are executed.
-/

namespace GraphServe.Execution

open Document

/-! ### Orders -/

/-- In which order the fields of an object are executed, by its path and by what happened so far. -/
structure Order where
  arrange : Path → Exchange → FieldGroups → FieldGroups
  perm    : ∀ path x groups, (arrange path x groups).Perm groups

/-- Fields are executed in the order in which they are collected. -/
def Order.asCollected : Order := ⟨fun _ _ groups => groups, fun _ _ groups => .refl groups⟩

namespace Run

/-- Execute groups of fields one after the other, and keep what each comes to. -/
def runGroups (execute : String → CollectedField → List CollectedField → Work Completed) :
    FieldGroups → Work (List (String × Completed))
  | []                              => return []
  | (_, []) :: rest                 => runGroups execute rest
  | (key, field :: fields) :: rest  => do
      let value ← execute key field (field :: fields)
      let values ← runGroups execute rest
      return (key, value) :: values

/-- Put what fields come to in the order of their response keys. -/
def inPlace (keys : List String) (results : List (String × Completed)) :
    List (String × Completed) :=
  keys.filterMap fun key => (results.lookup key).map (key, ·)

/-- An object of what its fields come to; nothing can stay of it with a field that can not. -/
def assemble : List (String × Completed) → Option Json.Members
  | []                   => some []
  | (key, value) :: rest => do
      let value ← value
      return (key, value) :: (← assemble rest)

/-- Execute what sets of selections ask of an object, as `executeObject` does, with the fields of
every object in an order. -/
def executeObjectBy (x : Run) (order : Order) :
    Nat → Option Path → List (List ExecutableSelection) → ExecuteObject
  | 0,        _,       _    => fun _ _ path =>
      raise x.response path "selections are nested too deeply"
  | fuel + 1, parent?, sets => fun type object path => do
      let groups := collect x.schema x.document type.name (Conditions.strict x.values) sets
      let results ← runGroups (fun key field fields =>
        x.executeField (fun path sets => x.executeObjectBy order fuel (some path) sets) parent? type
          object (path ++ [.key key]) field fields) (order.arrange path (← get) groups)
      return assemble (inPlace (groups.map Prod.fst) results)

end Run

/-- The data of an operation on a root object, as `executeOperation` gives it, with the fields of
every object executed in an order. -/
def executeOperationBy (order : Order) (service : Service)
    (fields : Chain Work FieldContext FieldResult) (response : ResponseContext) (d : Executable)
    (o : Operation FieldDefinition) (root : ObjectValue Resolved) : Work Json := do
  let introspection ← introspect service response d o
  let x : Run := { service, response, document := d, fields, introspection }
  let rootName := (service.schema.root? o.type).getD ""
  match service.schema.type? rootName with
  | some ⟨name, description, directives, .object interfaces defined⟩ =>
      let type : TypeDefinition := ⟨name, description, directives, .object interfaces defined⟩
      match ← x.executeObjectBy order (d.fieldCount + 1) none [o.selections] type root [] with
      | some data => return .object data
      | none      => return .null
  | _ =>
      response.addError none (.message ("root type " ++ rootName ++ " is not defined"))
      return .null

/-! ### Groups -/

namespace Run

section

variable {execute : String → CollectedField → List CollectedField → Work Completed}
  {groups : FieldGroups}

theorem executeGroups_eq_runGroups (groups : FieldGroups) :
    executeGroups execute groups = (do return assemble (← runGroups execute groups)) := by
  induction groups with
  | nil => simp [executeGroups, runGroups, assemble]
  | cons group rest ih =>
      obtain ⟨key, _ | ⟨field, fields⟩⟩ := group
      · rw [executeGroups, runGroups, ih]
      · rw [executeGroups, runGroups, ih]
        simp only [bind_assoc, pure_bind]
        refine bind_congr fun value => bind_congr fun values => ?_
        cases value <;> cases h : assemble values <;> simp [assemble, h]

/-- What fields come to stands under their keys, in the order in which they are executed. -/
theorem keys_of_runGroups (hne : ∀ g ∈ groups, g.2 ≠ []) {x z : Exchange}
    {results : List (String × Completed)} (h : runGroups execute groups x = (.ok results, z)) :
    results.map Prod.fst = groups.map Prod.fst := by
  induction groups generalizing x results with
  | nil =>
      cases h
      rfl
  | cons group rest ih =>
      obtain ⟨key, _ | ⟨field, fields⟩⟩ := group
      · exact absurd rfl (hne _ List.mem_cons_self)
      obtain ⟨value, y, -, hrest⟩ := Work.bind_eq_ok.mp h
      obtain ⟨values, hvalues, rfl⟩ := Work.map_eq_ok.mp hrest
      have hkeys := ih (fun g hg => hne g (List.mem_cons_of_mem _ hg)) hvalues
      rw [List.map_cons, List.map_cons, hkeys]

/-- Results under different keys are put in place, whatever their order. -/
theorem inPlace_of_perm {results others : List (String × Completed)} (h : results.Perm others)
    (hnodup : (others.map Prod.fst).Nodup) : inPlace (others.map Prod.fst) results = others := by
  have hresults : (results.map Prod.fst).Nodup := (h.map Prod.fst).nodup_iff.mpr hnodup
  rw [inPlace, List.filterMap_map]
  refine Eq.trans (List.filterMap_congr fun r hr => ?_) List.filterMap_some
  show (results.lookup r.1).map (r.1, ·) = some r
  rw [(Position.lookup_eq_some_iff hresults).mpr (h.mem_iff.mpr hr)]
  rfl

/-- To execute the fields as they were collected is to keep what they come to and put it in place. -/
theorem runGroups_inPlace (hne : ∀ g ∈ groups, g.2 ≠ []) (hnodup : (groups.map Prod.fst).Nodup) :
    (do return assemble (inPlace (groups.map Prod.fst) (← runGroups execute groups))) =
      executeGroups execute groups := by
  rw [executeGroups_eq_runGroups]
  funext x
  rw [Work.bind_apply, Work.bind_apply]
  rcases hrun : runGroups execute groups x with ⟨_ | results, y⟩
  · rfl
  · have hkeys := keys_of_runGroups hne hrun
    dsimp only
    rw [← hkeys, inPlace_of_perm (.refl results) (hkeys ▸ hnodup)]

/-- If what each field comes to is known, so is what all of them do, and they report together what
each of them does. -/
theorem runGroups_adds {value : String → CollectedField → List CollectedField → Completed}
    {errors : String → CollectedField → List CollectedField → List Error}
    (h : ∀ key first rest, (execute key first (first :: rest)).Adds fun v es =>
      v = value key first rest ∧ es.Perm (errors key first rest))
    (hne : ∀ g ∈ groups, g.2 ≠ []) :
    (runGroups execute groups).Adds fun results es =>
      results = groups.map (fun g => (g.1, value g.1 (g.2.headD default) g.2.tail)) ∧
        es.Perm (groups.flatMap fun g => errors g.1 (g.2.headD default) g.2.tail) := by
  induction groups with
  | nil => exact .pure ⟨rfl, .refl _⟩
  | cons group groups ih =>
      obtain ⟨key, _ | ⟨first, rest⟩⟩ := group
      · exact absurd rfl (hne _ List.mem_cons_self)
      refine (h key first rest).bind ?_
      rintro _ es ⟨rfl, hes⟩
      refine (ih fun g hg => hne g (List.mem_cons_of_mem _ hg)).bind ?_
      rintro _ more ⟨rfl, hmore⟩
      refine .pure ⟨rfl, ?_⟩
      rw [List.append_nil, List.flatMap_cons]
      exact hes.append hmore

/-- **Fields concur in all orders**, if each of them does. -/
theorem runGroups_concur {ι : Type}
    {execute : ι → String → CollectedField → List CollectedField → Work Completed}
    {arrange : ι → Exchange → FieldGroups} (hperm : ∀ i x, (arrange i x).Perm groups)
    (hnodup : (groups.map Prod.fst).Nodup) (hne : ∀ g ∈ groups, g.2 ≠ [])
    (h : ∀ key first rest, Work.Concur (fun i => execute i key first (first :: rest)) fun _ => True) :
    Work.Concur (fun i => do
      let results ← runGroups (execute i) (arrange i (← get))
      return assemble (inPlace (groups.map Prod.fst) results)) fun _ => True := by
  choose value errors _ hadds using h
  let outcome (g : String × List CollectedField) : String × Completed :=
    (g.1, value g.1 (g.2.headD default) g.2.tail)
  refine ⟨assemble (groups.map outcome), groups.flatMap fun g => errors g.1 (g.2.headD default)
    g.2.tail, trivial, fun i x => ?_⟩
  have harranged : ∀ g ∈ arrange i x, g.2 ≠ [] := fun g hg => hne g ((hperm i x).mem_iff.mp hg)
  refine (runGroups_adds (fun key first rest => hadds key first rest i) harranged).bind ?_ x
  rintro _ es ⟨rfl, hes⟩
  refine .pure ⟨?_, ?_⟩
  · have hkeys : groups.map Prod.fst = (groups.map outcome).map Prod.fst := by
      rw [List.map_map]
      rfl
    rw [hkeys] at hnodup ⊢
    rw [inPlace_of_perm ((hperm i x).map outcome) hnodup]
  · rw [List.append_nil]
    exact hes.trans ((hperm i x).flatMap_right _)

end

end Run

/-! ### Values -/

section

variable {ι : Type} {s : Schema} {response : ResponseContext}

theorem addError_concur (path : Option Path) (failure : Failure) :
    Work.Concur (fun _ : ι => response.addError path failure) fun _ => True :=
  Work.concur_modify fun _ => rfl

theorem recover_concur (path : Option Path) (panic : Panic) :
    Work.Concur (fun _ : ι => response.recover path panic) fun _ => True := by
  refine Work.Concur.bind (P := fun _ => True) ?_ fun _ _ => .pure trivial
  exact Work.concur_modify fun _ => (List.append_nil _).symm

theorem raise_concur {α : Type} (path : Path) (message : String) :
    Work.Concur (fun _ : ι => raise (α := α) response path message) fun _ => True :=
  (addError_concur _ _).bind fun _ _ => .pure trivial

theorem completeItems_concur {complete : ι → Path → Resolved → Work Completed} {items : List Resolved}
    (h : ∀ r ∈ items, ∀ path, Work.Concur (fun i => complete i path r) fun _ => True)
    (item : TypeRef) (path : Path) (n : Nat) :
    Work.Concur (fun i => completeItems (complete i) item path items n) fun _ => True := by
  induction items generalizing n with
  | nil => exact .pure trivial
  | cons first rest ih =>
      refine (h first List.mem_cons_self _).bind fun completed _ => ?_
      cases nullify item completed with
      | none => exact .pure trivial
      | some value =>
          exact (ih (fun r hr => h r (List.mem_cons_of_mem _ hr)) (n + 1)).bind
            fun _ _ => .pure trivial

theorem completeLeaf_concur (name : String) (path : Path) (v : Json) :
    Work.Concur (fun _ : ι => completeLeaf s response name path v) fun _ => True := by
  simp only [completeLeaf]
  split
  · exact raise_concur _ _
  · split
    · exact .pure trivial
    · exact raise_concur _ _

theorem complete_leaf_concur (execute : ι → ExecuteObject) (type : TypeRef) (path : Path) (v : Json) :
    Work.Concur (fun i => complete s response (execute i) type path (.leaf v)) fun _ => True := by
  by_cases hv : v = .null
  · subst hv
    simp only [complete]
    split
    · exact raise_concur _ _
    · exact .pure trivial
  · cases type with
    | named name required => cases v <;> first | exact absurd rfl hv | exact completeLeaf_concur _ _ _
    | list item required => cases v <;> first | exact absurd rfl hv | exact raise_concur _ _

/-- **Values concur**, if the objects in them do. -/
theorem complete_concur {execute : ι → ExecuteObject}
    (hexec : ∀ type object path, (Resolved.object object).Independent →
      Work.Concur (fun i => execute i type object path) fun _ => True)
    (type : TypeRef) {r : Resolved} (hr : r.Independent) (path : Path) :
    Work.Concur (fun i => complete s response (execute i) type path r) fun _ => True := by
  induction type generalizing r path with
  | named name required =>
      cases hr with
      | leaf v => exact complete_leaf_concur execute _ path v
      | list => exact raise_concur _ _
      | object same gives =>
          simp only [complete, completeObject]
          split
          · exact raise_concur _ _
          · split
            · exact (hexec _ _ path (.object same gives)).bind fun _ _ => .pure trivial
            · exact raise_concur _ _
  | list item required ih =>
      cases hr with
      | leaf v => exact complete_leaf_concur execute _ path v
      | object => exact raise_concur _ _
      | list hr =>
          simp only [complete]
          refine (completeItems_concur (fun r hm path => ih (hr r hm) path) item path 0).bind
            fun values _ => ?_
          cases values with
          | none => exact .pure trivial
          | some values => exact .pure trivial

end

/-! ### Fields -/

namespace Run

section

variable {ι : Type} (x : Run)

/-- An independent resolver leads to the same in every order. -/
theorem resolveField_concur (hx : ∀ mw ∈ x.fields, FieldMiddleware.Independent mw)
    {object : ObjectValue Resolved} (ho : (Resolved.object object).Independent) (c : FieldContext) :
    Work.Concur (fun _ : ι => x.resolveField object c) fun found =>
      ∀ r, found = some r → r.Independent := by
  -- the call is put into the journal, and the resolver does the rest
  have hend (c : FieldContext) : Work.Independent (object.call c) FieldResult.Independent :=
    (ho.resolve c).after fun _ => rfl
  refine (Chain.independent_run hx hend c).concur.bind fun outcome hout => ?_
  cases outcome with
  | error panic =>
      refine (recover_concur _ _).bind fun e _ => ?_
      exact (Work.concur_modify fun _ => rfl).bind fun _ _ => .pure nofun
  | ok result =>
      cases result with
      | ok r => exact .pure fun _ hr => Option.some.inj hr ▸ hout (.ok r) rfl
      | error failure => exact (addError_concur _ _).bind fun _ _ => .pure nofun

theorem executeField_concur (hx : ∀ mw ∈ x.fields, FieldMiddleware.Independent mw)
    {execute : ι → Path → List (List ExecutableSelection) → ExecuteObject}
    (hexec : ∀ path sets type object here, (Resolved.object object).Independent →
      Work.Concur (fun i => execute i path sets type object here) fun _ => True)
    (parent? : Option Path) (type : TypeDefinition) {object : ObjectValue Resolved}
    (ho : (Resolved.object object).Independent) (path : Path) (first : CollectedField)
    (fields : List CollectedField) :
    Work.Concur (fun i => x.executeField (execute i) parent? type object path first fields)
      fun _ => True := by
  simp only [executeField]
  split
  · exact .pure trivial
  · split
    · split
      · exact .pure trivial
      · exact (addError_concur _ _).bind fun _ _ => .pure trivial
    · split
      · exact raise_concur _ _
      · refine (x.resolveField_concur hx ho _).bind fun found hfound => ?_
        cases found with
        | none => exact .pure trivial
        | some r =>
            exact (complete_concur (hexec path _) _ (hfound r rfl) path).bind fun _ _ => .pure trivial

/-- **Objects concur in all orders.** -/
theorem executeObjectBy_concur (hx : ∀ mw ∈ x.fields, FieldMiddleware.Independent mw) (fuel : Nat)
    (parent? : Option Path) (sets : List (List ExecutableSelection)) (type : TypeDefinition)
    {object : ObjectValue Resolved} (ho : (Resolved.object object).Independent) (path : Path) :
    Work.Concur (fun order => x.executeObjectBy order fuel parent? sets type object path)
      fun _ => True := by
  induction fuel generalizing parent? sets type object path with
  | zero => exact raise_concur _ _
  | succ fuel ih =>
      have hfield := fun key first rest => x.executeField_concur hx
        (fun path sets type object here ho => ih (some path) sets type ho here)
        parent? type ho (path ++ [.key key]) first (first :: rest)
      exact runGroups_concur (fun order y => order.perm path y _) (collect_keys_nodup sets)
        (fun g hg => (mem_collect hg).1) hfield

end

/-- In the order of collection, what an object comes to is put in place already. -/
theorem executeObjectBy_asCollected (x : Run) (fuel : Nat) (parent? : Option Path)
    (sets : List (List ExecutableSelection)) :
    x.executeObjectBy .asCollected fuel parent? sets = x.executeObject fuel parent? sets := by
  induction fuel generalizing parent? sets with
  | zero => rfl
  | succ fuel ih =>
      funext type object path y
      have hinner : (fun here inner => x.executeObjectBy .asCollected fuel (some here) inner) =
          fun here inner => x.executeObject fuel (some here) inner := by
        funext here inner
        exact ih (some here) inner
      rw [executeObjectBy, hinner]
      exact congrFun (runGroups_inPlace (fun g hg => (mem_collect hg).1) (collect_keys_nodup sets)) y

end Run

/-! ### Operations -/

section

variable {service : Service} {fields : Chain Work FieldContext FieldResult}
  {response : ResponseContext} {d : Executable} {o : Operation FieldDefinition}
  {root : ObjectValue Resolved}

theorem introspect_concur {ι : Type} :
    Work.Concur (fun _ : ι => introspect service response d o) fun _ => True := by
  simp only [introspect]
  split
  · exact .pure trivial
  · exact (Work.Concur.forM (fun _ => addError_concur _ _) _).bind fun _ _ => .pure trivial

/-- **Operations concur in all orders.** -/
theorem executeOperationBy_concur (service : Service) (response : ResponseContext) (d : Executable)
    (o : Operation FieldDefinition) (hfields : ∀ mw ∈ fields, FieldMiddleware.Independent mw)
    (hroot : (Resolved.object root).Independent) :
    Work.Concur (fun order => executeOperationBy order service fields response d o root)
      fun _ => True := by
  refine introspect_concur.bind fun introspection _ => ?_
  dsimp only
  split
  · let x : Run := { service, response, document := d, fields, introspection }
    refine (x.executeObjectBy_concur hfields _ none [o.selections] _ hroot []).bind fun data _ => ?_
    cases data with
    | none => exact .pure trivial
    | some data => exact .pure trivial
  · exact (addError_concur _ _).bind fun _ _ => .pure trivial

/-- In the order of collection an operation is executed as it is. -/
theorem executeOperationBy_asCollected :
    executeOperationBy .asCollected service fields response d o root =
      executeOperation service fields response d o root := by
  simp only [executeOperationBy, Run.executeObjectBy_asCollected]
  rfl

end

/-- **The order of fields does not matter.**  If what resolvers and the middleware around fields do
depends on the field alone, then whatever happened before, and in whichever order the fields of each
object are executed, an operation has the data that it has in the order of collection, with its keys
in the same order, and it reports the same errors but for their order. -/
theorem executeOperation_ordered (service : Service)
    {fields : Chain Work FieldContext FieldResult}
    (hfields : ∀ mw ∈ fields, FieldMiddleware.Independent mw) (response : ResponseContext)
    (d : Executable) (o : Operation FieldDefinition) {root : ObjectValue Resolved}
    (hroot : (Resolved.object root).Independent) (order : Order) (x : Exchange) :
    ∃ data y z errors others,
      executeOperation service fields response d o root x = (.ok data, y) ∧
      executeOperationBy order service fields response d o root x = (.ok data, z) ∧
      y.errors = x.errors ++ errors ∧ z.errors = x.errors ++ others ∧ others.Perm errors := by
  obtain ⟨data, all, -, hconcur⟩ :=
    executeOperationBy_concur service response d o hfields hroot
  obtain ⟨_, y, errors, hy, herrors, rfl, hperm⟩ := hconcur .asCollected x
  obtain ⟨_, z, others, hz, hothers, rfl, hperm'⟩ := hconcur order x
  dsimp only at hy hz
  rw [executeOperationBy_asCollected] at hy
  exact ⟨_, y, z, errors, others, hy, hz, herrors, hothers, hperm'.trans hperm.symm⟩

namespace Reversed

/-- The fields of each object from the last to the first. -/
def order : Order := ⟨fun _ _ groups => groups.reverse, fun _ _ groups => groups.reverse_perm⟩

/-- A schema with an object that has two fields, and one that has the object. -/
def schema : Schema where
  types := [Builtin.intScalar,
    ⟨"A", none, [], .object []
      [{ name := "x", type := .named "Int" false }, { name := "y", type := .named "Int" false }]⟩,
    ⟨"Query", none, [], .object [] [{ name := "a", type := .named "A" false }]⟩]
  directives := Builtin.directives
  query := some "Query"

/-- A query of all fields. -/
def definitions : List Definition :=
  [.query [.plain "a" 1 [.plain "x" 2 [], .plain "y" 3 []]]]

/-- The document of the query. -/
def document : Executable := (Executable.resolve schema definitions).1

/-- The query. -/
def query : Operation FieldDefinition := document.anonymous.getD default

/-- An object whose fields fail with their names. -/
def failing : ObjectValue Resolved :=
  ⟨"A", fun _ => true, fun _ => true, fun c x => (.ok (.error (.message c.name)), x)⟩

/-- A service in which the fields of the object fail. -/
def service : Service := { schema, query := .uniform "Query" (.object failing) }

/-- Both fields fail and are `null` in either order; the errors come in the order of execution. -/
theorem executeOperation_ordered_reversed :
    (∀ mw ∈ [Extension.traceFields], FieldMiddleware.Independent mw) ∧
      (Resolved.object service.query).Independent ∧
      ∃ data y z,
        executeOperation service [Extension.traceFields] ⟨{}, .standard⟩ document query
          service.query {} = (.ok data, y) ∧
        executeOperationBy order service [Extension.traceFields] ⟨{}, .standard⟩ document query
          service.query {} = (.ok data, z) ∧
        data = .object [("a", .object [("x", .null), ("y", .null)])] ∧
        y.errors.map (·.message) = ["x", "y"] ∧ z.errors.map (·.message) = ["y", "x"] ∧
        z.errors.Perm y.errors := by
  have hfields : ∀ mw ∈ [Extension.traceFields], FieldMiddleware.Independent mw :=
    List.forall_mem_singleton.mpr Extension.independent_traceFields
  have hfailing : (Resolved.object failing).Independent :=
    .object (fun c => ⟨.ok (.error (.message c.name)), [], fun x =>
      ⟨rfl, (List.append_nil x.errors).symm⟩⟩) fun _ _ _ hr => by cases hr
  have hroot : (Resolved.object service.query).Independent :=
    .object (fun c => ⟨.ok (.ok (.object failing)), [], fun x =>
      ⟨rfl, (List.append_nil x.errors).symm⟩⟩) fun _ _ _ hr => by cases hr; exact hfailing
  obtain ⟨data, y, z, errors, others, hy, hz, herrors, hothers, hperm⟩ :=
    executeOperation_ordered service hfields ⟨{}, .standard⟩ document query hroot order {}
  have hrun : (executeOperation service [Extension.traceFields] ⟨{}, .standard⟩ document query
      service.query {}).1 = .ok (.object [("a", .object [("x", .null), ("y", .null)])]) := rfl
  have hcollected : (executeOperation service [Extension.traceFields] ⟨{}, .standard⟩ document query
      service.query {}).2.errors.map (·.message) = ["x", "y"] := rfl
  have hreversed : (executeOperationBy order service [Extension.traceFields] ⟨{}, .standard⟩
      document query service.query {}).2.errors.map (·.message) = ["y", "x"] := rfl
  rw [hy] at hrun hcollected
  rw [hz] at hreversed
  refine ⟨hfields, hroot, data, y, z, hy, hz, Except.ok.inj hrun, hcollected, hreversed, ?_⟩
  rw [herrors, hothers]
  exact hperm.append_left _

end Reversed

end GraphServe.Execution
