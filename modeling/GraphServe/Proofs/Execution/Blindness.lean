import GraphServe.Execution.Engine
import GraphServe.Proofs.Twins

/-!
# Execution does not see headers

By itself execution looks at an operation's variables and at what is disabled, and hands the
operation to resolvers and to the middleware around fields.  So if these do not see headers, the data
of an operation and the errors reported are the same whatever the headers are
(`Execution.executeOperation_agree`).
-/

namespace GraphServe.Execution

open Document

variable {c c' : ResponseContext}

/-! ### Values -/

theorem raise_agree {α : Type} (hc : c.Twin c') (path : Path) (message : String) :
    Work.Agree Eq (raise (α := α) c path message) (raise c' path message) :=
  (hc.addError _ _).bind fun _ _ _ => .pure rfl

theorem completeLeaf_agree (hc : c.Twin c') (s : Schema) (name : String) (path : Path) (v : Json) :
    Work.Agree Eq (completeLeaf s c name path v) (completeLeaf s c' name path v) := by
  rw [completeLeaf, completeLeaf]
  cases s.type? name with
  | none => exact raise_agree hc path _
  | some type =>
      dsimp only
      cases coerceLeaf type v with
      | ok v => exact .pure rfl
      | error message => exact raise_agree hc path _

theorem completeItems_agree {complete complete' : Path → Resolved → Work Completed}
    (h : ∀ path r r', r.Agree r' → Work.Agree Eq (complete path r) (complete' path r'))
    (item : TypeRef) (path : Path) {items items' : List Resolved}
    (hitems : List.Forall₂ Resolved.Agree items items') (i : Nat) :
    Work.Agree Eq (completeItems complete item path items i)
      (completeItems complete' item path items' i) := by
  induction hitems generalizing i with
  | nil => exact .pure rfl
  | cons hfirst _ ih =>
      rw [completeItems, completeItems]
      refine (h _ _ _ hfirst).bind fun found _ hfound => hfound ▸ ?_
      cases nullify item found with
      | none => exact .pure rfl
      | some v => exact (ih (i + 1)).map fun _ _ hvalues => hvalues ▸ rfl

/-- What executes the selections of objects, on objects that agree. -/
def ExecuteObject.Agree (execute execute' : ExecuteObject) : Prop :=
  ∀ type o o' path, (Resolved.object o).Agree (.object o') →
    Work.Agree Eq (execute type o path) (execute' type o' path)

variable {execute execute' : ExecuteObject}

theorem completeObject_agree (hc : c.Twin c') (hexecute : execute.Agree execute') (s : Schema)
    (name : String) (path : Path) {o o' : ObjectValue Resolved}
    (ho : (Resolved.object o).Agree (.object o')) :
    Work.Agree Eq (completeObject s c execute name path o)
      (completeObject s c' execute' name path o') := by
  have htypeName : o'.typeName = o.typeName := by
    cases ho with
    | object typeName => exact typeName
  rw [completeObject, completeObject, htypeName]
  cases s.type? name with
  | none => exact raise_agree hc path _
  | some type =>
      dsimp only
      cases concreteType s type o.typeName with
      | ok concrete => exact (hexecute concrete o o' path ho).map fun _ _ hdata => hdata ▸ rfl
      | error message => exact raise_agree hc path _

/-- By the type that the value is to be of: that of its items is smaller. -/
theorem complete_agree (hc : c.Twin c') (hexecute : execute.Agree execute') (s : Schema)
    (type : TypeRef) (path : Path) {r r' : Resolved} (hr : r.Agree r') :
    Work.Agree Eq (complete s c execute type path r) (complete s c' execute' type path r') := by
  induction type generalizing path r r' with
  | named name required =>
      cases hr with
      | leaf v =>
          cases v with
          | null =>
              rw [complete, complete]
              split
              · exact raise_agree hc path _
              · exact .pure rfl
          | _ => exact completeLeaf_agree hc s name path _
      | list => exact raise_agree hc path _
      | object typeName isMethod isResolver gives leaves =>
          exact completeObject_agree hc hexecute s name path
            (.object typeName isMethod isResolver gives leaves)
  | list item required ih =>
      cases hr with
      | leaf v =>
          cases v with
          | null =>
              rw [complete, complete]
              split
              · exact raise_agree hc path _
              · exact .pure rfl
          | _ => exact raise_agree hc path _
      | list hitems =>
          rw [complete, complete]
          refine (completeItems_agree (fun path r r' hr => ih path hr) item path hitems 0).bind
            fun found _ hfound => hfound ▸ ?_
          cases found with
          | none => exact .pure rfl
          | some values => exact .pure rfl
      | object => exact raise_agree hc path _

/-! ### Fields -/

/-- Runs that are the same but for the responses, to twins. -/
def Run.Twin (x x' : Run) : Prop := ∃ response, x.response.Twin response ∧ x' = { x with response }

namespace Run

variable {x x' : Run}

theorem Twin.response (h : x.Twin x') : x.response.Twin x'.response := by
  obtain ⟨response, hresponse, rfl⟩ := h
  exact hresponse

theorem Twin.values_eq (h : x.Twin x') : x'.values = x.values := by
  obtain ⟨response, hresponse, rfl⟩ := h
  obtain ⟨headers, hoperation⟩ := hresponse.operation
  show response.operation.variableValues = x.response.operation.variableValues
  rw [hoperation]

variable (hx : x.Twin x') (hfields : ∀ mw ∈ x.fields, FieldMiddleware.Blind mw)
  {o o' : ObjectValue Resolved} (ho : (Resolved.object o).Agree (.object o'))
include hx hfields ho

theorem resolveField_agree {f f' : FieldContext} (hf : f.Twin f') :
    Work.Agree (Option.Rel Resolved.Agree) (x.resolveField o f) (x'.resolveField o' f') := by
  have hend (f f' : FieldContext) (hf : f.Twin f') :
      Work.Agree FieldResult.Agree (o.call f) (o'.call f') := by
    have hcall : Entry.call f'.path (o'.isMethod f'.name) = .call f.path (o.isMethod f.name) := by
      obtain ⟨response, -, rfl⟩ := hf
      cases ho with
      | object _ isMethod => rw [isMethod]; rfl
    rw [ObjectValue.call, ObjectValue.call, hcall]
    exact (Work.agree_record _).bind fun _ _ _ => ho.resolve hf
  have hchain := Chain.agree_run hfields hend hf
  have hresponse := hx.response
  have hchain' : x'.fields = x.fields := by
    obtain ⟨response, -, rfl⟩ := hx
    rfl
  have hpath : f'.path = f.path := by
    obtain ⟨response, -, rfl⟩ := hf
    rfl
  rw [resolveField, resolveField, hchain', hpath]
  refine hchain.hold.bind fun outcome outcome' houtcome => ?_
  cases houtcome with
  | ok hresult =>
      cases hresult with
      | ok hr => exact .pure (.some hr)
      | error hfailure => exact hfailure ▸ (hresponse.addError _ _).bind fun _ _ _ => .pure .none
  | error hpanic =>
      refine hpanic ▸ (hresponse.recover _ _).bind fun e _ he => he ▸ ?_
      exact (Work.agree_push e).bind fun _ _ _ => .pure .none

theorem executeField_agree
    {execute execute' : Path → List (List ExecutableSelection) → ExecuteObject}
    (hexecute : ∀ path sets, (execute path sets).Agree (execute' path sets))
    (parent? : Option Path) (type : TypeDefinition) (path : Path) (field : CollectedField)
    (fields : List CollectedField) :
    Work.Agree Eq (x.executeField execute parent? type o path field fields)
      (x'.executeField execute' parent? type o' path field fields) := by
  have hvalues := hx.values_eq
  obtain ⟨htypeName, hisMethod, hisResolver⟩ :
      o'.typeName = o.typeName ∧ o'.isMethod = o.isMethod ∧ o'.isResolver = o.isResolver := by
    cases ho with
    | object typeName isMethod isResolver => exact ⟨typeName, isMethod, isResolver⟩
  have hresolve (f f' : FieldContext) (hf : f.Twin f') :=
    resolveField_agree hx hfields ho hf
  obtain ⟨response, hresponse, rfl⟩ := hx
  rw [executeField, executeField]
  split
  · exact htypeName ▸ .pure rfl
  split
  · dsimp only
    cases x.introspection with
    | some data => exact .pure rfl
    | none => exact (hresponse.addError _ _).bind fun _ _ _ => .pure rfl
  cases type.fields.find? (·.name = field.head.name.node) with
  | none => exact raise_agree hresponse path _
  | some definition =>
      dsimp only
      rw [hvalues, hisMethod, hisResolver]
      refine (hresolve _ _ ⟨response, hresponse, rfl⟩).bind fun found found' hfound => ?_
      cases hfound with
      | none => exact .pure rfl
      | some hr =>
          exact (complete_agree hresponse (hexecute path _) x.schema _ path hr).map
            fun _ _ hcompleted => hcompleted ▸ rfl

omit hx hfields ho in
theorem executeGroups_agree
    {execute execute' : String → CollectedField → List CollectedField → Work Completed}
    (h : ∀ key field fields,
      Work.Agree Eq (execute key field fields) (execute' key field fields))
    (groups : FieldGroups) :
    Work.Agree Eq (executeGroups execute groups) (executeGroups execute' groups) := by
  induction groups with
  | nil => exact .pure rfl
  | cons group rest ih =>
      obtain ⟨key, _ | ⟨field, fields⟩⟩ := group
      · exact ih
      · rw [executeGroups, executeGroups]
        refine (h key field (field :: fields)).bind fun value _ hvalue => hvalue ▸ ?_
        refine ih.bind fun values _ hvalues => hvalues ▸ ?_
        cases value <;> cases values <;> exact .pure rfl

omit ho in
theorem executeObject_agree (fuel : Nat) (parent? : Option Path)
    (sets : List (List ExecutableSelection)) :
    (x.executeObject fuel parent? sets).Agree (x'.executeObject fuel parent? sets) := by
  induction fuel generalizing parent? sets with
  | zero => exact fun type o o' path _ => raise_agree hx.response path _
  | succ fuel ih =>
      intro type o o' path ho
      have hfield (key : String) (field : CollectedField) (fields : List CollectedField) :=
        executeField_agree hx hfields ho (fun path sets => ih (some path) sets) parent? type
          (path ++ [.key key]) field fields
      have hcollect : collect x'.schema x'.document type.name (Conditions.strict x'.values) sets
          = collect x.schema x.document type.name (Conditions.strict x.values) sets := by
        rw [hx.values_eq]
        obtain ⟨response, -, rfl⟩ := hx
        rfl
      rw [executeObject, executeObject]
      dsimp only
      rw [hcollect]
      exact executeGroups_agree hfield _

end Run

/-! ### Operations -/

theorem introspect_agree (hc : c.Twin c') (service : Service) (d : Executable)
    (o : Operation FieldDefinition) :
    Work.Agree Eq (introspect service c d o) (introspect service c' d o) := by
  obtain ⟨headers, hoperation⟩ := hc.operation
  have hdisable : c'.operation.disableIntrospection = c.operation.disableIntrospection := by
    rw [hoperation]
  have hvalues : c'.operation.variableValues = c.operation.variableValues := by
    rw [hoperation]
  rw [introspect, introspect, hdisable, hvalues]
  split
  · exact .pure rfl
  · exact (Work.Agree.forM (fun _ => hc.addError _ _) _).bind fun _ _ _ => .pure rfl

/-- **Execution does not see headers** if resolvers and the middleware around fields do not. -/
theorem executeOperation_agree (hc : c.Twin c') {service : Service}
    {fields : Chain Work FieldContext FieldResult}
    (hfields : ∀ mw ∈ fields, FieldMiddleware.Blind mw) (d : Executable)
    (o : Operation FieldDefinition) {root : ObjectValue Resolved} (hroot : root.Blind) :
    Work.Agree Eq (executeOperation service fields c d o root)
      (executeOperation service fields c' d o root) := by
  rw [executeOperation, executeOperation]
  refine (introspect_agree hc service d o).bind fun introspection _ hdata => hdata ▸ ?_
  dsimp only
  split
  · have hobject := Run.executeObject_agree
      (x := { service, response := c, document := d, fields, introspection }) ⟨c', hc, rfl⟩ hfields
      (d.fieldCount + 1) none [o.selections]
    refine (hobject _ root root [] hroot).bind fun found _ hfound => hfound ▸ ?_
    cases found with
    | some data => exact .pure rfl
    | none => exact .pure rfl
  · exact (hc.addError _ _).bind fun _ _ _ => .pure rfl

end GraphServe.Execution
