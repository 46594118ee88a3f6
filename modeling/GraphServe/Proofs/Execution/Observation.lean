import GraphServe.Execution.Engine
import GraphServe.Proofs.Execution.Position
import GraphServe.Proofs.Work

/-!
# Execution, position by position

The stages here do what those of the engine do, in the same order and with the same effects, but
they give the `Position` that was met and move no `null`.

**Execution is observation** (`executeOperation_eq`): the data of an operation is what stays of the
observed positions once their nulls have moved.  So what execution does to an exchange, and what it
answers, can be told from the positions.  What is observed of a field is of the value that its
resolver gave, through the middleware around it (`Run.resolveField_eq_some_iff`).
-/

namespace GraphServe.Execution

open Document

/-! ### Completion -/

/-- Report an error at a position. -/
def failAt (response : ResponseContext) (path : Path) (required : Bool) (message : String) :
    Work Position := do
  response.addError (some path) (.message message)
  return .failed required

/-- Observe the items of a list up to the first that leaves nothing. -/
def observeItems (observe : Path → Resolved → Work Position) (path : Path) :
    List Resolved → Nat → Work (List Position)
  | [],            _ => return []
  | first :: rest, i => do
      let found ← observe (path ++ [.index i]) first
      if found.settle.isNone then return [found]
      else return found :: (← observeItems observe path rest (i + 1))

/-- Observes an object of a concrete type at a path, where `null` may be admitted. -/
abbrev ObserveObject := Bool → TypeDefinition → ObjectValue Resolved → Path → Work Position

/-- Observe an object that is to be of a named type. -/
def observeObject (s : Schema) (response : ResponseContext) (execute : ObserveObject)
    (name : String) (required : Bool) (path : Path) (object : ObjectValue Resolved) :
    Work Position :=
  match s.type? name with
  | none      => failAt response path required ("type " ++ name ++ " is not defined")
  | some type =>
      match concreteType s type object.typeName with
      | .ok concrete   => execute required concrete object path
      | .error message => failAt response path required message

/-- A leaf that was completed, or else a failure. -/
def Position.ofLeaf (required : Bool) : Completed → Position
  | some value => .leaf required value
  | none       => .failed required

/-- Observe a value that is to be of a type. -/
def observe (s : Schema) (response : ResponseContext) (execute : ObserveObject) :
    TypeRef → Path → Resolved → Work Position
  | type, path, .leaf .null =>
      if type.isRequired then failAt response path true "must not be null" else return .null
  | .named name required, path, .leaf value =>
      return .ofLeaf required (← completeLeaf s response name path value)
  | .named name required, path, .object o => observeObject s response execute name required path o
  | .named name required, path, .list _ =>
      failAt response path required ((TypeRef.named name required).render
        ++ " is not a list type, but a list was resolved")
  | .list item required, path, .list items =>
      return .list required (← observeItems (observe s response execute item) path items 0)
  | .list item required, path, _ =>
      failAt response path required ((TypeRef.list item required).render
        ++ " is a list type, but a single value was resolved")

/-! ### Fields -/

/-- What resolvers know of a field of an object at a path. -/
def fieldContext (response : ResponseContext) (parent? : Option Path) (type : TypeDefinition)
    (object : ObjectValue Resolved) (path : Path) (head : FieldHead FieldDefinition)
    (definition : FieldDefinition) : FieldContext :=
  { response, parent?, object := type.name, field := head,
    arguments := Arguments.ofField head definition response.operation.variableValues, path,
    isMethod := object.isMethod head.name.node,
    isResolver := object.isResolver head.name.node }

namespace Run

/-- A field has a value only where the chain of middleware around its resolver gave it, and then it
is that one: failures and panics leave nothing. -/
theorem resolveField_eq_some_iff {x : Run} {object : ObjectValue Resolved} {c : FieldContext}
    {r : Resolved} {y z : Exchange} :
    x.resolveField object c y = (.ok (some r), z) ↔
      x.fields.run object.call c y = (.ok (.ok r), z) := by
  rw [resolveField, Work.bind_ok (Work.hold_apply _ y)]
  rcases x.fields.run object.call c y with ⟨panic | failure | r', y'⟩
  · refine ⟨fun h => ?_, fun h => ?_⟩ <;> cases h
  · refine ⟨fun h => ?_, fun h => ?_⟩ <;> cases h
  · refine ⟨fun h => ?_, fun h => ?_⟩ <;> (cases h; rfl)

/-- Observe the fields under one response key of an object. -/
def observeField (x : Run) (execute : Path → List (List ExecutableSelection) → ObserveObject)
    (parent? : Option Path) (type : TypeDefinition) (object : ObjectValue Resolved) (path : Path)
    (field : CollectedField) (fields : List CollectedField) : Work Position := do
  let head := field.head
  let name := head.name.node
  let returnType := head.note.type
  if name = "__typename" then return .leaf true (.string object.typeName)
  else if Introspection.isField name && parent?.isNone then
    match x.introspection with
    | some data => return .told ((data.get? head.responseKey).getD .null)
    | none      => failAt x.response path returnType.isRequired "introspection disabled"
  else
    match type.fields.find? (·.name = name) with
    | none            => do
        x.response.addError (some path)
          (.message ("field " ++ name ++ " not defined on type " ++ type.name))
        return .lacking returnType.isRequired
    | some definition => do
        match ← x.resolveField object
            (fieldContext x.response parent? type object path head definition) with
        | none          => return .failed returnType.isRequired
        | some resolved =>
            observe x.schema x.response (execute path (fields.map (·.selections))) returnType path
              resolved

/-- Observe groups of fields in order. -/
def observeGroups (observe : String → CollectedField → List CollectedField → Work Position) :
    FieldGroups → Work (List (String × Position))
  | []                              => return []
  | (_, []) :: rest                 => observeGroups observe rest
  | (key, field :: fields) :: rest  => do
      let found ← observe key field (field :: fields)
      return (key, found) :: (← observeGroups observe rest)

/-- Observe what sets of selections ask of an object. -/
def observeSelections (x : Run) :
    Nat → Option Path → List (List ExecutableSelection) → ObserveObject
  | 0,        _,       _    => fun required _ _ path =>
      failAt x.response path required "selections are nested too deeply"
  | fuel + 1, parent?, sets => fun required type object path =>
      let groups := collect x.schema x.document type.name (Conditions.strict x.values) sets
      return .object required type.name sets (← observeGroups (fun key field fields =>
        x.observeField (fun path sets => x.observeSelections fuel (some path) sets) parent? type
          object (path ++ [.key key]) field fields) groups)

end Run

/-! ### Operations -/

/-- Operations of a kind start from an object type of the schema. -/
def HasRoot (s : Schema) (type : OperationType) : Prop :=
  ∃ t, s.type? ((s.root? type).getD "") = some t ∧ t.isObject = true

/-- Observe an operation on a root object. -/
def observeOperation (service : Service) (fields : Chain Work FieldContext FieldResult)
    (response : ResponseContext) (d : Executable) (o : Operation FieldDefinition)
    (root : ObjectValue Resolved) : Work Position := do
  let introspection ← introspect service response d o
  let x : Run := { service, response, document := d, fields, introspection }
  let rootName := (service.schema.root? o.type).getD ""
  match service.schema.type? rootName with
  | some ⟨name, description, directives, .object interfaces defined⟩ =>
      let type : TypeDefinition := ⟨name, description, directives, .object interfaces defined⟩
      x.observeSelections (d.fieldCount + 1) none [o.selections] false type root []
  | _ => do
      response.addError none (.message ("root type " ++ rootName ++ " is not defined"))
      return .failed false

/-- An operation with a root is observed from it, once what it asks of the schema is answered. -/
theorem HasRoot.observeOperation_eq {service : Service} {o : Operation FieldDefinition}
    (h : HasRoot service.schema o.type) :
    ∃ type, service.schema.type? ((service.schema.root? o.type).getD "") = some type ∧
      type.isObject = true ∧
      ∀ (fields : Chain Work FieldContext FieldResult) (response : ResponseContext)
        (d : Executable) (root : ObjectValue Resolved),
        observeOperation service fields response d o root =
          introspect service response d o >>= fun introspection =>
            Run.observeSelections { service, response, document := d, fields, introspection }
              (d.fieldCount + 1) none [o.selections] false type root [] := by
  obtain ⟨type, htype, hobject⟩ := h
  refine ⟨type, htype, hobject, fun fields response d root => bind_congr fun introspection => ?_⟩
  obtain ⟨name, description, directives, body⟩ := type
  cases body with
  | object interfaces defined => simp only [htype]
  | _ => cases hobject

/-! ### Execution is observation -/

theorem nullify_eq (type : TypeRef) (found : Completed) :
    nullify type found = Position.keepNull type.isRequired found := by
  cases found <;> rfl

theorem nullify_nullify (type : TypeRef) (found : Completed) :
    nullify type (nullify type found) = nullify type found := by
  cases found with
  | some value => rfl
  | none => rw [nullify]; split <;> simp_all [nullify]

theorem failAt_eq (response : ResponseContext) (path : Path) (required : Bool) (message : String) :
    Position.settle <$> failAt response path required message =
      Position.keepNull required <$> raise response path message := by
  simp [failAt, raise, Position.settle]

/-- What follows on a completed value follows on what stays of the observed position. -/
theorem bind_nullify {α : Type} {type : TypeRef} {completed : Work Completed}
    {observed : Work Position} (h : nullify type <$> completed = Position.settle <$> observed)
    (next : Completed → Work α) :
    (completed >>= fun found => next (nullify type found)) =
      observed >>= fun found => next found.settle := by
  rw [← bind_map_left, h, bind_map_left]

theorem completeItems_eq {complete : Path → Resolved → Work Completed}
    {observe : Path → Resolved → Work Position} {item : TypeRef}
    (h : ∀ path r, nullify item <$> complete path r = Position.settle <$> observe path r)
    (path : Path) (items : List Resolved) (i : Nat) :
    completeItems complete item path items i =
      Position.settleItems <$> observeItems observe path items i := by
  induction items generalizing i with
  | nil => simp [completeItems, observeItems, Position.settleItems]
  | cons first rest ih =>
      -- what follows on the first item, by what stays of it
      let next : Completed → Work (Option (List Json)) := fun found =>
        found.elim (pure none) fun value =>
          completeItems complete item path rest (i + 1) >>= fun values =>
            pure (values.map (value :: ·))
      have hnext : completeItems complete item path (first :: rest) i =
          complete (path ++ [.index i]) first >>= fun found => next (nullify item found) := by
        rw [completeItems]
        refine bind_congr fun found => ?_
        cases nullify item found <;> rfl
      rw [hnext, bind_nullify (h _ _), observeItems, map_bind]
      refine bind_congr fun found => ?_
      cases hf : found.settle with
      | none => simp [next, Position.settleItems, hf]
      | some value => simp [next, ih, Position.settleItems, hf]

section

variable {s : Schema} {response : ResponseContext} {execute : ExecuteObject}
  {observeWith : ObserveObject}

theorem complete_null_eq (type : TypeRef) (path : Path) :
    nullify type <$> complete s response execute type path (.leaf .null) =
      Position.settle <$> observe s response observeWith type path (.leaf .null) := by
  rw [complete, observe]
  split
  · rename_i hr
    rw [failAt_eq, ← hr, funext (nullify_eq type)]
  · simp [nullify, Position.settle]

/-! What becomes of a leaf that is not `null`, by the type that it is to be of. -/

theorem complete_leaf_named {v : Json} (hv : v ≠ .null) (name : String) (required : Bool)
    (path : Path) :
    complete s response execute (.named name required) path (.leaf v) =
      completeLeaf s response name path v := by
  cases v <;> first | exact absurd rfl hv | rfl

theorem complete_leaf_list {v : Json} (hv : v ≠ .null) (item : TypeRef) (required : Bool)
    (path : Path) :
    complete s response execute (.list item required) path (.leaf v) =
      raise response path ((TypeRef.list item required).render
        ++ " is a list type, but a single value was resolved") := by
  cases v <;> first | exact absurd rfl hv | rfl

theorem observe_leaf_named {v : Json} (hv : v ≠ .null) (name : String) (required : Bool)
    (path : Path) :
    observe s response observeWith (.named name required) path (.leaf v) =
      (do return Position.ofLeaf required (← completeLeaf s response name path v)) := by
  cases v <;> first | exact absurd rfl hv | rfl

theorem observe_leaf_list {v : Json} (hv : v ≠ .null) (item : TypeRef) (required : Bool)
    (path : Path) :
    observe s response observeWith (.list item required) path (.leaf v) =
      failAt response path required ((TypeRef.list item required).render
        ++ " is a list type, but a single value was resolved") := by
  cases v <;> first | exact absurd rfl hv | rfl

theorem complete_leaf_eq (name : String) (required : Bool) (path : Path) (v : Json) :
    nullify (.named name required) <$> complete s response execute (.named name required) path
        (.leaf v) =
      Position.settle <$> observe s response observeWith (.named name required) path (.leaf v) := by
  by_cases hv : v = .null
  · subst hv; exact complete_null_eq _ path
  · rw [complete_leaf_named hv, observe_leaf_named hv, map_eq_pure_bind, map_bind]
    refine bind_congr fun found => ?_
    cases found with
    | none => rfl
    | some value => rfl

theorem complete_single_eq (item : TypeRef) (required : Bool) (path : Path) (v : Json) :
    nullify (.list item required) <$> complete s response execute (.list item required) path
        (.leaf v) =
      Position.settle <$> observe s response observeWith (.list item required) path (.leaf v) := by
  by_cases hv : v = .null
  · subst hv; exact complete_null_eq _ path
  · rw [complete_leaf_list hv, observe_leaf_list hv, failAt_eq, funext (nullify_eq _)]
    rfl

theorem complete_object_eq
    (h : ∀ required type object path,
      (Position.keepNull required ∘ Option.map Json.object) <$> execute type object path =
        Position.settle <$> observeWith required type object path)
    (name : String) (required : Bool) (path : Path) (o : ObjectValue Resolved) :
    nullify (.named name required) <$> completeObject s response execute name path o =
      Position.settle <$> observeObject s response observeWith name required path o := by
  rw [completeObject, observeObject, funext (nullify_eq _)]
  cases s.type? name with
  | none => exact (failAt_eq ..).symm
  | some type =>
      dsimp only
      cases concreteType s type o.typeName with
      | error message => exact (failAt_eq ..).symm
      | ok concrete =>
          rw [← h]
          simp only [map_eq_pure_bind, bind_assoc, pure_bind, Function.comp_apply]
          rfl

/-- **Completion is observation**: what a value is completed to is what stays of the position that
is observed, if the same holds of objects. -/
theorem complete_eq
    (h : ∀ required type object path,
      (Position.keepNull required ∘ Option.map Json.object) <$> execute type object path =
        Position.settle <$> observeWith required type object path)
    (type : TypeRef) (path : Path) (r : Resolved) :
    nullify type <$> complete s response execute type path r =
      Position.settle <$> observe s response observeWith type path r := by
  induction type generalizing path r with
  | named name required =>
      cases r with
      | leaf v => exact complete_leaf_eq name required path v
      | list items => exact (funext (nullify_eq _) ▸ (failAt_eq ..).symm)
      | object o => exact complete_object_eq h name required path o
  | list item required ih =>
      cases r with
      | leaf v => exact complete_single_eq item required path v
      | list items =>
          rw [complete, observe, completeItems_eq ih, bind_map_left, map_bind, map_bind]
          refine bind_congr fun found => ?_
          rw [map_pure, Position.settle]
          cases Position.settleItems found with
          | none => rw [map_pure, nullify_nullify]; rfl
          | some values => exact map_pure _ _
      | object o => exact (funext (nullify_eq _) ▸ (failAt_eq ..).symm)

end

/-! ### Fields -/

namespace Run

variable (x : Run)

theorem executeField_eq {execute : Path → List (List ExecutableSelection) → ExecuteObject}
    {observeWith : Path → List (List ExecutableSelection) → ObserveObject}
    (h : ∀ path sets required type object here,
      (Position.keepNull required ∘ Option.map Json.object) <$> execute path sets type object here =
        Position.settle <$> observeWith path sets required type object here)
    (parent? : Option Path) (type : TypeDefinition) (object : ObjectValue Resolved) (path : Path)
    (field : CollectedField) (fields : List CollectedField) :
    x.executeField execute parent? type object path field fields =
      Position.settle <$> x.observeField observeWith parent? type object path field fields := by
  rw [executeField, observeField]
  by_cases hname : field.head.name.node = "__typename"
  · simp only [if_pos hname, map_pure, Position.settle]
  rw [if_neg hname, if_neg hname]
  split
  · cases x.introspection with
    | some data => rfl
    | none => simp [failAt, nullify_eq, Position.settle]
  · cases type.fields.find? (·.name = field.head.name.node) with
    | none => simp [raise, Position.settle]
    | some definition =>
        simp only [map_bind]
        refine bind_congr fun resolved? => ?_
        cases resolved? with
        | none => simp [nullify_eq, Position.settle]
        | some resolved =>
            rw [← complete_eq (h _ _)]
            simp

/-- What is said of an observed object, said of its fields. -/
theorem executeGroups_eq {execute : String → CollectedField → List CollectedField → Work Completed}
    {observeWith : String → CollectedField → List CollectedField → Work Position}
    (h : ∀ key field fields,
      execute key field fields = Position.settle <$> observeWith key field fields)
    (groups : FieldGroups) :
    executeGroups execute groups = Position.settleFields <$> observeGroups observeWith groups := by
  induction groups with
  | nil => simp [executeGroups, observeGroups, Position.settleFields]
  | cons group rest ih =>
      obtain ⟨key, _ | ⟨field, fields⟩⟩ := group
      · rw [executeGroups, observeGroups, ih]
      · rw [executeGroups, observeGroups, h, ih, bind_map_left, map_bind]
        refine bind_congr fun found => ?_
        rw [bind_map_left, map_bind]
        refine bind_congr fun others => ?_
        rw [map_pure, Position.settleFields]
        cases found.settle with
        | none => rfl
        | some value => cases Position.settleFields others <;> rfl

/-- **Execution is observation**, for an object. -/
theorem executeObject_eq (fuel : Nat) (parent? : Option Path)
    (sets : List (List ExecutableSelection)) (required : Bool) (type : TypeDefinition)
    (object : ObjectValue Resolved) (path : Path) :
    (Position.keepNull required ∘ Option.map Json.object) <$>
        x.executeObject fuel parent? sets type object path =
      Position.settle <$> x.observeSelections fuel parent? sets required type object path := by
  induction fuel generalizing parent? sets required type object path with
  | zero =>
      rw [executeObject, observeSelections, failAt_eq]
      simp [raise]
  | succ fuel ih =>
      have hfields := fun key field fields =>
        x.executeField_eq (fun path sets => ih (some path) sets) parent? type object
          (path ++ [.key key]) field fields
      rw [executeObject, observeSelections]
      dsimp only
      rw [executeGroups_eq hfields, map_bind, ← comp_map, map_eq_pure_bind]
      refine bind_congr fun found => ?_
      rw [map_pure]
      rfl

end Run

/-- **Execution is observation**: the data of an operation is what stays of its positions. -/
theorem executeOperation_eq (service : Service) (fields : Chain Work FieldContext FieldResult)
    (response : ResponseContext) (d : Executable) (o : Operation FieldDefinition)
    (root : ObjectValue Resolved) :
    executeOperation service fields response d o root =
      (fun found => found.settle.getD .null) <$>
        observeOperation service fields response d o root := by
  rw [executeOperation, observeOperation, map_bind]
  refine bind_congr fun introspection => ?_
  dsimp only
  cases service.schema.type? ((service.schema.root? o.type).getD "") with
  | none => rfl
  | some type =>
      obtain ⟨name, description, directives, body⟩ := type
      cases body with
      | object interfaces defined =>
          -- the root admits `null`, so nothing is put in its place but the `null` of the data
          have hobject := Run.executeObject_eq
            { service, response, document := d, fields, introspection } (d.fieldCount + 1) none
            [o.selections] false ⟨name, description, directives, .object interfaces defined⟩ root []
          refine Eq.trans ?_ (comp_map Position.settle (·.getD .null) _).symm
          rw [← hobject, ← comp_map, map_eq_pure_bind]
          refine bind_congr fun found => ?_
          cases found <;> rfl
      | _ => rfl

end GraphServe.Execution
