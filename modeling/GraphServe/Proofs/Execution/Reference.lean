import GraphServe.Proofs.Execution.Bubbling
import GraphServe.Proofs.Execution.Collection
import GraphServe.Proofs.Execution.Observation
import GraphServe.Proofs.Resolved

/-!
# What the positions are by themselves

Where a resolver always gives the same for the same field (`Resolved.Steady`), the positions of the
data are known without running anything: each value is completed by itself, whatever became of the
others (`Setting.positionOf`, by recursion on what was resolved).

* **Panics are failures** (`Setting.positionOf_alike`): values whose resolvers give the same, but
  that one panics where the other fails, have the same positions.
* **What is not looked at** (`Position.settle_cut`): execution leaves out the items of a list after
  the first of which nothing stays, and they make no difference.
-/

namespace GraphServe.Execution

open Document

/-- A field that was selected: its path, and the sets of selections below it. -/
structure Selected where
  path : Path
  sets : List (List ExecutableSelection)

/-- What the positions depend on besides the resolvers. -/
structure Setting where
  schema   : Schema
  response : ResponseContext
  document : Executable

/-- The setting of a run. -/
def Run.setting (x : Run) : Setting := ⟨x.schema, x.response, x.document⟩

/-- What is made of each group of fields, by its response key. -/
def FieldGroups.each {α : Type} (make : String → CollectedField → List CollectedField → α) :
    FieldGroups → List (String × α)
  | []                             => []
  | (_, []) :: rest                => FieldGroups.each make rest
  | (key, first :: fields) :: rest =>
      (key, make key first (first :: fields)) :: FieldGroups.each make rest

theorem FieldGroups.mem_each {α : Type} {make : String → CollectedField → List CollectedField → α}
    {groups : FieldGroups} {f : String × α} (h : f ∈ groups.each make) :
    ∃ first rest, (f.1, first :: rest) ∈ groups ∧ f.2 = make f.1 first (first :: rest) := by
  induction groups with
  | nil => cases h
  | cons g groups ih =>
      obtain ⟨key, _ | ⟨first, fields⟩⟩ := g
      · obtain ⟨first, rest, hg, hf⟩ := ih h
        exact ⟨first, rest, List.mem_cons_of_mem _ hg, hf⟩
      · rcases List.mem_cons.mp h with rfl | h
        · exact ⟨first, fields, List.mem_cons_self, rfl⟩
        · obtain ⟨first, rest, hg, hf⟩ := ih h
          exact ⟨first, rest, List.mem_cons_of_mem _ hg, hf⟩

theorem FieldGroups.keys_each {α : Type}
    (make : String → CollectedField → List CollectedField → α) (groups : FieldGroups) :
    ((groups.each make).map Prod.fst).Sublist (groups.map Prod.fst) := by
  induction groups with
  | nil => exact .slnil
  | cons g groups ih =>
      obtain ⟨key, _ | ⟨first, fields⟩⟩ := g
      · exact ih.cons key
      · exact ih.cons_cons key

namespace Setting

/-- A leaf that is to be of a named type, as it is completed. -/
def leafOf (x : Setting) (name : String) (value : Json) : Completed :=
  match (x.schema.type? name).map (coerceLeaf · value) with
  | some (.ok value) => some value
  | _                => none

/-- The groups of fields that sets of selections ask of an object of a concrete type. -/
def groups (x : Setting) (type : TypeDefinition) (sets : List (List ExecutableSelection)) :
    FieldGroups :=
  collect x.schema x.document type.name (Conditions.strict x.response.operation.variableValues) sets

mutual

/-- The position of a value that is to be of a type. -/
def positionOf (x : Setting) : Resolved → Selected → TypeRef → Path → Position
  | .leaf .null,  _,     type,                 _    =>
      if type.isRequired then .failed true else .null
  | .leaf value,  _,     .named name required, _    => .ofLeaf required (x.leafOf name value)
  | .object o,    field, .named name required, path =>
      match (x.schema.type? name).map (concreteType x.schema · o.typeName) with
      | some (.ok concrete) =>
          .object required concrete.name field.sets
            (x.fieldsOf o (some field.path) concrete path field.sets)
      | _                   => .failed required
  | .list items,  field, .list item required,  path =>
      .list required (x.itemsOf items field item path 0)
  | _,            _,     type,                 _    => .failed type.isRequired

/-- The positions of the items of a list, from an index on. -/
def itemsOf (x : Setting) : List Resolved → Selected → TypeRef → Path → Nat → List Position
  | [],            _,     _,    _,    _ => []
  | first :: rest, field, type, path, i =>
      x.positionOf first field type (path ++ [.index i]) :: x.itemsOf rest field type path (i + 1)

/-- The positions of the fields that sets of selections ask of an object of a concrete type. -/
def fieldsOf (x : Setting) : ObjectValue Resolved → Option Path → TypeDefinition → Path →
    List (List ExecutableSelection) → List (String × Position)
  | ⟨typeName, isMethod, isResolver, resolve⟩, parent?, type, path, sets =>
      (x.groups type sets).each fun key field fields =>
        let head := field.head
        let path := path ++ [.key key]
        if head.name.node = "__typename" then .leaf true (.string typeName)
        else
          match type.fields.find? (·.name = head.name.node) with
          | none            => .lacking head.note.type.isRequired
          | some definition =>
              let object : ObjectValue Resolved := ⟨typeName, isMethod, isResolver, resolve⟩
              x.outcomeOf (resolve (fieldContext x.response parent? type object path head definition)
                default) ⟨path, fields.map (·.selections)⟩ head.note.type path

/-- The position of what a resolver leads to. -/
def outcomeOf (x : Setting) :
    Except Panic (Except Failure Resolved) × Exchange → Selected → TypeRef → Path → Position
  | (outcome, _), field, type, path => x.heldOf outcome field type path

/-- The position of what a resolver leads to, which may be a panic. -/
def heldOf (x : Setting) :
    Except Panic (Except Failure Resolved) → Selected → TypeRef → Path → Position
  | .error _,   _,     type, _    => .failed type.isRequired
  | .ok answer, field, type, path => x.answerOf answer field type path

/-- The position of what a resolver answers, which may be a failure. -/
def answerOf (x : Setting) : Except Failure Resolved → Selected → TypeRef → Path → Position
  | .error _,  _,     type, _    => .failed type.isRequired
  | .ok value, field, type, path => x.positionOf value field type path

end

/-- The position of the fields under one response key of an object. -/
def fieldOf (x : Setting) (o : ObjectValue Resolved) (parent? : Option Path) (type : TypeDefinition)
    (path : Path) (field : CollectedField) (fields : List CollectedField) : Position :=
  let head := field.head
  if head.name.node = "__typename" then .leaf true (.string o.typeName)
  else
    match type.fields.find? (·.name = head.name.node) with
    | none            => .lacking head.note.type.isRequired
    | some definition =>
        x.outcomeOf (o.resolve (fieldContext x.response parent? type o path head definition) default)
          ⟨path, fields.map (·.selections)⟩ head.note.type path

theorem fieldsOf_eq (x : Setting) (o : ObjectValue Resolved) (parent? : Option Path)
    (type : TypeDefinition) (path : Path) (sets : List (List ExecutableSelection)) :
    x.fieldsOf o parent? type path sets = (x.groups type sets).each fun key first fields =>
      x.fieldOf o parent? type (path ++ [.key key]) first fields := by
  obtain ⟨typeName, isMethod, isResolver, resolve⟩ := o
  rw [fieldsOf]
  rfl

variable (x : Setting)

theorem outcomeOf_gives {outcome : Except Panic FieldResult × Exchange} {r : Resolved}
    (h : outcome.1 = .ok (.ok r)) (field : Selected) (type : TypeRef) (path : Path) :
    x.outcomeOf outcome field type path = x.positionOf r field type path := by
  obtain ⟨outcome, _⟩ := outcome
  cases h
  rfl

theorem outcomeOf_fails {outcome : Except Panic FieldResult × Exchange}
    (h : ∀ r, outcome.1 ≠ .ok (.ok r)) (field : Selected) (type : TypeRef) (path : Path) :
    x.outcomeOf outcome field type path = .failed type.isRequired := by
  obtain ⟨_ | _ | r, _⟩ := outcome
  · rfl
  · rfl
  · exact absurd rfl (h r)

/-- A field that holds no value of its resolver is a position without others below it. -/
theorem fieldOf_cases (o : ObjectValue Resolved) (parent? : Option Path) (type : TypeDefinition)
    (path : Path) (first : CollectedField) (fields : List CollectedField) :
    (∃ c r, (o.resolve c default).1 = .ok (.ok r) ∧
      x.fieldOf o parent? type path first fields =
        x.positionOf r ⟨path, fields.map (·.selections)⟩ first.head.note.type path) ∨
    (x.fieldOf o parent? type path first fields).Distinct := by
  rw [fieldOf]
  split
  · exact .inr (.leaf _ _)
  · split
    · exact .inr (.lacking _)
    · rename_i definition _
      by_cases hr : ∃ r, (o.resolve (fieldContext x.response parent? type o path first.head definition)
          default).1 = .ok (.ok r)
      · obtain ⟨r, hr⟩ := hr
        exact .inl ⟨_, r, hr, x.outcomeOf_gives hr _ _ _⟩
      · rw [x.outcomeOf_fails (not_exists.mp hr)]
        exact .inr (.failed _)

theorem fieldsOf_distinct {o : ObjectValue Resolved}
    (h : ∀ c r, (o.resolve c default).1 = .ok (.ok r) → ∀ field type path,
      (x.positionOf r field type path).Distinct)
    (required : Bool) (parent? : Option Path) (type : TypeDefinition) (path : Path)
    (sets : List (List ExecutableSelection)) :
    (Position.object required type.name sets
      (x.fieldsOf o parent? type path sets)).Distinct := by
  rw [fieldsOf_eq]
  refine .object ((collect_keys_nodup sets).sublist (FieldGroups.keys_each _ _)) fun f hf => ?_
  obtain ⟨first, rest, -, hfield⟩ := FieldGroups.mem_each hf
  rw [hfield]
  rcases x.fieldOf_cases o parent? type (path ++ [.key f.1]) first (first :: rest) with
    ⟨c, r, hr, he⟩ | hd
  · rw [he]
    exact h c r hr _ _ _
  · exact hd

theorem itemsOf_mem {items : List Resolved} {field : Selected} {type : TypeRef} {path : Path}
    {i : Nat} {t : Position} (h : t ∈ x.itemsOf items field type path i) :
    ∃ r ∈ items, ∃ path, t = x.positionOf r field type path := by
  induction items generalizing i with
  | nil => cases h
  | cons first rest ih =>
      rcases List.mem_cons.mp h with rfl | h
      · exact ⟨first, List.mem_cons_self, _, rfl⟩
      · obtain ⟨r, hr, he⟩ := ih h
        exact ⟨r, List.mem_cons_of_mem _ hr, he⟩

/-- The keys of every object are different. -/
theorem positionOf_distinct (r : Resolved) (field : Selected) (type : TypeRef) (path : Path) :
    (x.positionOf r field type path).Distinct := by
  induction r generalizing field type path with
  | leaf v =>
      unfold positionOf
      split
      · split
        · exact .failed _
        · exact .null
      · generalize x.leafOf _ _ = found
        cases found with
        | none => exact .failed _
        | some => exact .leaf _ _
      · cases ‹Resolved.leaf v = _›
      · cases ‹Resolved.leaf v = _›
      · exact .failed _
  | list items ih =>
      cases type with
      | named name required => exact .failed _
      | list item required =>
          refine .list fun t ht => ?_
          obtain ⟨r, hr, path, rfl⟩ := x.itemsOf_mem ht
          exact ih r hr field item path
  | object o ih =>
      cases type with
      | list item required => exact .failed _
      | named name required =>
          rw [positionOf]
          split
          · exact x.fieldsOf_distinct (fun c r hr => ih c default r hr) _ _ _ _ _
          · exact .failed _

end Setting

/-! ### Panics and failures -/

namespace Setting

variable (x : Setting)

theorem fieldContext_alike {o o' : ObjectValue Resolved} (h : (Resolved.object o).Alike (.object o'))
    (response : ResponseContext) (parent? : Option Path) (type : TypeDefinition) (path : Path)
    (head : FieldHead FieldDefinition) (definition : FieldDefinition) :
    fieldContext response parent? type o path head definition =
      fieldContext response parent? type o' path head definition := by
  cases h with
  | object _ isMethod isResolver _ _ => rw [fieldContext, fieldContext, isMethod, isResolver]

theorem fieldOf_alike {o o' : ObjectValue Resolved} (h : (Resolved.object o).Alike (.object o'))
    (ih : ∀ c r r', o.outcome c = .ok (.ok r) → r.Alike r' → ∀ field type path,
      x.positionOf r field type path = x.positionOf r' field type path)
    (parent? : Option Path) (type : TypeDefinition) (path : Path) (first : CollectedField)
    (fields : List CollectedField) :
    x.fieldOf o parent? type path first fields = x.fieldOf o' parent? type path first fields := by
  rw [fieldOf, fieldOf]
  split
  · cases h with
    | object typeName => rw [typeName]
  · split
    · rfl
    · rename_i definition _
      rw [fieldContext_alike h]
      cases h with
      | object _ _ _ give gives =>
          by_cases hr : ∃ r, o.outcome (fieldContext x.response parent? type o' path first.head
              definition) = .ok (.ok r)
          · obtain ⟨r', hr'⟩ := (give _).mp hr
            obtain ⟨r, hr⟩ := hr
            rw [x.outcomeOf_gives hr, x.outcomeOf_gives hr']
            exact ih _ r r' hr (gives _ r r' hr hr') _ _ _
          · have hr' := fun h => hr ((give _).mpr h)
            rw [x.outcomeOf_fails (not_exists.mp hr), x.outcomeOf_fails (not_exists.mp hr')]

theorem itemsOf_alike {items items' : List Resolved} (length : items.length = items'.length)
    {field : Selected} {type : TypeRef}
    (h : ∀ (i : Nat) r r', items[i]? = some r → items'[i]? = some r' → ∀ path,
      x.positionOf r field type path = x.positionOf r' field type path) (path : Path) (i : Nat) :
    x.itemsOf items field type path i = x.itemsOf items' field type path i := by
  induction items generalizing items' i with
  | nil =>
      cases items' with
      | nil => rfl
      | cons => cases length
  | cons first rest ih =>
      cases items' with
      | nil => cases length
      | cons first' rest' =>
          rw [itemsOf, itemsOf, h 0 first first' rfl rfl, ih (Nat.succ.inj length)
            fun j r r' hr hr' => h (j + 1) r r' (by simpa using hr) (by simpa using hr')]

/-- **Panics are failures**: values that are alike have the same positions. -/
theorem positionOf_alike {r r' : Resolved} (h : r.Alike r') (field : Selected) (type : TypeRef)
    (path : Path) : x.positionOf r field type path = x.positionOf r' field type path := by
  induction r generalizing r' field type path with
  | leaf v => cases h; rfl
  | list items ih =>
      cases h with
      | list length hitems =>
          cases type with
          | named => rfl
          | list item required =>
              rw [positionOf, positionOf, x.itemsOf_alike length fun i r r' hr hr' path =>
                ih r (List.mem_of_getElem? hr) (hitems i r r' hr hr') field item path]
  | object o ih =>
      cases h with
      | @object _ o' typeName isMethod isResolver give gives =>
          have h : (Resolved.object o).Alike (.object o') :=
            .object typeName isMethod isResolver give gives
          cases type with
          | list => rfl
          | named name required =>
              have hfields := x.fieldOf_alike h fun c r r' hr hr' => ih c default r hr hr'
              rw [positionOf, positionOf, typeName]
              simp only [fieldsOf_eq, hfields]

end Setting

/-! ### Items that are not looked at -/

namespace Position

mutual

/-- The positions that execution looks at: none of the items of a list after the first of which
nothing stays. -/
def cut : Position → Position
  | .list required items              => .list required (cutItems items)
  | .object required type sets fields => .object required type sets (cutFields fields)
  | other                             => other

/-- The items of a list that execution looks at. -/
def cutItems : List Position → List Position
  | []            => []
  | first :: rest => if first.settle.isNone then [first.cut] else first.cut :: cutItems rest

/-- The fields of an object, all of which execution looks at. -/
def cutFields : List (String × Position) → List (String × Position)
  | []                   => []
  | (key, first) :: rest => (key, first.cut) :: cutFields rest

end

theorem settleItems_cut {items : List Position} (h : ∀ c ∈ items, c.cut.settle = c.settle) :
    settleItems (cutItems items) = settleItems items := by
  induction items with
  | nil => rfl
  | cons first rest ih =>
      have hfirst := h first List.mem_cons_self
      have hrest := ih fun c hc => h c (List.mem_cons_of_mem _ hc)
      rw [cutItems]
      split
      · rename_i hn
        rw [Option.isNone_iff_eq_none] at hn
        rw [settleItems, hfirst, hn, settleItems_none ⟨first, List.mem_cons_self, hn⟩]
        rfl
      · rw [settleItems, settleItems, hfirst, hrest]

theorem settleFields_cut {fields : List (String × Position)}
    (h : ∀ f ∈ fields, f.2.cut.settle = f.2.settle) :
    settleFields (cutFields fields) = settleFields fields := by
  induction fields with
  | nil => rfl
  | cons first rest ih =>
      rw [cutFields, settleFields, settleFields, h first List.mem_cons_self,
        ih fun f hf => h f (List.mem_cons_of_mem _ hf)]

/-- **What is not looked at makes no difference** to what stays. -/
theorem settle_cut (t : Position) : t.cut.settle = t.settle := by
  induction t with
  | list r items ih => rw [cut, settle, settle, settleItems_cut ih]
  | object r type sets fields ih => rw [cut, settle, settle, settleFields_cut ih]
  | _ => rfl

end Position

end GraphServe.Execution
