import GraphServe.Proofs.Execution.Fitting
import GraphServe.Proofs.Execution.Placing
import GraphServe.Proofs.Json.Value

/-!
# JSON of a type, restricted to what is selected

JSON is of a type if it has the shape that the type declares (`Json.IsOf`): any value for a scalar of
the schema's own, and members that name a possible type for an interface or union.  It is restricted
to selections by taking from each object the fields that are collected for its type, under their
response keys (`Run.restrict`).

* `Run.Selects` are the selections that ask for declared fields, as the rule for merging them has it.
* `Run.Reaches` tells which values of some JSON selections reach, with the types that they are
  selected with and declared to be of.
* `Run.Serves.field`: **what is asked of an object is asked of its fields**.  The type of a field that
  is selected of an object is no narrower than the one that the object's type declares.
-/

namespace GraphServe

open Document Execution

/-! ### JSON that is of a type -/

/-- The name of the type that an object from JSON says it is of, or else that of the field. -/
def Json.Members.calledBy (members : Json.Members) (type : String) : String :=
  ((members.get? "__typename").bind Json.string?).getD type

/-- The object type that members are of, as values of a named type. -/
def Schema.objectOf? (s : Schema) (type : String) (members : Json.Members) :
    Option TypeDefinition :=
  (s.type? type).bind fun t => (concreteType s t (members.calledBy type)).toOption

/-- JSON that is of a type: `null` where the type admits it, a leaf of the type, an integer for an
identifier, a list of values of the item type, or members among which are all fields of an object
type that the type stands for.  A field that is missing is `null`. -/
inductive Json.IsOf (s : Schema) : TypeRef → Json → Prop where
  | null {type : TypeRef} (h : type.isRequired = false) : IsOf s type .null
  | leaf {name : String} {required : Bool} {v : Json} (h : IsLeafOf s name v) :
      IsOf s (.named name required) v
  | id {required : Bool} {n : Int} {t : TypeDefinition} (known : s.type? "ID" = some t)
      (scalar : t.body = .scalar) : IsOf s (.named "ID" required) (.int n)
  | list {item : TypeRef} {required : Bool} {items : List Json} (h : ∀ v ∈ items, IsOf s item v) :
      IsOf s (.list item required) (.list items)
  | object {name : String} {required : Bool} {members : Json.Members} {concrete : TypeDefinition}
      (h : s.objectOf? name members = some concrete)
      (fields : ∀ f ∈ concrete.fields, IsOf s f.type ((members.get? f.name).getD .null)) :
      IsOf s (.named name required) (.object members)

/-- Neither a list nor an object. -/
def Json.isFlat : Json → Bool
  | .list _ | .object _ => false
  | _                   => true

/-! ### The types of objects -/

namespace Schema

variable {s : Schema} {a b runtime : String} {members : Json.Members} {t u : TypeDefinition}

theorem concreteType_of_isSubtype (ht : s.type? a = some t) (h : s.isSubtype a runtime = true)
    (hu : s.type? runtime = some u) (hobject : u.isObject = true) :
    concreteType s t runtime = .ok u := by
  obtain ⟨-, rfl⟩ := type?_some ht
  have hboth : (u.isObject && s.isSubtype t.name runtime) = true :=
    (Bool.and_eq_true _ _).mpr ⟨hobject, h⟩
  unfold isSubtype at h
  rw [ht] at h
  unfold concreteType
  obtain ⟨_, _, _, body⟩ := t
  cases body with
  | interface | union =>
      dsimp only
      rw [hu]
      exact if_pos hboth
  | _ => cases h

theorem objectOf?_some (h : s.objectOf? a members = some u) :
    ∃ t, s.type? a = some t ∧ concreteType s t (members.calledBy a) = .ok u := by
  obtain ⟨t, ht, hu⟩ := Option.bind_eq_some_iff.mp h
  refine ⟨t, ht, ?_⟩
  cases hc : concreteType s t (members.calledBy a) with
  | error message => rw [hc] at hu; cases hu
  | ok u' => rw [hc] at hu; cases hu; rfl

theorem objectOf?_eq (ht : s.type? a = some t)
    (h : concreteType s t (members.calledBy a) = .ok u) : s.objectOf? a members = some u := by
  rw [objectOf?, ht, Option.bind_some, h]
  rfl

/-- Members are of an object type that the type stands for. -/
theorem applies_of_objectOf? (h : s.objectOf? a members = some u) :
    s.type? u.name = some u ∧ u.isObject = true ∧ applies s u.name a = true := by
  obtain ⟨t, ht, hc⟩ := objectOf?_some h
  obtain ⟨-, rfl⟩ := type?_some ht
  rcases concreteType_cases hc with ⟨hobject, rfl⟩ | ⟨-, hu, hobject, hsub⟩
  · exact ⟨ht, hobject, applies_self s _⟩
  · obtain ⟨-, hname⟩ := type?_some hu
    exact ⟨hname ▸ hu, hobject, applies_iff.mpr (.inr (hname ▸ hsub))⟩

theorem isComposite_of_objectOf? (h : s.objectOf? a members = some u) (ht : s.type? a = some t) :
    t.isComposite = true := by
  obtain ⟨hu, hobject, happlies⟩ := applies_of_objectOf? h
  exact isComposite_of_applies hu hobject happlies ht

theorem calledBy_eq (h : members.calledBy a ≠ a) (b : String) :
    members.calledBy b = members.calledBy a := by
  unfold Json.Members.calledBy at h ⊢
  cases hcalled : (members.get? "__typename").bind Json.string? with
  | none => rw [hcalled] at h; exact absurd rfl h
  | some name => rfl

/-- Members that are of one object type as values of a type are of the same as values of a wider one,
if they name it where only the wider one is an interface or union. -/
theorem objectOf?_of_applies (hs : s.Implements) (hab : applies s a b = true)
    (h : s.objectOf? a members = some u)
    (hnamed : ∀ tb ta, s.type? b = some tb → tb.isObject = false → s.type? a = some ta →
      ta.isObject = true → members.get? "__typename" = some (.string a)) :
    s.objectOf? b members = some u := by
  rcases applies_iff.mp hab with rfl | hsub
  · exact h
  obtain ⟨tb, htb, hb, -⟩ := of_isSubtype hsub
  obtain ⟨ta, hta, hc⟩ := objectOf?_some h
  refine objectOf?_eq htb ?_
  rcases concreteType_cases hc with ⟨ha, rfl⟩ | ⟨ha, hu, hobject, hsub'⟩
  · have hcalled : members.calledBy b = a := by
      rw [Json.Members.calledBy, hnamed tb u htb hb hta ha]
      rfl
    rw [hcalled]
    exact concreteType_of_isSubtype htb hsub hta ha
  -- the members name an object, and not the type itself, which is none
  · obtain ⟨-, rfl⟩ := type?_some hta
    have hne : members.calledBy ta.name ≠ ta.name := fun heq => by
      rw [heq, hta] at hu
      cases hu
      exact absurd (hobject.symm.trans ha) nofun
    rw [calledBy_eq hne]
    rcases applies_iff.mp (applies_trans hs (applies_iff.mpr (.inr hsub')) hab) with heq | hsub''
    · rw [heq] at htb
      cases hu.symm.trans htb
      exact absurd (hobject.symm.trans hb) nofun
    · exact concreteType_of_isSubtype htb hsub'' hu hobject

end Schema

namespace Execution

namespace Run

/-! ### Restricting -/

mutual

/-- JSON that is of a type, restricted to what sets of selections ask of it, under their response
keys; identifiers are texts. -/
def restrict (x : Run) : Json → TypeRef → List (List ExecutableSelection) → Json
  | .list items,     .list item _,  sets => .list (restrictItems x items item sets)
  | .object members, .named name _, sets =>
      let fields := restrictMembers x members
      match x.schema.objectOf? name members with
      | some concrete =>
          .object ((collect x.schema x.document concrete.name (Conditions.strict x.values) sets).map
            fun (key, group) => (key, (do
              let first ← group.head?
              let definition ← x.schema.declared? concrete.name first.head.name.node
              let value ← fields.lookup first.head.name.node
              return value definition.type (group.map CollectedField.selections)).getD .null))
      | none          => .object members
  | .int n,          .named name _, _    => if name = "ID" then .string (toString n) else .int n
  | v,               _,             _    => v

/-- The items of a list, restricted. -/
def restrictItems (x : Run) : List Json → TypeRef → List (List ExecutableSelection) → List Json
  | [],            _,    _    => []
  | item :: items, type, sets => restrict x item type sets :: restrictItems x items type sets

/-- The members of an object, restricted once their types and what is asked of them is known. -/
def restrictMembers (x : Run) :
    List (String × Json) → List (String × (TypeRef → List (List ExecutableSelection) → Json))
  | []                   => []
  | (key, value) :: rest => (key, fun type sets => restrict x value type sets) :: restrictMembers x rest

end

section

variable {x : Run} {sets : List (List ExecutableSelection)}

theorem restrict_null (x : Run) (type : TypeRef) (sets : List (List ExecutableSelection)) :
    x.restrict .null type sets = .null := by
  cases type <;> rfl

theorem restrictItems_eq (items : List Json) (type : TypeRef) :
    x.restrictItems items type sets = items.map (x.restrict · type sets) := by
  induction items with
  | nil => rfl
  | cons item items ih => rw [restrictItems, ih, List.map_cons]

theorem lookup_restrictMembers (members : Json.Members) (name : String) :
    (x.restrictMembers members).lookup name = (members.lookup name).map x.restrict := by
  induction members with
  | nil => rfl
  | cons m members ih =>
      obtain ⟨key, v⟩ := m
      rw [restrictMembers, List.lookup_cons, List.lookup_cons, ih]
      split <;> rfl

/-- The value for fields of an object under one key, restricted. -/
def restrictField (x : Run) (members : Json.Members) (concrete : String)
    (fields : List CollectedField) : Json :=
  (do
    let first ← fields.head?
    let definition ← x.schema.declared? concrete first.head.name.node
    return x.restrict ((members.get? first.head.name.node).getD .null) definition.type
      (fields.map CollectedField.selections)).getD .null

theorem restrict_object {name : String} {members : Json.Members} {concrete : TypeDefinition}
    (h : x.schema.objectOf? name members = some concrete) (required : Bool) :
    x.restrict (.object members) (.named name required) sets =
      .object ((collect x.schema x.document concrete.name (Conditions.strict x.values) sets).map
        fun g => (g.1, x.restrictField members concrete.name g.2)) := by
  rw [restrict, h]
  dsimp only
  congr 1
  refine List.map_congr_left fun g _ => ?_
  obtain ⟨key, fields⟩ := g
  rw [restrictField, Prod.mk.injEq]
  refine ⟨rfl, ?_⟩
  cases fields with
  | nil => rfl
  | cons first rest =>
      simp only [List.head?_cons, Option.bind_eq_bind, Option.bind_some, lookup_restrictMembers,
        Json.Members.get?_eq_lookup]
      cases x.schema.declared? concrete.name first.head.name.node with
      | none => rfl
      | some definition =>
          cases members.lookup first.head.name.node with
          | none => exact (restrict_null x definition.type ((first :: rest).map (·.selections))).symm
          | some v => rfl

theorem restrictField_eq {members : Json.Members} {concrete : String} {first : CollectedField}
    {rest : List CollectedField} {definition : FieldDefinition}
    (h : x.schema.declared? concrete first.head.name.node = some definition) :
    x.restrictField members concrete (first :: rest) =
      x.restrict ((members.get? first.head.name.node).getD .null) definition.type
        ((first :: rest).map (·.selections)) := by
  rw [restrictField, List.head?_cons, Option.bind_eq_bind, Option.bind_some, h]
  rfl

end

/-! ### What selections ask for -/

/-- What is collected for an object type that a named type stands for. -/
def Asks (x : Run) (type : String) (sets : List (List ExecutableSelection)) (concrete : String)
    (fields : List CollectedField) : Prop :=
  (∃ t, x.schema.type? concrete = some t ∧ t.isObject = true) ∧
    applies x.schema concrete type = true ∧
    ∃ key, (key, fields) ∈ collect x.schema x.document concrete (Conditions.strict x.values) sets

/-- Sets of selections on a type ask for declared fields only, and those under one key are one
field, at any depth. -/
inductive Selects (x : Run) : String → List (List ExecutableSelection) → Prop where
  | mk {type : String} {sets : List (List ExecutableSelection)}
      (plain : ∀ concrete first rest, x.Asks type sets concrete (first :: rest) →
        first.head.name.node ≠ "__typename" ∧
          Introspection.isField first.head.name.node = false ∧
          ∀ f ∈ rest, f.head.name.node = first.head.name.node)
      (below : ∀ concrete first rest, x.Asks type sets concrete (first :: rest) →
        ∀ definition, x.schema.declared? concrete first.head.name.node = some definition →
          Selects x definition.type.innerName ((first :: rest).map (·.selections))) :
      Selects x type sets

/-- What sets of selections reach in JSON: values that are selected with one type, and are of
another that is no wider. -/
inductive Reaches (x : Run) : TypeRef → TypeRef → List (List ExecutableSelection) → Json →
    TypeRef → TypeRef → Json → Prop where
  | here (selected declared : TypeRef) (sets : List (List ExecutableSelection)) (v : Json) :
      Reaches x selected declared sets v selected declared v
  | item {selected declared selected' declared' : TypeRef} {r r' : Bool}
      {sets : List (List ExecutableSelection)} {items : List Json} {v w : Json} (h : v ∈ items)
      (below : Reaches x selected declared sets v selected' declared' w) :
      Reaches x (.list selected r) (.list declared r') sets (.list items) selected' declared' w
  | member {name name' : String} {r r' : Bool} {sets : List (List ExecutableSelection)}
      {members : Json.Members} {concrete : TypeDefinition} {key : String} {first : CollectedField}
      {rest : List CollectedField} {definition : FieldDefinition} {selected declared : TypeRef}
      {w : Json} (object : x.schema.objectOf? name' members = some concrete)
      (asked : (key, first :: rest) ∈
        collect x.schema x.document concrete.name (Conditions.strict x.values) sets)
      (known : x.schema.declared? concrete.name first.head.name.node = some definition)
      (below : Reaches x first.head.note.type definition.type
        ((first :: rest).map (·.selections))
        ((members.get? first.head.name.node).getD .null) selected declared w) :
      Reaches x (.named name r) (.named name' r') sets (.object members) selected declared w

/-- Leaves hold no lists and no objects. -/
def LeavesFlat (x : Run) (selected declared : TypeRef) (sets : List (List ExecutableSelection))
    (v : Json) : Prop :=
  ∀ selected' name required w t,
    x.Reaches selected declared sets v selected' (.named name required) w →
      x.schema.type? name = some t → t.isComposite = false → w.isFlat = true

/-- Objects of an object type say so where they are selected as ones of an interface or union. -/
def ObjectsNamed (x : Run) (selected declared : TypeRef) (sets : List (List ExecutableSelection))
    (v : Json) : Prop :=
  ∀ name r name' r' (members : Json.Members) t t',
    x.Reaches selected declared sets v (.named name r) (.named name' r') (.object members) →
      x.schema.type? name = some t → t.isObject = false → x.schema.type? name' = some t' →
        t'.isObject = true → members.get? "__typename" = some (.string name')

variable {x : Run} {selected declared : TypeRef} {sets : List (List ExecutableSelection)} {v : Json}

/-- Of a leaf nothing is selected. -/
theorem selects_of_leaf {name : String} {t : TypeDefinition} (ht : x.schema.type? name = some t)
    (hleaf : t.isComposite = false) : x.Selects name sets := by
  have hnone (concrete : String) (fields : List CollectedField) :
      ¬ x.Asks name sets concrete fields := by
    rintro ⟨⟨u, hu, hobject⟩, happlies, -⟩
    cases hleaf.symm.trans (Schema.isComposite_of_applies hu hobject happlies ht)
  exact .mk (fun _ _ _ h => absurd h (hnone _ _)) fun _ _ _ h => absurd h (hnone _ _)

/-- From a leaf nothing else is reached. -/
theorem Reaches.innerName_of_leaf {selected' declared' : TypeRef} {w : Json}
    (h : x.Reaches selected declared sets v selected' declared' w) {t : TypeDefinition}
    (ht : x.schema.type? declared.innerName = some t) (hleaf : t.isComposite = false) :
    declared'.innerName = declared.innerName := by
  induction h with
  | here => rfl
  | item _ _ ih => exact ih ht
  | member object =>
      cases hleaf.symm.trans (Schema.isComposite_of_objectOf? object ht)

/-! ### Leaves that are reached -/

theorem leavesFlat_of_isFlat (h : v.isFlat = true) : x.LeavesFlat selected declared sets v := by
  intro selected' name required w t hreach _ _
  cases hreach with
  | here => exact h
  | item => cases h
  | member => cases h

theorem leavesFlat_list {r r' : Bool} {items : List Json} :
    x.LeavesFlat (.list selected r) (.list declared r') sets (.list items) ↔
      ∀ v ∈ items, x.LeavesFlat selected declared sets v := by
  refine ⟨fun h v hv _ _ _ _ _ hreach => h _ _ _ _ _ (.item hv hreach), ?_⟩
  intro h selected' name required w t hreach
  cases hreach with
  | item hv below => exact h _ hv _ _ _ _ _ below

/-- The leaves that fields of an object under one key reach are flat. -/
def FieldFlat (x : Run) (members : Json.Members) (concrete : String) (fields : List CollectedField) :
    Prop :=
  ∀ first rest definition, fields = first :: rest →
    x.schema.declared? concrete first.head.name.node = some definition →
      x.LeavesFlat first.head.note.type definition.type (fields.map (·.selections))
        ((members.get? first.head.name.node).getD .null)

theorem leavesFlat_object {name name' : String} {r r' : Bool} {members : Json.Members}
    {concrete : TypeDefinition} (h : x.schema.objectOf? name' members = some concrete) :
    x.LeavesFlat (.named name r) (.named name' r') sets (.object members) ↔
      ∀ g ∈ collect x.schema x.document concrete.name (Conditions.strict x.values) sets,
        x.FieldFlat members concrete.name g.2 := by
  constructor
  · intro hflat g hg first rest definition hfields hdeclared selected' name'' required w t hreach
    obtain ⟨key, fields⟩ := g
    cases hfields
    exact hflat _ _ _ _ _ (.member h hg hdeclared hreach)
  · intro hfields selected' name'' required w t hreach ht hleaf
    cases hreach with
    | here =>
        -- the type of an object has selections
        cases hleaf.symm.trans (Schema.isComposite_of_objectOf? h ht)
    | member object asked known below =>
        cases h.symm.trans object
        exact hfields _ asked _ _ _ rfl known _ _ _ _ _ below ht hleaf

theorem fieldFlat_iff {members : Json.Members} {concrete : String} {first : CollectedField}
    {rest : List CollectedField} {definition : FieldDefinition}
    (h : x.schema.declared? concrete first.head.name.node = some definition) :
    x.FieldFlat members concrete (first :: rest) ↔
      x.LeavesFlat first.head.note.type definition.type ((first :: rest).map (·.selections))
        ((members.get? first.head.name.node).getD .null) := by
  refine ⟨fun hfield => hfield _ _ _ rfl h, fun hflat first' rest' definition' heq h' => ?_⟩
  cases heq
  cases h.symm.trans h'
  exact hflat

/-- A leaf that is not flat is no flat leaf. -/
theorem not_leavesFlat {name : String} {r required : Bool} {t : TypeDefinition}
    (ht : x.schema.type? name = some t) (hleaf : t.isComposite = false) (hv : v.isFlat = false) :
    ¬ x.LeavesFlat (.named name r) (.named name required) sets v := fun h =>
  absurd ((h _ _ _ _ _ (.here _ _ _ _) ht hleaf).symm.trans hv) nofun

/-! ### What is asked of a value -/

/-- JSON of a type together with what is selected of it, nested at most `n` levels deep. -/
structure Serves (x : Run) (n : Nat) (selected declared : TypeRef)
    (sets : List (List ExecutableSelection)) (v : Json) : Prop where
  narrows : x.schema.narrows declared selected = true
  isOf    : v.IsOf x.schema declared
  nests   : ∀ set ∈ sets, x.document.NestsWithin n set
  areFor  : AreFor x.schema declared.innerName sets
  selects : x.Selects declared.innerName sets
  named   : x.ObjectsNamed selected declared sets v

theorem Serves.item {n : Nat} {r r' : Bool} {items : List Json}
    (h : x.Serves n (.list selected r) (.list declared r') sets (.list items))
    (hitems : ∀ v ∈ items, v.IsOf x.schema declared) (hv : v ∈ items) :
    x.Serves n selected declared sets v where
  narrows := ((Bool.and_eq_true _ _).mp h.narrows).2
  isOf := hitems v hv
  nests := h.nests
  areFor := h.areFor
  selects := h.selects
  named := fun _ _ _ _ _ _ _ hreach => h.named _ _ _ _ _ _ _ (.item hv hreach)

/-- What is selected of the fields under a key is nested one level less deep. -/
theorem nests_of_mem_collect {s : Schema} {d : Executable} {object key : String}
    {counts : Conditions} {n : Nat} (h : ∀ set ∈ sets, d.NestsWithin n set) {first : CollectedField}
    {rest : List CollectedField} (hg : (key, first :: rest) ∈ collect s d object counts sets) :
    ∃ m, n = m + 1 ∧ ∀ set ∈ (first :: rest).map (·.selections), d.NestsWithin m set := by
  have hoccurs := (mem_collect hg).2
  cases n with
  | zero =>
      obtain ⟨-, set, hset, hocc⟩ := hoccurs first List.mem_cons_self
      exact absurd hocc (h set hset _ _)
  | succ m =>
      refine ⟨m, rfl, fun inner hinner => ?_⟩
      obtain ⟨f, hf, rfl⟩ := List.mem_map.mp hinner
      obtain ⟨-, set, hset, hocc⟩ := hoccurs f hf
      exact h set hset _ _ hocc

/-- A field that is selected of an object is one that its type declares, and the value under its
name is asked what is selected of the field. -/
theorem Serves.field (hs : x.schema.IsValid) (hi : x.schema.Implements)
    (hd : x.document.IsTyped x.schema) {n : Nat} {name name' : String} {r r' : Bool}
    {members : Json.Members}
    (h : x.Serves n (.named name r) (.named name' r') sets (.object members))
    {concrete : TypeDefinition} (hconcrete : x.schema.objectOf? name' members = some concrete)
    (hfields : ∀ f ∈ concrete.fields,
      ((members.get? f.name).getD .null).IsOf x.schema f.type) {key : String}
    {first : CollectedField} {rest : List CollectedField} (hg : (key, first :: rest) ∈
      collect x.schema x.document concrete.name (Conditions.strict x.values) sets) :
    first.head.name.node ≠ "__typename" ∧ Introspection.isField first.head.name.node = false ∧
      ∃ m definition, n = m + 1 ∧
        x.schema.declared? concrete.name first.head.name.node = some definition ∧
        x.Serves m first.head.note.type definition.type ((first :: rest).map (·.selections))
          ((members.get? first.head.name.node).getD .null) := by
  obtain ⟨htype, hobject, happlies⟩ := Schema.applies_of_objectOf? hconcrete
  have hasks : x.Asks name' sets concrete.name (first :: rest) :=
    ⟨⟨concrete, htype, hobject⟩, happlies, key, hg⟩
  have hselects := h.selects
  cases hselects with
  | mk plain below =>
  obtain ⟨htypename, hintro, hsame⟩ := plain _ _ _ hasks
  have hon (f : CollectedField) (hf : f ∈ first :: rest) : f.IsOn x.schema concrete.name :=
    isOn_of_mem_collect hd (h.areFor.of_applies hi happlies) hg hf
  obtain ⟨definition, hdeclared, hnarrows⟩ :=
    (hon first List.mem_cons_self).declared hi htype htypename hintro
  -- all fields under the key have the one definition
  have hall (f : CollectedField) (hf : f ∈ first :: rest) :
      x.schema.narrows definition.type f.head.note.type = true := by
    refine (hon f hf).narrows hs hi ?_
    rcases List.mem_cons.mp hf with rfl | hf
    · exact hdeclared
    · rw [hsame f hf]
      exact hdeclared
  obtain ⟨m, rfl, hnests⟩ := nests_of_mem_collect h.nests hg
  refine ⟨htypename, hintro, m, definition, rfl, hdeclared, hnarrows, ?_, hnests, ?_, ?_, ?_⟩
  · rw [Schema.declared?, htype, Option.bind_some] at hdeclared
    have hname : definition.name = first.head.name.node := by
      simpa using List.find?_some hdeclared
    rw [← hname]
    exact hfields definition (List.mem_of_find?_eq_some hdeclared)
  · exact areFor_of_isOn hon fun f hf => Schema.applies_of_narrows (hall f hf)
  · exact below _ _ _ hasks _ hdeclared
  · exact fun _ _ _ _ _ _ _ hreach =>
      h.named _ _ _ _ _ _ _ (.member hconcrete hg hdeclared hreach)

/-- A leaf type is selected as it is declared. -/
theorem Serves.eq_of_leaf (hi : x.schema.Implements) {n : Nat} {name : String} {required : Bool}
    (h : x.Serves n selected (.named name required) sets v) {t : TypeDefinition}
    (ht : x.schema.type? name = some t) (hleaf : t.isComposite = false) :
    ∃ r, selected = .named name r := by
  have hnarrows := h.narrows
  cases selected with
  | list => cases hnarrows
  | named name' r =>
      have happlies := ((Bool.and_eq_true _ _).mp hnarrows).2
      exact ⟨r, by rw [Schema.eq_of_applies_leaf hi ht hleaf happlies]⟩

end Run

end Execution

end GraphServe
