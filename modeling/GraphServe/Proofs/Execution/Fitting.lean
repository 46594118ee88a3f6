import GraphServe.Proofs.Document.Declared
import GraphServe.Proofs.Execution.Accounting

/-!
# Positions that fit

Whatever resolvers do, what execution observes fits the definitions that the selected fields have in
the document (`Position.Fits`): a leaf is a value of its scalar or a member of its enum, a list has
items that fit, and an object is of a concrete type that the definition allows.  A field is lacking
only where the concrete type does not declare it (`Position.FitsField`).

* **Execution gives positions that fit** (`observeOperation_fits`).  Positions that fit are typed
  (`Fits.typed`).
* `IsFit.object` is what is known of an object anywhere in such positions.
* What is observed of a value, of a field and of the fields of an object is told by its parts
  (`observe_gives`, `Run.observeField_gives`, `Run.observeCollected_gives`).
-/

namespace GraphServe.Execution

open Document

/-! ### Leaves and objects of a type -/

/-- Values that a leaf of a type may have. -/
def Admits (type : TypeDefinition) (value : Json) : Prop :=
  match type.body with
  | .scalar      => isOfScalar type.name value = true
  | .enum values => ∃ member ∈ values, value = .string member.name
  | _            => False

/-- A value is a leaf of a named type, and no `null`. -/
def IsLeafOf (s : Schema) (name : String) (value : Json) : Prop :=
  value ≠ .null ∧ ∃ type, s.type? name = some type ∧ Admits type value

theorem isOfScalar_of_coerce {type : String} {v w : Json} (h : coerceScalar type v = .ok w) :
    isOfScalar type w = true := by
  unfold coerceScalar at h
  split at h
  · split at h
    · rename_i hid
      cases h
      subst hid
      rfl
    · split at h
      · cases h; assumption
      · cases h
  · split at h
    · cases h; assumption
    · cases h

theorem admits_of_coerce {type : TypeDefinition} {v w : Json} (h : coerceLeaf type v = .ok w) :
    Admits type w := by
  obtain ⟨name, description, directives, body⟩ := type
  cases body with
  | scalar => exact isOfScalar_of_coerce h
  | enum values =>
      unfold coerceLeaf at h
      dsimp only at h
      split at h
      · split at h
        · rename_i hany
          cases h
          obtain ⟨member, hm, hname⟩ := List.any_eq_true.mp hany
          exact ⟨member, hm, congrArg Json.string (of_decide_eq_true hname).symm⟩
        · cases h
      · cases h
  | object | interface | union | input => cases h

/-- An object is executed as one of the type itself, or as one of a subtype that it names. -/
theorem concreteType_cases {s : Schema} {runtime : String} {type concrete : TypeDefinition}
    (h : concreteType s type runtime = .ok concrete) :
    (type.isObject = true ∧ concrete = type) ∨
      (type.isObject = false ∧ s.type? runtime = some concrete ∧ concrete.isObject = true ∧
        s.isSubtype type.name runtime = true) := by
  unfold concreteType at h
  obtain ⟨type, description, directives, body⟩ := type
  cases body with
  | object interfaces fields =>
      cases h
      exact .inl ⟨rfl, rfl⟩
  | interface | union =>
      -- both look for the type that the object says it is of
      dsimp only at h
      split at h
      · rename_i t hruntime
        split at h
        · rename_i hboth
          cases h
          obtain ⟨hobject, hsub⟩ := (Bool.and_eq_true _ _).mp hboth
          exact .inr ⟨rfl, hruntime, hobject, hsub⟩
        · cases h
      · cases h
  | scalar | enum | input => cases h

theorem concreteType_of_isObject {type : TypeDefinition} (h : type.isObject = true) (s : Schema)
    (runtime : String) : concreteType s type runtime = .ok type := by
  obtain ⟨name, description, directives, body⟩ := type
  cases body with
  | object interfaces defined => rfl
  | _ => cases h

/-- The concrete type of an object is an object type, and one of the possible types. -/
theorem concreteType_ok {s : Schema} {name runtime : String} {type concrete : TypeDefinition}
    (htype : s.type? name = some type) (h : concreteType s type runtime = .ok concrete) :
    s.type? concrete.name = some concrete ∧ concrete.isObject = true ∧
      concrete.name ∈ s.possibleTypes name := by
  obtain ⟨-, rfl⟩ := Schema.type?_some htype
  rcases concreteType_cases h with ⟨hobject, rfl⟩ | ⟨-, hruntime, hobject, hsub⟩
  · refine ⟨htype, hobject, ?_⟩
    rw [Schema.possibleTypes_of_isObject htype hobject]
    exact List.mem_singleton_self _
  · obtain ⟨-, rfl⟩ := Schema.type?_some hruntime
    exact ⟨hruntime, hobject, Schema.mem_possibleTypes_of_isSubtype hsub hruntime hobject⟩

/-! ### Positions -/

namespace Position

mutual

/-- Positions that fit a type, with sets of selections for the objects in them. -/
inductive Fits (s : Schema) (d : Executable) (values : Json.Members) :
    TypeRef → List (List ExecutableSelection) → Position → Prop where
  | null {type : TypeRef} {sets : List (List ExecutableSelection)} (h : type.isRequired = false) :
      Fits s d values type sets .null
  | leaf {name : String} {required : Bool} {sets : List (List ExecutableSelection)} {value : Json}
      (h : IsLeafOf s name value) : Fits s d values (.named name required) sets (.leaf required value)
  | failed (type : TypeRef) (sets : List (List ExecutableSelection)) :
      Fits s d values type sets (.failed type.isRequired)
  | list {item : TypeRef} {required : Bool} {sets : List (List ExecutableSelection)}
      {items : List Position} (below : ∀ c ∈ items, Fits s d values item sets c) :
      Fits s d values (.list item required) sets (.list required items)
  /-- An object is of a type that is allowed, and has the fields that are collected for it. -/
  | object {name concrete : String} {required : Bool} {sets : List (List ExecutableSelection)}
      {fields : List (String × Position)} (possible : concrete ∈ s.possibleTypes name)
      (known : ∀ set ∈ sets, AllFields (Declares s) set)
      (keys : fields.map Prod.fst =
        (collect s d concrete (Conditions.strict values) sets).map Prod.fst)
      (below : ∀ f ∈ fields, ∀ first rest,
        (f.1, first :: rest) ∈ collect s d concrete (Conditions.strict values) sets →
          FitsField s d values concrete first.head ((first :: rest).map (·.selections)) f.2) :
      Fits s d values (.named name required) sets (.object required concrete sets fields)

/-- Positions that fit the definition of a selected field of an object of a concrete type. -/
inductive FitsField (s : Schema) (d : Executable) (values : Json.Members) :
    String → FieldHead FieldDefinition → List (List ExecutableSelection) → Position → Prop where
  | typename {concrete : String} {head : FieldHead FieldDefinition}
      {sets : List (List ExecutableSelection)} (name : String) (h : head.name.node = "__typename") :
      FitsField s d values concrete head sets (.leaf true (.string name))
  | told {concrete : String} {head : FieldHead FieldDefinition}
      {sets : List (List ExecutableSelection)} (value : Json)
      (h : Introspection.isField head.name.node = true) :
      FitsField s d values concrete head sets (.told value)
  | lacking {concrete : String} {head : FieldHead FieldDefinition}
      {sets : List (List ExecutableSelection)} (h : s.declared? concrete head.name.node = none) :
      FitsField s d values concrete head sets (.lacking head.note.type.isRequired)
  | value {concrete : String} {head : FieldHead FieldDefinition}
      {sets : List (List ExecutableSelection)} {t : Position}
      (h : Fits s d values head.note.type sets t) : FitsField s d values concrete head sets t

end

variable {s : Schema} {d : Executable} {values : Json.Members}

/-- Positions that fit a type are after it. -/
theorem Fits.typed {t : Position} {type : TypeRef} {sets : List (List ExecutableSelection)}
    (h : t.Fits s d values type sets) : t.Typed s d values type sets := by
  induction t generalizing type sets with
  | null => cases h with | null h => exact .null h
  | leaf r v => cases h with | leaf h => exact .leaf h.1
  | told v => cases h
  | failed r => cases h; exact .failed type sets
  | lacking r => cases h
  | list r items ih => cases h with | list below => exact .list fun c hc => ih c hc (below c hc)
  | object r concrete sets fields ih =>
      cases h with
      | object possible known keys below =>
          refine .object keys fun f hf first rest hg => ?_
          have hbelow := below f hf first rest hg
          -- the position as a variable, so that the cases on how it fits go through
          revert hbelow
          generalize hu : f.2 = u
          intro hbelow
          cases hbelow with
          | typename name h => exact .typename name h
          | told value h => exact .told value h
          | lacking h => exact .lacking _ _
          | value h => exact .value (hu ▸ ih f hf (hu ▸ h))

/-- A field that the concrete type declares fits its definition. -/
theorem FitsField.of_declared (hs : s.IsValid) {t : Position} {concrete : String}
    {head : FieldHead FieldDefinition} {sets : List (List ExecutableSelection)}
    (h : t.FitsField s d values concrete head sets) {definition : FieldDefinition}
    (hd : s.declared? concrete head.name.node = some definition) :
    t.Fits s d values head.note.type sets := by
  cases h with
  | typename name h => exact absurd h (hs.declared hd).1
  | told value h =>
      rw [(hs.declared hd).2] at h
      cases h
  | lacking h =>
      rw [hd] at h
      cases h
  | value h => exact h

/-- Positions that fit some type, or the definition of some field. -/
def IsFit (s : Schema) (d : Executable) (values : Json.Members) (t : Position) : Prop :=
  (∃ type sets, t.Fits s d values type sets) ∨
    ∃ concrete head sets, t.FitsField s d values concrete head sets

theorem Fits.child {t c : Position} {type : TypeRef} {sets : List (List ExecutableSelection)}
    (h : t.Fits s d values type sets) {e : PathElement} (hc : t.child? e = some c) :
    c.IsFit s d values := by
  cases h with
  | null | leaf | failed => simp [child?] at hc
  | list below =>
      cases e with
      | key => simp [child?] at hc
      | index i => exact .inl ⟨_, _, below c (List.mem_of_getElem? hc)⟩
  | object possible known keys below =>
      cases e with
      | index => simp [child?] at hc
      | key k =>
          have hf := (lookup_eq_some_iff (keys ▸ collect_keys_nodup _)).mp hc
          obtain ⟨first, rest, hg⟩ := exists_group (keys ▸ List.mem_map_of_mem hf)
          exact .inr ⟨_, _, _, below _ hf first rest hg⟩

theorem IsFit.child {t c : Position} (h : t.IsFit s d values) {e : PathElement}
    (hc : t.child? e = some c) : c.IsFit s d values := by
  rcases h with ⟨type, sets, h⟩ | ⟨concrete, head, sets, h⟩
  · exact h.child hc
  · cases h with
    | typename | told | lacking => simp [child?] at hc
    | value h => exact h.child hc

theorem IsFit.at {t u : Position} (h : t.IsFit s d values) {p : Path} (hp : t.at? p = some u) :
    u.IsFit s d values :=
  at?_induction (fun h hc => h.child hc) h hp

/-- An object among positions that fit has what its own case of `Fits` says. -/
theorem IsFit.object {r : Bool} {concrete : String} {sets : List (List ExecutableSelection)}
    {fields : List (String × Position)}
    (h : (Position.object r concrete sets fields).IsFit s d values) :
    ∃ name, (Position.object r concrete sets fields).Fits s d values (.named name r) sets := by
  rcases h with ⟨type, sets', h⟩ | ⟨concrete', head, sets', h⟩
  · cases h with
    | object possible known keys below => exact ⟨_, .object possible known keys below⟩
  · cases h with
    | value h =>
        generalize head.note.type = type at h
        cases h with
        | object possible known keys below => exact ⟨_, .object possible known keys below⟩

end Position

/-! ### Execution gives positions that fit -/

section

variable {s : Schema} {d : Executable} {values : Json.Members} {response : ResponseContext}
  {sets : List (List ExecutableSelection)} {path : Path}

theorem failAt_gives {P : Position → Prop} {required : Bool} {message : String}
    (h : P (.failed required)) : (failAt response path required message).Gives P :=
  (Work.gives_modify _).bind fun _ _ => .pure h

/-- Items are observed in order, of a list from its start. -/
theorem observeItems_gives {observe : Path → Resolved → Work Position}
    {P : Resolved → Position → Prop} (h : ∀ path r, (observe path r).Gives (P r))
    (values : List Resolved) (i : Nat) :
    (observeItems observe path values i).Gives fun items => items.length ≤ values.length ∧
      ∀ (j : Nat) c r, items[j]? = some c → values[j]? = some r → P r c := by
  induction values generalizing i with
  | nil => exact .pure ⟨Nat.le_refl 0, fun j c r hc => by cases hc⟩
  | cons first rest ih =>
      refine (h _ first).bind fun found hfound => ?_
      have hfirst (c : Position) (r : Resolved) (hc : some found = some c)
          (hr : some first = some r) : P r c := by
        cases hc
        cases hr
        exact hfound
      split
      · refine .pure ⟨Nat.succ_le_succ (Nat.zero_le _), fun j c r hc hr => ?_⟩
        cases j with
        | zero => exact hfirst c r hc hr
        | succ j => cases hc
      · refine (ih (i + 1)).bind fun others hothers => .pure ⟨Nat.succ_le_succ hothers.1, ?_⟩
        intro j c r hc hr
        cases j with
        | zero => exact hfirst c r hc hr
        | succ j => exact hothers.2 j c r hc hr

/-- Each item that was observed is of a value of the list. -/
theorem exists_value_of_item {P : Resolved → Position → Prop} {values : List Resolved}
    {items : List Position} (fits : items.length ≤ values.length)
    (below : ∀ (i : Nat) c r, items[i]? = some c → values[i]? = some r → P r c) {i : Nat}
    {c : Position} (hc : items[i]? = some c) : ∃ r, values[i]? = some r ∧ P r c := by
  have hi : i < values.length := Nat.lt_of_lt_of_le (List.getElem?_eq_some_iff.mp hc).1 fits
  have hr : values[i]? = some values[i] := List.getElem?_eq_getElem hi
  exact ⟨_, hr, below i c _ hc hr⟩

theorem completeLeaf_gives (name : String) {v : Json} (hv : v ≠ .null) :
    (completeLeaf s response name path v).Gives fun found =>
      ∀ w, found = some w → IsLeafOf s name w := by
  have hraise : ∀ message, (raise (α := Json) response path message).Gives fun found =>
      ∀ w, found = some w → IsLeafOf s name w := fun message =>
    (Work.gives_modify _).bind fun _ _ => .pure fun w hw => nomatch hw
  rw [completeLeaf]
  split
  · exact hraise _
  · rename_i type htype
    split
    · rename_i w hw
      refine .pure fun w' hw' => ?_
      cases hw'
      exact ⟨coerceLeaf_ne_null hv hw, type, htype, admits_of_coerce hw⟩
    · exact hraise _

theorem observe_leaf_gives {execute : ObserveObject} {P : TypeRef → Position → Prop}
    (failed : ∀ type, P type (.failed type.isRequired))
    (null : ∀ type, type.isRequired = false → P type .null)
    (leaf : ∀ name required w, IsLeafOf s name w → P (.named name required) (.leaf required w))
    (type : TypeRef) (path : Path) (v : Json) :
    (observe s response execute type path (.leaf v)).Gives (P type) := by
  by_cases hv : v = .null
  · subst hv
    rw [observe]
    split
    · rename_i hr
      rw [← hr]
      exact failAt_gives (failed type)
    · exact .pure (null type (Bool.eq_false_iff.mpr ‹_›))
  · cases type with
    | named name required =>
        rw [observe_leaf_named hv]
        refine Work.Gives.map ((completeLeaf_gives name hv).mono fun found hfound => ?_)
        cases found with
        | some w => exact leaf name required w (hfound w rfl)
        | none => exact failed (.named name required)
    | list item required =>
        rw [observe_leaf_list hv]
        exact failAt_gives (failed (.list item required))

/-- **What is observed of a value**, by its parts: what holds of failures, of nulls and leaves that
a type admits, of lists whose items it holds of and of objects that are executed, holds of what is
observed of any value that is to be of any type. -/
theorem observe_gives {execute : ObserveObject} {P : TypeRef → Resolved → Position → Prop}
    (failed : ∀ type r, P type r (.failed type.isRequired))
    (null : ∀ type r, type.isRequired = false → P type r .null)
    (leaf : ∀ name required r w, IsLeafOf s name w →
      P (.named name required) r (.leaf required w))
    (list : ∀ item required (values : List Resolved) (items : List Position),
      items.length ≤ values.length →
      (∀ (i : Nat) c r, items[i]? = some c → values[i]? = some r → P item r c) →
      P (.list item required) (.list values) (.list required items))
    (object : ∀ name required declared concrete o path, s.type? name = some declared →
      concreteType s declared o.typeName = .ok concrete →
      (execute required concrete o path).Gives (P (.named name required) (.object o)))
    (type : TypeRef) (path : Path) (r : Resolved) :
    (observe s response execute type path r).Gives (P type r) := by
  have hleaf (type : TypeRef) (path : Path) (v : Json) :
      (observe s response execute type path (.leaf v)).Gives (P type (.leaf v)) :=
    observe_leaf_gives (P := fun type => P type (.leaf v)) (fun type => failed type _)
      (fun type => null type _) (fun name required => leaf name required _) type path v
  induction type generalizing path r with
  | named name required =>
      cases r with
      | leaf v => exact hleaf _ path v
      | list => exact failAt_gives (failed (.named name required) _)
      | object o =>
          rw [observe, observeObject]
          split
          · exact failAt_gives (failed (.named name required) _)
          · rename_i declared hdeclared
            split
            · rename_i concrete hconcrete
              exact object name required declared concrete o path hdeclared hconcrete
            · exact failAt_gives (failed (.named name required) _)
  | list item required ih =>
      cases r with
      | leaf v => exact hleaf _ path v
      | object => exact failAt_gives (failed (.list item required) _)
      | list values =>
          rw [observe]
          exact Work.Gives.map ((observeItems_gives ih values 0).mono fun items h =>
            list item required values items h.1 h.2)

/-- **A value fits its type**, if the objects in it do. -/
theorem observe_fits {execute : ObserveObject}
    (hexec : ∀ name required type object path, s.type? type.name = some type →
      type.name ∈ s.possibleTypes name → (execute required type object path).Gives
        (Position.Fits s d values (.named name required) sets))
    (type : TypeRef) (path : Path) (r : Resolved) :
    (observe s response execute type path r).Gives (Position.Fits s d values type sets) := by
  refine observe_gives (P := fun type _ => Position.Fits s d values type sets)
    (fun type _ => .failed type sets) (fun _ _ hr => .null hr) (fun _ _ _ _ hw => .leaf hw)
    (fun item required values items fits below => .list fun c hc => ?_)
    (fun name required declared concrete o path hdeclared hconcrete => ?_) type path r
  · obtain ⟨i, hi⟩ := List.mem_iff_getElem?.mp hc
    exact (exists_value_of_item fits below hi).elim fun _ h => h.2
  · obtain ⟨hknown, -, hpossible⟩ := concreteType_ok hdeclared hconcrete
    exact hexec name required concrete o path hknown hpossible

theorem Run.resolveField_gives (x : Run) (object : ObjectValue Resolved) (c : FieldContext) :
    (x.resolveField object c).Gives fun _ => True := by
  rw [resolveField]
  refine (Work.gives_hold _).bind fun outcome _ => ?_
  split
  · exact .pure trivial
  · exact (Work.gives_modify _).bind fun _ _ => .pure trivial
  · refine ((Work.gives_modify _).bind fun _ _ => .pure trivial).bind (P := fun _ => True)
      fun e _ => ?_
    exact (Work.gives_modify _).bind fun _ _ => .pure trivial

/-- **What is observed of a field**, by what may come of it: the name of the object, what is told of
the schema at the root, nothing where the field is not defined, or what is observed of some
value. -/
theorem Run.observeField_gives (x : Run)
    {execute : Path → List (List ExecutableSelection) → ObserveObject} {parent? : Option Path}
    {type : TypeDefinition} {object : ObjectValue Resolved} {path : Path} {first : CollectedField}
    {fields : List CollectedField} {P : Position → Prop}
    (typename : first.head.name.node = "__typename" → P (.leaf true (.string object.typeName)))
    (told : first.head.name.node ≠ "__typename" →
      Introspection.isField first.head.name.node = true ∧ parent?.isNone = true →
      (∀ v, P (.told v)) ∧ P (.failed first.head.note.type.isRequired))
    (lacking : first.head.name.node ≠ "__typename" →
      ¬ (Introspection.isField first.head.name.node = true ∧ parent?.isNone = true) →
      type.fields.find? (·.name = first.head.name.node) = none →
      P (.lacking first.head.note.type.isRequired))
    (value : first.head.name.node ≠ "__typename" →
      ∀ definition, type.fields.find? (·.name = first.head.name.node) = some definition →
      P (.failed first.head.note.type.isRequired) ∧
      ∀ r, (observe x.schema x.response (execute path (fields.map (·.selections)))
          first.head.note.type path r).Gives P) :
    (x.observeField execute parent? type object path first fields).Gives P := by
  rw [observeField]
  split
  · exact .pure (typename ‹_›)
  rename_i hname
  split
  · rename_i hintro
    obtain ⟨htold, hfailed⟩ := told hname ((Bool.and_eq_true _ _).mp hintro)
    split
    · exact .pure (htold _)
    · exact failAt_gives hfailed
  rename_i hintro
  split
  · rename_i hfind
    exact (Work.gives_modify _).bind fun _ _ =>
      .pure (lacking hname (fun h => hintro ((Bool.and_eq_true _ _).mpr h)) hfind)
  · rename_i definition hfind
    obtain ⟨hfailed, hvalue⟩ := value hname definition hfind
    refine (x.resolveField_gives object _).bind fun found _ => ?_
    split
    · exact .pure hfailed
    · exact hvalue _

theorem Run.observeField_fits (x : Run)
    {execute : Path → List (List ExecutableSelection) → ObserveObject} {fields : List CollectedField}
    (hexec : ∀ path name required type object here, x.schema.type? type.name = some type →
      type.name ∈ x.schema.possibleTypes name →
      (execute path (fields.map (·.selections)) required type object here).Gives
        (Position.Fits x.schema d values (.named name required) (fields.map (·.selections))))
    (parent? : Option Path) {type : TypeDefinition} (htype : x.schema.type? type.name = some type)
    (object : ObjectValue Resolved) (path : Path) (first : CollectedField) :
    (x.observeField execute parent? type object path first fields).Gives
      (Position.FitsField x.schema d values type.name first.head (fields.map (·.selections))) := by
  refine x.observeField_gives (fun hname => .typename _ hname)
    (fun _ hintro => ⟨fun v => .told v hintro.1, .value (.failed _ _)⟩)
    (fun _ _ hfind => .lacking ?_)
    (fun _ _ _ => ⟨.value (.failed _ _), fun r =>
      (observe_fits (hexec path) _ path r).mono fun _ ht => .value ht⟩)
  rw [Schema.declared?, htype]
  exact hfind

/-- What holds of each observed field holds of all of them, and none is left out. -/
theorem Run.observeGroups_gives
    {observe : String → CollectedField → List CollectedField → Work Position}
    {P : CollectedField → List CollectedField → Position → Prop} {groups : FieldGroups}
    (h : ∀ key first rest, (key, first :: rest) ∈ groups →
      (observe key first (first :: rest)).Gives (P first rest))
    (hne : ∀ g ∈ groups, g.2 ≠ []) :
    (observeGroups observe groups).Gives fun fs =>
      fs.map Prod.fst = groups.map Prod.fst ∧
      ∀ f ∈ fs, ∃ first rest, (f.1, first :: rest) ∈ groups ∧ P first rest f.2 := by
  induction groups with
  | nil => exact .pure ⟨rfl, fun _ h => nomatch h⟩
  | cons g groups ih =>
      obtain ⟨key, _ | ⟨first, rest⟩⟩ := g
      · exact absurd rfl (hne _ List.mem_cons_self)
      refine (h key first rest List.mem_cons_self).bind fun t ht => ?_
      refine (ih (fun key first rest hg => h key first rest (List.mem_cons_of_mem _ hg))
        fun g hg => hne g (List.mem_cons_of_mem _ hg)).bind fun fs hfs => .pure ?_
      refine ⟨by rw [List.map_cons, hfs.1, List.map_cons], fun f hf => ?_⟩
      rcases List.mem_cons.mp hf with rfl | hf
      · exact ⟨first, rest, List.mem_cons_self, ht⟩
      · obtain ⟨first', rest', hm, hp⟩ := hfs.2 f hf
        exact ⟨first', rest', List.mem_cons_of_mem _ hm, hp⟩

/-- What holds of each observed field that is collected: each key has its field. -/
theorem Run.observeCollected_gives
    {observe : String → CollectedField → List CollectedField → Work Position} {object : String}
    {counts : Conditions} {P : CollectedField → List CollectedField → Position → Prop}
    (h : ∀ key first rest, (key, first :: rest) ∈ collect s d object counts sets →
      (observe key first (first :: rest)).Gives (P first rest)) :
    (observeGroups observe (collect s d object counts sets)).Gives fun fs =>
      fs.map Prod.fst = (collect s d object counts sets).map Prod.fst ∧
      ∀ f ∈ fs, ∀ first rest, (f.1, first :: rest) ∈ collect s d object counts sets →
        P first rest f.2 := by
  refine (observeGroups_gives h fun g hg => (mem_collect hg).1).mono fun fs hfs =>
    ⟨hfs.1, fun f hf first rest hg => ?_⟩
  obtain ⟨first', rest', hg', ht⟩ := hfs.2 f hf
  cases collect_unique hg' hg
  exact ht

/-- **An object fits its type**: it has the fields that are collected, each of which fits its
definition. -/
theorem Run.observeSelections_fits (x : Run) (hd : x.document.IsDeclared x.schema) (fuel : Nat)
    (parent? : Option Path) {sets : List (List ExecutableSelection)}
    (hsets : ∀ set ∈ sets, AllFields (Declares x.schema) set) {name : String} (required : Bool)
    {type : TypeDefinition} (htype : x.schema.type? type.name = some type)
    (hpossible : type.name ∈ x.schema.possibleTypes name) (object : ObjectValue Resolved)
    (path : Path) :
    (x.observeSelections fuel parent? sets required type object path).Gives
      (Position.Fits x.schema x.document x.values (.named name required) sets) := by
  induction fuel generalizing parent? sets name required type object path with
  | zero => exact failAt_gives (.failed (.named name required) _)
  | succ fuel ih =>
      refine Work.Gives.map ?_
      refine (observeCollected_gives (P := fun first rest t =>
        t.FitsField x.schema x.document x.values type.name first.head
          ((first :: rest).map (·.selections))) fun key first rest hg => ?_).mono fun fs hfs =>
            .object hpossible hsets hfs.1 hfs.2
      -- what is selected of the fields of a group is known as the sets are
      have hinner : ∀ set ∈ (first :: rest).map (·.selections),
          AllFields (Declares x.schema) set := by
        intro set hset
        obtain ⟨f, hf, rfl⟩ := List.mem_map.mp hset
        obtain ⟨-, set, hset, hocc⟩ := (mem_collect hg).2 f hf
        exact (hocc.all hd.fragment? (hsets set hset)).2
      exact x.observeField_fits (fun path name required type object here ht hp =>
        ih (some path) hinner required ht hp object here) parent? htype object _ first

theorem introspect_gives {service : Service} {o : Operation FieldDefinition} :
    (introspect service response d o).Gives fun _ => True := by
  rw [introspect]
  split
  · exact .pure trivial
  · exact (Work.Gives.forM (fun _ => Work.gives_modify _) _).bind fun _ _ => .pure trivial

/-- **Execution gives positions that fit**, whatever the resolvers and the middleware around them
do. -/
theorem observeOperation_fits {service : Service} (fields : Chain Work FieldContext FieldResult)
    {o : Operation FieldDefinition} (hd : d.IsDeclared service.schema) (ho : o ∈ d.allOperations)
    (hs : HasRoot service.schema o.type) (root : ObjectValue Resolved) :
    (observeOperation service fields response d o root).Gives
      (Position.Fits service.schema d response.operation.variableValues
        (.named ((service.schema.root? o.type).getD "") false) [o.selections]) := by
  obtain ⟨type, htype, hobject, heq⟩ := hs.observeOperation_eq
  obtain ⟨-, hname⟩ := Schema.type?_some htype
  rw [heq]
  refine introspect_gives.bind fun introspection _ => ?_
  refine Run.observeSelections_fits
    { service, response, document := d, fields, introspection } hd _ none
    (fun set hset => ?_) false ?_ ?_ root []
  · rw [List.mem_singleton.mp hset]
    exact hd.operations o ho
  · rwa [hname]
  · show _ ∈ service.schema.possibleTypes _
    rw [Schema.possibleTypes_of_isObject htype hobject, hname]
    exact List.mem_singleton_self _

end

end GraphServe.Execution
