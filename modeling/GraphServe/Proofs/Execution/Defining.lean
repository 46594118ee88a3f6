import GraphServe.Proofs.Execution.Naming
import GraphServe.Proofs.Execution.Placing

/-!
# Fields that objects do not define

Where the concrete type of an object does not define a field that is selected of it, execution
reports that and leaves nothing, whatever the type of the field (`Run.executeField_undefined`).

**Fields that are defined** (`executeOperation_defines`).  This is the only way for a field to leave
nothing where its type admits `null`, and in an operation of a valid document there are two ways to
come there.  A field of introspection is one that no type defines, and it is told of only at the root
(`Nested`).  And an object may be of a type that the object around it does not declare for the field,
because the type of the selection is wider (`Position.Proper`): what is selected of it is then for
other types.
-/

namespace GraphServe.Execution

open Document

/-- A field is neither told of without its object nor one that the concrete type of the object
declares. -/
def IsUndefined (s : Schema) (atRoot : Bool) (concrete name : String) : Prop :=
  name ≠ "__typename" ∧ ¬ (Introspection.isField name = true ∧ atRoot = true) ∧
    s.declared? concrete name = none

/-- A field that is not defined is reported, and nothing is left of it. -/
theorem Run.executeField_undefined (x : Run)
    (execute : Path → List (List ExecutableSelection) → ExecuteObject) {parent? : Option Path}
    {type : TypeDefinition} (htype : x.schema.type? type.name = some type)
    (object : ObjectValue Resolved) (path : Path) (first : CollectedField)
    (fields : List CollectedField)
    (h : IsUndefined x.schema parent?.isNone type.name first.head.name.node) :
    x.executeField execute parent? type object path first fields =
      raise x.response path
        ("field " ++ first.head.name.node ++ " not defined on type " ++ type.name) := by
  obtain ⟨htypename, hroot, hdeclared⟩ := h
  have hfind : type.fields.find? (·.name = first.head.name.node) = none := by
    rwa [Schema.declared?, htype] at hdeclared
  have hintro : (Introspection.isField first.head.name.node && parent?.isNone) = false :=
    Bool.eq_false_iff.mpr fun hboth => hroot ((Bool.and_eq_true _ _).mp hboth)
  rw [executeField, if_neg htypename, hintro, if_neg Bool.false_ne_true, hfind]

namespace Position

/-- A field that its object lacks. -/
def isLacking : Position → Bool
  | lacking _ => true
  | _         => false

/-- The fields that objects lack are those that are not defined. -/
inductive Branches (s : Schema) (d : Executable) (values : Json.Members) : Bool → Position → Prop
    where
  | bare (atRoot : Bool) {t : Position} (h : t.isBare = true) : Branches s d values atRoot t
  | list {required : Bool} {items : List Position} (below : ∀ c ∈ items, Branches s d values false c) :
      Branches s d values false (.list required items)
  | object {atRoot required : Bool} {concrete : TypeDefinition}
      {sets : List (List ExecutableSelection)} {fields : List (String × Position)}
      (known : s.type? concrete.name = some concrete)
      (lacks : ∀ f ∈ fields, ∀ first rest, (f.1, first :: rest) ∈
        collect s d concrete.name (Conditions.strict values) sets →
          (f.2.isLacking = true ↔ IsUndefined s atRoot concrete.name first.head.name.node))
      (below : ∀ f ∈ fields, Branches s d values false f.2) :
      Branches s d values atRoot (.object required concrete.name sets fields)

variable {s : Schema} {d : Executable} {values : Json.Members}

theorem Branches.child {atRoot : Bool} {t c : Position} (h : t.Branches s d values atRoot)
    {e : PathElement} (hc : t.child? e = some c) : c.Branches s d values false := by
  cases h with
  | bare _ h => rw [child?_of_bare h] at hc; cases hc
  | list below =>
      cases e with
      | key => cases hc
      | index i => exact below c (List.mem_of_getElem? hc)
  | object known lacks below =>
      cases e with
      | index => cases hc
      | key k => exact below (k, c) (mem_of_lookup hc)

theorem Branches.at {atRoot : Bool} {t u : Position} (h : t.Branches s d values atRoot) {p : Path}
    (hp : t.at? p = some u) : u.Branches s d values (atRoot && p.isEmpty) := by
  induction p generalizing atRoot t with
  | nil => cases hp; rw [List.isEmpty_nil, Bool.and_true]; exact h
  | cons e rest ih =>
      obtain ⟨c, hc, hrest⟩ := Option.bind_eq_some_iff.mp hp
      have hu := ih (h.child hc) hrest
      rw [Bool.false_and] at hu
      rwa [List.isEmpty_cons, Bool.and_false]

end Position

/-! ### Observing -/

/-- A value is never lacking, and branches if the objects in it do. -/
theorem observe_branches {s : Schema} {d : Executable} {values : Json.Members}
    {response : ResponseContext} {execute : ObserveObject}
    (hexec : ∀ required concrete o path, s.type? concrete.name = some concrete →
      (execute required concrete o path).Gives fun t =>
        t.isLacking = false ∧ t.Branches s d values false)
    (type : TypeRef) (path : Path) (r : Resolved) :
    (observe s response execute type path r).Gives fun t =>
      t.isLacking = false ∧ t.Branches s d values false := by
  refine observe_gives (P := fun _ _ t => t.isLacking = false ∧ t.Branches s d values false)
    (fun _ _ => ⟨rfl, .bare false rfl⟩) (fun _ _ _ => ⟨rfl, .bare false rfl⟩)
    (fun _ _ _ _ _ => ⟨rfl, .bare false rfl⟩)
    (fun _ _ _ _ fits below => ⟨rfl, .list fun c hc => ?_⟩)
    (fun _ required _ concrete o path hdeclared hconcrete =>
      hexec required concrete o path (concreteType_ok hdeclared hconcrete).1) type path r
  obtain ⟨i, hi⟩ := List.mem_iff_getElem?.mp hc
  exact (exists_value_of_item fits below hi).elim fun _ h => h.2.2

theorem Run.observeField_branches (x : Run)
    {execute : Path → List (List ExecutableSelection) → ObserveObject} {fields : List CollectedField}
    (hexec : ∀ here required concrete o path, x.schema.type? concrete.name = some concrete →
      (execute here (fields.map (·.selections)) required concrete o path).Gives fun t =>
        t.isLacking = false ∧ t.Branches x.schema x.document x.values false)
    (parent? : Option Path) {type : TypeDefinition} (htype : x.schema.type? type.name = some type)
    (object : ObjectValue Resolved) (path : Path) (first : CollectedField) :
    (x.observeField execute parent? type object path first fields).Gives fun t =>
      (t.isLacking = true ↔
        IsUndefined x.schema parent?.isNone type.name first.head.name.node) ∧
      t.Branches x.schema x.document x.values false := by
  have hlacks {t : Position} (h : t.isLacking = false)
      (hdefined : ¬ IsUndefined x.schema parent?.isNone type.name first.head.name.node) :
      t.isLacking = true ↔ IsUndefined x.schema parent?.isNone type.name first.head.name.node :=
    ⟨fun ht => Bool.noConfusion (ht.symm.trans h), fun hu => absurd hu hdefined⟩
  refine x.observeField_gives (fun hname => ⟨hlacks rfl fun hu => hu.1 hname, .bare false rfl⟩)
    (fun _ hintro => ?_) (fun hname hintro hfind => ?_) fun _ definition hfind => ?_
  · have hdefined : ¬ IsUndefined x.schema parent?.isNone type.name first.head.name.node :=
      fun hu => hu.2.1 hintro
    exact ⟨fun _ => ⟨hlacks rfl hdefined, .bare false rfl⟩, hlacks rfl hdefined, .bare false rfl⟩
  · refine ⟨⟨fun _ => ⟨hname, hintro, ?_⟩, fun _ => rfl⟩, .bare false rfl⟩
    rw [Schema.declared?, htype]
    exact hfind
  · have hdefined : ¬ IsUndefined x.schema parent?.isNone type.name first.head.name.node := by
      intro hu
      have hnone := hu.2.2
      rw [Schema.declared?, htype] at hnone
      cases hfind.symm.trans hnone
    exact ⟨⟨hlacks rfl hdefined, .bare false rfl⟩, fun r =>
      (observe_branches (hexec path) _ path r).mono fun t ht => ⟨hlacks ht.1 hdefined, ht.2⟩⟩

theorem Run.observeSelections_branches (x : Run) (fuel : Nat) (parent? : Option Path)
    (sets : List (List ExecutableSelection)) (required : Bool) {type : TypeDefinition}
    (htype : x.schema.type? type.name = some type) (object : ObjectValue Resolved) (path : Path) :
    (x.observeSelections fuel parent? sets required type object path).Gives fun t =>
      t.isLacking = false ∧ t.Branches x.schema x.document x.values parent?.isNone := by
  induction fuel generalizing parent? sets required type object path with
  | zero => exact (Work.gives_modify _).bind fun _ _ => .pure ⟨rfl, .bare _ rfl⟩
  | succ fuel ih =>
      refine Work.Gives.map ?_
      refine (observeCollected_gives (P := fun first _ t =>
        (t.isLacking = true ↔ IsUndefined x.schema parent?.isNone type.name first.head.name.node) ∧
          t.Branches x.schema x.document x.values false) fun key first rest _ => ?_).mono
          fun fs hfs => ⟨rfl, .object htype (fun f hf first rest hg => (hfs.2 f hf first rest hg).1)
            fun f hf => ?_⟩
      · exact x.observeField_branches (fun here required concrete o path hc =>
          ih (some here) _ required hc o path) parent? htype object _ first
      · obtain ⟨first, rest, hg⟩ := Position.exists_group (hfs.1 ▸ List.mem_map_of_mem hf)
        exact (hfs.2 f hf first rest hg).2

/-- An operation is observed with its root at the root. -/
theorem observeOperation_branches {service : Service} {d : Executable}
    {o : Operation FieldDefinition} (hroot : HasRoot service.schema o.type)
    (fields : Chain Work FieldContext FieldResult) (response : ResponseContext)
    (root : ObjectValue Resolved) :
    (observeOperation service fields response d o root).Gives
      (Position.Branches service.schema d response.operation.variableValues true) := by
  obtain ⟨type, htype, -, heq⟩ := hroot.observeOperation_eq
  obtain ⟨-, hname⟩ := Schema.type?_some htype
  rw [heq]
  rw [← hname] at htype
  refine introspect_gives.bind fun introspection _ => ?_
  exact (Run.observeSelections_branches
    { service, response, document := d, fields, introspection } _ none _ false htype root
    []).mono fun t ht => ht.2

/-! ### Objects of types that are declared -/

/-- An object type declares what its fields are collected for under a key to be of types that all
stand for another object type. -/
def DeclaresFor (s : Schema) (d : Executable) (values : Json.Members) (concrete : String)
    (sets : List (List ExecutableSelection)) (key below : String) : Prop :=
  ∀ fields, (key, fields) ∈ collect s d concrete (Conditions.strict values) sets → ∀ f ∈ fields,
    ∃ g, s.declared? concrete f.head.name.node = some g ∧ applies s below g.type.innerName = true

/-- What is selected of the fields under a key is for the types that the object declares for them:
their selections are for types that are no narrower. -/
theorem areFor_of_declaresFor {s : Schema} {d : Executable} {values : Json.Members}
    (hs : s.IsValid) (hi : s.Implements) (hd : d.IsTyped s) {concrete key below : String}
    {sets : List (List ExecutableSelection)} (hsets : AreFor s concrete sets)
    {fields : List CollectedField}
    (hg : (key, fields) ∈ collect s d concrete (Conditions.strict values) sets)
    (hdeclares : DeclaresFor s d values concrete sets key below) :
    AreFor s below (fields.map (·.selections)) := by
  have hon (f : CollectedField) (hf : f ∈ fields) : f.IsOn s concrete :=
    isOn_of_mem_collect hd hsets hg hf
  refine areFor_of_isOn hon fun f hf => ?_
  obtain ⟨g, hg', happlies⟩ := hdeclares _ hg f hf
  exact Schema.applies_trans hi happlies
    (Schema.applies_of_narrows ((hon f hf).narrows hs hi hg'))

namespace Position

/-- On the way to a path, its end included, each object is of a type that is `allowed`: one that the
object around it declares. -/
def Proper (s : Schema) (d : Executable) (values : Json.Members) :
    (String → Prop) → Path → Position → Prop
  | allowed, [],               .object _ concrete _ _ => allowed concrete
  | allowed, .key key :: rest, .object _ concrete sets fields =>
      allowed concrete ∧ ∀ c, fields.lookup key = some c →
        Proper s d values (DeclaresFor s d values concrete sets key) rest c
  | allowed, .index i :: rest, .list _ items =>
      ∀ c, items[i]? = some c → Proper s d values allowed rest c
  | _,       _,                _ => True

variable {s : Schema} {d : Executable} {values : Json.Members}

/-- Nothing is left of a value only where its type admits no `null`. -/
theorem Fits.isRequired_of_settle {t : Position} {type : TypeRef}
    {sets : List (List ExecutableSelection)} (h : t.Fits s d values type sets)
    (hsettle : t.settle = none) : type.isRequired = true := by
  have hkeep {required : Bool} {found : Completed} (hk : keepNull required found = none) :
      required = true := by
    cases found with
    | some v => cases hk
    | none =>
        rw [keepNull] at hk
        split at hk
        · assumption
        · cases hk
  cases h with
  | null => cases hsettle
  | leaf => cases hsettle
  | failed => exact @hkeep _ none hsettle
  | list => exact hkeep hsettle
  | object => exact hkeep hsettle

theorem FitsField.isLacking_of_settle {t : Position} {concrete : String}
    {head : FieldHead FieldDefinition} {sets : List (List ExecutableSelection)}
    (h : t.FitsField s d values concrete head sets) (hsettle : t.settle = none)
    (hnull : head.note.type.isRequired = false) : t.isLacking = true := by
  cases h with
  | typename => cases hsettle
  | told => cases hsettle
  | lacking => rfl
  | value h => exact absurd ((h.isRequired_of_settle hsettle).symm.trans hnull) nofun

theorem not_at?_of_bare {u : Position} {p : Path} {required : Bool} {concrete : String}
    {sets : List (List ExecutableSelection)} {fields : List (String × Position)}
    (h : u.isBare = true) : u.at? p ≠ some (.object required concrete sets fields) := by
  intro hp
  cases isBare_of_at? h hp

/-- **What is selected of an object is for its type**, if it and the objects around it are of types
that are declared. -/
theorem Fits.areFor (hs : s.IsValid) (hi : s.Implements) (hd : d.IsTyped s) {p : Path} {u : Position}
    {type : TypeRef} {sets' : List (List ExecutableSelection)}
    (h : u.Fits s d values type sets') {allowed : String → Prop}
    (hsets : ∀ concrete, allowed concrete → AreFor s concrete sets') {required : Bool}
    {concrete : String} {sets : List (List ExecutableSelection)} {fields : List (String × Position)}
    (hp : u.at? p = some (.object required concrete sets fields))
    (hproper : u.Proper s d values allowed p) : AreFor s concrete sets := by
  induction p generalizing u type sets' allowed with
  | nil =>
      cases Option.some.inj hp
      cases h with
      | object => exact hsets concrete hproper
  | cons e rest ih =>
      obtain ⟨c, hc, hrest⟩ := Option.bind_eq_some_iff.mp hp
      cases h with
      | null | leaf | failed => cases hc
      | list below =>
          cases e with
          | key => cases hc
          | index i => exact ih (below c (List.mem_of_getElem? hc)) hsets hrest (hproper c hc)
      | @object _ outer _ _ fields' possible known keys below =>
          cases e with
          | index => cases hc
          | key k =>
              obtain ⟨hallowed, hbelow⟩ := hproper
              have hmem : (k, c) ∈ fields' :=
                (lookup_eq_some_iff (keys ▸ collect_keys_nodup sets')).mp hc
              obtain ⟨first, more, hg⟩ := exists_group (keys ▸ List.mem_map_of_mem hmem)
              have hfield := below _ hmem first more hg
              cases hfield with
              | typename | told | lacking => exact absurd hrest (not_at?_of_bare rfl)
              | value hfits =>
                  exact ih hfits (fun _ => areFor_of_declaresFor hs hi hd (hsets outer hallowed) hg)
                    hrest (hbelow c hc)

end Position

/-! ### Operations -/

/-- What becomes of the fields under a key of an object at a path of the positions that were
observed, where the field selected first is observed as `c`.  The operation starts from the type
`root`. -/
structure Run.Defines (x : Run) (root : String) (t : Position) (p : Path) (concrete key : String)
    (first : CollectedField) (rest : List CollectedField) (c : Position) : Prop where
  /-- Where the type of the field admits `null`, nothing is left only of a field that is lacking. -/
  kept    : first.head.note.type.isRequired = false → c.settle = none → c.isLacking = true
  lacking : c.isLacking = true ↔ IsUndefined x.schema p.isEmpty concrete first.head.name.node
  /-- A field that is lacking is reported, and this is all that is done for it. -/
  raised  : c.isLacking = true → ∃ type, x.schema.type? concrete = some type ∧
    ∀ execute parent? object, parent?.isNone = p.isEmpty →
      x.executeField execute parent? type object (p ++ [.key key]) first (first :: rest) =
        raise x.response (p ++ [.key key])
          ("field " ++ first.head.name.node ++ " not defined on type " ++ concrete)
  /-- A field of introspection is lacking everywhere below the root. -/
  nested  : Introspection.isField first.head.name.node = true → p ≠ [] → c.isLacking = true
  /-- Another is lacking only where some object is of a type that is not declared. -/
  cause   : c.isLacking = true →
    (Introspection.isField first.head.name.node = true ∧ p ≠ []) ∨
      ¬ t.Proper x.schema x.document x.values (fun concrete => applies x.schema concrete root) p

theorem isUndefined_of_isField {s : Schema} (hs : s.IsValid) {name : String}
    (h : Introspection.isField name = true) (concrete : String) :
    IsUndefined s false concrete name := by
  refine ⟨fun htypename => ?_, fun hroot => Bool.false_ne_true hroot.2, ?_⟩
  · rw [htypename] at h
    cases h
  · cases hdeclared : s.declared? concrete name with
    | none => rfl
    | some g => exact absurd (h.symm.trans (hs.declared hdeclared).2) nofun

theorem Run.defines (x : Run) (hs : x.schema.IsValid) (hi : x.schema.Implements)
    (hd : x.document.IsTyped x.schema) {root : String} {set : List ExecutableSelection}
    (hset : AreOn x.schema root set) {t : Position} {required : Bool}
    (hfits : t.Fits x.schema x.document x.values (.named root required) [set])
    (hbranches : t.Branches x.schema x.document x.values true) {p : Path} {r : Bool}
    {concrete : String} {sets : List (List ExecutableSelection)} {found : List (String × Position)}
    (hp : t.at? p = some (.object r concrete sets found)) {key : String} {first : CollectedField}
    {rest : List CollectedField} (hg : (key, first :: rest) ∈
      collect x.schema x.document concrete (Conditions.strict x.values) sets) :
    ∃ c, t.at? (p ++ [.key key]) = some c ∧ x.Defines root t p concrete key first rest c := by
  have hbranch := hbranches.at hp
  rw [Bool.true_and] at hbranch
  obtain ⟨name, hobject⟩ := (Position.IsFit.at (.inl ⟨_, _, hfits⟩) hp).object
  cases hobject with
  | object possible known keys below =>
  -- the place as a variable, so that the cases go through
  generalize hplace : p.isEmpty = atRoot at hbranch
  cases hbranch with
  | bare _ h => cases h
  | @object _ _ type _ _ htype lacks =>
  subst hplace
  obtain ⟨⟨key, c⟩, hmem, rfl⟩ := List.mem_map.mp (keys ▸ List.mem_map_of_mem hg)
  have hlookup := (Position.lookup_eq_some_iff (keys ▸ collect_keys_nodup sets)).mpr hmem
  have hlacking := lacks _ hmem first rest hg
  refine ⟨c, Position.at?_field hp hlookup [], ?_, hlacking, fun h => ⟨type, htype, ?_⟩, ?_, ?_⟩
  · exact fun hnull hsettle => (below _ hmem first rest hg).isLacking_of_settle hsettle hnull
  · intro execute parent? object hparent
    exact x.executeField_undefined execute htype object _ first _ (hparent ▸ hlacking.mp h)
  · intro hintro hpath
    refine hlacking.mpr ?_
    rw [List.isEmpty_eq_false_iff.mpr hpath]
    exact isUndefined_of_isField hs hintro _
  · intro h
    obtain ⟨htypename, hroot, hdeclared⟩ := hlacking.mp h
    by_cases hintro : Introspection.isField first.head.name.node = true
    · exact .inl ⟨hintro, fun hpath => hroot ⟨hintro, by rw [hpath]; rfl⟩⟩
    · refine .inr fun hproper => ?_
      have hsets : AreFor x.schema type.name sets :=
        hfits.areFor hs hi hd (fun concrete happlies set' hset' =>
          ⟨root, happlies, List.mem_singleton.mp hset' ▸ hset⟩) hp hproper
      obtain ⟨g, hg', -⟩ := (isOn_of_mem_collect hd hsets hg List.mem_cons_self).declared hi htype
        htypename (Bool.eq_false_iff.mpr hintro)
      exact absurd (hdeclared.symm.trans hg') nofun

/-- **Fields that are defined.**  Whatever resolvers and the middleware around them do: a field of an
operation of a valid document leaves nothing, although its type admits `null`, only where it is not
defined on the concrete type of its object.  This happens to each field of introspection below the
root, and otherwise only below an object of a type that the object around it does not declare. -/
theorem executeOperation_defines {service : Service} {definitions : List Definition}
    {d : Executable} {o : Operation FieldDefinition} (hs : service.schema.IsValid)
    (hi : service.schema.Implements) (hd : Validation.validate service.schema definitions = .ok d)
    (ho : o ∈ d.allOperations) (hroot : HasRoot service.schema o.type)
    (fields : Chain Work FieldContext FieldResult) (response : ResponseContext)
    (root : ObjectValue Resolved) (y : Exchange) :
    ∃ t data z, observeOperation service fields response d o root y = (.ok t, z) ∧
      executeOperation service fields response d o root y = (.ok data, z) ∧
      ∀ p required concrete sets found, t.at? p = some (.object required concrete sets found) →
        ∀ key first rest, (key, first :: rest) ∈ collect service.schema d concrete
            (Conditions.strict response.operation.variableValues) sets →
          ∃ c, t.at? (p ++ [.key key]) = some c ∧ ∀ introspection,
            Run.Defines { service, response, document := d, fields, introspection }
              ((service.schema.root? o.type).getD "") t p concrete key first rest c := by
  have hdocument := (Validation.validate_ok hd).1
  have hdeclared : d.IsDeclared service.schema :=
    hdocument ▸ Executable.isDeclared_resolve _ _
  have htyped : d.IsTyped service.schema := hdocument ▸ Executable.isTyped_resolve _ _
  obtain ⟨t, z, hobs, hfits⟩ := observeOperation_fits fields hdeclared ho hroot root y
  obtain ⟨t', z', hobs', hbranches⟩ :=
    observeOperation_branches (d := d) hroot fields response root y
  cases hobs.symm.trans hobs'
  refine ⟨t, t.settle.getD .null, z, hobs, ?_, ?_⟩
  · rw [executeOperation_eq]
    exact Work.map_ok hobs
  intro p required concrete sets found hp key first rest hg
  have hdefines (introspection : Option Json.Members) :=
    Run.defines { service, response, document := d, fields, introspection } hs hi htyped
      (htyped.operations o ho) hfits hbranches hp hg
  obtain ⟨c, hc, -⟩ := hdefines none
  refine ⟨c, hc, fun introspection => ?_⟩
  obtain ⟨c', hc', h⟩ := hdefines introspection
  cases hc.symm.trans hc'
  exact h

/-! ### A field of introspection below the root -/

namespace Nested

/-- A schema with a field of the type that queries start from. -/
def schema : Schema where
  types := Builtin.introspectionTypes ++ [Builtin.intScalar, Builtin.stringScalar,
    Builtin.booleanScalar,
    ⟨"Query", none, [], .object []
      [{ name := "q", type := .named "Query" false }, { name := "a", type := .named "Int" false }]⟩]
  directives := Builtin.directives
  query := some "Query"

/-- A query of a type by its name, below the root. -/
def definitions : List Definition :=
  [.query [.plain "q" 1
    [.field ⟨none, ⟨"__type", 2⟩, [⟨"name", ⟨.string "Query", 3⟩, 3⟩], [], 2, ()⟩
      [.plain "name" 4 []]]]]

/-- The document of the query. -/
def document : Executable := (Executable.resolve schema definitions).1

/-- The query. -/
def query : Operation FieldDefinition := document.anonymous.getD default

/-- A service in which the field is an object of the same type. -/
def service : Service where
  schema := schema
  query := .uniform "Query" (.object (.uniform "Query" (.leaf (.int 1))))

/-- A context in which introspection is enabled. -/
def response : ResponseContext := ⟨{ disableIntrospection := false }, .standard⟩

theorem isValid_schema : schema.IsValid := ⟨by decide, by decide⟩

theorem implements_schema : schema.Implements := ⟨by decide, by decide, by decide⟩

/-- What the theorem says of the query. -/
theorem executeOperation_defines_nested :
    service.schema.IsValid ∧ service.schema.Implements ∧
      Validation.validate service.schema definitions = .ok document ∧
      query ∈ document.allOperations ∧ HasRoot service.schema query.type ∧
      ∃ t data z,
        observeOperation service [] response document query service.query {} = (.ok t, z) ∧
        executeOperation service [] response document query service.query {} = (.ok data, z) ∧
        ∃ c, t.at? [.key "q", .key "__type"] = some c ∧ c.isLacking = true := by
  have hvalid : Validation.validate service.schema definitions = .ok document := rfl
  have hquery : query ∈ document.allOperations := List.mem_cons_self
  have hroot : HasRoot service.schema query.type := ⟨_, rfl, rfl⟩
  obtain ⟨t, data, z, hobserve, hexecute, hdefines⟩ := executeOperation_defines isValid_schema
    implements_schema hvalid hquery hroot [] response service.query {}
  refine ⟨isValid_schema, implements_schema, hvalid, hquery, hroot, t, data, z, hobserve, hexecute,
    ?_⟩
  have ht : (observeOperation service [] response document query service.query {}).1 = .ok t := by
    rw [hobserve]
  cases ht
  obtain ⟨c, hc, h⟩ := hdefines [.key "q"] false "Query" _ _ rfl "__type" _ _ List.mem_cons_self
  exact ⟨c, hc, (h none).nested rfl (List.cons_ne_nil _ _)⟩

/-- The document is valid, and yet the field is reported as not defined, and the object around it
goes with it although the type of the field admits `null`. -/
theorem executeOperation_not_defined :
    service.schema.IsValid ∧ service.schema.Implements ∧
      Validation.validate service.schema definitions = .ok document ∧
      query ∈ document.allOperations ∧ HasRoot service.schema query.type ∧
      (∃ t, (observeOperation service [] response document query service.query {}).1 = .ok t ∧
        t.at? [.key "q", .key "__type"] = some (.lacking false)) ∧
      (executeOperation service [] response document query service.query {}).1 =
        .ok (.object [("q", .null)]) ∧
      (executeOperation service [] response document query service.query {}).2.errors.map
        (fun e => (e.message, e.path)) =
          [("field __type not defined on type Query", some [.key "q", .key "__type"])] :=
  ⟨isValid_schema, implements_schema, rfl, List.mem_cons_self, ⟨_, rfl, rfl⟩, ⟨_, rfl, rfl⟩, rfl, rfl⟩

end Nested

end GraphServe.Execution
