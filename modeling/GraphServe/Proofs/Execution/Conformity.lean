import GraphServe.Proofs.Execution.Fitting
import GraphServe.Proofs.Validation.Acyclic

/-!
# Data conforms to the types of its fields

A value of the data conforms to a type (`Position.Conforms`) if it is `null` only where the type
admits that, a leaf of the named type, a list of values that conform to the item type, or an object
of a concrete type that the named type stands for.

**Selected fields** (`executeOperation_conforms`).  A value conforms to the type with which some type
of the schema declares the field that is selected first under its key, and so to the type with which
the concrete type of its object declares it, where the two are the same.  They may not be: an object
may declare a field with a more specific type than the interface on which it is selected, and then
the data is after the interface (`executeOperation_not_conforms`).
-/

namespace GraphServe

theorem Json.getAt_append {p q : Path} {v : Json} :
    v.getAt (p ++ q) = (v.getAt p).bind (getAt · q) := by
  induction p generalizing v with
  | nil => rfl
  | cons e r ih =>
      rw [List.cons_append, getAt, getAt, Option.bind_assoc]
      exact congrArg _ (funext fun c => ih)

namespace Execution

open Document

namespace Position

/-- A value found at a position conforms to a type. -/
inductive Conforms (s : Schema) : TypeRef → Position → Json → Prop where
  | null {type : TypeRef} (t : Position) (h : type.isRequired = false) : Conforms s type t .null
  | leaf {name : String} {required : Bool} {value : Json} (h : IsLeafOf s name value) (r : Bool) :
      Conforms s (.named name required) (.leaf r value) value
  | list {item : TypeRef} {required : Bool} {items : List Position} {values : List Json} (r : Bool)
      (length : items.length = values.length)
      (below : ∀ (i : Nat) c v, items[i]? = some c → values[i]? = some v → Conforms s item c v) :
      Conforms s (.list item required) (.list r items) (.list values)
  /-- An object of a concrete type that the named type stands for. -/
  | object {name concrete : String} {required : Bool} (h : concrete ∈ s.possibleTypes name)
      (r : Bool) (sets : List (List ExecutableSelection)) (fields : List (String × Position))
      (members : Json.Members) :
      Conforms s (.named name required) (.object r concrete sets fields) (.object members)

theorem Conforms.not_null {s : Schema} {type : TypeRef} {t : Position} (h : type.isRequired = true) :
    ¬ t.Conforms s type .null := by
  intro hc
  cases hc with
  | null _ hn => rw [h] at hn; cases hn
  | leaf hl => exact hl.1 rfl

variable {s : Schema} {d : Executable} {values : Json.Members} {n : Path → Bool}

/-- No `null` is shown at or below a position where its type admits none. -/
def Admissible (n : Path → Bool) (t : Position) : Prop :=
  ∀ p u, t.at? p = some u → u.required true = true → (t.shown n).getAt p ≠ some .null

theorem Admissible.conforms_null {t : Position} (h : t.Admissible n) {type : TypeRef}
    (hr : t.required true = type.isRequired) (hv : t.shown n = .null) :
    t.Conforms s type (t.shown n) := by
  rw [hv]
  refine .null t (Bool.eq_false_iff.mpr fun hreq => ?_)
  exact h [] t rfl (hr.trans hreq) (by rw [hv]; rfl)

theorem Admissible.item {r : Bool} {items : List Position}
    (h : (Position.list r items).Admissible n) (hn : n [] = false) {i : Nat} {c : Position}
    (hc : items[i]? = some c) : c.Admissible fun q => n (.index (0 + i) :: q) := by
  intro p u hp hu
  have hbelow := h (.index i :: p) u (by rw [at?, child?, hc]; exact hp) hu
  rw [shown, hn, if_neg Bool.false_ne_true, Json.getAt, Json.child?, shownItems_getElem?, hc]
    at hbelow
  exact hbelow

/-- A field of an object in the data is admissible if no `null` of the data is out of place. -/
theorem Admissible.field {t c : Position} {data : Json}
    (h : ∀ p u, t.at? p = some u → u.required true = true → data.getAt p ≠ some .null)
    {p : Path} {key : String} (hat : ∀ q, t.at? (p ++ .key key :: q) = c.at? q)
    {members : Json.Members} (hdata : data.getAt p = some (.object members))
    (hmember : members.get? key = some (c.shown n)) : c.Admissible n := by
  intro q u hq hu
  have hbelow := h _ u ((hat q).trans hq) hu
  rw [Json.getAt_append, hdata, Option.bind_some, Json.getAt, Json.child?, PathElement.text,
    hmember] at hbelow
  exact hbelow

/-- What is shown of a position that fits a type conforms to it. -/
theorem Fits.conforms {t : Position} {type : TypeRef} {sets : List (List ExecutableSelection)}
    (h : t.Fits s d values type sets) (hn : t.Admissible n) : t.Conforms s type (t.shown n) := by
  induction t generalizing type sets n with
  | null => cases h with | null h => exact .null _ h
  | told v => cases h
  | lacking r => cases h
  | failed r => cases h; exact hn.conforms_null rfl rfl
  | leaf r v =>
      cases h with
      | leaf h =>
          cases hz : n [] with
          | true => exact hn.conforms_null rfl (by rw [shown, hz]; rfl)
          | false => rw [shown, hz]; exact .leaf h r
  | object r concrete sets fields ih =>
      cases h with
      | object possible known keys below =>
          cases hz : n [] with
          | true => exact hn.conforms_null rfl (by rw [shown, hz]; rfl)
          | false => rw [shown, hz]; exact .object possible r _ _ _
  | list r items ih =>
      cases h with
      | list below =>
          cases hz : n [] with
          | true => exact hn.conforms_null rfl (by rw [shown, hz]; rfl)
          | false =>
              rw [shown, hz]
              refine Conforms.list r shownItems_length.symm fun i c v hc hitem => ?_
              rw [shownItems_getElem?, hc, Option.map_some, Option.some.injEq] at hitem
              subst hitem
              have hm := List.mem_of_getElem? hc
              exact ih c hm (below c hm) (hn.item hz hc)

/-- An object that is shown shows its fields. -/
theorem shown_eq_object {r : Bool} {concrete : String} {sets : List (List ExecutableSelection)}
    {fields : List (String × Position)} {members : Json.Members}
    (h : (object r concrete sets fields).shown n = .object members) :
    members = shownFields n fields := by
  rw [shown] at h
  split at h
  · cases h
  · exact (Json.object.inj h).symm

end Position

/-! ### Operations -/

/-- How the objects among some positions conform to the schema in the data. -/
structure Conformity (s : Schema) (d : Executable) (values : Json.Members) (t : Position)
    (data : Json) : Prop where
  /-- The keys of an object are those that are collected for its concrete type. -/
  keys : ∀ p r concrete sets fields (members : Json.Members),
    t.at? p = some (.object r concrete sets fields) → data.getAt p = some (.object members) →
      members.map Prod.fst = (collect s d concrete (Conditions.strict values) sets).map Prod.fst
  /-- The value of a field that the concrete type declares conforms to the type with which the first
  selected field is declared by a type of the schema, and to that of the concrete type if it is the
  same. -/
  fields : ∀ p r concrete sets fields (members : Json.Members),
    t.at? p = some (.object r concrete sets fields) → data.getAt p = some (.object members) →
      ∀ key first rest,
        (key, first :: rest) ∈ collect s d concrete (Conditions.strict values) sets →
        ∀ definition, s.declared? concrete first.head.name.node = some definition →
          ∃ c v, t.at? (p ++ [.key key]) = some c ∧ members.get? key = some v ∧
            (∃ parent ∈ s.types, s.field? parent first.head.name.node = some first.head.note) ∧
            c.Conforms s first.head.note.type v ∧
            (first.head.note.type = definition.type → c.Conforms s definition.type v)

/-- **Data conforms** where the positions fit. -/
theorem conformity_of_fits {s : Schema} {d : Executable} {values : Json.Members} {t : Position}
    {type : TypeRef} {sets : List (List ExecutableSelection)} (hs : s.IsValid)
    (hd : d.IsDeclared s) (ht : t.Fits s d values type sets) (hr : t.required true = false) :
    Conformity s d values t (t.settle.getD .null) := by
  have hdistinct : t.Distinct := ht.typed.distinct
  have hsinks : ¬ t.Sinks true := fun hsinks => by
    simp [((Position.sinks_iff hdistinct).mp hsinks).1] at hr
  have hdata : t.settle.getD .null = t.shown (t.nulled true) := by
    rw [Position.settle_of_not_required hdistinct hr]; rfl
  rw [hdata]
  -- an object of the data shows the fields of the object at its position
  have hobject : ∀ p r concrete sets fields (members : Json.Members),
      t.at? p = some (.object r concrete sets fields) →
      (t.shown (t.nulled true)).getAt p = some (.object members) →
      ∃ n, members = Position.shownFields n fields ∧
        ∃ name, (Position.object r concrete sets fields).Fits s d values (.named name r) sets := by
    intro p r concrete sets fields members hp hv
    rw [Position.shown_getAt hp (Position.not_nulled_of_getAt hp hv), Option.some.injEq] at hv
    exact ⟨_, Position.shown_eq_object hv, (Position.IsFit.at (.inl ⟨_, _, ht⟩) hp).object⟩
  refine ⟨fun p r concrete sets fields members hp hv => ?_,
    fun p r concrete sets fields members hp hv key first rest hg definition hdef => ?_⟩
  · obtain ⟨n, rfl, name, hfits⟩ := hobject p r concrete sets fields members hp hv
    rw [Position.shownFields_keys]
    exact hfits.typed.keys
  · obtain ⟨n, hmembers, name, hfits⟩ := hobject p r concrete sets fields members hp hv
    cases hfits with
    | object possible known keys below =>
        obtain ⟨⟨key, c⟩, hf, rfl⟩ := List.mem_map.mp (keys ▸ List.mem_map_of_mem hg)
        have hlookup := (Position.lookup_eq_some_iff (keys ▸ collect_keys_nodup sets)).mpr hf
        have hfit := (below _ hf first rest hg).of_declared hs hdef
        have hmember : members.get? key = some (c.shown fun q => n (.key key :: q)) := by
          rw [hmembers, Position.shownFields_get?, hlookup]
          rfl
        have hat := Position.at?_field hp hlookup
        have hadmissible := Position.Admissible.field (fun p u hp hu =>
          Position.getAt_ne_null hdistinct hsinks (.inl ⟨_, _, ht.typed⟩) hp hu) hat hv hmember
        obtain ⟨-, set, hset, hocc⟩ := (mem_collect hg).2 first List.mem_cons_self
        have hconforms := hfit.conforms hadmissible
        exact ⟨c, _, hat [], hmember, (hocc.all hd.fragment? (known set hset)).1.field, hconforms,
          fun heq => heq ▸ hconforms⟩

/-- **Selected fields.**  Whatever resolvers do, an operation of a valid document has data in which
the value of every field that the concrete type of its object declares conforms to the type of the
selected field, as some type of the schema declares it; so it conforms to the type that the concrete
type declares if this is the same. -/
theorem executeOperation_conforms {service : Service} {definitions : List Definition}
    {d : Executable} {o : Operation FieldDefinition} (hs : service.schema.IsValid)
    (hd : Validation.validate service.schema definitions = .ok d) (ho : o ∈ d.allOperations)
    (hroot : HasRoot service.schema o.type) (fields : Chain Work FieldContext FieldResult)
    (response : ResponseContext) (root : ObjectValue Resolved) (x : Exchange) :
    ∃ t data y, observeOperation service fields response d o root x = (.ok t, y) ∧
      executeOperation service fields response d o root x = (.ok data, y) ∧
      Conformity service.schema d response.operation.variableValues t data := by
  have hdeclared : d.IsDeclared service.schema :=
    (Validation.validate_ok hd).1 ▸ Executable.isDeclared_resolve _ _
  obtain ⟨t, y, hobs, ht⟩ := observeOperation_fits fields hdeclared ho hroot root x
  refine ⟨t, t.settle.getD .null, y, hobs, ?_, conformity_of_fits hs hdeclared ht ?_⟩
  · rw [executeOperation_eq]
    exact Work.map_ok hobs
  · cases ht <;> rfl

/-! ### A field with a more specific type -/

namespace Narrowed

/-- An object declares that a field is never `null`, its interface does not. -/
def schema : Schema where
  types := Builtin.introspectionTypes ++ [Builtin.intScalar, Builtin.stringScalar,
    Builtin.booleanScalar,
    ⟨"I", none, [], .interface [] [{ name := "f", type := .named "Int" false }]⟩,
    ⟨"T", none, [], .object ["I"] [{ name := "f", type := .named "Int" true }]⟩,
    ⟨"Query", none, [], .object [] [{ name := "i", type := .named "I" false }]⟩]
  directives := Builtin.directives
  query := some "Query"

/-- A query that selects the field on the interface. -/
def definitions : List Definition :=
  [.query [.plain "i" 1 [.plain "f" 2 []]]]

/-- The document of the query. -/
def document : Executable := (Executable.resolve schema definitions).1

/-- The query. -/
def query : Operation FieldDefinition := document.anonymous.getD default

/-- A service in which the field is `null`. -/
def service : Service where
  schema := schema
  query := .uniform "Query" (.object (.uniform "T" .null))

theorem isValid_schema : schema.IsValid := ⟨by decide, by decide⟩

end Narrowed

/-- A query of a field that its object declares never to be `null`, selected on an interface that
declares nothing of the kind: the data has `null` there, which does not conform to the declaration
of the object. -/
theorem executeOperation_not_conforms :
    Narrowed.service.schema.IsValid ∧
      Validation.validate Narrowed.service.schema Narrowed.definitions = .ok Narrowed.document ∧
      Narrowed.query ∈ Narrowed.document.allOperations ∧
      (executeOperation Narrowed.service [] ⟨{}, .standard⟩ Narrowed.document Narrowed.query
        Narrowed.service.query {}).1 = .ok (.object [("i", .object [("f", .null)])]) ∧
      (∃ t r sets fields, (observeOperation Narrowed.service [] ⟨{}, .standard⟩ Narrowed.document
          Narrowed.query Narrowed.service.query {}).1 = .ok t ∧
        t.at? [.key "i"] = some (.object r "T" sets fields)) ∧
      (Narrowed.schema.declared? "T" "f").map (·.type) = some (.named "Int" true) ∧
      ∀ c, ¬ Position.Conforms Narrowed.schema (.named "Int" true) c .null :=
  ⟨Narrowed.isValid_schema, rfl, List.mem_cons_self, rfl, ⟨_, _, _, _, rfl, rfl⟩, rfl,
    fun _ => Position.Conforms.not_null rfl⟩

/-- What the theorem says of that query. -/
theorem executeOperation_conforms_narrowed :
    Narrowed.service.schema.IsValid ∧
      Validation.validate Narrowed.service.schema Narrowed.definitions = .ok Narrowed.document ∧
      Narrowed.query ∈ Narrowed.document.allOperations ∧
      HasRoot Narrowed.service.schema Narrowed.query.type ∧
    ∃ t data y,
      observeOperation Narrowed.service [] ⟨{}, .standard⟩ Narrowed.document Narrowed.query
        Narrowed.service.query {} = (.ok t, y) ∧
      executeOperation Narrowed.service [] ⟨{}, .standard⟩ Narrowed.document Narrowed.query
        Narrowed.service.query {} = (.ok data, y) ∧
      Conformity Narrowed.service.schema Narrowed.document [] t data := by
  have hvalid : Validation.validate Narrowed.service.schema Narrowed.definitions =
      .ok Narrowed.document := rfl
  have hroot : HasRoot Narrowed.service.schema Narrowed.query.type := ⟨_, rfl, rfl⟩
  exact ⟨Narrowed.isValid_schema, hvalid, List.mem_cons_self, hroot,
    executeOperation_conforms Narrowed.isValid_schema hvalid List.mem_cons_self hroot []
      ⟨{}, .standard⟩ Narrowed.service.query {}⟩

end Execution

end GraphServe
