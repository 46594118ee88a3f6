import GraphServe.Execution.Arguments
import GraphServe.Proofs.Json.Value
import GraphServe.Schema.Basic

/-!
# Variables — which values a type admits

What the types of input say of a JSON value, apart from how it is coerced.

* `Coercible`: the type admits the value.  A value that is neither `null` nor a list stands for a
  list of one, at any depth.
* `Becomes`: what an admitted value is as one of the type; there is only one (`Becomes.unique`).
* `Conforms`: the value is strictly of the type: lists are written as lists, and objects have their
  fields in the order of declaration, with every default filled in.
* `Fault`: the type does not admit what stands at a path inside the value.

A type that admits a value finds no fault with it (`Fault.not_coercible`), and a fault is where some
value stands or a field is lacking (`Fault.addresses`).  In a schema whose defaults conform to the
types of their fields (`Schema.HasCoercedDefaults`), what a value becomes conforms to the type
(`Becomes.conforms`), and what conforms becomes itself (`Conforms.becomes`).
-/

namespace GraphServe

open Document

/-- What the type of a name is made of. -/
def Schema.body? (s : Schema) (name : String) : Option TypeBody :=
  (s.type? name).map TypeDefinition.body

namespace Variables

variable {s : Schema} {type : TypeRef} {v : Json}

/-- A value is of a built-in scalar; a scalar of another name takes any value. -/
def IsOfScalar (name : String) (v : Json) : Prop :=
  if name = "Int" then ∃ n, v = .int n ∧ -2147483648 ≤ n ∧ n < 2147483648
  else if name = "Float" then v.kind = .int ∨ v.kind = .float
  else if name = "String" then v.kind = .string
  else if name = "Boolean" then v.kind = .bool
  else if name = "ID" then v.kind = .string ∨ v.kind = .int
  else True

/-- A value names a member of an enum. -/
def IsMemberOf (values : List EnumValue) (v : Json) : Prop := ∃ m ∈ values, v = .string m.name

/-- A field of an input object may be lacking. -/
def MayLack (field : InputValue) : Prop := field.default? = none → field.type.isRequired = false

/-- Every member of an object is a field of its type. -/
def AllKnown (fields : List InputValue) (members : Json.Members) : Prop :=
  ∀ m ∈ members, ∃ f ∈ fields, f.name = m.1

/-- A type of input admits a value. -/
inductive Coercible (s : Schema) : TypeRef → Json → Prop where
  | null {type : TypeRef} (admits : type.isRequired = false) : Coercible s type .null
  | scalar {name : String} {required : Bool} {v : Json} (body : s.body? name = some .scalar)
      (present : v ≠ .null) (fits : IsOfScalar name v) : Coercible s (.named name required) v
  | enum {name : String} {required : Bool} {values : List EnumValue} {v : Json}
      (body : s.body? name = some (.enum values)) (fits : IsMemberOf values v) :
      Coercible s (.named name required) v
  | input {name : String} {required : Bool} {fields : List InputValue} {members : Json.Members}
      (body : s.body? name = some (.input fields)) (known : AllKnown fields members)
      (provided : ∀ f ∈ fields, ∀ v, members.get? f.name = some v → Coercible s f.type v)
      (lacking : ∀ f ∈ fields, members.get? f.name = none → MayLack f) :
      Coercible s (.named name required) (.object members)
  | list {item : TypeRef} {required : Bool} {items : List Json}
      (below : ∀ v ∈ items, Coercible s item v) : Coercible s (.list item required) (.list items)
  | single {item : TypeRef} {required : Bool} {v : Json} (one : v.IsSingle)
      (fits : Coercible s item v) : Coercible s (.list item required) v

/-- What a value is as one of a type.  The members that are found under the names of the fields are
those that were provided, each as one of its type, and the defaults of others. -/
inductive Becomes (s : Schema) : TypeRef → Json → Json → Prop where
  | null {type : TypeRef} (admits : type.isRequired = false) : Becomes s type .null .null
  | scalar {name : String} {required : Bool} {v : Json} (body : s.body? name = some .scalar)
      (present : v ≠ .null) (fits : IsOfScalar name v) : Becomes s (.named name required) v v
  | enum {name : String} {required : Bool} {values : List EnumValue} {v : Json}
      (body : s.body? name = some (.enum values)) (fits : IsMemberOf values v) :
      Becomes s (.named name required) v v
  | input {name : String} {required : Bool} {fields : List InputValue}
      {members results : Json.Members} (body : s.body? name = some (.input fields))
      (known : AllKnown fields members)
      (order : List.Sublist (results.map Prod.fst) (fields.map (·.name)))
      (present : ∀ f ∈ fields, ∀ v, members.get? f.name = some v → ∃ r, results.get? f.name = some r)
      (provided : ∀ f ∈ fields, ∀ v r, members.get? f.name = some v →
        results.get? f.name = some r → Becomes s f.type v r)
      (lacking : ∀ f ∈ fields, members.get? f.name = none →
        MayLack f ∧ results.get? f.name = f.default?.map (·.constant)) :
      Becomes s (.named name required) (.object members) (.object results)
  | list {item : TypeRef} {required : Bool} {items results : List Json}
      (length : items.length = results.length)
      (below : ∀ (i : Nat) v r, items[i]? = some v → results[i]? = some r → Becomes s item v r) :
      Becomes s (.list item required) (.list items) (.list results)
  | single {item : TypeRef} {required : Bool} {v r : Json} (one : v.IsSingle)
      (fits : Becomes s item v r) : Becomes s (.list item required) v (.list [r])

/-- A value is strictly of a type. -/
inductive Conforms (s : Schema) : TypeRef → Json → Prop where
  | null {type : TypeRef} (admits : type.isRequired = false) : Conforms s type .null
  | scalar {name : String} {required : Bool} {v : Json} (body : s.body? name = some .scalar)
      (present : v ≠ .null) (fits : IsOfScalar name v) : Conforms s (.named name required) v
  | enum {name : String} {required : Bool} {values : List EnumValue} {v : Json}
      (body : s.body? name = some (.enum values)) (fits : IsMemberOf values v) :
      Conforms s (.named name required) v
  | input {name : String} {required : Bool} {fields : List InputValue} {members : Json.Members}
      (body : s.body? name = some (.input fields))
      (order : List.Sublist (members.map Prod.fst) (fields.map (·.name)))
      (provided : ∀ f ∈ fields, ∀ v, members.get? f.name = some v → Conforms s f.type v)
      (lacking : ∀ f ∈ fields, members.get? f.name = none →
        f.default? = none ∧ f.type.isRequired = false) :
      Conforms s (.named name required) (.object members)
  | list {item : TypeRef} {required : Bool} {items : List Json}
      (below : ∀ v ∈ items, Conforms s item v) : Conforms s (.list item required) (.list items)

/-- A type does not admit a value, whatever is inside it. -/
inductive Misfit (s : Schema) : TypeRef → Json → Prop where
  | null {type : TypeRef} (required : type.isRequired = true) : Misfit s type .null
  | scalar {name : String} {required : Bool} {v : Json} (body : s.body? name = some .scalar)
      (present : v ≠ .null) (unfit : ¬ IsOfScalar name v) : Misfit s (.named name required) v
  | enum {name : String} {required : Bool} {values : List EnumValue} {v : Json}
      (body : s.body? name = some (.enum values)) (present : v ≠ .null)
      (unfit : ¬ IsMemberOf values v) : Misfit s (.named name required) v
  | input {name : String} {required : Bool} {fields : List InputValue} {v : Json}
      (body : s.body? name = some (.input fields)) (present : v ≠ .null)
      (unfit : ∀ members, v ≠ .object members) : Misfit s (.named name required) v
  /-- A type that is no type of input, or that is not there. -/
  | foreign {name : String} {required : Bool} {v : Json} (present : v ≠ .null)
      (scalar : s.body? name ≠ some .scalar) (enum : ∀ values, s.body? name ≠ some (.enum values))
      (input : ∀ fields, s.body? name ≠ some (.input fields)) : Misfit s (.named name required) v

/-- A type does not admit what stands at a path inside a value: a value that is a misfit for the
type it stands for there, a member that is no field, or a field that must be there and is not. -/
inductive Fault (s : Schema) : TypeRef → Json → Path → Prop where
  | here {type : TypeRef} {v : Json} (unfit : Misfit s type v) : Fault s type v []
  | unknown {name : String} {required : Bool} {fields : List InputValue} {members : Json.Members}
      {key : String} (body : s.body? name = some (.input fields)) {v : Json}
      (found : members.get? key = some v) (undeclared : ∀ f ∈ fields, f.name ≠ key) :
      Fault s (.named name required) (.object members) [.key key]
  | lacking {name : String} {required : Bool} {fields : List InputValue} {members : Json.Members}
      {field : InputValue} (body : s.body? name = some (.input fields)) (declared : field ∈ fields)
      (lacks : members.get? field.name = none) (needed : ¬ MayLack field) :
      Fault s (.named name required) (.object members) [.key field.name]
  | member {name : String} {required : Bool} {fields : List InputValue} {members : Json.Members}
      {field : InputValue} {v : Json} {path : Path} (body : s.body? name = some (.input fields))
      (declared : field ∈ fields) (found : members.get? field.name = some v)
      (below : Fault s field.type v path) :
      Fault s (.named name required) (.object members) (.key field.name :: path)
  | item {item : TypeRef} {required : Bool} {items : List Json} {i : Nat} {v : Json} {path : Path}
      (found : items[i]? = some v) (below : Fault s item v path) :
      Fault s (.list item required) (.list items) (.index i :: path)
  | single {item : TypeRef} {required : Bool} {v : Json} {path : Path} (one : v.IsSingle)
      (below : Fault s item v path) : Fault s (.list item required) v path

end Variables

/-- The fields of every input type have names of their own. -/
def Schema.HasDistinctFields (s : Schema) : Prop :=
  ∀ name fields, s.body? name = some (.input fields) → (fields.map (·.name)).Nodup

/-- What a field of an input type has for a default is strictly of the type of the field. -/
def Schema.HasCoercedDefaults (s : Schema) : Prop :=
  ∀ name fields, s.body? name = some (.input fields) → ∀ f ∈ fields, ∀ default,
    f.default? = some default → Variables.Conforms s f.type default.constant

namespace Variables

variable {s : Schema} {type : TypeRef} {v : Json}

/-! ### Faults -/

theorem Coercible.of_scalar {name : String} {required : Bool} (body : s.body? name = some .scalar)
    (present : v ≠ .null) (h : Coercible s (.named name required) v) : IsOfScalar name v := by
  cases h with
  | null => exact absurd rfl present
  | scalar _ _ fits => exact fits
  | enum body' => rw [body] at body'; cases body'
  | input body' => rw [body] at body'; cases body'

theorem Coercible.of_enum {name : String} {required : Bool} {values : List EnumValue}
    (body : s.body? name = some (.enum values)) (present : v ≠ .null)
    (h : Coercible s (.named name required) v) : IsMemberOf values v := by
  cases h with
  | null => exact absurd rfl present
  | scalar body' => rw [body] at body'; cases body'
  | enum body' fits => rw [body] at body'; cases body'; exact fits
  | input body' => rw [body] at body'; cases body'

theorem Coercible.of_input {name : String} {required : Bool} {fields : List InputValue}
    (body : s.body? name = some (.input fields)) (present : v ≠ .null)
    (h : Coercible s (.named name required) v) :
    ∃ members : Json.Members, v = .object members ∧ AllKnown fields members ∧
      (∀ f ∈ fields, ∀ w, members.get? f.name = some w → Coercible s f.type w) ∧
      ∀ f ∈ fields, members.get? f.name = none → MayLack f := by
  cases h with
  | null => exact absurd rfl present
  | scalar body' => rw [body] at body'; cases body'
  | enum body' => rw [body] at body'; cases body'
  | input body' known provided lacking =>
      rw [body] at body'
      cases body'
      exact ⟨_, rfl, known, provided, lacking⟩

theorem Misfit.not_coercible (h : Misfit s type v) : ¬ Coercible s type v := by
  intro hc
  cases h with
  | null required =>
      cases hc with
      | null admits => rw [required] at admits; cases admits
      | scalar _ present => exact present rfl
      | enum _ fits => obtain ⟨m, -, hm⟩ := fits; cases hm
      | single one => exact one.1 rfl
  | scalar body present unfit => exact unfit (hc.of_scalar body present)
  | enum body present unfit => exact unfit (hc.of_enum body present)
  | input body present unfit =>
      obtain ⟨members, hv, -⟩ := hc.of_input body present
      exact unfit members hv
  | foreign present scalar enum input =>
      cases hc with
      | null => exact present rfl
      | scalar body => exact scalar body
      | enum body => exact enum _ body
      | input body => exact input _ body

/-- A type that admits a value finds no fault with it. -/
theorem Fault.not_coercible {path : Path} (h : Fault s type v path) : ¬ Coercible s type v := by
  induction h with
  | here unfit => exact unfit.not_coercible
  | unknown body found undeclared =>
      intro hc
      obtain ⟨_, ⟨⟩, known, -⟩ := hc.of_input body Json.noConfusion
      obtain ⟨f, hf, hname⟩ := known _ (Json.Members.mem_of_get? found)
      exact undeclared f hf hname
  | lacking body declared lacks needed =>
      intro hc
      obtain ⟨_, ⟨⟩, -, -, lacking⟩ := hc.of_input body Json.noConfusion
      exact needed (lacking _ declared lacks)
  | member body declared found _ ih =>
      intro hc
      obtain ⟨_, ⟨⟩, -, provided, -⟩ := hc.of_input body Json.noConfusion
      exact ih (provided _ declared _ found)
  | item found _ ih =>
      intro hc
      cases hc with
      | list below => exact ih (below _ (List.mem_of_getElem? found))
      | single one => exact one.2 _ rfl
  | single one _ ih =>
      intro hc
      cases hc with
      | null => exact one.1 rfl
      | list => exact one.2 _ rfl
      | single _ fits => exact ih fits

/-- A fault is where a value stands, or where an object lacks a field. -/
theorem Fault.addresses {path : Path} (h : Fault s type v path) : v.Addresses path := by
  induction h with
  | here => exact .value rfl
  | unknown _ found => exact Json.Addresses.below (v := .object _) found (.value rfl)
  | lacking _ _ lacks => exact .lacking lacks
  | member _ _ found _ ih => exact ih.below found
  | item found _ ih => exact ih.below found
  | single _ _ ih => exact ih

/-! ### What values become -/

theorem Becomes.coercible {r : Json} (h : Becomes s type v r) : Coercible s type v := by
  induction h with
  | null admits => exact .null admits
  | scalar body present fits => exact .scalar body present fits
  | enum body fits => exact .enum body fits
  | input body known _ present _ lacking ih =>
      refine .input body known (fun f hf v hv => ?_) fun f hf hnone => (lacking f hf hnone).1
      obtain ⟨r, hr⟩ := present f hf v hv
      exact ih f hf v r hv hr
  | list length _ ih =>
      refine .list fun v hv => ?_
      obtain ⟨i, hi, rfl⟩ := List.mem_iff_getElem.mp hv
      have hr := List.getElem?_eq_getElem (length ▸ hi)
      exact ih i _ _ (List.getElem?_eq_getElem hi) hr
  | single one _ ih => exact .single one ih

/-- Where fields have names of their own, a value becomes one thing only. -/
theorem Becomes.unique {r r' : Json} (distinct : s.HasDistinctFields) (h : Becomes s type v r)
    (h' : Becomes s type v r') : r = r' := by
  induction h generalizing r' with
  | null =>
      cases h' with
      | null => rfl
      | scalar => rfl
      | enum => rfl
      | single one => exact absurd rfl one.1
  | scalar body present =>
      cases h' with
      | null => rfl
      | scalar => rfl
      | enum => rfl
      | input body' => rw [body] at body'; cases body'
  | enum body =>
      cases h' with
      | null => rfl
      | scalar => rfl
      | enum => rfl
      | input body' => rw [body] at body'; cases body'
  | @input _ _ _ members _ body known order present _ lacking ih =>
      cases h' with
      | scalar body' => rw [body] at body'; cases body'
      | enum body' => rw [body] at body'; cases body'
      | input body' _ order' present' provided' lacking' =>
          rw [body] at body'
          cases body'
          refine congrArg _ (Json.Members.ext_of_sublist (distinct _ _ body) order order' ?_)
          intro name hname
          obtain ⟨f, hf, rfl⟩ := List.mem_map.mp hname
          cases hv : members.get? f.name with
          | none => rw [(lacking f hf hv).2, (lacking' f hf hv).2]
          | some v =>
              obtain ⟨r, hr⟩ := present f hf v hv
              obtain ⟨r', hr'⟩ := present' f hf v hv
              rw [hr, hr', ih f hf v r hv hr (provided' f hf v r' hv hr')]
  | list length _ ih =>
      cases h' with
      | list length' below' =>
          refine congrArg _ (List.ext_getElem (length.symm.trans length') fun i hi hi' => ?_)
          have hv := List.getElem?_eq_getElem (length ▸ hi)
          exact ih i _ _ hv (List.getElem?_eq_getElem hi)
            (below' i _ _ hv (List.getElem?_eq_getElem hi'))
      | single one => exact absurd rfl (one.2 _)
  | single one _ ih =>
      cases h' with
      | null => exact absurd rfl one.1
      | list => exact absurd rfl (one.2 _)
      | single _ fits => rw [ih fits]

/-- What is strictly of a type becomes itself. -/
theorem Conforms.becomes (h : Conforms s type v) : Becomes s type v v := by
  induction h with
  | null admits => exact .null admits
  | scalar body present fits => exact .scalar body present fits
  | enum body fits => exact .enum body fits
  | input body order _ lacking ih =>
      refine .input body (fun m hm => ?_) order (fun f hf v hv => ⟨v, hv⟩)
        (fun f hf v r hv hr => ?_) fun f hf hnone => ?_
      · obtain ⟨f, hf, hname⟩ := List.mem_map.mp (order.subset (List.mem_map_of_mem hm))
        exact ⟨f, hf, hname⟩
      · cases hv.symm.trans hr
        exact ih f hf v hv
      · obtain ⟨hdefault, hrequired⟩ := lacking f hf hnone
        exact ⟨fun _ => hrequired, by rw [hnone, hdefault]; rfl⟩
  | list _ ih =>
      refine .list rfl fun i v r hv hr => ?_
      cases hv.symm.trans hr
      exact ih v (List.mem_of_getElem? hv)

/-- Where defaults conform to the types of their fields, what a value becomes conforms too. -/
theorem Becomes.conforms {r : Json} (hs : s.HasCoercedDefaults) (h : Becomes s type v r) :
    Conforms s type r := by
  induction h with
  | null admits => exact .null admits
  | scalar body present fits => exact .scalar body present fits
  | enum body fits => exact .enum body fits
  | @input _ _ _ members _ body known order present _ lacking ih =>
      refine .input body order (fun f hf r hr => ?_) fun f hf hnone => ?_
      · cases hv : members.get? f.name with
        | some v => exact ih f hf v r hv hr
        | none =>
            rw [(lacking f hf hv).2] at hr
            obtain ⟨default, hdefault, rfl⟩ := Option.map_eq_some_iff.mp hr
            exact hs _ _ body f hf default hdefault
      · cases hv : members.get? f.name with
        | some v =>
            obtain ⟨r, hr⟩ := present f hf v hv
            rw [hnone] at hr
            cases hr
        | none =>
            obtain ⟨hmay, hr⟩ := lacking f hf hv
            rw [hnone] at hr
            have hdefault := Option.map_eq_none_iff.mp hr.symm
            exact ⟨hdefault, hmay hdefault⟩
  | list length _ ih =>
      refine .list fun r hr => ?_
      obtain ⟨i, hi, rfl⟩ := List.mem_iff_getElem.mp hr
      have hv := List.getElem?_eq_getElem (length ▸ hi)
      exact ih i _ _ hv (List.getElem?_eq_getElem hi)
  | single one _ ih =>
      refine .list fun r hr => ?_
      rw [List.mem_singleton.mp hr]
      exact ih

/-- What becomes itself is strictly of its type. -/
theorem Becomes.conforms_self (h : Becomes s type v v) : Conforms s type v := by
  obtain ⟨r, hr, hbecomes⟩ : ∃ r, v = r ∧ Becomes s type v r := ⟨v, rfl, h⟩
  clear h
  induction hbecomes with
  | null admits => exact .null admits
  | scalar body present fits => exact .scalar body present fits
  | enum body fits => exact .enum body fits
  | @input _ _ _ members _ body known order present _ lacking ih =>
      cases hr
      refine .input body order (fun f hf w hw => ih f hf w w hw hw rfl) fun f hf hnone => ?_
      obtain ⟨hmay, hdefault⟩ := lacking f hf hnone
      rw [hnone] at hdefault
      have hdefault := Option.map_eq_none_iff.mp hdefault.symm
      exact ⟨hdefault, hmay hdefault⟩
  | list _ _ ih =>
      cases hr
      refine .list fun w hw => ?_
      obtain ⟨i, hi, rfl⟩ := List.mem_iff_getElem.mp hw
      exact ih i _ _ (List.getElem?_eq_getElem hi) (List.getElem?_eq_getElem hi) rfl
  | single one => exact absurd hr (one.2 _)

end Variables

end GraphServe
