import GraphServe.Proofs.Execution.Coercion
import GraphServe.Proofs.Execution.Literals
import Mathlib.Data.List.Nodup

/-!
# Variables — defaults and provided values

A default is taken as it is written, and a provided value is coerced.  So a default that is spelled
out need not give what it gives when it is left out: a single value for a list gives a list of one
only where it is provided, and the same holds of the fields of an object that have defaults
themselves.

`RequestSupplies` relates the values of two requests of which the second spells out one default that
the first leaves out: that of a variable, or that of a field of an input object at any depth of a
value that both provide.

**Spelling out a default** (`ofRequest_supplied`).  What conforms to its type gives the same either
way, errors and their paths included.  If the request that leaves the default out is accepted, the
other gives the same exactly if the default conforms to its type; and if the default is a plain
literal that is valid at its type, the other is accepted too.

* `Supplies.coerce_eq`: one value, whose input objects leave a default out or spell it out.
* `Supplies.conforms`: values that come to the same prove the default to conform.
-/

namespace GraphServe.Variables

open Document Validation

variable {s : Schema} {field type : TypeRef} {default : Value} {v v' r : Json} {path : Path}
  {fields : List InputValue} {members members' : Json.Members} {f : InputValue}

/-! ### Field by field -/

/-- What comes of a field: what its member is coerced to, its default, or nothing. -/
def entryOf (coercions : List (String × (TypeRef → Path → Except Error Json))) (path : Path)
    (field : InputValue) : Except Error (Option Json) :=
  match coercions.lookup field.name, field.default? with
  | some coerceMember, _            =>
      (coerceMember field.type (path ++ [.key field.name])).map some
  | none,              some default => .ok (some default.constant)
  | none,              none         =>
      if field.type.isRequired then .error (mismatch (path ++ [.key field.name]) "must be defined")
      else .ok none

theorem coerceFields_cons (coercions : List (String × (TypeRef → Path → Except Error Json)))
    (path : Path) (field : InputValue) (fields : List InputValue) (done : Json.Members) :
    coerceFields coercions path (field :: fields) done
      = (entryOf coercions path field).bind fun entry =>
          coerceFields coercions path fields (put done field entry) := by
  rw [coerceFields, entryOf]
  cases coercions.lookup field.name with
  | some coerceMember =>
      dsimp only
      cases coerceMember field.type (path ++ [.key field.name]) <;> rfl
  | none =>
      cases field.default? with
      | some default => rfl
      | none =>
          dsimp only
          split <;> rfl

/-- Fields that come to the same one by one come to the same. -/
theorem coerceFields_congr {coercions coercions' : List (String × (TypeRef → Path → Except Error Json))}
    (h : ∀ f ∈ fields, entryOf coercions path f = entryOf coercions' path f) (done : Json.Members) :
    coerceFields coercions path fields done = coerceFields coercions' path fields done := by
  induction fields generalizing done with
  | nil => rfl
  | cons f fields ih =>
      obtain ⟨hfirst, hothers⟩ := List.forall_mem_cons.mp h
      rw [coerceFields_cons, coerceFields_cons, hfirst]
      exact congrArg _ (funext fun entry => ih hothers _)

/-- What comes of a field depends on the member under its name. -/
theorem entryOf_congr (h : members.get? f.name = members'.get? f.name) :
    entryOf (coerceMembers s members) path f = entryOf (coerceMembers s members') path f := by
  rw [entryOf, entryOf, lookup_coerceMembers, lookup_coerceMembers, h]

theorem entryOf_of_get? (h : members.get? f.name = some v) :
    entryOf (coerceMembers s members) path f
      = (coerce s v f.type (path ++ [.key f.name])).map some := by
  rw [entryOf, lookup_coerceMembers, h]
  rfl

theorem entryOf_of_default (h : members.get? f.name = none) (hdefault : f.default? = some default) :
    entryOf (coerceMembers s members) path f = .ok (some default.constant) := by
  rw [entryOf, lookup_coerceMembers, h, hdefault]
  rfl

/-- One member of an object is changed, and nothing else comes of its field. -/
theorem coerceFields_insert (names : (fields.map (·.name)).Nodup) (hf : f ∈ fields)
    (h : entryOf (coerceMembers s (members.insert f.name v)) path f
      = entryOf (coerceMembers s members) path f) (done : Json.Members) :
    coerceFields (coerceMembers s (members.insert f.name v)) path fields done
      = coerceFields (coerceMembers s members) path fields done := by
  refine coerceFields_congr (fun g hg => ?_) done
  by_cases hname : f.name = g.name
  · obtain rfl : f = g :=
      Option.some_inj.mp ((find?_of_mem names hf).symm.trans (hname ▸ find?_of_mem names hg))
    exact h
  · exact entryOf_congr (by rw [Json.Members.get?_insert, if_neg hname])

/-- A member more or less that is a field makes no other member unknown. -/
theorem find?_insert {known : String → Bool} {key : String} (h : known key = true)
    (members : Json.Members) (v : Json) :
    ((coerceMembers s (members.insert key v)).find? fun m => !known m.1).map Prod.fst
      = ((coerceMembers s members).find? fun m => !known m.1).map Prod.fst := by
  have hkeys (members : Json.Members) :
      ((coerceMembers s members).find? fun m => !known m.1).map Prod.fst
        = (members.map Prod.fst).find? fun name => !known name := by
    rw [← coerceMembers_keys (s := s), List.find?_map]
    rfl
  rw [hkeys, hkeys]
  induction members with
  | nil => simp [Json.Members.insert, h]
  | cons head members ih =>
      obtain ⟨k, w⟩ := head
      rw [Json.Members.insert]
      split
      · rfl
      · rw [List.map_cons, List.map_cons, List.find?_cons, List.find?_cons, ih]

theorem coerceNamed_object {name : String} (body : s.body? name = some (.input fields))
    (members : Json.Members) (path : Path) :
    coerceNamed s name (.object members) (coerceMembers s members) path =
      match ((coerceMembers s members).find? fun m => !fields.any (·.name = m.1)).map Prod.fst with
      | some unknown => .error (mismatch (path ++ [.key unknown]) "unknown field")
      | none         => (coerceFields (coerceMembers s members) path fields []).map .object := by
  unfold coerceNamed
  rw [← Schema.body?, body]
  dsimp only
  cases (coerceMembers s members).find? fun m => !fields.any (·.name = m.1) <;> rfl

/-- One member of an object is changed, and nothing else comes of the object. -/
theorem coerce_insert {name : String} {required : Bool} (body : s.body? name = some (.input fields))
    (names : (fields.map (·.name)).Nodup) (hf : f ∈ fields)
    (h : entryOf (coerceMembers s (members.insert f.name v)) path f
      = entryOf (coerceMembers s members) path f) :
    coerce s (.object (members.insert f.name v)) (.named name required) path
      = coerce s (.object members) (.named name required) path := by
  have hknown : (fields.any fun g => g.name = f.name) = true :=
    List.any_eq_true.mpr ⟨f, hf, decide_eq_true rfl⟩
  have hunknown := @find?_insert s (fun name => fields.any (·.name = name)) f.name hknown members v
  rw [coerce_named Json.noConfusion, coerce_named Json.noConfusion, memberCoercions,
    memberCoercions, coerceNamed_object body, coerceNamed_object body,
    coerceFields_insert names hf h, hunknown]

theorem coerceItems_set {items : List Json} {i : Nat} (found : items[i]? = some v)
    (h : ∀ path, coerce s v' type path = coerce s v type path) (j : Nat) :
    coerceItems s (items.set i v') type path j = coerceItems s items type path j := by
  induction items generalizing i j with
  | nil => rfl
  | cons item items ih =>
      cases i with
      | zero =>
          cases found
          rw [List.set_cons_zero, coerceItems, coerceItems, h]
      | succ i => rw [List.set_cons_succ, coerceItems, coerceItems, ih found]

/-- A single value for a list is coerced as its only item. -/
theorem coerce_list_single (one : v.IsSingle) (item : TypeRef) (required : Bool) (path : Path) :
    coerce s v (.list item required) path = (coerce s v item path).map fun r => .list [r] := by
  rw [coerce_single one, coerce_single one, TypeRef.innerName]
  cases coerceNamed s item.innerName v (memberCoercions s v) path <;> rfl

/-- What conforms to its type is not changed. -/
theorem coerce_of_conforms (distinct : s.HasDistinctFields) (h : Conforms s type v) (path : Path) :
    coerce s v type path = .ok v := by
  obtain ⟨r, hr, hbecomes⟩ := coerce_of_coercible distinct h.becomes.coercible path
  rw [hr, hbecomes.unique distinct h.becomes]

/-! ### Values -/

/-- The second value spells out a default that an input object inside the first leaves out: that of a
field of some type. -/
inductive Supplies (s : Schema) (field : TypeRef) (default : Value) : TypeRef → Json → Json → Prop
    where
  | here {name : String} {required : Bool} {fields : List InputValue} {members : Json.Members}
      {f : InputValue} (body : s.body? name = some (.input fields)) (declared : f ∈ fields)
      (type : f.type = field) (has : f.default? = some default)
      (lacks : members.get? f.name = none) :
      Supplies s field default (.named name required) (.object members)
        (.object (members.insert f.name default.constant))
  | member {name : String} {required : Bool} {fields : List InputValue} {members : Json.Members}
      {f : InputValue} {v v' : Json} (body : s.body? name = some (.input fields))
      (declared : f ∈ fields) (found : members.get? f.name = some v)
      (below : Supplies s field default f.type v v') :
      Supplies s field default (.named name required) (.object members)
        (.object (members.insert f.name v'))
  | item {item : TypeRef} {required : Bool} {items : List Json} {i : Nat} {v v' : Json}
      (found : items[i]? = some v) (below : Supplies s field default item v v') :
      Supplies s field default (.list item required) (.list items) (.list (items.set i v'))
  | single {item : TypeRef} {required : Bool} {v v' : Json} (one : v.IsSingle)
      (below : Supplies s field default item v v') :
      Supplies s field default (.list item required) v v'

theorem Supplies.isSingle (h : Supplies s field default type v v') (one : v.IsSingle) :
    v'.IsSingle := by
  induction h with
  | here | member => exact ⟨Json.noConfusion, fun _ => Json.noConfusion⟩
  | item => exact absurd rfl (one.2 _)
  | single _ _ ih => exact ih one

/-- **A default that conforms to its type** can be left out or spelled out. -/
theorem Supplies.coerce_eq (distinct : s.HasDistinctFields)
    (hdefault : Conforms s field default.constant) (h : Supplies s field default type v v')
    (path : Path) : coerce s v' type path = coerce s v type path := by
  induction h generalizing path with
  | here body declared htype has lacks =>
      refine coerce_insert body (distinct _ _ body) declared ?_
      rw [entryOf_of_default lacks has,
        entryOf_of_get? ((Json.Members.get?_insert _ _ _ _).trans (if_pos rfl)), htype,
        coerce_of_conforms distinct hdefault]
      rfl
  | member body declared found _ ih =>
      refine coerce_insert body (distinct _ _ body) declared ?_
      rw [entryOf_of_get? found,
        entryOf_of_get? ((Json.Members.get?_insert _ _ _ _).trans (if_pos rfl)), ih]
  | item found _ ih => rw [coerce, coerce, coerceItems_set found ih]
  | single one below ih =>
      rw [coerce_list_single one, coerce_list_single (below.isSingle one), ih]

/-- What members that are given for an input object come to. -/
theorem Becomes.filled {name : String} {required : Bool} (body : s.body? name = some (.input fields))
    (h : Becomes s (.named name required) (.object members) r) :
    ∃ results, r = .object results ∧ Filled s members fields results := by
  cases h with
  | scalar body' => rw [body] at body'; cases body'
  | enum body' => rw [body] at body'; cases body'
  | input body' known order present provided lacking =>
      rw [body] at body'
      cases body'
      exact ⟨_, rfl, order, present, provided, lacking⟩

/-- Members that come to the same, whether a default is left out or spelled out. -/
theorem Filled.conforms_default {results : Json.Members} (hf : f ∈ fields)
    (has : f.default? = some default) (lacks : members.get? f.name = none)
    (h : Filled s members fields results)
    (h' : Filled s (members.insert f.name default.constant) fields results) :
    Conforms s f.type default.constant := by
  have hresult : results.get? f.name = some default.constant := by
    rw [(h.lacking f hf lacks).2, has]
    rfl
  have hprovided : (members.insert f.name default.constant).get? f.name = some default.constant :=
    (Json.Members.get?_insert _ _ _ _).trans (if_pos rfl)
  exact (h'.provided f hf _ _ hprovided hresult).conforms_self

/-- Members that come to the same, with two values for one of them, have these come to the same. -/
theorem Filled.becomes_both {results : Json.Members} (hf : f ∈ fields)
    (found : members.get? f.name = some v) (h : Filled s members fields results)
    (h' : Filled s (members.insert f.name v') fields results) :
    ∃ r, Becomes s f.type v r ∧ Becomes s f.type v' r := by
  obtain ⟨r, hr⟩ := h.present f hf v found
  have hprovided : (members.insert f.name v').get? f.name = some v' :=
    (Json.Members.get?_insert _ _ _ _).trans (if_pos rfl)
  exact ⟨r, h.provided f hf v r found hr, h'.provided f hf v' r hprovided hr⟩

/-- **Only a default that conforms to its type** can be left out or spelled out. -/
theorem Supplies.conforms (h : Supplies s field default type v v') (hv : Becomes s type v r)
    (hv' : Becomes s type v' r) : Conforms s field default.constant := by
  induction h generalizing r with
  | here body declared htype has lacks =>
      obtain ⟨results, rfl, hfilled⟩ := hv.filled body
      obtain ⟨_, ⟨⟩, hfilled'⟩ := hv'.filled body
      exact htype ▸ hfilled.conforms_default declared has lacks hfilled'
  | member body declared found _ ih =>
      obtain ⟨results, rfl, hfilled⟩ := hv.filled body
      obtain ⟨_, ⟨⟩, hfilled'⟩ := hv'.filled body
      obtain ⟨r, hr, hr'⟩ := hfilled.becomes_both declared found hfilled'
      exact ih hr hr'
  | @item _ _ items i v v' found _ ih =>
      cases hv with
      | single one => exact absurd rfl (one.2 _)
      | @list _ _ _ results length below =>
          cases hv' with
          | single one => exact absurd rfl (one.2 _)
          | list length' below' =>
              have hi : i < items.length := (List.getElem?_eq_some_iff.mp found).1
              have hr := List.getElem?_eq_getElem (length ▸ hi)
              exact ih (below i _ _ found hr)
                (below' i _ _ (List.getElem?_set_self hi) hr)
  | single one hbelow ih =>
      cases hv with
      | null => exact absurd rfl one.1
      | list => exact absurd rfl (one.2 _)
      | single _ fits =>
          generalize hlist : Json.list [_] = result at hv'
          cases hv' with
          | null => cases hlist
          | list => exact absurd rfl ((hbelow.isSingle one).2 _)
          | single _ fits' =>
              cases hlist
              exact ih fits fits'

/-- An object is admitted with one more member, or another one, that is. -/
theorem Coercible.insert {name : String} {required : Bool} (distinct : s.HasDistinctFields)
    (body : s.body? name = some (.input fields)) (hf : f ∈ fields) (hv : Coercible s f.type v)
    (h : Coercible s (.named name required) (.object members)) :
    Coercible s (.named name required) (.object (members.insert f.name v)) := by
  obtain ⟨_, ⟨⟩, known, provided, lacking⟩ := h.of_input body Json.noConfusion
  refine .input body (fun m hm => ?_) (fun g hg w hw => ?_) fun g hg hnone => ?_
  · have hfound : (members.insert f.name v).get? m.1 ≠ none := fun hnone =>
      Json.Members.get?_eq_none.mp hnone (List.mem_map_of_mem hm)
    rw [Json.Members.get?_insert] at hfound
    split at hfound
    · exact ⟨f, hf, ‹_›⟩
    · obtain ⟨w, hw⟩ := Option.ne_none_iff_exists'.mp hfound
      exact known (m.1, w) (Json.Members.mem_of_get? hw)
  · rw [Json.Members.get?_insert] at hw
    split at hw
    · rename_i hname
      obtain rfl : f = g := List.inj_on_of_nodup_map (distinct _ _ body) hf hg hname
      cases hw
      exact hv
    · exact provided g hg w hw
  · rw [Json.Members.get?_insert] at hnone
    split at hnone
    · cases hnone
    · exact lacking g hg hnone

/-- A value that is admitted stays so with a default that is. -/
theorem Supplies.coercible (distinct : s.HasDistinctFields)
    (hdefault : Coercible s field default.constant) (h : Supplies s field default type v v')
    (hv : Coercible s type v) : Coercible s type v' := by
  induction h with
  | here body declared htype => exact .insert distinct body declared (htype ▸ hdefault) hv
  | member body declared found _ ih =>
      obtain ⟨_, ⟨⟩, -, provided, -⟩ := hv.of_input body Json.noConfusion
      exact .insert distinct body declared (ih (provided _ declared _ found)) hv
  | item found _ ih =>
      cases hv with
      | single one => exact absurd rfl (one.2 _)
      | list below =>
          refine .list fun w hw => ?_
          rcases List.mem_or_eq_of_mem_set hw with hw | rfl
          · exact below w hw
          · exact ih (below _ (List.mem_of_getElem? found))
  | single one hbelow ih =>
      cases hv with
      | null => exact absurd rfl one.1
      | list => exact absurd rfl (one.2 _)
      | single _ fits => exact .single (hbelow.isSingle one) (ih fits)

/-! ### Requests -/

/-- The second request spells out a default that the first leaves out: that of a variable, or that
of a field inside the value of one. -/
inductive RequestSupplies (s : Schema) (field : TypeRef) (default : Value)
    (definitions : List VariableDefinition) : Json.Members → Json.Members → Prop where
  | omitted {values : Json.Members} {d : VariableDefinition} (declared : d ∈ definitions)
      (type : d.type = field) (has : d.default?.map (·.node) = some default)
      (lacks : values.get? d.name = none) :
      RequestSupplies s field default definitions values (values.insert d.name default.constant)
  | inside {values : Json.Members} {d : VariableDefinition} {v v' : Json}
      (declared : d ∈ definitions) (found : values.get? d.name = some v)
      (below : Supplies s field default d.type v v') :
      RequestSupplies s field default definitions values (values.insert d.name v')

variable {α : Type} {o : Operation α} {values values' : Json.Members}

theorem RequestSupplies.ofRequest_eq (distinct : s.HasDistinctFields)
    (names : (o.variableDefinitions.map (·.name)).Nodup)
    (hdefault : Conforms s field default.constant)
    (h : RequestSupplies s field default o.variableDefinitions values values') :
    ofRequest s o values' = ofRequest s o values := by
  have hnames : ((o.variableDefinitions.map fieldOf).map (·.name)).Nodup := by rwa [List.map_map]
  rw [ofRequest, ofRequest, coerceAll_eq, coerceAll_eq]
  cases h with
  | @omitted d declared htype has lacks =>
      refine coerceFields_insert (f := fieldOf d) hnames (List.mem_map_of_mem declared) ?_ []
      rw [entryOf_of_default (f := fieldOf d) lacks has,
        entryOf_of_get? ((Json.Members.get?_insert _ _ _ _).trans (if_pos rfl)),
        show (fieldOf d).type = field from htype, coerce_of_conforms distinct hdefault]
      rfl
  | @inside d v v' declared found below =>
      refine coerceFields_insert (f := fieldOf d) hnames (List.mem_map_of_mem declared) ?_ []
      rw [entryOf_of_get? (f := fieldOf d) found,
        entryOf_of_get? ((Json.Members.get?_insert _ _ _ _).trans (if_pos rfl))]
      exact congrArg _ (below.coerce_eq distinct hdefault _)

theorem RequestSupplies.conforms (distinct : s.HasDistinctFields)
    (names : (o.variableDefinitions.map (·.name)).Nodup)
    (h : RequestSupplies s field default o.variableDefinitions values values')
    {results : Json.Members} (hr : ofRequest s o values = .ok results)
    (hr' : ofRequest s o values' = .ok results) : Conforms s field default.constant := by
  have hfilled := ofRequest_filled distinct names hr
  have hfilled' := ofRequest_filled distinct names hr'
  cases h with
  | @omitted d declared htype has lacks =>
      exact htype ▸ hfilled.conforms_default (f := fieldOf d) (List.mem_map_of_mem declared) has
        lacks hfilled'
  | @inside d v v' declared found below =>
      obtain ⟨r, hv, hv'⟩ := hfilled.becomes_both (f := fieldOf d) (List.mem_map_of_mem declared)
        found hfilled'
      exact below.conforms hv hv'

/-- A request stays accepted with a default that is admitted. -/
theorem RequestSupplies.accepted (distinct : s.HasDistinctFields)
    (names : (o.variableDefinitions.map (·.name)).Nodup)
    (hdefault : Coercible s field default.constant)
    (h : RequestSupplies s field default o.variableDefinitions values values')
    {results : Json.Members} (hr : ofRequest s o values = .ok results) :
    ∃ results', ofRequest s o values' = .ok results' := by
  have hfilled := ofRequest_filled distinct names hr
  have admits {d : VariableDefinition} (hd : d ∈ o.variableDefinitions) {v : Json}
      (hv : Coercible s d.type v) :
      ∀ g ∈ o.variableDefinitions, Admits s (values.insert d.name v) (fieldOf g) := by
    intro g hg
    have hadmits := hfilled.admits (List.mem_map_of_mem (f := fieldOf) hg)
    by_cases hname : d.name = g.name
    · obtain rfl : d = g := List.inj_on_of_nodup_map names hd hg hname
      have hget : (values.insert d.name v).get? d.name = some v :=
        (Json.Members.get?_insert _ _ _ _).trans (if_pos rfl)
      exact ⟨fun w hw => Option.some_inj.mp (hget.symm.trans hw) ▸ hv,
        fun hnone => nomatch hget.symm.trans hnone⟩
    · have hget : (values.insert d.name v).get? (fieldOf g).name = values.get? (fieldOf g).name :=
        (Json.Members.get?_insert _ _ _ _).trans (if_neg hname)
      exact ⟨fun w hw => hadmits.provided w (hget ▸ hw), fun hnone => hadmits.lacking (hget ▸ hnone)⟩
  cases h with
  | omitted declared htype => exact exists_ofRequest distinct (admits declared (htype ▸ hdefault))
  | @inside d v v' declared found below =>
      have hv := (hfilled.admits (List.mem_map_of_mem (f := fieldOf) declared)).provided v found
      exact exists_ofRequest distinct (admits declared (below.coercible distinct hdefault hv))

/-- **Spelling out a default.**  It changes nothing if the default conforms to its type, and it
changes what an accepted request gives if the default does not. -/
theorem ofRequest_supplied (distinct : s.HasDistinctFields)
    (names : (o.variableDefinitions.map (·.name)).Nodup)
    (h : RequestSupplies s field default o.variableDefinitions values values') :
    (Conforms s field default.constant → ofRequest s o values' = ofRequest s o values) ∧
      ∀ results, ofRequest s o values = .ok results →
        (ofRequest s o values' = .ok results ↔ Conforms s field default.constant) ∧
        (s.HasInputFields → s.IsInput field → default.IsPlain →
          (∃ place, checkValue s [] field place default = []) →
          ∃ results', ofRequest s o values' = .ok results') := by
  refine ⟨fun hdefault => h.ofRequest_eq distinct names hdefault, fun results hr => ⟨⟨fun hr' => ?_,
    fun hdefault => ?_⟩, fun known input plain ⟨place, hcheck⟩ => ?_⟩⟩
  · exact h.conforms distinct names hr hr'
  · rw [h.ofRequest_eq distinct names hdefault, hr]
  · exact h.accepted distinct names (coercible_of_check distinct known input plain hcheck) hr

/-- A variable for some pages. -/
def pages : VariableDefinition where
  name := "p"
  type := .list (.named "Paging" true) false
  default? := none
  directives := []
  place := 0

/-- A page in place of a list of pages, whose offset is left out or spelled out: it conforms to its
type, so the request comes to the same. -/
theorem ofRequest_supplied_paging :
    let o : Operation Unit := ⟨.query, none, [pages], [], [], 0⟩
    let page : Json.Members := [("sizes", .int 5)]
    RequestSupplies paging (.named "Int" true) (.int "0") o.variableDefinitions
        [("p", .object page)] [("p", .object (page ++ [("offset", .int 0)]))] ∧
      ofRequest paging o [("p", .object (page ++ [("offset", .int 0)]))]
        = ofRequest paging o [("p", .object page)] := by
  intro o page
  have hsupplies : RequestSupplies paging (.named "Int" true) (.int "0") o.variableDefinitions
      [("p", .object page)] [("p", .object (page ++ [("offset", .int 0)]))] :=
    .inside (d := pages) List.mem_cons_self rfl
      (.single ⟨Json.noConfusion, fun _ => Json.noConfusion⟩
        (.here (f := { name := "offset", type := .named "Int" true, default? := some (.int "0") })
          rfl List.mem_cons_self rfl rfl rfl))
  have hzero : Conforms paging (.named "Int" true) (Value.int "0").constant :=
    .scalar rfl Json.noConfusion ⟨0, rfl, by decide⟩
  exact ⟨hsupplies, (ofRequest_supplied paging_distinct (by decide) hsupplies).1 hzero⟩

open OneField in
/-- A variable for a list of integers, with a single integer for its default: the request that leaves
it out comes to that integer, and the request that spells it out to a list of it. -/
theorem ofRequest_not_supplied :
    let declared := [variable' (some ⟨.int "1", 4⟩)]
    validate (schema numbers) (definitions declared (.variable "v"))
        = .ok (document numbers declared (.variable "v")) ∧
      query numbers declared (.variable "v")
        ∈ (document numbers declared (.variable "v")).allOperations ∧
      (query numbers declared (.variable "v")).variableDefinitions = declared ∧
      ofRequest (schema numbers) (query numbers declared (.variable "v")) [] = .ok [("v", .int 1)] ∧
      ofRequest (schema numbers) (query numbers declared (.variable "v"))
          [("v", (Value.int "1").constant)] = .ok [("v", .list [.int 1])] ∧
      [("v", Json.int 1)] ≠ [("v", .list [.int 1])] :=
  ⟨rfl, List.mem_cons_self, rfl, rfl, rfl, by simp⟩

end GraphServe.Variables
