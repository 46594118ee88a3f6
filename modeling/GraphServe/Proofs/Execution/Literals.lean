import GraphServe.Proofs.Document.Declared
import GraphServe.Proofs.Execution.Coercibility
import GraphServe.Validation.Document

/-!
# Literals — their JSON and their types

The JSON of a literal depends on the variables in it only (`Value.toJson_congr`), so a literal
without variables has the JSON of a constant.  That of an object has a member for each field that is
not a variable without value (`Value.get?_fieldsToJson`).

**Valid literals are admitted** (`Variables.coercible_of_check`).  A literal that the document may
have at a type of input stands for JSON that the type admits as the value of a variable, if the
literal is *plain* (`Value.IsPlain`): its integers have sixty-four bits, its other numbers are within
the range of doubles, and its objects give each field once.
-/

namespace GraphServe

namespace Document.Value

/-- Induction on literals: the items of a list and the values of fields are the smaller ones. -/
theorem induct {P : Value → Prop} (null : P null) (bool : ∀ b, P (bool b)) (int : ∀ t, P (int t))
    (float : ∀ t, P (float t)) (string : ∀ t, P (string t)) (enum : ∀ name, P (enum name))
    (variable' : ∀ name, P (.variable name))
    (list : ∀ items : List (Located Value), (∀ item ∈ items, P item.node) → P (list items))
    (object : ∀ fields : List (String × Located Value), (∀ f ∈ fields, P f.2.node) →
      P (object fields)) (v : Value) : P v :=
  Value.rec (motive_1 := P) (motive_2 := fun items => ∀ item ∈ items, P item.node)
    (motive_3 := fun fields => ∀ f ∈ fields, P f.2.node) (motive_4 := fun item => P item.node)
    (motive_5 := fun f => P f.2.node)
    null bool int float string enum variable' list object
    (fun _ h => nomatch h)
    (fun _ _ first rest v hv => (List.mem_cons.mp hv).elim (· ▸ first) (rest v))
    (fun _ h => nomatch h)
    (fun _ _ first rest f hf => (List.mem_cons.mp hf).elim (· ▸ first) (rest f))
    (fun _ _ node => node) (fun _ _ value => value) v

variable {values values' : Json.Members} {v : Value} {items : List (Located Value)}
  {fields : List (String × Located Value)}

/-! ### JSON -/

theorem itemsToJson_eq (values : Json.Members) (items : List (Located Value)) :
    itemsToJson values items = items.map fun item => toJson values item.node := by
  induction items with
  | nil => rw [itemsToJson]; rfl
  | cons item items ih => rw [itemsToJson, ih]; rfl

/-- The members of an object with one more field. -/
def withField (values : Json.Members) (done : Json.Members) (f : String × Located Value) :
    Json.Members :=
  if f.2.node.isMissing values then done else done.insert f.1 (toJson values f.2.node)

theorem fieldsToJson_eq (values done : Json.Members) (fields : List (String × Located Value)) :
    fieldsToJson values done fields = fields.foldl (withField values) done := by
  induction fields generalizing done with
  | nil => rw [fieldsToJson]; rfl
  | cons f fields ih =>
      rw [fieldsToJson, List.foldl_cons, ← ih, withField]
      split <;> rfl

theorem variablesOfItems_eq (items : List (Located Value)) :
    variablesOfItems items = items.flatMap (·.node.variableNames) := by
  induction items with
  | nil => rw [variablesOfItems]; rfl
  | cons item items ih => rw [variablesOfItems, ih]; rfl

theorem variablesOfFields_eq (fields : List (String × Located Value)) :
    variablesOfFields fields = fields.flatMap (·.2.node.variableNames) := by
  induction fields with
  | nil => rw [variablesOfFields]; rfl
  | cons f fields ih => rw [variablesOfFields, ih]; rfl

theorem isMissing_congr (h : ∀ name ∈ v.variableNames, values.get? name = values'.get? name) :
    v.isMissing values = v.isMissing values' := by
  match v with
  | .variable name =>
      rw [isMissing, isMissing, Json.Members.contains, Json.Members.contains,
        h name (by rw [variableNames]; exact List.mem_singleton_self name)]
  | .null | .bool _ | .int _ | .float _ | .string _ | .enum _ | .list _ | .object _ => rfl

/-- The JSON of a literal depends on the variables in it. -/
theorem toJson_congr (h : ∀ name ∈ v.variableNames, values.get? name = values'.get? name) :
    v.toJson values = v.toJson values' := by
  induction v using induct with
  | variable' name =>
      rw [toJson, toJson, h name (by rw [variableNames]; exact List.mem_singleton_self name)]
  | list items ih =>
      rw [variableNames, variablesOfItems_eq] at h
      rw [toJson, toJson, itemsToJson_eq, itemsToJson_eq]
      refine congrArg _ (List.map_congr_left fun item hitem => ih item hitem fun name hname => ?_)
      exact h name (List.mem_flatMap.mpr ⟨item, hitem, hname⟩)
  | object fields ih =>
      rw [variableNames, variablesOfFields_eq] at h
      rw [toJson, toJson, fieldsToJson_eq, fieldsToJson_eq]
      refine congrArg _ (List.foldl_ext _ _ _ fun done f hf => ?_)
      have hsame : ∀ name ∈ f.2.node.variableNames, values.get? name = values'.get? name :=
        fun name hname => h name (List.mem_flatMap.mpr ⟨f, hf, hname⟩)
      rw [withField, withField, isMissing_congr hsame, ih f hf hsame]
  | _ => rw [toJson, toJson]

/-- A literal without variables is a constant. -/
theorem toJson_constant (h : v.variableNames = []) (values : Json.Members) :
    v.toJson values = v.constant :=
  toJson_congr fun _ hname => absurd (h ▸ hname) List.not_mem_nil

/-- What a literal gives for a field: nothing, if it is a variable without value. -/
def valueOf (values : Json.Members) (item : Located Value) : Option Json :=
  if item.node.isMissing values then none else some (toJson values item.node)

/-- The members of a literal whose fields have names of their own. -/
theorem get?_fieldsToJson (distinct : (fields.map Prod.fst).Nodup) (done : Json.Members)
    (key : String) : (fieldsToJson values done fields).get? key
      = ((fields.lookup key).bind (valueOf values)).or (done.get? key) := by
  induction fields generalizing done with
  | nil => rw [fieldsToJson]; rfl
  | cons f fields ih =>
      obtain ⟨name, item⟩ := f
      obtain ⟨hnew, hdistinct⟩ := List.nodup_cons.mp distinct
      have hnone : fields.lookup name = none := by
        refine List.lookup_eq_none_iff.mpr fun f hf => ?_
        exact bne_iff_ne.mpr fun heq => hnew (List.mem_map.mpr ⟨f, hf, heq.symm⟩)
      rw [fieldsToJson_eq, List.foldl_cons, ← fieldsToJson_eq, ih hdistinct, List.lookup_cons,
        withField]
      by_cases hname : key = name
      · subst hname
        rw [hnone, beq_self_eq_true, Option.bind_some, valueOf]
        split
        · rfl
        · rw [Json.Members.get?_insert, if_pos rfl]
          rfl
      · rw [beq_false_of_ne hname]
        split
        · rfl
        · rw [Json.Members.get?_insert, if_neg (Ne.symm hname)]

/-- The members of a literal stand under the names of its fields. -/
theorem mem_keys_fieldsToJson {done : Json.Members} {m : String × Json}
    (h : m ∈ fieldsToJson values done fields) :
    m.1 ∈ done.map Prod.fst ∨ m.1 ∈ fields.map Prod.fst := by
  induction fields generalizing done with
  | nil =>
      rw [fieldsToJson] at h
      exact .inl (List.mem_map_of_mem h)
  | cons f fields ih =>
      rw [fieldsToJson_eq, List.foldl_cons, ← fieldsToJson_eq] at h
      rcases ih h with hdone | hmore
      · rw [withField] at hdone
        split at hdone
        · exact .inl hdone
        · by_cases hkey : m.1 = f.1
          · exact .inr (hkey ▸ List.mem_cons_self)
          · have hfound : (done.insert f.1 (toJson values f.2.node)).get? m.1 ≠ none :=
              fun hnone => Json.Members.get?_eq_none.mp hnone hdone
            rw [Json.Members.get?_insert, if_neg (Ne.symm hkey)] at hfound
            exact .inl (not_imp_comm.mp Json.Members.get?_eq_none.mpr hfound)
      · exact .inr (List.mem_cons_of_mem _ hmore)

/-- A literal without variables whose JSON keeps what it spells. -/
inductive IsPlain : Value → Prop where
  | null : IsPlain .null
  | bool (b : Bool) : IsPlain (.bool b)
  | int {text : String} {n : Int} (fits : Json.ofNumberText text = .int n) : IsPlain (.int text)
  | float {text : String} (fits : Json.ofNumberText text ≠ .null) : IsPlain (.float text)
  | string (s : String) : IsPlain (.string s)
  | enum (name : String) : IsPlain (.enum name)
  | list {items : List (Located Value)} (below : ∀ item ∈ items, IsPlain item.node) :
      IsPlain (.list items)
  | object {fields : List (String × Located Value)} (distinct : (fields.map Prod.fst).Nodup)
      (below : ∀ f ∈ fields, IsPlain f.2.node) : IsPlain (.object fields)

/-- A plain literal is no variable. -/
theorem IsPlain.isMissing_eq (h : IsPlain v) (values : Json.Members) :
    v.isMissing values = false := by
  cases h <;> rfl

end Document.Value

open Document Validation

/-- The named type inside a type is there, and for input. -/
def Schema.IsInput (s : Schema) (type : TypeRef) : Prop :=
  ∃ t, s.type? type.innerName = some t ∧ t.isInput = true

/-- The fields of every input type are of types of input that are there. -/
def Schema.HasInputFields (s : Schema) : Prop :=
  ∀ name fields, s.body? name = some (.input fields) → ∀ f ∈ fields, s.IsInput f.type

namespace Variables

variable {s : Schema} {declared : List VariableDefinition} {place : Nat} {t : TypeDefinition}
  {type : TypeRef} {v : Json} {l : Value}

/-! ### Valid literals -/

/-- A single value stands for a list of one, at every depth of the type. -/
theorem Coercible.wrap (one : v.IsSingle)
    (h : ∀ required, Coercible s (.named type.innerName required) v) : Coercible s type v := by
  induction type with
  | named name required => exact h required
  | list item required ih => exact .single one (ih h)

theorem body_of_custom (h : isCustomScalar t = true) : t.body = .scalar := by
  rw [isCustomScalar] at h
  split at h
  · assumption
  · cases h

/-- A scalar of a name of its own takes any value. -/
theorem isOfScalar_of_custom (h : isCustomScalar t = true) (v : Json) : IsOfScalar t.name v := by
  have hname : Builtin.isScalar t.name = false := by
    rw [isCustomScalar] at h
    split at h
    · simpa using h
    · cases h
  have hnames : t.name ≠ "Int" ∧ t.name ≠ "Float" ∧ t.name ≠ "String" ∧ t.name ≠ "Boolean" ∧
      t.name ≠ "ID" := by
    refine ⟨?_, ?_, ?_, ?_, ?_⟩ <;>
    · intro heq
      rw [heq] at hname
      exact absurd hname (by decide)
  obtain ⟨hint, hfloat, hstring, hboolean, hid⟩ := hnames
  rw [IsOfScalar, if_neg hint, if_neg hfloat, if_neg hstring, if_neg hboolean, if_neg hid]
  trivial

/-- A scalar of a name of its own takes any value but `null`. -/
theorem coercible_of_custom (ht : s.type? type.innerName = some t) (h : isCustomScalar t = true)
    (present : v ≠ .null) (required : Bool) : Coercible s (.named type.innerName required) v := by
  have hbody : s.body? type.innerName = some .scalar := by
    rw [Schema.body?, ht, Option.map_some, body_of_custom h]
  exact .scalar hbody present ((Schema.type?_some ht).2 ▸ isOfScalar_of_custom h v)

theorem ofNumberText_eq {text : String} {n : Int} (h : Json.ofNumberText text = .int n) :
    n = NumberLiteral.intOf text.toList := by
  unfold Json.ofNumberText at h
  dsimp only at h
  split_ifs at h
  exact (Json.int.inj h).symm

/-- The JSON of a number that is not `null` is a number. -/
theorem kind_ofNumberText {text : String} (h : Json.ofNumberText text ≠ .null) :
    (Json.ofNumberText text).kind = .int ∨ (Json.ofNumberText text).kind = .float := by
  unfold Json.ofNumberText at h ⊢
  dsimp only at h ⊢
  split_ifs at h ⊢
  · exact .inl rfl
  · exact .inr rfl
  · exact absurd rfl h

/-- A valid literal at an enum names a member. -/
theorem isMemberOf_of_check {values : List EnumValue} (hbody : t.body = .enum values)
    (present : l ≠ .null) (h : scalarProblem? t type l = none) : IsMemberOf values l.constant := by
  cases l with
  | null => exact absurd rfl present
  | enum name =>
      simp only [scalarProblem?, hbody] at h
      split at h
      · rename_i hany
        obtain ⟨m, hm, hname⟩ := List.any_eq_true.mp hany
        exact ⟨m, hm, by rw [of_decide_eq_true hname]; rfl⟩
      · cases h
  | _ => simp [scalarProblem?, hbody] at h

/-- A valid literal without parts at a scalar is one of it. -/
theorem isOfScalar_of_check (hbody : t.body = .scalar) (plain : l.IsPlain) (present : l ≠ .null)
    (h : scalarProblem? t type l = none) : IsOfScalar t.name l.constant ∧ l.constant ≠ .null := by
  have custom (hcustom : isCustomScalar t = true) (v : Json) : IsOfScalar t.name v :=
    isOfScalar_of_custom hcustom v
  cases plain with
  | null => exact absurd rfl present
  | bool b =>
      refine ⟨?_, Json.noConfusion⟩
      simp only [scalarProblem?, hbody, ite_eq_left_iff, reduceCtorEq, imp_false, not_not] at h
      rcases h with hname | hcustom
      · simp [IsOfScalar, hname, Value.constant, Value.toJson, Json.kind]
      · exact custom hcustom _
  | @int text n fits =>
      have hconstant : (Value.int text).constant = .int n := by rw [← fits]; rfl
      rw [hconstant]
      refine ⟨?_, Json.noConfusion⟩
      simp only [scalarProblem?, hbody] at h
      split_ifs at h with hint hrange hfloat hfinite hother
      · rw [fitsInt, Bool.and_eq_true, decide_eq_true_iff, decide_eq_true_iff,
          ← ofNumberText_eq fits] at hrange
        rw [IsOfScalar, if_pos hint]
        exact ⟨n, rfl, hrange⟩
      · simp [IsOfScalar, hfloat, Json.kind]
      · rcases hother with hid | hcustom
        · simp [IsOfScalar, hid, Json.kind]
        · exact custom hcustom _
  | @float text fits =>
      refine ⟨?_, fits⟩
      simp only [scalarProblem?, hbody] at h
      split_ifs at h with hfloat hfinite hcustom
      · have hkind := kind_ofNumberText fits
        rw [IsOfScalar, if_neg (by rw [hfloat]; decide), if_pos hfloat]
        exact hkind
      · exact custom hcustom _
  | string text =>
      refine ⟨?_, Json.noConfusion⟩
      simp only [scalarProblem?, hbody, ite_eq_left_iff, reduceCtorEq, imp_false, not_not] at h
      rcases h with hname | hname | hcustom
      · simp [IsOfScalar, hname, Value.constant, Value.toJson, Json.kind]
      · simp [IsOfScalar, hname, Value.constant, Value.toJson, Json.kind]
      · exact custom hcustom _
  | enum name =>
      refine ⟨?_, Json.noConfusion⟩
      simp only [scalarProblem?, hbody, ite_eq_left_iff, reduceCtorEq, imp_false, not_not] at h
      exact custom h _
  | list => simp [scalarProblem?] at h
  | object => simp [scalarProblem?] at h

/-- A valid literal without parts is admitted. -/
theorem coercible_of_scalarProblem (input : s.IsInput type) (plain : l.IsPlain)
    (present : l ≠ .null) (one : l.constant.IsSingle)
    (h : ∀ t, s.type? type.innerName = some t → scalarProblem? t type l = none) :
    Coercible s type l.constant := by
  obtain ⟨t, ht, hinput⟩ := input
  have h := h t ht
  obtain ⟨-, hname⟩ := Schema.type?_some ht
  have hbody : s.body? type.innerName = some t.body := by rw [Schema.body?, ht]; rfl
  refine .wrap one fun required => ?_
  rw [← hname] at hbody ⊢
  cases ht' : t.body with
  | scalar =>
      rw [ht'] at hbody
      exact .scalar hbody one.1 (isOfScalar_of_check ht' plain present h).1
  | enum values =>
      rw [ht'] at hbody
      exact .enum hbody (isMemberOf_of_check ht' present h)
  | input fields => cases l <;> simp_all [scalarProblem?]
  | _ => simp [TypeDefinition.isInput, ht'] at hinput

theorem checkItems_eq (type : TypeRef) (items : List (Located Value)) :
    checkItems s declared type items
      = items.flatMap fun item => checkValue s declared type item.place item.node := by
  induction items with
  | nil => rw [checkItems]; rfl
  | cons item items ih => rw [checkItems, ih]; rfl

/-- In a valid object whose fields have names of their own, each field is valid at its type. -/
theorem checkFields_nil {fields : List InputValue} {seen : List String}
    {given : List (String × Located Value)} (distinct : (given.map Prod.fst).Nodup)
    (new : ∀ g ∈ given, g.1 ∉ seen) (h : checkFields s declared fields seen given = [])
    {g : String × Located Value} (hg : g ∈ given) {f : InputValue}
    (hf : fields.find? (·.name = g.1) = some f) :
    checkValue s declared f.type g.2.place g.2.node = [] := by
  induction given generalizing seen with
  | nil => cases hg
  | cons head given ih =>
      obtain ⟨hhead, hdistinct⟩ := List.nodup_cons.mp distinct
      obtain ⟨hnew, hothers⟩ := List.forall_mem_cons.mp new
      rw [checkFields, List.append_eq_nil_iff] at h
      rcases List.mem_cons.mp hg with rfl | hg
      · have hfirst := h.1
        rw [hf] at hfirst
        simpa only [if_neg hnew] using hfirst
      · refine ih hdistinct (fun other hother hseen => ?_) h.2 hg
        rcases List.mem_cons.mp hseen with heq | hseen
        · exact hhead (heq ▸ List.mem_map_of_mem hother)
        · exact hothers other hother hseen

/-- A field that a valid object does not give may be lacking. -/
theorem mayLack_of_check {fields : List InputValue} {given : List (String × Located Value)}
    (hbody : t.body = .input fields) (h : missingFields t given = []) {f : InputValue}
    (hf : f ∈ fields) (hlacks : given.lookup f.name = none) : MayLack f := by
  have hnone : given.filter (·.1 = f.name) = [] := by
    refine List.filter_eq_nil_iff.mpr fun g hg heq => ?_
    have hne := List.lookup_eq_none_iff.mp hlacks g hg
    exact bne_iff_ne.mp hne (of_decide_eq_true heq).symm
  have hmissing := List.filterMap_eq_nil_iff.mp h f (by rw [inputFields, hbody]; exact hf)
  simp only [hnone, List.isEmpty_nil, Bool.not_true, Bool.false_and, Bool.not_false, Bool.and_true,
    ite_eq_right_iff, reduceCtorEq, imp_false, Bool.not_eq_true] at hmissing
  intro hdefault
  rw [InputValue.isRequired, hdefault, Option.isNone_none, Bool.and_true] at hmissing
  exact hmissing

/-- Where fields have names of their own, each is found under its name. -/
theorem find?_of_mem {fields : List InputValue} (distinct : (fields.map (·.name)).Nodup)
    {f : InputValue} (hf : f ∈ fields) : fields.find? (·.name = f.name) = some f := by
  induction fields with
  | nil => cases hf
  | cons head fields ih =>
      obtain ⟨hnew, hdistinct⟩ := List.nodup_cons.mp distinct
      rcases List.mem_cons.mp hf with rfl | hf
      · exact List.find?_cons_of_pos (decide_eq_true rfl)
      · have hother : head.name ≠ f.name := fun heq => hnew (List.mem_map.mpr ⟨f, hf, heq.symm⟩)
        rw [List.find?_cons_of_neg (by simpa using hother), ih hdistinct hf]

/-- The members of a valid object are those of an object of its type. -/
theorem coercible_of_checkFields (distinct : s.HasDistinctFields) {fields : List InputValue}
    {given : List (String × Located Value)} (ht : s.type? type.innerName = some t)
    (hbody : t.body = .input fields) (plain : (Value.object given).IsPlain)
    (hunknown : undefinedFieldOf t given = []) (hmissing : missingFields t given = [])
    (hvalues : ∀ f ∈ fields, ∀ item, (f.name, item) ∈ given →
      fields.find? (·.name = f.name) = some f → Coercible s f.type item.node.constant)
    (required : Bool) :
    Coercible s (.named type.innerName required) (Value.object given).constant := by
  have hinput : s.body? type.innerName = some (.input fields) := by
    rw [Schema.body?, ht]
    exact congrArg some hbody
  obtain ⟨names, below⟩ : (given.map Prod.fst).Nodup ∧ ∀ g ∈ given, g.2.node.IsPlain := by
    cases plain with
    | object names below => exact ⟨names, below⟩
  have hget (key : String) :
      (Value.fieldsToJson [] [] given).get? key = (given.lookup key).map (·.node.constant) := by
    rw [Value.get?_fieldsToJson names]
    cases hlookup : given.lookup key with
    | none => rfl
    | some item =>
        rw [Option.bind_some, Value.valueOf, (below _ (mem_of_lookup hlookup)).isMissing_eq]
        rfl
  have hconstant : (Value.object given).constant = .object (Value.fieldsToJson [] [] given) := by
    rw [Value.constant, Value.toJson]
  rw [hconstant]
  refine .input hinput (fun m hm => ?_) (fun f hf v hv => ?_) fun f hf hnone => ?_
  · obtain hdone | hkey := Value.mem_keys_fieldsToJson hm
    · cases hdone
    · obtain ⟨g, hg, hname⟩ := List.mem_map.mp hkey
      rw [undefinedFieldOf] at hunknown
      split at hunknown
      · rename_i hfound
        have hany := List.find?_eq_none.mp hfound g hg
        rw [inputFields, hbody, Bool.not_eq_true, Bool.not_eq_false'] at hany
        obtain ⟨f, hf, heq⟩ := List.any_eq_true.mp hany
        exact ⟨f, hf, (of_decide_eq_true heq).trans hname⟩
      · cases hunknown
  · rw [hget] at hv
    obtain ⟨item, hlookup, rfl⟩ := Option.map_eq_some_iff.mp hv
    exact hvalues f hf item (mem_of_lookup hlookup) (find?_of_mem (distinct _ _ hinput) hf)
  · rw [hget] at hnone
    exact mayLack_of_check hbody hmissing hf (Option.map_eq_none_iff.mp hnone)

/-- The items of a valid list are those of a list of its type, or of a scalar that takes any value. -/
theorem coercible_of_checkItems (input : s.IsInput type) {items : List (Located Value)}
    (h : checkValue s declared type place (.list items) = [])
    (hitems : ∀ item ∈ items, ∀ type' place, s.IsInput type' →
      checkValue s declared type' place item.node = [] → Coercible s type' item.node.constant) :
    Coercible s type (Value.list items).constant := by
  obtain ⟨t, ht, hinput⟩ := input
  have hconstant : (Value.list items).constant
      = .list (items.map fun item => item.node.constant) := by
    rw [Value.constant, Value.toJson, Value.itemsToJson_eq]
    rfl
  simp only [checkValue, ht] at h
  rw [hconstant]
  split at h
  · cases h
  · rename_i hlist
    cases type with
    | list item required =>
        refine .list fun v hv => ?_
        obtain ⟨i, hi, rfl⟩ := List.mem_map.mp hv
        rw [checkItems_eq, List.flatMap_eq_nil_iff] at h
        exact hitems i hi item _ ⟨t, ht, hinput⟩ (h i hi)
    | named name required =>
        have hcustom : isCustomScalar t = true := by simpa [TypeRef.isList] using hlist
        have ht : s.type? (TypeRef.named name required).innerName = some t := ht
        exact coercible_of_custom ht hcustom Json.noConfusion _

/-- **Valid literals are admitted**: what a plain literal stands for is a value that the type admits
of a variable. -/
theorem coercible_of_check (distinct : s.HasDistinctFields) (known : s.HasInputFields)
    (input : s.IsInput type) (plain : l.IsPlain) (h : checkValue s declared type place l = []) :
    Coercible s type l.constant := by
  induction plain generalizing type place with
  | null =>
      obtain ⟨t, ht, -⟩ := input
      simp only [checkValue, ht, scalarProblem?] at h
      refine .null (Bool.eq_false_iff.mpr fun hrequired => ?_)
      simp [hrequired] at h
  | list _ ih => exact coercible_of_checkItems input h fun item hitem _ _ htype' h' => ih item hitem htype' h'
  | @object given names below ih =>
      obtain ⟨t, ht, hinput⟩ := input
      have one : (Value.object given).constant.IsSingle := ⟨Json.noConfusion, fun _ => Json.noConfusion⟩
      simp only [checkValue, ht] at h
      refine .wrap one fun required => ?_
      split at h
      · rename_i fields hbody
        rw [List.append_eq_nil_iff, List.append_eq_nil_iff, List.map_eq_nil_iff] at h
        obtain ⟨⟨hunknown, hmissing⟩, hfields⟩ := h
        refine coercible_of_checkFields distinct ht hbody (.object names below) hunknown hmissing
          (fun f hf item hitem hfound => ?_) required
        have hknown : s.IsInput f.type := known _ _ (by rw [Schema.body?, ht, Option.map_some, hbody]) f hf
        rw [inputFields, hbody] at hfields
        exact ih _ hitem hknown
          (checkFields_nil names (fun _ _ => List.not_mem_nil) hfields hitem hfound)
      · split at h
        · exact coercible_of_custom ht ‹_› one.1 required
        · cases h
  | @int text n fits =>
      have one : (Value.int text).constant.IsSingle := by
        rw [Value.constant, Value.toJson, fits]
        exact ⟨Json.noConfusion, fun _ => Json.noConfusion⟩
      exact coercible_of_scalarProblem input (.int fits) Value.noConfusion one fun t ht => by
        simpa [checkValue, ht] using h
  | @float text fits =>
      have one : (Value.float text).constant.IsSingle := by
        refine ⟨fits, fun items hitems => ?_⟩
        have hkind := kind_ofNumberText fits
        rw [show Json.ofNumberText text = .list items from hitems] at hkind
        rcases hkind with hkind | hkind <;> cases hkind
      exact coercible_of_scalarProblem input (.float fits) Value.noConfusion one fun t ht => by
        simpa [checkValue, ht] using h
  | bool b =>
      exact coercible_of_scalarProblem input (.bool b) Value.noConfusion
        ⟨Json.noConfusion, fun _ => Json.noConfusion⟩ fun t ht => by simpa [checkValue, ht] using h
  | string text =>
      exact coercible_of_scalarProblem input (.string text) Value.noConfusion
        ⟨Json.noConfusion, fun _ => Json.noConfusion⟩ fun t ht => by simpa [checkValue, ht] using h
  | enum name =>
      exact coercible_of_scalarProblem input (.enum name) Value.noConfusion
        ⟨Json.noConfusion, fun _ => Json.noConfusion⟩ fun t ht => by simpa [checkValue, ht] using h

end Variables

/-! ### One field with one argument -/

namespace OneField

/-- A field with one argument. -/
def field (argument : InputValue) : FieldDefinition :=
  { name := "f", arguments := [argument], type := .named "JSON" false }

/-- A schema with this field only. -/
def schema (argument : InputValue) : Schema where
  types := Builtin.introspectionTypes ++ [Builtin.intScalar, Builtin.stringScalar,
    Builtin.booleanScalar, ⟨"JSON", none, [], .scalar⟩,
    ⟨"Query", none, [], .object [] [field argument]⟩]
  directives := Builtin.directives
  query := some "Query"

/-- The field, selected with a value for the argument. -/
def head (value : Value) : FieldHead Unit := ⟨none, ⟨"f", 1⟩, [⟨"a", ⟨value, 3⟩, 2⟩], [], 1, ()⟩

/-- A query of the field with a value for the argument. -/
def definitions (declared : List VariableDefinition) (value : Value) : List Definition :=
  [.operation
    { type := .query, name := none, variableDefinitions := declared, directives := [], place := 0,
      selections := [.field (head value) []] }]

/-- The document of the query. -/
def document (argument : InputValue) (declared : List VariableDefinition) (value : Value) :
    Executable := (Executable.resolve (schema argument) (definitions declared value)).1

/-- The query. -/
def query (argument : InputValue) (declared : List VariableDefinition) (value : Value) :
    Operation FieldDefinition := (document argument declared value).anonymous.getD default

/-- The type of lists of integers. -/
def integers : TypeRef := .list (.named "Int" false) false

/-- An argument that is a list of integers. -/
def numbers : InputValue := { name := "a", type := integers }

/-- No type is for input objects. -/
theorem body?_schema (argument : InputValue) {name : String} {fields : List InputValue} :
    (schema argument).body? name ≠ some (.input fields) := by
  intro h
  obtain ⟨t, ht, hbody⟩ := Option.map_eq_some_iff.mp h
  have hall : (schema argument).types.all (·.isOutput) = true := rfl
  have houtput := List.all_eq_true.mp hall t (Schema.type?_some ht).1
  rw [TypeDefinition.isOutput, hbody] at houtput
  cases houtput

theorem distinct (argument : InputValue) : (schema argument).HasDistinctFields :=
  fun _ _ h => absurd h (body?_schema argument)

/-- A variable that is a list of integers. -/
def variable' (default? : Option (Located Value)) : VariableDefinition :=
  ⟨"v", integers, default?, [], 4⟩

end OneField

end GraphServe
