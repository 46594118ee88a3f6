import GraphServe.Execution.Variables
import GraphServe.Proofs.Execution.Coercibility

/-!
# Variables — coercion is exact

A value that a request provides for a variable is coerced exactly if its type admits it.

* `coerce_settles`: every coercion gives what the value becomes, or is an error at a fault, whose
  path begins with the path that the value was found at.  Each function of the coercion has a lemma
  that says the same of it (`coerceScalar_settles`, `coerceFields_settles`, `coerceItems_settles`).
* `coerceAll_eq`: the variables of an operation are coerced as the fields of an input object are.

**Exactness** (`ofRequest_exact`).  Coercion succeeds exactly with the values that the type admits;
what it gives conforms to the type and is not changed by coercing it again; and an error is at the
path, after `variable`, of a value that is at fault or of a required field that is lacking there.
-/

namespace GraphServe.Variables

open Document

variable {s : Schema}

/-- What is said of the coercion of a value found at a path: it gives what the value becomes, or it
is an error at the path of a fault. -/
inductive Settles (s : Schema) (type : TypeRef) (v : Json) (path : Path) : Except Error Json → Prop
    where
  | becomes {r : Json} (h : Becomes s type v r) : Settles s type v path (.ok r)
  | fault {e : Error} {rest : Path} (at_path : e.path = some (path ++ rest))
      (h : Fault s type v rest) : Settles s type v path (.error e)

theorem Settles.misfit {type : TypeRef} {v : Json} {path : Path} (h : Misfit s type v)
    (message : String) : Settles s type v path (.error (mismatch path message)) :=
  @Settles.fault s type v path _ [] (congrArg some (List.append_nil path).symm) (.here h)

/-! ### Named types -/

section Named

variable {name : String} {required : Bool} {v : Json} (path : Path)

theorem isSigned_iff (n : Int) : Word.isSigned 32 n = true ↔ -2147483648 ≤ n ∧ n < 2147483648 := by
  rw [Word.isSigned, Bool.and_eq_true, decide_eq_true_iff, decide_eq_true_iff]
  rfl

theorem coerceScalar_settles (body : s.body? name = some .scalar) (present : v ≠ .null) :
    Settles s (.named name required) v path (coerceScalar name v path) := by
  have fits (h : IsOfScalar name v) : Settles s (.named name required) v path (.ok v) :=
    .becomes (.scalar body present h)
  have unfit (h : ¬ IsOfScalar name v) (message : String) :
      Settles s (.named name required) v path (.error (mismatch path message)) :=
    .misfit (.scalar body present h) message
  have accept (p : Prop) [Decidable p] (h : IsOfScalar name v ↔ p) :
      Settles s (.named name required) v path
        (if (decide p) = true then .ok v else .error (otherKind path v name)) := by
    by_cases hp : p
    · rw [if_pos (decide_eq_true hp)]
      exact fits (h.mpr hp)
    · rw [if_neg (by simpa using hp)]
      exact unfit (fun hf => hp (h.mp hf)) _
  unfold coerceScalar
  by_cases hint : name = "Int"
  · rw [if_pos hint]
    have hiff : IsOfScalar name v ↔ ∃ n, v = .int n ∧ -2147483648 ≤ n ∧ n < 2147483648 := by
      rw [IsOfScalar, if_pos hint]
    split
    · next n =>
        by_cases hn : Word.isSigned 32 n = true
        · rw [if_pos hn]
          exact fits (hiff.mpr ⟨n, rfl, (isSigned_iff n).mp hn⟩)
        · rw [if_neg hn]
          have hunfit : ¬ IsOfScalar name (.int n) := fun hf => by
            obtain ⟨_, ⟨⟩, hrange⟩ := hiff.mp hf
            exact hn ((isSigned_iff n).mpr hrange)
          split
          · exact unfit hunfit _
          · exact unfit hunfit _
    · next hother =>
        exact unfit (fun hf => by
          obtain ⟨n, hv, -⟩ := hiff.mp hf
          exact hother n hv) _
  rw [if_neg hint]
  by_cases hfloat : name = "Float"
  · rw [if_pos hfloat]
    exact accept _ (by rw [IsOfScalar, if_neg hint, if_pos hfloat])
  rw [if_neg hfloat]
  by_cases hstring : name = "String"
  · rw [if_pos hstring]
    exact accept _ (by rw [IsOfScalar, if_neg hint, if_neg hfloat, if_pos hstring])
  rw [if_neg hstring]
  by_cases hbool : name = "Boolean"
  · rw [if_pos hbool]
    exact accept _ (by rw [IsOfScalar, if_neg hint, if_neg hfloat, if_neg hstring, if_pos hbool])
  rw [if_neg hbool]
  by_cases hid : name = "ID"
  · rw [if_pos hid]
    exact accept _ (by
      rw [IsOfScalar, if_neg hint, if_neg hfloat, if_neg hstring, if_neg hbool, if_pos hid])
  · rw [if_neg hid]
    exact fits (by
      rw [IsOfScalar, if_neg hint, if_neg hfloat, if_neg hstring, if_neg hbool, if_neg hid]
      trivial)

theorem coerceEnum_settles {values : List EnumValue} (body : s.body? name = some (.enum values))
    (present : v ≠ .null) :
    Settles s (.named name required) v path (coerceEnum name values v path) := by
  unfold coerceEnum
  split
  · next member =>
      split
      · next hany =>
          obtain ⟨m, hm, hname⟩ := List.any_eq_true.mp hany
          exact .becomes (.enum body ⟨m, hm, by rw [of_decide_eq_true hname]⟩)
      · next hany =>
          refine .misfit (.enum body present ?_) _
          rintro ⟨m, hm, ⟨⟩⟩
          exact hany (List.any_eq_true.mpr ⟨m, hm, decide_eq_true rfl⟩)
  · next hother =>
      refine .misfit (.enum body present ?_) _
      rintro ⟨m, -, hv⟩
      exact hother m.name hv

end Named

/-! ### Input objects -/

section Input

variable {members results : Json.Members} {field : InputValue} {fields : List InputValue}

/-- The members of an object come with their coercions. -/
theorem lookup_coerceMembers (key : String) :
    (coerceMembers s members).lookup key = (members.get? key).map (coerce s) := by
  induction members with
  | nil => rw [coerceMembers]; rfl
  | cons head rest ih =>
      obtain ⟨k, v⟩ := head
      rw [coerceMembers, List.lookup_cons, Json.Members.get?_cons, ih]
      by_cases hk : k = key
      · rw [if_pos hk, hk, beq_self_eq_true]
        rfl
      · rw [if_neg hk, beq_false_of_ne (Ne.symm hk)]

theorem coerceMembers_keys : (coerceMembers s members).map Prod.fst = members.map Prod.fst := by
  induction members with
  | nil => rw [coerceMembers]; rfl
  | cons head rest ih => rw [coerceMembers, List.map_cons, List.map_cons, ih]

/-- The members that come of some fields of an input type. -/
structure Filled (s : Schema) (members : Json.Members) (fields : List InputValue)
    (results : Json.Members) : Prop where
  order : List.Sublist (results.map Prod.fst) (fields.map (·.name))
  present : ∀ f ∈ fields, ∀ v, members.get? f.name = some v → ∃ r, results.get? f.name = some r
  provided : ∀ f ∈ fields, ∀ v r, members.get? f.name = some v →
    results.get? f.name = some r → Becomes s f.type v r
  lacking : ∀ f ∈ fields, members.get? f.name = none →
    MayLack f ∧ results.get? f.name = f.default?.map (·.constant)

/-- What comes of one field: what its member becomes, or its default. -/
structure Gives (s : Schema) (members : Json.Members) (field : InputValue) (entry : Option Json) :
    Prop where
  present : ∀ v, members.get? field.name = some v → ∃ r, entry = some r
  provided : ∀ v r, members.get? field.name = some v → entry = some r → Becomes s field.type v r
  lacking : members.get? field.name = none →
    MayLack field ∧ entry = field.default?.map (·.constant)

theorem Filled.nil : Filled s members [] [] where
  order := .slnil
  present := fun _ h => absurd h List.not_mem_nil
  provided := fun _ h => absurd h List.not_mem_nil
  lacking := fun _ h => absurd h List.not_mem_nil

theorem Filled.cons {entry : Option Json} (hentry : Gives s members field entry)
    (hnew : field.name ∉ fields.map (·.name)) (h : Filled s members fields results) :
    Filled s members (field :: fields) ((entry.map (field.name, ·)).toList ++ results) := by
  have here : Json.Members.get? ((entry.map (field.name, ·)).toList ++ results) field.name
      = entry := by
    cases entry with
    | some r => simp
    | none => exact Json.Members.get?_eq_none.mpr fun hmem => hnew (h.order.subset hmem)
  have below (f : InputValue) (hf : f ∈ fields) :
      Json.Members.get? ((entry.map (field.name, ·)).toList ++ results) f.name
        = results.get? f.name := by
    have hother : field.name ≠ f.name := fun he => hnew (he ▸ List.mem_map_of_mem hf)
    cases entry with
    | some r => simp [hother]
    | none => rfl
  refine ⟨?_, fun f hf => ?_, fun f hf => ?_, fun f hf => ?_⟩
  · cases entry with
    | some r => exact h.order.cons_cons _
    | none => exact h.order.cons _
  all_goals
    rcases List.mem_cons.mp hf with rfl | hf
  · rw [here]; exact hentry.present
  · rw [below f hf]; exact h.present f hf
  · rw [here]; exact hentry.provided
  · rw [below f hf]; exact h.provided f hf
  · rw [here]; exact hentry.lacking
  · rw [below f hf]; exact h.lacking f hf

/-- A field of an input type is lacking, or something is wrong with the member for it. -/
inductive FieldFault (s : Schema) (members : Json.Members) (fields : List InputValue) : Path → Prop
    where
  | lacking {field : InputValue} (declared : field ∈ fields)
      (lacks : members.get? field.name = none) (needed : ¬ MayLack field) :
      FieldFault s members fields [.key field.name]
  | member {field : InputValue} {v : Json} {path : Path} (declared : field ∈ fields)
      (found : members.get? field.name = some v) (below : Fault s field.type v path) :
      FieldFault s members fields (.key field.name :: path)

theorem FieldFault.cons {path : Path} (h : FieldFault s members fields path) :
    FieldFault s members (field :: fields) path := by
  cases h with
  | lacking declared lacks needed => exact .lacking (List.mem_cons_of_mem _ declared) lacks needed
  | member declared found below => exact .member (List.mem_cons_of_mem _ declared) found below

theorem FieldFault.fault {name : String} {required : Bool} {path : Path}
    (body : s.body? name = some (.input fields)) (h : FieldFault s members fields path) :
    Fault s (.named name required) (.object members) path := by
  cases h with
  | lacking declared lacks needed => exact .lacking body declared lacks needed
  | member declared found below => exact .member body declared found below

/-- Nothing is wrong with what members say of a field. -/
structure Admits (s : Schema) (members : Json.Members) (field : InputValue) : Prop where
  provided : ∀ v, members.get? field.name = some v → Coercible s field.type v
  lacking : members.get? field.name = none → MayLack field

theorem Gives.admits {entry : Option Json} (h : Gives s members field entry) :
    Admits s members field where
  provided := fun v hv => by
    obtain ⟨r, hr⟩ := h.present v hv
    exact (h.provided v r hv hr).coercible
  lacking := fun hnone => (h.lacking hnone).1

theorem FieldFault.not_admits {path : Path} (h : FieldFault s members fields path) :
    ¬ ∀ f ∈ fields, Admits s members f := by
  intro hall
  cases h with
  | lacking declared lacks needed => exact needed ((hall _ declared).lacking lacks)
  | member declared found below => exact below.not_coercible ((hall _ declared).provided _ found)

theorem FieldFault.addresses {path : Path} (h : FieldFault s members fields path) :
    (Json.object members).Addresses path := by
  cases h with
  | lacking _ lacks => exact .lacking lacks
  | member _ found below => exact below.addresses.below found

/-- Members with what comes of one more field. -/
def put (done : Json.Members) (field : InputValue) : Option Json → Json.Members
  | some r => done.insert field.name r
  | none   => done

theorem put_of_get? {done : Json.Members} (h : done.get? field.name = none) (entry : Option Json) :
    put done field entry = done ++ (entry.map (field.name, ·)).toList := by
  cases entry with
  | some r => exact Json.Members.insert_of_get? h r
  | none => exact (List.append_nil done).symm

theorem get?_put {done : Json.Members} {name : String} (hother : field.name ≠ name)
    (entry : Option Json) : (put done field entry).get? name = done.get? name := by
  cases entry with
  | some r => exact (Json.Members.get?_insert done _ r name).trans (if_neg hother)
  | none => rfl

/-- What is said of the coercion of fields, after members that are `done`.  What comes of fields
that have names of their own, none of them done, goes to the end. -/
inductive FieldsSettle (s : Schema) (members : Json.Members) (fields : List InputValue)
    (done : Json.Members) (path : Path) : Except Error Json.Members → Prop where
  | filled {results : Json.Members} (admits : ∀ f ∈ fields, Admits s members f)
      (h : (fields.map (·.name)).Nodup → (∀ f ∈ fields, done.get? f.name = none) →
        ∃ new, results = done ++ new ∧ Filled s members fields new) :
      FieldsSettle s members fields done path (.ok results)
  | fault {e : Error} {rest : Path} (at_path : e.path = some (path ++ rest))
      (h : FieldFault s members fields rest) : FieldsSettle s members fields done path (.error e)

theorem FieldsSettle.cons {done : Json.Members} {path : Path} {entry : Option Json}
    {r : Except Error Json.Members} (hentry : Gives s members field entry)
    (h : FieldsSettle s members fields (put done field entry) path r) :
    FieldsSettle s members (field :: fields) done path r := by
  cases h with
  | fault at_path h => exact .fault at_path h.cons
  | filled admits h =>
      refine .filled (List.forall_mem_cons.mpr ⟨hentry.admits, admits⟩) fun distinct hdone => ?_
      obtain ⟨hnew, hdistinct⟩ : field.name ∉ fields.map (·.name) ∧ (fields.map (·.name)).Nodup :=
        List.nodup_cons.mp distinct
      obtain ⟨hfield, hfields⟩ := List.forall_mem_cons.mp hdone
      obtain ⟨new, hr, hfilled⟩ := h hdistinct fun f hf =>
        (get?_put (fun he => hnew (he ▸ List.mem_map_of_mem hf)) entry).trans (hfields f hf)
      rw [put_of_get? hfield, List.append_assoc] at hr
      exact ⟨_, hr, hfilled.cons hentry hnew⟩

/-- Field by field: each has a member with a value that is settled, or a default, or nothing. -/
theorem coerceFields_settles (members : Json.Members) (fields : List InputValue) (hmembers : ∀ key v, members.get? key = some v → ∀ type path,
      Settles s type v path (coerce s v type path)) (path : Path) (done : Json.Members) :
    FieldsSettle s members fields done path
      (coerceFields (coerceMembers s members) path fields done) := by
  induction fields generalizing done with
  | nil => exact .filled (fun _ h => absurd h List.not_mem_nil) fun _ _ => ⟨[], by simp, .nil⟩
  | cons field fields ih =>
      unfold coerceFields
      rw [lookup_coerceMembers]
      cases hv : members.get? field.name with
      | some v =>
          dsimp only [Option.map_some]
          have hsettles := hmembers _ v hv field.type (path ++ [.key field.name])
          generalize coerce s v field.type (path ++ [.key field.name]) = r at hsettles ⊢
          cases hsettles with
          | @becomes r h =>
              have hentry : Gives s members field (some r) := by
                refine ⟨fun _ _ => ⟨r, rfl⟩, fun v' r' hv' hr => ?_, fun hnone => ?_⟩
                · cases hv.symm.trans hv'
                  cases hr
                  exact h
                · rw [hv] at hnone
                  cases hnone
              exact .cons hentry (ih _)
          | fault at_path h =>
              rw [List.append_assoc] at at_path
              exact .fault at_path (.member List.mem_cons_self hv h)
      | none =>
          have absent (v : Json) : members.get? field.name ≠ some v := by
            rw [hv]
            exact nofun
          have gives (hmay : MayLack field) :
              Gives s members field (field.default?.map (·.constant)) :=
            ⟨fun v h => absurd h (absent v), fun v _ h => absurd h (absent v), fun _ => ⟨hmay, rfl⟩⟩
          cases hdefault : field.default? with
          | some default =>
              have hentry := gives fun h => by rw [hdefault] at h; cases h
              rw [hdefault] at hentry
              exact .cons hentry (ih _)
          | none =>
              dsimp only [Option.map_none]
              split
              · next hrequired =>
                  refine .fault rfl (.lacking List.mem_cons_self hv fun hmay => ?_)
                  rw [hmay hdefault] at hrequired
                  cases hrequired
              · next hrequired =>
                  have hentry := gives fun _ => Bool.eq_false_iff.mpr hrequired
                  rw [hdefault] at hentry
                  exact .cons hentry (ih _)

/-- An object whose members' values are settled. -/
theorem coerceNamed_input_settles {name : String} {required : Bool} (path : Path)
    (hmembers : ∀ key v, members.get? key = some v → ∀ type path,
      Settles s type v path (coerce s v type path))
    (body : s.body? name = some (.input fields)) (distinct : (fields.map (·.name)).Nodup) :
    Settles s (.named name required) (.object members) path
      (coerceNamed s name (.object members) (coerceMembers s members) path) := by
  have hfields := coerceFields_settles members fields hmembers path []
  unfold coerceNamed
  rw [← Schema.body?, body]
  dsimp only
  cases hfind : (coerceMembers s members).find? fun m => !fields.any (·.name = m.1) with
  | some unknown =>
      obtain ⟨key, coerceMember⟩ := unknown
      have hmem : key ∈ members.map Prod.fst := by
        rw [← coerceMembers_keys (s := s)]
        exact List.mem_map_of_mem (List.mem_of_find?_eq_some hfind)
      obtain ⟨v, hv⟩ := Option.ne_none_iff_exists'.mp fun hnone =>
        Json.Members.get?_eq_none.mp hnone hmem
      refine .fault rfl (.unknown body hv fun f hf hname => ?_)
      have hnot := List.find?_some hfind
      simp only [Bool.not_eq_true', List.any_eq_false, decide_eq_true_eq] at hnot
      exact hnot f hf hname
  | none =>
      have known : AllKnown fields members := fun m hm => by
        have hkey : m.1 ∈ (coerceMembers s members).map Prod.fst := by
          rw [coerceMembers_keys]
          exact List.mem_map_of_mem hm
        obtain ⟨m', hm', hsame⟩ := List.mem_map.mp hkey
        have hany := List.find?_eq_none.mp hfind m' hm'
        simp only [Bool.not_eq_true', Bool.not_eq_false, List.any_eq_true, decide_eq_true_eq]
          at hany
        obtain ⟨f, hf, hname⟩ := hany
        exact ⟨f, hf, hname.trans hsame⟩
      dsimp only
      generalize coerceFields (coerceMembers s members) path fields [] = r at hfields ⊢
      cases hfields with
      | filled _ h =>
          obtain ⟨new, rfl, h⟩ := h distinct fun _ _ => rfl
          exact .becomes (.input body known h.order h.present h.provided h.lacking)
      | fault at_path h => exact .fault at_path (h.fault body)

end Input

/-! ### Values -/

/-- The coercions of the members of an object; no other value has members. -/
def memberCoercions (s : Schema) : Json → List (String × (TypeRef → Path → Except Error Json))
  | .object members => coerceMembers s members
  | _               => []

theorem coerce_single {v : Json} (h : v.IsSingle) (type : TypeRef) (path : Path) :
    coerce s v type path
      = (coerceNamed s type.innerName v (memberCoercions s v) path).map (wrap type) := by
  cases v with
  | null => exact absurd rfl h.1
  | list items => exact absurd rfl (h.2 items)
  | _ => unfold coerce; rfl

theorem coerce_named {v : Json} (present : v ≠ .null) (name : String) (required : Bool)
    (path : Path) :
    coerce s v (.named name required) path = coerceNamed s name v (memberCoercions s v) path := by
  cases v with
  | null => exact absurd rfl present
  | list items => unfold coerce; rfl
  | _ =>
      rw [coerce_single ⟨Json.noConfusion, fun _ => Json.noConfusion⟩]
      exact congrFun Except.map_id _

/-- What is said of the coercions of the members that a value has. -/
def MembersSettle (s : Schema) (v : Json) : Prop :=
  ∀ members, v = .object members → ∀ key w, Json.Members.get? members key = some w →
    ∀ type path, Settles s type w path (coerce s w type path)

theorem MembersSettle.of_other {v : Json} (h : ∀ members, v ≠ .object members) :
    MembersSettle s v := fun members hv => absurd hv (h members)

theorem coerceNamed_settles {v : Json} (distinct : s.HasDistinctFields) (present : v ≠ .null)
    (hmembers : MembersSettle s v) (name : String) (required : Bool) (path : Path) :
    Settles s (.named name required) v path
      (coerceNamed s name v (memberCoercions s v) path) := by
  cases hbody : s.body? name with
  | none =>
      unfold coerceNamed
      rw [← Schema.body?, hbody]
      exact .misfit (.foreign present (by simp [hbody]) (by simp [hbody]) (by simp [hbody])) _
  | some body =>
      cases body with
      | scalar =>
          unfold coerceNamed
          rw [← Schema.body?, hbody]
          exact coerceScalar_settles path hbody present
      | enum values =>
          unfold coerceNamed
          rw [← Schema.body?, hbody]
          exact coerceEnum_settles path hbody present
      | input fields =>
          by_cases hobject : ∃ members, v = .object members
          · obtain ⟨members, rfl⟩ := hobject
            exact coerceNamed_input_settles path (hmembers members rfl) hbody
              (distinct name fields hbody)
          · unfold coerceNamed
            rw [← Schema.body?, hbody]
            cases v with
            | object members => exact absurd ⟨members, rfl⟩ hobject
            | _ => exact .misfit (.input hbody present fun _ => Json.noConfusion) _
      | _ =>
          unfold coerceNamed
          rw [← Schema.body?, hbody]
          exact .misfit (.foreign present (by simp [hbody]) (by simp [hbody]) (by simp [hbody])) _

/-- A single value for a list is settled as its only item is, at every depth. -/
theorem Settles.wrap {v : Json} {path : Path} {r : Except Error Json} (one : v.IsSingle)
    {type : TypeRef} (h : ∀ required, Settles s (.named type.innerName required) v path r) :
    Settles s type v path (r.map (wrap type)) := by
  induction type with
  | named name required =>
      rw [show Variables.wrap (.named name required) = id from rfl, Except.map_id]
      exact h required
  | list item required ih =>
      have hitem := ih h
      cases r with
      | ok value =>
          cases hitem with
          | becomes hitem => exact .becomes (.single one hitem)
      | error e =>
          cases hitem with
          | fault at_path hitem => exact .fault at_path (.single one hitem)

/-- What is said of the coercion of items, from an index on. -/
inductive ItemsSettle (s : Schema) (type : TypeRef) (items : List Json) (path : Path) (i : Nat) :
    Except Error (List Json) → Prop where
  | becomes {results : List Json} (length : items.length = results.length)
      (below : ∀ (j : Nat) v r, items[j]? = some v → results[j]? = some r → Becomes s type v r) :
      ItemsSettle s type items path i (.ok results)
  | fault {e : Error} {j : Nat} {v : Json} {rest : Path} (found : items[j]? = some v)
      (at_path : e.path = some (path ++ .index (i + j) :: rest)) (h : Fault s type v rest) :
      ItemsSettle s type items path i (.error e)

theorem coerceItems_settles {items : List Json} {type : TypeRef} (path : Path) (i : Nat)
    (hitems : ∀ v ∈ items, ∀ path, Settles s type v path (coerce s v type path)) :
    ItemsSettle s type items path i (coerceItems s items type path i) := by
  induction items generalizing i with
  | nil =>
      unfold coerceItems
      exact .becomes rfl fun j v r h => by simp at h
  | cons item items ih =>
      have hfirst := hitems item List.mem_cons_self (path ++ [.index i])
      have hrest := ih (i + 1) fun v hv => hitems v (List.mem_cons_of_mem item hv)
      unfold coerceItems
      generalize coerce s item type (path ++ [.index i]) = first at hfirst ⊢
      generalize coerceItems s items type path (i + 1) = others at hrest ⊢
      cases hfirst with
      | fault at_path h =>
          rw [List.append_assoc] at at_path
          exact .fault (j := 0) rfl at_path h
      | becomes hfirst =>
          cases hrest with
          | fault found at_path h =>
              refine .fault (j := _ + 1) found ?_ h
              rw [at_path, Nat.add_right_comm, Nat.add_assoc]
          | becomes length below =>
              refine .becomes (congrArg (· + 1) length) fun j v r hv hr => ?_
              cases j with
              | zero =>
                  cases hv
                  cases hr
                  exact hfirst
              | succ j => exact below j v r hv hr

/-- **Coercion settles a value.**  By the shape of the value: the items of a list and the members
of an object are settled before it is. -/
theorem coerce_settles (distinct : s.HasDistinctFields) (v : Json) (type : TypeRef) (path : Path) :
    Settles s type v path (coerce s v type path) := by
  have single {v : Json} (one : v.IsSingle) (hmembers : MembersSettle s v) (type : TypeRef)
      (path : Path) : Settles s type v path (coerce s v type path) := by
    rw [coerce_single one]
    exact .wrap one fun required => coerceNamed_settles distinct one.1 hmembers _ required path
  induction v using Json.induct generalizing type path with
  | null =>
      unfold coerce
      split
      · next h => exact .misfit (.null h) _
      · next h => exact .becomes (.null (Bool.eq_false_iff.mpr h))
  | list items ih =>
      cases type with
      | named name required =>
          rw [coerce_named Json.noConfusion]
          exact coerceNamed_settles distinct Json.noConfusion (.of_other fun _ h => by cases h)
            name required path
      | list item required =>
          have hitems := coerceItems_settles path 0 fun v hv path => ih v hv item path
          unfold coerce
          generalize coerceItems s items item path 0 = r at hitems ⊢
          cases hitems with
          | becomes length below => exact .becomes (.list length below)
          | fault found at_path h =>
              rw [Nat.zero_add] at at_path
              exact .fault at_path (.item found h)
  | object members ih =>
      refine single ⟨Json.noConfusion, fun _ => Json.noConfusion⟩ ?_ type path
      rintro _ ⟨⟩ key w hw type path
      exact ih _ (Json.Members.mem_of_get? hw) type path
  | _ =>
      exact single ⟨Json.noConfusion, fun _ => Json.noConfusion⟩
        (.of_other fun _ h => by cases h) type path

/-! ### The variables of an operation -/

/-- A variable as a field of the object of all variables. -/
def fieldOf (definition : VariableDefinition) : InputValue :=
  { name := definition.name, type := definition.type, default? := definition.default?.map (·.node) }

/-- The variables of an operation are coerced as the fields of an input object are. -/
theorem coerceAll_eq (values : Json.Members) (definitions : List VariableDefinition)
    (done : Json.Members) :
    coerceAll s values definitions done
      = coerceFields (coerceMembers s values) [.key "variable"] (definitions.map fieldOf) done := by
  induction definitions generalizing done with
  | nil => rfl
  | cons definition definitions ih =>
      rw [coerceAll, List.map_cons, coerceFields, lookup_coerceMembers]
      simp only [ih, fieldOf]
      cases values.get? definition.name with
      | some value => rfl
      | none => cases definition.default? <;> rfl

theorem Filled.admits {members results : Json.Members} {fields : List InputValue}
    (h : Filled s members fields results) {f : InputValue} (hf : f ∈ fields) :
    Admits s members f where
  provided v hv := by
    obtain ⟨r, hr⟩ := h.present f hf v hv
    exact (h.provided f hf v r hv hr).coercible
  lacking hnone := (h.lacking f hf hnone).1

/-- What comes of the values of a request, variable by variable. -/
theorem ofRequest_filled {α : Type} (distinct : s.HasDistinctFields) {o : Operation α}
    (names : (o.variableDefinitions.map (·.name)).Nodup) {values r : Json.Members}
    (h : ofRequest s o values = .ok r) : Filled s values (o.variableDefinitions.map fieldOf) r := by
  have hsettles := coerceFields_settles values (o.variableDefinitions.map fieldOf)
    (fun _ v _ type path => coerce_settles distinct v type path) [.key "variable"] []
  rw [← coerceAll_eq, ← ofRequest, h] at hsettles
  cases hsettles with
  | filled _ hfilled =>
      obtain ⟨new, rfl, hnew⟩ := hfilled (by rwa [List.map_map]) fun _ _ => rfl
      exact hnew

/-- A request is accepted if nothing is wrong with what it says of each variable. -/
theorem exists_ofRequest {α : Type} (distinct : s.HasDistinctFields) {o : Operation α}
    {values : Json.Members} (h : ∀ d ∈ o.variableDefinitions, Admits s values (fieldOf d)) :
    ∃ r, ofRequest s o values = .ok r := by
  have hsettles := coerceFields_settles values (o.variableDefinitions.map fieldOf)
    (fun _ v _ type path => coerce_settles distinct v type path) [.key "variable"] []
  rw [← coerceAll_eq, ← ofRequest] at hsettles
  generalize ofRequest s o values = result at hsettles ⊢
  cases hsettles with
  | filled => exact ⟨_, rfl⟩
  | fault _ hfault => exact absurd (List.forall_mem_map.mpr h) hfault.not_admits

/-- The coercion of a value at a path is exact: it succeeds with what the type admits, gives what
the value becomes, which conforms to the type and is not changed again, and else says where the
fault is. -/
structure Exact (s : Schema) (type : TypeRef) (v : Json) (path : Path) : Prop where
  gives_iff : (∃ r, coerce s v type path = .ok r) ↔ Coercible s type v
  becomes : ∀ r, coerce s v type path = .ok r → Becomes s type v r
  conforms : ∀ r, coerce s v type path = .ok r → Conforms s type r
  again : ∀ r, coerce s v type path = .ok r → ∀ other, coerce s r type other = .ok r
  located : ∀ e, coerce s v type path = .error e →
    ∃ rest, e.path = some (path ++ rest) ∧ Fault s type v rest ∧ v.Addresses rest

/-- The coercion of the values of a request is exact, variable by variable. -/
structure RequestExact {α : Type} (s : Schema) (operation : Operation α) (values : Json.Members) :
    Prop where
  gives_iff : (∃ r, ofRequest s operation values = .ok r)
    ↔ ∀ definition ∈ operation.variableDefinitions, Admits s values (fieldOf definition)
  filled : ∀ r, ofRequest s operation values = .ok r →
    (operation.variableDefinitions.map (·.name)).Nodup →
      Filled s values (operation.variableDefinitions.map fieldOf) r
  located : ∀ e, ofRequest s operation values = .error e →
    ∃ rest, e.path = some (.key "variable" :: rest)
      ∧ FieldFault s values (operation.variableDefinitions.map fieldOf) rest
      ∧ (Json.object values).Addresses rest

/-- What a type admits is coerced. -/
theorem coerce_of_coercible (distinct : s.HasDistinctFields) {type : TypeRef} {v : Json}
    (h : Coercible s type v) (path : Path) :
    ∃ r, coerce s v type path = .ok r ∧ Becomes s type v r := by
  have hsettles := coerce_settles distinct v type path
  generalize coerce s v type path = result at hsettles ⊢
  cases hsettles with
  | becomes hr => exact ⟨_, rfl, hr⟩
  | fault _ hf => exact absurd h hf.not_coercible

theorem coerce_exact (distinct : s.HasDistinctFields) (coerced : s.HasCoercedDefaults)
    (type : TypeRef) (v : Json) (path : Path) : Exact s type v path := by
  have hsettles := coerce_settles distinct v type path
  have hbecomes (r : Json) (hr : coerce s v type path = .ok r) : Becomes s type v r := by
    rw [hr] at hsettles
    cases hsettles with
    | becomes h => exact h
  refine ⟨⟨?_, ?_⟩, hbecomes, fun r hr => (hbecomes r hr).conforms coerced, ?_, fun e he => ?_⟩
  · rintro ⟨r, hr⟩
    exact (hbecomes r hr).coercible
  · intro h
    obtain ⟨r, hr, -⟩ := coerce_of_coercible distinct h path
    exact ⟨r, hr⟩
  · -- what conforms becomes itself, and nothing else
    intro r hr other
    have hself := ((hbecomes r hr).conforms coerced).becomes
    obtain ⟨r', hr', h'⟩ := coerce_of_coercible distinct hself.coercible other
    rw [hr', hself.unique distinct h']
  · rw [he] at hsettles
    cases hsettles with
    | fault at_path h => exact ⟨_, at_path, h, h.addresses⟩

/-- **Coercion of provided variables is exact.**  In a schema whose input fields have names of their
own and defaults in coerced form, this holds of every type and value, and of the variables of
every operation. -/
theorem ofRequest_exact (distinct : s.HasDistinctFields) (coerced : s.HasCoercedDefaults) :
    (∀ type v path, Exact s type v path)
      ∧ ∀ {α : Type} (operation : Operation α) values, RequestExact s operation values := by
  refine ⟨coerce_exact distinct coerced, fun operation values => ?_⟩
  have hsettles := coerceFields_settles values
    (operation.variableDefinitions.map fieldOf)
    (fun _ v _ type path => coerce_settles distinct v type path) [.key "variable"] []
  rw [← coerceAll_eq, ← ofRequest] at hsettles
  have hadmits : (∀ definition ∈ operation.variableDefinitions, Admits s values (fieldOf definition))
      ↔ ∀ f ∈ operation.variableDefinitions.map fieldOf, Admits s values f :=
    List.forall_mem_map.symm
  refine ⟨?_, fun r hr hnames => ?_, fun e he => ?_⟩
  · rw [hadmits]
    generalize ofRequest s operation values = result at hsettles ⊢
    cases hsettles with
    | filled admits => exact ⟨fun _ => admits, fun _ => ⟨_, rfl⟩⟩
    | fault _ h =>
        refine ⟨?_, fun hall => absurd hall h.not_admits⟩
        rintro ⟨_, ⟨⟩⟩
  · rw [hr] at hsettles
    cases hsettles with
    | filled _ h =>
        obtain ⟨new, rfl, h⟩ := h (by rwa [List.map_map]) fun _ _ => rfl
        exact h
  · rw [he] at hsettles
    cases hsettles with
    | fault at_path h => exact ⟨_, at_path, h, h.addresses⟩

/-- A schema with an input type for pages: an offset, zero unless it is given, and some sizes. -/
def paging : Schema where
  types := [
    { name := "Int", body := .scalar },
    { name := "Paging", body := .input [
      { name := "offset", type := .named "Int" true, default? := some (.int "0") },
      { name := "sizes", type := .list (.named "Int" true) false }] }]
  directives := []

theorem paging_input {name : String} {fields : List InputValue}
    (h : paging.body? name = some (.input fields)) :
    fields = [
      { name := "offset", type := .named "Int" true, default? := some (.int "0") },
      { name := "sizes", type := .list (.named "Int" true) false }] := by
  simp only [Schema.body?, Schema.type?, paging, List.find?] at h
  split at h
  · cases h
  · split at h
    · cases h
      rfl
    · cases h

theorem paging_distinct : paging.HasDistinctFields := fun name fields h => by
  rw [paging_input h]
  decide

theorem paging_coerced : paging.HasCoercedDefaults := fun name fields h f hf default hdefault => by
  rw [paging_input h] at hf
  rcases List.mem_cons.mp hf with rfl | hf
  · cases hdefault
    exact .scalar rfl Json.noConfusion ⟨0, rfl, by decide⟩
  · rw [List.mem_singleton.mp hf] at hdefault
    cases hdefault

/-- A page with one size, in place of a list of pages with lists of sizes, becomes a list that
conforms; a page of which a size is `null` is not admitted. -/
theorem ofRequest_exact_paging :
    Conforms paging (.list (.named "Paging" true) false)
        (.list [.object [("offset", .int 0), ("sizes", .list [.int 5])]])
      ∧ ¬ Coercible paging (.named "Paging" true)
        (.object [("sizes", .list [.int 5, .null])]) := by
  have hexact := (ofRequest_exact paging_distinct paging_coerced).1
  have hpages : coerce paging (.object [("sizes", .int 5)]) (.list (.named "Paging" true) false) []
      = .ok (.list [.object [("offset", .int 0), ("sizes", .list [.int 5])]]) := rfl
  refine ⟨(hexact _ _ _).conforms _ hpages, fun hc => ?_⟩
  obtain ⟨r, hr⟩ := (hexact _ _ []).gives_iff.mpr hc
  cases hr

end GraphServe.Variables
