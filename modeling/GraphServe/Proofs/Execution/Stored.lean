import GraphServe.Proofs.Execution.Restricting
import GraphServe.Proofs.Twins
import GraphServe.Proofs.Validation.Acyclic

/-!
# Objects from JSON

Resolvers may give plain JSON (`Resolved.ofJson`): lists and objects by the shape of the JSON, and
fields of objects by looking up their names.  Completion goes by the schema.

**JSON is served** (`Run.complete_ofJson`).  Where JSON is of a type, completing it with a valid
selection of declared fields gives the JSON restricted to the selection and reports nothing, exactly
if no leaf that is reached is a list or an object.  Such a value of a scalar is not passed through,
since by its shape it is taken for a list or an object.  By induction on the JSON (`Run.isServed`),
with the types that a value is selected with and declared to be of side by side: an object that is
selected as one of an interface or union has to say what it is, also where only one object type is
declared.
-/

namespace GraphServe

open Document Execution

/-- The object that members stand for. -/
def ObjectValue.ofMembers (members : Json.Members) (type : String) : ObjectValue Resolved where
  typeName := members.calledBy type
  isMethod := fun _ => false
  isResolver := fun _ => false
  resolve := fun c y =>
    (.ok (.ok (.ofJson ((members.get? c.name).getD .null) c.returnType.innerName)), y)

theorem Resolved.ofJson_object (members : Json.Members) (type : String) :
    ofJson (.object members) type = .object (.ofMembers members type) := by
  rw [ofJson, ObjectValue.ofMembers, Json.Members.calledBy, Json.Members.get?_eq_lookup]
  congr 2
  funext c y
  rw [lookup_ofMembers, Json.Members.get?_eq_lookup]
  cases members.lookup c.name with
  | none => rfl
  | some v => rfl

theorem Resolved.ofJson_flat {v : Json} (h : v.isFlat = true) (type : String) :
    ofJson v type = .leaf v := by
  cases v with
  | list | object => cases h
  | _ => rfl

namespace Execution

/-! ### Stages that are faithful -/

/-- An outcome with the errors met, where these are there exactly if something does not hold, and
otherwise the outcome is a given one. -/
def Faithful {α : Type} (holds : Prop) (given : α) (found : Option α) (errors : List Error) : Prop :=
  (errors = [] ↔ holds) ∧ (errors = [] → found = some given)

section

variable {α β : Type} {P Q : Prop} {a : Option α} {es : List Error} {v : α}

theorem Faithful.of_ne_nil (h : es ≠ []) (hp : ¬ P) : Faithful P v a es :=
  ⟨⟨fun he => absurd he h, fun hpos => absurd hpos hp⟩, fun he => absurd he h⟩

/-- What is made of an outcome without adding errors. -/
theorem Faithful.next (h : Faithful P v a es) (hpq : P ↔ Q) {b : Option β} {w : β}
    (hb : a = some v → b = some w) : Faithful Q w b (es ++ []) := by
  rw [List.append_nil]
  exact ⟨h.1.trans hpq, fun hnil => hb (h.2 hnil)⟩

theorem raise_adds (response : ResponseContext) (path : Path) (message : String) (hp : ¬ P) :
    (raise response path message).Adds (Faithful P v) :=
  Work.Adds.bind (Work.adds_push (Q := fun _ es => es ≠ []) (List.cons_ne_nil _ _)) fun _ es he =>
    .pure (.of_ne_nil (by rwa [List.append_nil]) hp)

theorem completeItems_adds {complete : Path → Resolved → Work Completed} (item : TypeRef)
    {holds : Json → Prop} {given : Json → Json} {type : String} {items : List Json}
    (h : ∀ v ∈ items, ∀ path, (complete path (.ofJson v type)).Adds (Faithful (holds v) (given v)))
    (path : Path) (i : Nat) :
    (completeItems complete item path (Resolved.ofItems items type) i).Adds
      (Faithful (∀ v ∈ items, holds v) (items.map given)) := by
  induction items generalizing i with
  | nil => exact .pure ⟨⟨fun _ _ hv => (nomatch hv), fun _ => rfl⟩, fun _ => rfl⟩
  | cons first rest ih =>
      rw [Resolved.ofItems, completeItems]
      refine (h first List.mem_cons_self _).bind fun found es hfound => ?_
      have hrest := ih (fun v hv => h v (List.mem_cons_of_mem _ hv)) (i + 1)
      cases hn : nullify item found with
      | none =>
          -- the item has an error, and so has the list
          have hes : es ≠ [] := fun he => by rw [hfound.2 he] at hn; cases hn
          refine .pure (.of_ne_nil (by rwa [List.append_nil]) fun hall => ?_)
          exact hes (hfound.1.mpr (hall first List.mem_cons_self))
      | some value =>
          refine Work.Adds.map (hrest.mono fun values more hvalues => ?_)
          refine ⟨?_, fun hnil => ?_⟩
          · rw [List.append_eq_nil_iff, hfound.1, hvalues.1, List.forall_mem_cons]
          · obtain ⟨he, hmore⟩ := List.append_eq_nil_iff.mp hnil
            rw [hfound.2 he] at hn
            cases hn
            rw [hvalues.2 hmore]
            rfl

theorem executeGroups_adds
    {execute : String → CollectedField → List CollectedField → Work Completed}
    (holds : List CollectedField → Prop) (given : List CollectedField → Json) {groups : FieldGroups}
    (h : ∀ key first rest, (key, first :: rest) ∈ groups →
      (execute key first (first :: rest)).Adds
        (Faithful (holds (first :: rest)) (given (first :: rest))))
    (hne : ∀ g ∈ groups, g.2 ≠ []) :
    (Run.executeGroups execute groups).Adds
      (Faithful (∀ g ∈ groups, holds g.2) (groups.map fun g => (g.1, given g.2))) := by
  induction groups with
  | nil => exact .pure ⟨⟨fun _ _ hg => (nomatch hg), fun _ => rfl⟩, fun _ => rfl⟩
  | cons g groups ih =>
      obtain ⟨key, _ | ⟨first, rest⟩⟩ := g
      · exact absurd rfl (hne _ List.mem_cons_self)
      refine (h key first rest List.mem_cons_self).bind fun value es hvalue => ?_
      have hrest := ih (fun key first rest hg => h key first rest (List.mem_cons_of_mem _ hg))
        fun g hg => hne g (List.mem_cons_of_mem _ hg)
      refine hrest.bind fun values more hvalues => ?_
      have hboth : es ++ more = [] ↔ ∀ g ∈ (key, first :: rest) :: groups, holds g.2 := by
        rw [List.append_eq_nil_iff, hvalue.1, hvalues.1, List.forall_mem_cons]
      split
      · refine .pure ⟨by rwa [List.append_nil], fun hnil => ?_⟩
        rw [List.append_nil] at hnil
        obtain ⟨he, hmore⟩ := List.append_eq_nil_iff.mp hnil
        cases hvalue.2 he
        cases hvalues.2 hmore
        rfl
      · rename_i hnone
        refine .pure ⟨by rwa [List.append_nil], fun hnil => ?_⟩
        rw [List.append_nil] at hnil
        obtain ⟨he, hmore⟩ := List.append_eq_nil_iff.mp hnil
        exact absurd (hvalues.2 hmore) (hnone _ _ (hvalue.2 he))

end

/-! ### Leaves -/

theorem isComposite_of_admits {t : TypeDefinition} {v : Json} (h : Admits t v) :
    t.isComposite = false := by
  obtain ⟨name, description, directives, body⟩ := t
  cases body with
  | scalar | enum | input => rfl
  | object | interface | union => cases h

theorem coerceLeaf_of_admits {t : TypeDefinition} {v : Json} (h : Admits t v) :
    coerceLeaf t v = .ok v := by
  obtain ⟨name, description, directives, body⟩ := t
  cases body with
  | scalar =>
      have hv : isOfScalar name v = true := h
      show coerceScalar name v = .ok v
      unfold coerceScalar
      rw [if_pos hv]
      split
      · by_cases hid : name = "ID"
        · subst hid
          cases hv
        · exact if_neg hid
      · rfl
  | enum values =>
      obtain ⟨member, hmember, rfl⟩ := h
      exact if_pos (List.any_eq_true.mpr ⟨member, hmember, decide_eq_true rfl⟩)
  | object | interface | union | input => cases h

namespace Run

variable {x : Run} {selected declared : TypeRef} {sets : List (List ExecutableSelection)} {v : Json}

/-- A leaf that is neither list nor object is completed to what it is restricted to. -/
theorem coerceLeaf_of_isOf (sets : List (List ExecutableSelection))
    (h : v.IsOf x.schema declared) (hflat : v.isFlat = true) (hnull : v ≠ .null) :
    ∃ name required t, declared = .named name required ∧
      x.schema.type? name = some t ∧ t.isComposite = false ∧
        coerceLeaf t v = .ok (x.restrict v declared sets) := by
  cases h with
  | null => exact absurd rfl hnull
  | list => cases hflat
  | object => cases hflat
  | @leaf name required v h =>
      obtain ⟨-, t, ht, hadmits⟩ := h
      obtain ⟨-, rfl⟩ := Schema.type?_some ht
      refine ⟨_, required, t, rfl, ht, isComposite_of_admits hadmits, ?_⟩
      rw [coerceLeaf_of_admits hadmits]
      cases v with
      | list | object => cases hflat
      | null | bool | float | string => rfl
      | int n =>
          rw [restrict]
          by_cases hid : t.name = "ID"
          · -- an integer is no identifier by itself
            obtain ⟨name, description, directives, body⟩ := t
            cases body with
            | scalar => cases hid; cases hadmits
            | enum => obtain ⟨member, -, hmember⟩ := hadmits; cases hmember
            | _ => cases hadmits
          · rw [if_neg hid]
  | @id required n t known scalar =>
      obtain ⟨name, description, directives, body⟩ := t
      cases scalar
      obtain ⟨-, hname⟩ := Schema.type?_some known
      cases hname
      exact ⟨_, required, _, rfl, known, rfl, rfl⟩

/-! ### Completing -/

/-- Completing a value adds errors exactly if some leaf that is reached is not flat, and otherwise
gives what the value is restricted to. -/
def IsServed (x : Run) (v : Json) : Prop :=
  ∀ n selected declared sets parent? path, x.Serves n selected declared sets v →
    (complete x.schema x.response (x.executeObject (n + 1) parent? sets) selected path
      (.ofJson v selected.innerName)).Adds
        (Faithful (x.LeavesFlat selected declared sets v) (x.restrict v declared sets))

theorem isServed_null : x.IsServed .null := by
  intro n selected declared sets parent? path h
  have hdeclared : declared.isRequired = false := by
    cases h.isOf with
    | null h => exact h
    | leaf h => exact absurd rfl h.1
  have hselected : selected.isRequired = false := by
    cases hr : selected.isRequired with
    | false => rfl
    | true => exact absurd ((Schema.isRequired_of_narrows h.narrows hr).symm.trans hdeclared) nofun
  rw [Resolved.ofJson, complete, if_neg (by rw [hselected]; exact Bool.false_ne_true), restrict_null]
  exact .pure ⟨⟨fun _ => leavesFlat_of_isFlat rfl, fun _ => rfl⟩, fun _ => rfl⟩

theorem isServed_flat (hi : x.schema.Implements) (hflat : v.isFlat = true) (hnull : v ≠ .null) :
    x.IsServed v := by
  intro n selected declared sets parent? path h
  obtain ⟨name, required, t, rfl, ht, hleaf, hcoerce⟩ := coerceLeaf_of_isOf sets h.isOf hflat hnull
  obtain ⟨r, rfl⟩ := h.eq_of_leaf hi ht hleaf
  rw [Resolved.ofJson_flat hflat]
  have hcomplete : complete x.schema x.response (x.executeObject (n + 1) parent? sets)
      (.named name r) path (.leaf v) = completeLeaf x.schema x.response name path v := by
    cases v <;> first | exact absurd rfl hnull | rfl
  rw [hcomplete, completeLeaf, ht]
  dsimp only
  rw [hcoerce]
  exact .pure ⟨⟨fun _ => leavesFlat_of_isFlat hflat, fun _ => rfl⟩, fun _ => rfl⟩

theorem isServed_list (hi : x.schema.Implements) {items : List Json}
    (ih : ∀ v ∈ items, x.IsServed v) : x.IsServed (.list items) := by
  intro n selected declared sets parent? path h
  rw [Resolved.ofJson]
  cases h.isOf with
  | @leaf name required _ hleaf =>
      obtain ⟨-, t, ht, hadmits⟩ := hleaf
      obtain ⟨r, rfl⟩ := h.eq_of_leaf hi ht (isComposite_of_admits hadmits)
      exact raise_adds _ _ _ (not_leavesFlat ht (isComposite_of_admits hadmits) rfl)
  | @list item required _ hitems =>
      cases selected with
      | named => cases h.narrows
      | list item' r =>
          rw [complete, restrict, restrictItems_eq]
          refine (completeItems_adds item' (fun v hv path => ih v hv n item' item sets parent? path
            (h.item hitems hv)) path 0).bind fun values es hvalues => ?_
          cases values with
          | none => exact .pure (hvalues.next leavesFlat_list.symm fun hv => by cases hv)
          | some values =>
              exact .pure (hvalues.next leavesFlat_list.symm fun hv => by cases hv; rfl)

theorem resolveField_ofMembers (hx : x.fields = []) (members : Json.Members) (type : String)
    (c : FieldContext) : (x.resolveField (.ofMembers members type) c).Adds fun found es =>
      found = some (.ofJson ((members.get? c.name).getD .null) c.returnType.innerName) ∧ es = [] := by
  intro y
  rw [resolveField, hx]
  exact ⟨_, _, [], rfl, (List.append_nil _).symm, rfl, rfl⟩

theorem executeField_ofMembers (hx : x.fields = []) {execute : Path → List (List ExecutableSelection) →
      ExecuteObject} {parent? : Option Path} {type : TypeDefinition}
    (htype : x.schema.type? type.name = some type) (members : Json.Members) (name : String)
    (path : Path) {first : CollectedField} {fields : List CollectedField}
    (htypename : first.head.name.node ≠ "__typename")
    (hintro : Introspection.isField first.head.name.node = false) {definition : FieldDefinition}
    (hdeclared : x.schema.declared? type.name first.head.name.node = some definition)
    {holds : Prop} {given : Json}
    (h : (complete x.schema x.response (execute path (fields.map (·.selections)))
      first.head.note.type path (.ofJson ((members.get? first.head.name.node).getD .null)
        first.head.note.type.innerName)).Adds (Faithful holds given)) :
    (x.executeField execute parent? type (.ofMembers members name) path first fields).Adds
      (Faithful holds given) := by
  have hfind : type.fields.find? (·.name = first.head.name.node) = some definition := by
    rwa [Schema.declared?, htype] at hdeclared
  have hother : (Introspection.isField first.head.name.node && parent?.isNone) = false := by
    rw [hintro, Bool.false_and]
  rw [executeField, if_neg htypename, hother, if_neg Bool.false_ne_true, hfind]
  refine (resolveField_ofMembers hx members name _).bind fun found es hfound => ?_
  obtain ⟨rfl, rfl⟩ := hfound
  refine h.bind fun completed es hcompleted => .pure (hcompleted.next Iff.rfl fun hc => ?_)
  rw [hc]
  rfl

theorem isServed_object (hx : x.fields = []) (hs : x.schema.IsValid) (hi : x.schema.Implements)
    (hd : x.document.IsTyped x.schema) {members : Json.Members}
    (ih : ∀ m ∈ members, x.IsServed m.2) : x.IsServed (.object members) := by
  intro n selected declared sets parent? path h
  rw [Resolved.ofJson_object]
  cases h.isOf with
  | @leaf name required _ hleaf =>
      obtain ⟨-, t, ht, hadmits⟩ := hleaf
      have hcomposite := isComposite_of_admits hadmits
      obtain ⟨r, rfl⟩ := h.eq_of_leaf hi ht hcomposite
      have hnot : ¬ x.LeavesFlat (.named name r) (.named name required) sets (.object members) :=
        not_leavesFlat ht hcomposite rfl
      rw [complete, completeObject, TypeRef.innerName, ht]
      obtain ⟨_, _, _, body⟩ := t
      cases body <;> first | (cases hcomposite; done) | exact raise_adds _ _ _ hnot
  | @object name required _ concrete hconcrete hfields =>
      cases selected with
      | list => cases h.narrows
      | named name' r =>
      have happlies := ((Bool.and_eq_true _ _).mp h.narrows).2
      obtain ⟨t, ht, hc⟩ := Schema.objectOf?_some (Schema.objectOf?_of_applies hi happlies hconcrete
        fun _ _ hb ho ha ho' => h.named _ _ _ _ _ _ _ (.here _ _ _ _) hb ho ha ho')
      have htypeName : (ObjectValue.ofMembers members name').typeName = members.calledBy name' := rfl
      rw [complete, completeObject, TypeRef.innerName, ht]
      dsimp only
      rw [htypeName, hc, restrict_object hconcrete]
      dsimp only
      rw [executeObject]
      refine (executeGroups_adds (x.FieldFlat members concrete.name)
        (x.restrictField members concrete.name) (fun key first rest hg => ?_)
        fun g hg => (mem_collect hg).1).bind fun values es hvalues => .pure
          (hvalues.next (leavesFlat_object hconcrete).symm fun hv => by rw [hv]; rfl)
      obtain ⟨htypename, hintro, m, definition, rfl, hdeclared, hserves⟩ :=
        h.field hs hi hd hconcrete hfields hg
      rw [fieldFlat_iff hdeclared, restrictField_eq hdeclared]
      refine executeField_ofMembers hx (Schema.applies_of_objectOf? hconcrete).1 members name' _
        htypename hintro hdeclared ?_
      have hvalue : x.IsServed ((members.get? first.head.name.node).getD .null) := by
        cases hget : members.get? first.head.name.node with
        | none => exact isServed_null
        | some v => exact ih _ (Json.Members.mem_of_get? hget)
      exact hvalue m _ _ _ _ _ hserves

/-- **Every value of a type is served.** -/
theorem isServed (hx : x.fields = []) (hs : x.schema.IsValid) (hi : x.schema.Implements)
    (hd : x.document.IsTyped x.schema) (v : Json) : x.IsServed v := by
  induction v using Json.induct with
  | null => exact isServed_null
  | bool | int | float | string => exact isServed_flat hi rfl nofun
  | list items ih => exact isServed_list hi ih
  | object members ih => exact isServed_object hx hs hi hd ih

/-- **Objects from JSON.**  Without field middleware, completing JSON that is of a type with a valid
selection of declared fields, nested at most `n` levels deep, reports errors exactly if a leaf that
is reached is a list or an object; otherwise it gives the JSON restricted to the selection.  Objects
that are of an object type and selected as ones of an interface or union have to say what they
are. -/
theorem complete_ofJson (x : Run) (hx : x.fields = []) (hs : x.schema.IsValid)
    (hi : x.schema.Implements) {definitions : List Definition}
    (hd : Validation.validate x.schema definitions = .ok x.document) {type : TypeRef}
    {sets : List (List ExecutableSelection)} {n : Nat}
    (htyped : ∀ set ∈ sets, AreOn x.schema type.innerName set)
    (hnests : ∀ set ∈ sets, x.document.NestsWithin n set)
    (hselects : x.Selects type.innerName sets) {v : Json} (hv : v.IsOf x.schema type)
    (hnamed : x.ObjectsNamed type type sets v) (parent? : Option Path) (path : Path)
    (y : Exchange) :
    ∃ found z errors,
      complete x.schema x.response (x.executeObject (n + 1) parent? sets) type path
        (.ofJson v type.innerName) y = (.ok found, z) ∧
      z.errors = y.errors ++ errors ∧ (errors = [] ↔ x.LeavesFlat type type sets v) ∧
      (errors = [] → found = some (x.restrict v type sets)) := by
  have hdocument : x.document.IsTyped x.schema :=
    (Validation.validate_ok hd).1 ▸ Executable.isTyped_resolve _ _
  have hfor : AreFor x.schema type.innerName sets := fun set hset =>
    ⟨_, Schema.applies_self _ _, htyped set hset⟩
  exact isServed hx hs hi hdocument v n type type sets parent? path
    ⟨Schema.narrows_self _ _, hv, hnests, hfor, hselects, hnamed⟩ y

end Run

/-! ### A leaf that is an object -/

namespace Shelf

/-- A schema with an interface, lists of lists, and a scalar of its own. -/
def schema : Schema where
  types := Builtin.introspectionTypes ++ [Builtin.intScalar, Builtin.stringScalar,
    Builtin.booleanScalar, Builtin.idScalar, ⟨"JSON", none, [], .scalar⟩,
    ⟨"Item", none, [], .interface [] [{ name := "id", type := .named "ID" true }]⟩,
    ⟨"Book", none, [], .object ["Item"]
      [{ name := "id", type := .named "ID" true },
       { name := "tags", type := .list (.list (.named "String" true) false) false },
       { name := "more", type := .named "JSON" false }]⟩,
    ⟨"Query", none, [], .object [] [{ name := "shelf", type := .list (.named "Item" false) true }]⟩]
  directives := Builtin.directives
  query := some "Query"

/-- A query of all there is. -/
def definitions : List Definition :=
  [.query [.plain "shelf" 1
    [.plain "id" 2 [], .inline (some ⟨"Book", 3⟩) [] 3 [.plain "tags" 4 [], .plain "more" 5 []]]]]

/-- The document of the query. -/
def document : Executable := (Executable.resolve schema definitions).1

/-- The query. -/
def query : Operation FieldDefinition := document.anonymous.getD default

/-- What is selected of the field. -/
def selections : List ExecutableSelection :=
  match query.selections with
  | [.field _ inner] => inner
  | _                => []

/-- A run of the query. -/
def run : Run where
  service := { schema, query := .uniform "Query" .null }
  response := ⟨{}, .standard⟩
  document
  fields := []
  introspection := none

/-- A book with something of the scalar. -/
def book (more : Json) : Json :=
  .object [("__typename", .string "Book"), ("id", .int 7),
    ("tags", .list [.list [.string "a", .string "b"], .null]), ("more", more)]

/-- The type of the field. -/
def type : TypeRef := .list (.named "Item" false) true

theorem isValid_schema : schema.IsValid := ⟨by decide, by decide⟩

theorem implements_schema : schema.Implements := ⟨by decide, by decide, by decide⟩

theorem validate_definitions : Validation.validate schema definitions = .ok document := rfl

theorem areOn_selections : AreOn schema type.innerName selections :=
  ((Executable.isTyped_resolve schema definitions).operations query List.mem_cons_self).1.2

theorem nestsWithin_selections : document.NestsWithin 3 selections :=
  Validation.nestsWithin_of_validate validate_definitions (o := query) List.mem_cons_self _ _
    (.field List.mem_cons_self)

/-- Books are the only items. -/
theorem eq_book {concrete : String} {t : TypeDefinition} (ht : schema.type? concrete = some t)
    (hobject : t.isObject = true) (h : applies schema concrete "Item" = true) :
    concrete = "Book" := by
  have hall : ∀ t ∈ schema.types, t.isObject = true → applies schema t.name "Item" = true →
      t.name = "Book" := by decide
  obtain ⟨hmem, rfl⟩ := Schema.type?_some ht
  exact hall t hmem hobject h

/-- Each field of a book is selected once, and is of a leaf type. -/
theorem collect_selections : ∀ g ∈ collect schema document "Book" (Conditions.strict []) [selections],
    g.2.length = 1 ∧ ∀ f ∈ g.2, f.head.name.node ≠ "__typename" ∧
      Introspection.isField f.head.name.node = false ∧
      ((schema.declared? "Book" f.head.name.node).all fun g =>
        (schema.type? g.type.innerName).any fun t => !t.isComposite) = true := by
  decide

theorem selects_selections : run.Selects "Item" [selections] := by
  refine .mk (fun concrete first rest h => ?_) fun concrete first rest h definition hdef => ?_
  all_goals
    obtain ⟨⟨t, ht, hobject⟩, happlies, key, hg⟩ := h
    cases eq_book ht hobject happlies
    obtain ⟨hlength, hfields⟩ := collect_selections _ hg
    obtain ⟨htypename, hintro, hleaf⟩ := hfields first List.mem_cons_self
  · refine ⟨htypename, hintro, fun f hf => ?_⟩
    cases List.eq_nil_of_length_eq_zero (Nat.succ.inj hlength)
    cases hf
  · have hdeclared : schema.declared? "Book" first.head.name.node = some definition := hdef
    rw [hdeclared, Option.all_some, Option.any_eq_true] at hleaf
    obtain ⟨u, hu, hleaf⟩ := hleaf
    exact Run.selects_of_leaf hu (by simpa using hleaf)

theorem isOf_book {more : Json} (h : more.IsOf schema (.named "JSON" false)) (required : Bool) :
    (book more).IsOf schema (.named "Item" required) := by
  have htext (text : String) : (Json.string text).IsOf schema (.named "String" true) :=
    .leaf ⟨nofun, _, rfl, rfl⟩
  refine .object rfl fun f hf => ?_
  rcases List.mem_cons.mp hf with rfl | hf
  · exact .id rfl rfl
  rcases List.mem_cons.mp hf with rfl | hf
  · refine .list fun tags htags => ?_
    rcases List.mem_cons.mp htags with rfl | htags
    · refine .list fun tag htag => ?_
      rcases List.mem_cons.mp htag with rfl | htag
      · exact htext "a"
      · exact List.mem_singleton.mp htag ▸ htext "b"
    · exact List.mem_singleton.mp htags ▸ .null rfl
  · cases List.mem_singleton.mp hf
    exact h

/-- A shelf with one book. -/
def shelf (more : Json) : Json := .list [book more, .null]

theorem isOf_shelf {more : Json} (h : more.IsOf schema (.named "JSON" false)) :
    (shelf more).IsOf schema type :=
  .list fun v hv => by
    rcases List.mem_cons.mp hv with rfl | hv
    · exact isOf_book h false
    · exact List.mem_singleton.mp hv ▸ .null rfl

theorem objectsNamed_shelf (more : Json) : run.ObjectsNamed type type [selections] (shelf more) := by
  intro name r name' r' members t t' hreach ht ho ht' ho'
  -- an item is no object type
  have hitem : name' ≠ "Item" := fun h => by
    subst h
    cases ht'
    cases ho'
  cases hreach with
  | item hv below =>
      cases below with
      | here => exact absurd rfl hitem
      | @member _ _ _ _ _ _ concrete _ first _ definition _ _ _ object asked known below =>
          have hbook : concrete.name = "Book" := by
            obtain ⟨hconcrete, hobject, happlies⟩ := Schema.applies_of_objectOf? object
            exact eq_book hconcrete hobject happlies
          rw [hbook] at asked known
          obtain ⟨-, hfields⟩ := collect_selections _ asked
          obtain ⟨-, -, hleaf⟩ := hfields first List.mem_cons_self
          have hdeclared : schema.declared? "Book" first.head.name.node = some definition := known
          rw [hdeclared, Option.all_some, Option.any_eq_true] at hleaf
          obtain ⟨u, hu, hleaf⟩ := hleaf
          have hname : name' = definition.type.innerName :=
            below.innerName_of_leaf hu (by simpa using hleaf)
          subst hname
          cases hu.symm.trans ht'
          obtain ⟨_, _, _, body⟩ := t'
          cases body <;> first | (cases ho'; done) | cases hleaf

/-- What the theorem says of a book with a plain value of the scalar. -/
theorem complete_ofJson_shelf :
    run.schema.IsValid ∧ run.schema.Implements ∧
      Validation.validate run.schema definitions = .ok run.document ∧
      (∀ set ∈ [selections], AreOn run.schema type.innerName set) ∧
      (∀ set ∈ [selections], run.document.NestsWithin 3 set) ∧
      run.Selects type.innerName [selections] ∧ (shelf (.int 1)).IsOf run.schema type ∧
      run.ObjectsNamed type type [selections] (shelf (.int 1)) ∧
      run.LeavesFlat type type [selections] (shelf (.int 1)) ∧
      ∃ z, complete run.schema run.response (run.executeObject 4 none [selections]) type []
          (.ofJson (shelf (.int 1)) type.innerName) {} =
            (.ok (some (.list [.object [("id", .string "7"),
              ("tags", .list [.list [.string "a", .string "b"], .null]), ("more", .int 1)],
              .null])), z) ∧
        z.errors = [] := by
  have hone {P : List ExecutableSelection → Prop} (h : P selections) : ∀ set ∈ [selections], P set :=
    fun set hset => List.mem_singleton.mp hset ▸ h
  have hof : (shelf (.int 1)).IsOf schema type := isOf_shelf (.leaf ⟨nofun, _, rfl, rfl⟩)
  obtain ⟨found, z, errors, hcomplete, hz, hflat, hfound⟩ := run.complete_ofJson rfl isValid_schema
    implements_schema validate_definitions (hone areOn_selections) (hone nestsWithin_selections)
    selects_selections hof (objectsNamed_shelf _) none [] {}
  have herrors : z.errors = [] := by
    have hrun : (complete run.schema run.response (run.executeObject 4 none [selections]) type []
        (.ofJson (shelf (.int 1)) type.innerName) {}).2.errors = [] := rfl
    rwa [hcomplete] at hrun
  have hnil : errors = [] := by
    rw [herrors] at hz
    exact hz.symm
  cases hfound hnil
  exact ⟨isValid_schema, implements_schema, validate_definitions, hone areOn_selections,
    hone nestsWithin_selections, selects_selections, hof, objectsNamed_shelf _, hflat.mp hnil, z,
    hcomplete, herrors⟩

/-- A book with an object of the scalar is of its type, and yet the object is reported and `null` put
in its place. -/
theorem complete_not_served :
    run.schema.IsValid ∧ run.schema.Implements ∧
      Validation.validate run.schema definitions = .ok run.document ∧
      AreOn run.schema type.innerName selections ∧ run.document.NestsWithin 3 selections ∧
      run.Selects type.innerName [selections] ∧
      (shelf (.object [("a", .int 1)])).IsOf run.schema type ∧
      run.restrict (shelf (.object [("a", .int 1)])) type [selections] =
        .list [.object [("id", .string "7"),
          ("tags", .list [.list [.string "a", .string "b"], .null]),
          ("more", .object [("a", .int 1)])], .null] ∧
      (complete run.schema run.response (run.executeObject 4 none [selections]) type []
          (.ofJson (shelf (.object [("a", .int 1)])) type.innerName) {}).1 =
        .ok (some (.list [.object [("id", .string "7"),
          ("tags", .list [.list [.string "a", .string "b"], .null]), ("more", .null)], .null])) ∧
      (complete run.schema run.response (run.executeObject 4 none [selections]) type []
          (.ofJson (shelf (.object [("a", .int 1)])) type.innerName) {}).2.errors.map (·.message) =
        ["JSON is a leaf type, but an object was resolved"] :=
  ⟨isValid_schema, implements_schema, validate_definitions, areOn_selections,
    nestsWithin_selections, selects_selections, isOf_shelf (.leaf ⟨nofun, _, rfl, rfl⟩), rfl, rfl, rfl⟩

end Shelf

/-! ### An object of an object type, selected as one of an interface -/

namespace Slot

/-- A schema in which an object declares a field more narrowly than its interface. -/
def schema : Schema where
  types := Builtin.introspectionTypes ++ [Builtin.intScalar, Builtin.stringScalar,
    Builtin.booleanScalar,
    ⟨"Item", none, [], .interface [] [{ name := "pages", type := .named "Int" false }]⟩,
    ⟨"Book", none, [], .object ["Item"] [{ name := "pages", type := .named "Int" false }]⟩,
    ⟨"Place", none, [], .interface [] [{ name := "item", type := .named "Item" false }]⟩,
    ⟨"Slot", none, [], .object ["Place"] [{ name := "item", type := .named "Book" false }]⟩,
    ⟨"Query", none, [], .object [] [{ name := "place", type := .named "Place" false }]⟩]
  directives := Builtin.directives
  query := some "Query"

/-- A query through both interfaces. -/
def document : Executable := (Executable.resolve schema
  [.query [.plain "place" 1 [.plain "item" 2 [.plain "pages" 3 []]]]]).1

/-- A service that has a slot with a book from JSON. -/
def service (book : Json.Members) : Service where
  schema := schema
  query := .uniform "Query" (.ofJson
    (.object [("__typename", .string "Slot"), ("item", .object book)]) "Place")

/-- The data of the query. -/
def data (book : Json.Members) : Except Panic Json :=
  (executeOperation (service book) [] ⟨{}, .standard⟩ document (document.anonymous.getD default)
    (service book).query {}).1

/-- A book is served if it says that it is one, and not otherwise. -/
example :
    data [("__typename", .string "Book"), ("pages", .int 90)] =
        .ok (.object [("place", .object [("item", .object [("pages", .int 90)])])]) ∧
      data [("pages", .int 90)] =
        .ok (.object [("place", .object [("item", .null)])]) :=
  ⟨rfl, rfl⟩

end Slot

end Execution

end GraphServe
