import GraphServe.Proofs.Execution.Conformity
import Mathlib.Logic.Relation

/-!
# What objects call themselves

An operation is observed value by value: first the root, then the items of lists and what resolving
the fields of objects gives.  Each visit is at a path and at a moment of the run (`Visit`), and others
follow right below it (`Visit.Next`).  There is at most one at a path (`Visit.Reaches.unique`), and
what is observed there, if there is anything below it, is what this visit shows (`Visit.Shows.at`).
So an object position of the data is one object of this run, that of the visit at its path
(`Executed`), executed as an object of a concrete type.

**The name that is told** (`executeOperation_names`).  A field `__typename` has the name that the
object gives itself.  An object that is to be of an interface or union is executed as an object of
the type that it names, so that the two are the same.  One that is to be of an object type is
executed as one of that type whatever it says, so that they are the same if it says so.
-/

namespace GraphServe.Execution

open Document

/-! ### Bare positions -/

/-- A position with none below it. -/
def Position.isBare : Position → Bool
  | list _ _ | object _ _ _ _ => false
  | _                         => true

theorem Position.child?_of_bare {u : Position} (h : u.isBare = true) (e : PathElement) :
    u.child? e = none := by
  cases u <;> first | (cases h; done) | (cases e <;> rfl)

/-- Below a bare position there is none. -/
theorem Position.isBare_of_at? {u c : Position} (h : u.isBare = true) {p : Path}
    (hp : u.at? p = some c) : c.isBare = true := by
  cases p with
  | nil => cases hp; exact h
  | cons e rest => rw [at?, child?_of_bare h] at hp; cases hp

/-! ### Observing, part by part -/

section

variable {x : Run} {y z : Exchange}

/-- An item that is observed comes after those before it, each of which has left something. -/
theorem observeItems_item {observe : Path → Resolved → Work Position} {path : Path}
    {values : List Resolved} {n : Nat} {items : List Position}
    (h : observeItems observe path values n y = (.ok items, z)) {i : Nat} {c : Position}
    (hc : items[i]? = some c) :
    ∃ r y₁ y₂, values[i]? = some r ∧
      observeItems observe path (values.take i) n y = (.ok (items.take i), y₁) ∧
      (∀ u ∈ items.take i, u.settle.isSome = true) ∧
      observe (path ++ [.index (n + i)]) r y₁ = (.ok c, y₂) := by
  induction values generalizing n items y i with
  | nil => cases h; cases hc
  | cons first rest ih =>
      obtain ⟨found, y', hfirst, hrest⟩ := Work.bind_eq_ok.mp h
      split at hrest
      · -- the first item has left nothing, and is the last
        cases hrest
        cases i with
        | succ i => cases hc
        | zero => cases hc; exact ⟨first, y, z, rfl, rfl, nofun, hfirst⟩
      · rename_i hleft
        obtain ⟨others, hothers, rfl⟩ := Work.map_eq_ok.mp hrest
        cases i with
        | zero => cases hc; exact ⟨first, y, y', rfl, rfl, nofun, hfirst⟩
        | succ i =>
            obtain ⟨r, y₁, y₂, hr, hbefore, hall, hitem⟩ := ih hothers hc
            have hfound : found.settle.isSome = true :=
              Option.isSome_iff_ne_none.mpr (mt Option.isNone_iff_eq_none.mpr hleft)
            refine ⟨r, y₁, y₂, hr, ?_, List.forall_mem_cons.mpr ⟨hfound, hall⟩, ?_⟩
            · rw [List.take_succ_cons, List.take_succ_cons, observeItems, Work.bind_ok hfirst,
                if_neg hleft, Work.bind_ok hbefore, Work.pure_apply]
            · rwa [Nat.add_right_comm] at hitem

/-- A field that is observed comes after those before it. -/
theorem Run.observeGroups_member
    {observe : String → CollectedField → List CollectedField → Work Position} {groups : FieldGroups}
    {fs : List (String × Position)} (h : Run.observeGroups observe groups y = (.ok fs, z))
    {key : String} {c : Position} (hc : (key, c) ∈ fs) :
    ∃ earlier first rest later found y₁ y₂, groups = earlier ++ (key, first :: rest) :: later ∧
      Run.observeGroups observe earlier y = (.ok found, y₁) ∧
      observe key first (first :: rest) y₁ = (.ok c, y₂) := by
  induction groups generalizing fs y with
  | nil => cases h; cases hc
  | cons group groups ih =>
      obtain ⟨k, _ | ⟨field, fields⟩⟩ := group
      · obtain ⟨earlier, first, rest, later, found, y₁, y₂, rfl, hbefore, hfield⟩ := ih h hc
        exact ⟨(k, []) :: earlier, first, rest, later, found, y₁, y₂, rfl, hbefore, hfield⟩
      · obtain ⟨t, y', ht, hrest⟩ := Work.bind_eq_ok.mp h
        obtain ⟨others, hothers, rfl⟩ := Work.map_eq_ok.mp hrest
        rcases List.mem_cons.mp hc with hc | hc
        · cases hc
          exact ⟨[], field, fields, groups, [], y, y', rfl, rfl, ht⟩
        · obtain ⟨earlier, first, rest, later, found, y₁, y₂, rfl, hbefore, hfield⟩ :=
            ih hothers hc
          refine ⟨(k, field :: fields) :: earlier, first, rest, later, (k, t) :: found, y₁, y₂, rfl,
            ?_, hfield⟩
          rw [Run.observeGroups, Work.bind_ok ht, Work.bind_ok hbefore, Work.pure_apply]

/-- The field `__typename` of an object is the name that it gives itself. -/
theorem Run.observeField_typename
    {execute : Path → List (List ExecutableSelection) → ObserveObject} {parent? : Option Path}
    {type : TypeDefinition} {object : ObjectValue Resolved} {path : Path} {first : CollectedField}
    {fields : List CollectedField} {c : Position} (hname : first.head.name.node = "__typename")
    (h : x.observeField execute parent? type object path first fields y = (.ok c, z)) :
    c = .leaf true (.string object.typeName) := by
  rw [observeField, if_pos hname] at h
  cases h
  rfl

/-- What is observed of a field is bare, or comes of the value that resolving it gave there and
then. -/
theorem Run.observeField_resolved
    {execute : Path → List (List ExecutableSelection) → ObserveObject} {parent? : Option Path}
    {type : TypeDefinition} {object : ObjectValue Resolved} {path : Path} {first : CollectedField}
    {fields : List CollectedField} {c : Position}
    (h : x.observeField execute parent? type object path first fields y = (.ok c, z)) :
    c.isBare = true ∨ first.head.name.node ≠ "__typename" ∧
      (Introspection.isField first.head.name.node && parent?.isNone) = false ∧
      ∃ definition r y₁, type.fields.find? (·.name = first.head.name.node) = some definition ∧
        x.fields.run object.call
          (fieldContext x.response parent? type object path first.head definition) y =
            (.ok (.ok r), y₁) ∧
        observe x.schema x.response (execute path (fields.map (·.selections)))
          first.head.note.type path r y₁ = (.ok c, z) := by
  rw [observeField] at h
  by_cases hname : first.head.name.node = "__typename"
  · rw [if_pos hname] at h
    cases h
    exact .inl rfl
  rw [if_neg hname] at h
  cases htold : Introspection.isField first.head.name.node && parent?.isNone with
  | true =>
      rw [if_pos htold] at h
      cases hintro : x.introspection <;> simp only [hintro] at h <;> cases h <;> exact .inl rfl
  | false =>
      rw [if_neg (Bool.eq_false_iff.mp htold)] at h
      cases hfind : type.fields.find? (·.name = first.head.name.node) with
      | none =>
          simp only [hfind] at h
          cases h
          exact .inl rfl
      | some definition =>
          simp only [hfind] at h
          obtain ⟨resolved?, y₁, hresolve, hrest⟩ := Work.bind_eq_ok.mp h
          cases resolved? with
          | none => cases hrest; exact .inl rfl
          | some r =>
              exact .inr ⟨hname, rfl, definition, r, y₁, rfl, resolveField_eq_some_iff.mp hresolve,
                hrest⟩

/-- What is observed of a value is bare, or a list, item by item, or comes of executing it as an
object. -/
theorem observe_parts {s : Schema} {response : ResponseContext} {execute : ObserveObject}
    {type : TypeRef} {path : Path} {r : Resolved} {t : Position}
    (h : observe s response execute type path r y = (.ok t, z)) :
    t.isBare = true ∨
    (∃ item required values items, type = .list item required ∧ r = .list values ∧
      t = .list required items ∧
      observeItems (observe s response execute item) path values 0 y = (.ok items, z)) ∨
    ∃ name required declared concrete o, type = .named name required ∧ r = .object o ∧
      s.type? name = some declared ∧ concreteType s declared o.typeName = .ok concrete ∧
      execute required concrete o path y = (.ok t, z) := by
  have hfailed {required : Bool} {message : String}
      (h : failAt response path required message y = (.ok t, z)) : t.isBare = true := by
    cases h; rfl
  cases r with
  | leaf v =>
      exact .inl ((observe_leaf_gives (P := fun _ t => t.isBare = true) (fun _ => rfl)
        (fun _ _ => rfl) (fun _ _ _ _ => rfl) type path v).of_ok h)
  | list values =>
      cases type with
      | named name required => exact .inl (hfailed h)
      | list item required =>
          obtain ⟨items, hitems, rfl⟩ := Work.map_eq_ok.mp h
          exact .inr (.inl ⟨item, required, values, items, rfl, rfl, rfl, hitems⟩)
  | object o =>
      cases type with
      | list item required => exact .inl (hfailed h)
      | named name required =>
          rw [observe, observeObject] at h
          cases hdeclared : s.type? name with
          | none => rw [hdeclared] at h; exact .inl (hfailed h)
          | some declared =>
              simp only [hdeclared] at h
              cases hconcrete : concreteType s declared o.typeName with
              | error message => rw [hconcrete] at h; exact .inl (hfailed h)
              | ok concrete =>
                  simp only [hconcrete] at h
                  exact .inr (.inr ⟨name, required, declared, concrete, o, rfl, rfl, hdeclared,
                    hconcrete, h⟩)

/-- Observe the fields under a response key of an object of a concrete type. -/
def Run.observeMember (x : Run) (fuel : Nat) (parent? : Option Path) (type : TypeDefinition)
    (object : ObjectValue Resolved) (path : Path) (key : String) :
    CollectedField → List CollectedField → Work Position :=
  x.observeField (fun path sets => x.observeSelections fuel (some path) sets) parent? type object
    (path ++ [.key key])

/-- A field `__typename` among those that are observed is the name that the object gives itself. -/
theorem Run.observeGroups_typename {fuel : Nat} {parent? : Option Path}
    {sets : List (List ExecutableSelection)} {type : TypeDefinition} {object : ObjectValue Resolved}
    {path : Path} {fields : List (String × Position)}
    (h : observeGroups (x.observeMember fuel parent? type object path)
      (collect x.schema x.document type.name (Conditions.strict x.values) sets) y =
        (.ok fields, z))
    {key : String} {first : CollectedField} {rest : List CollectedField} {c : Position}
    (hg : (key, first :: rest) ∈
      collect x.schema x.document type.name (Conditions.strict x.values) sets)
    (hname : first.head.name.node = "__typename") (hc : (key, c) ∈ fields) :
    c = .leaf true (.string object.typeName) := by
  obtain ⟨earlier, first', rest', later, _, y₁, y₂, hplace, -, hfield⟩ := observeGroups_member h hc
  cases collect_unique (hplace ▸ List.mem_append_cons_self) hg
  exact observeField_typename hname hfield

/-- What is observed of an object that is executed is bare, or has the fields that are observed. -/
theorem Run.observeSelections_parts {fuel : Nat} {parent? : Option Path}
    {sets : List (List ExecutableSelection)} {required : Bool} {type : TypeDefinition}
    {object : ObjectValue Resolved} {path : Path} {t : Position}
    (h : x.observeSelections fuel parent? sets required type object path y = (.ok t, z)) :
    t.isBare = true ∨ ∃ below fields, fuel = below + 1 ∧
      t = .object required type.name sets fields ∧
      observeGroups (x.observeMember below parent? type object path)
        (collect x.schema x.document type.name (Conditions.strict x.values) sets) y =
          (.ok fields, z) := by
  cases fuel with
  | zero => cases h; exact .inl rfl
  | succ below =>
      obtain ⟨fields, hfields, rfl⟩ := Work.map_eq_ok.mp h
      exact .inr ⟨below, fields, rfl, rfl, hfields⟩

end

/-! ### Visits -/

/-- A value that is observed, and the exchange as it is then. -/
structure Visit where
  /-- How many objects there may be inside each other from here on. -/
  fuel    : Nat
  /-- The path of the field that it is a value of; `none` at the root. -/
  parent? : Option Path
  /-- What is selected of the objects in it. -/
  sets    : List (List ExecutableSelection)
  type    : TypeRef
  value   : Resolved
  path    : Path
  before  : Exchange

namespace Visit

/-- The first visit of an operation. -/
def root (d : Executable) (o : Operation FieldDefinition) (name : String)
    (object : ObjectValue Resolved) (before : Exchange) : Visit where
  fuel := d.fieldCount + 1
  parent? := none
  sets := [o.selections]
  type := .named name false
  value := .object object
  path := []
  before := before

/-- How the value and the items of it are observed. -/
def observe (x : Run) (v : Visit) : TypeRef → Path → Resolved → Work Position :=
  Execution.observe x.schema x.response (x.observeSelections v.fuel v.parent? v.sets)

/-- The position that a visit shows. -/
def Shows (x : Run) (v : Visit) (t : Position) : Prop :=
  ∃ after, v.observe x v.type v.path v.value v.before = (.ok t, after)

/-- The value is an object that is to be of a named type and is executed as one of a concrete
type. -/
structure Executes (x : Run) (v : Visit) (declared : String) (object : ObjectValue Resolved)
    (concrete : TypeDefinition) : Prop where
  type  : ∃ required, v.type = .named declared required
  value : v.value = .object object
  runs  : ∃ t, x.schema.type? declared = some t ∧
    concreteType x.schema t object.typeName = .ok concrete

/-- The visits that follow below one. -/
inductive Next (x : Run) (v : Visit) : Visit → Prop where
  /-- An item of a list, once those before it were observed and left something. -/
  | item {item : TypeRef} {required : Bool} {values : List Resolved} {i : Nat} {r : Resolved}
      {earlier : List Position} {y : Exchange} (type : v.type = .list item required)
      (value : v.value = .list values) (here : values[i]? = some r)
      (before : observeItems (v.observe x item) v.path (values.take i) 0 v.before =
        (.ok earlier, y))
      (left : ∀ u ∈ earlier, u.settle.isSome = true) :
      Next x v { v with type := item, value := r, path := v.path ++ [.index i], before := y }
  /-- What the resolver of a field of an object, with the middleware around it, gives once the
  fields before it were observed. -/
  | field {fuel : Nat} {declared key : String} {object : ObjectValue Resolved}
      {concrete : TypeDefinition} {first : CollectedField} {rest : List CollectedField}
      {earlier later : FieldGroups} {found : List (String × Position)}
      {definition : FieldDefinition} {r : Resolved} {y z : Exchange}
      (deep : v.fuel = fuel + 1) (executes : v.Executes x declared object concrete)
      (selected : collect x.schema x.document concrete.name (Conditions.strict x.values) v.sets =
        earlier ++ (key, first :: rest) :: later)
      (before : Run.observeGroups (x.observeMember fuel v.parent? concrete object v.path) earlier
        v.before = (.ok found, y))
      (other : first.head.name.node ≠ "__typename")
      (untold : (Introspection.isField first.head.name.node && v.parent?.isNone) = false)
      (defined : concrete.fields.find? (·.name = first.head.name.node) = some definition)
      (gives : x.fields.run object.call (fieldContext x.response v.parent? concrete object
        (v.path ++ [.key key]) first.head definition) y = (.ok (.ok r), z)) :
      Next x v
        { fuel, parent? := some (v.path ++ [.key key]),
          sets := (first :: rest).map (·.selections), type := first.head.note.type, value := r,
          path := v.path ++ [.key key], before := z }

variable {x : Run} {v w w' : Visit}

/-! #### One visit at a path -/

theorem Executes.unique {declared declared' : String} {object object' : ObjectValue Resolved}
    {concrete concrete' : TypeDefinition} (h : v.Executes x declared object concrete)
    (h' : v.Executes x declared' object' concrete') :
    declared = declared' ∧ object = object' ∧ concrete = concrete' := by
  obtain ⟨⟨_, htype⟩, hvalue, t, ht, hruns⟩ := h
  obtain ⟨⟨_, htype'⟩, hvalue', t', ht', hruns'⟩ := h'
  cases htype.symm.trans htype'
  cases hvalue.symm.trans hvalue'
  cases ht.symm.trans ht'
  cases hruns.symm.trans hruns'
  exact ⟨rfl, rfl, rfl⟩

theorem Next.path (h : v.Next x w) : ∃ e, w.path = v.path ++ [e] := by
  cases h with
  | item => exact ⟨_, rfl⟩
  | field => exact ⟨_, rfl⟩

/-- What follows below a visit is told by its path. -/
theorem Next.unique (h : v.Next x w) (h' : v.Next x w') (hpath : w.path = w'.path) : w = w' := by
  cases h with
  | item type value here before left =>
      cases h' with
      | item type' value' here' before' left' =>
          cases type.symm.trans type'
          cases value.symm.trans value'
          cases List.append_cancel_left hpath
          cases here.symm.trans here'
          cases before.symm.trans before'
          rfl
      | field deep executes =>
          obtain ⟨_, htype⟩ := executes.type
          cases type.symm.trans htype
  | field deep executes selected before other untold defined gives =>
      cases h' with
      | item type =>
          obtain ⟨_, htype⟩ := executes.type
          cases type.symm.trans htype
      | field deep' executes' selected' before' other' untold' defined' gives' =>
          obtain ⟨rfl, rfl, rfl⟩ := executes.unique executes'
          cases deep.symm.trans deep'
          cases List.append_cancel_left hpath
          -- the group of a key has its place, and what comes before it tells when it is observed
          obtain ⟨rfl, hgroup⟩ := collect_place_unique selected selected'
          cases hgroup
          cases before.symm.trans before'
          cases defined.symm.trans defined'
          cases gives.symm.trans gives'
          rfl

/-- The visits that follow below one, at any depth. -/
abbrev Reaches (x : Run) : Visit → Visit → Prop := Relation.ReflTransGen (Next x)

theorem Reaches.path (h : v.Reaches x w) : w = v ∨ ∃ e q, w.path = v.path ++ e :: q := by
  induction h with
  | refl => exact .inl rfl
  | tail _ hnext ih =>
      obtain ⟨e, he⟩ := hnext.path
      rcases ih with rfl | ⟨e', q, hq⟩
      · exact .inr ⟨e, [], he⟩
      · exact .inr ⟨e', q ++ [e], by rw [he, hq, List.append_assoc, List.cons_append]⟩

theorem Reaches.eq_of_path (h : v.Reaches x w) (hpath : w.path = v.path) : w = v := by
  rcases Reaches.path h with rfl | ⟨e, q, hq⟩
  · rfl
  · exact absurd (hpath.symm.trans hq) (by simp)

/-- **One visit at a path**: those that a visit reaches are told by their paths. -/
theorem Reaches.unique (h : v.Reaches x w) (h' : v.Reaches x w') (hpath : w.path = w'.path) :
    w = w' := by
  induction h generalizing w' with
  | refl => exact (Reaches.eq_of_path h' hpath.symm).symm
  | tail hreach hnext ih =>
      cases h' with
      | refl => exact Reaches.eq_of_path (hreach.tail hnext) hpath
      | tail hreach' hnext' =>
          obtain ⟨e, he⟩ := hnext.path
          obtain ⟨e', he'⟩ := hnext'.path
          obtain ⟨habove, -⟩ := List.append_inj' (he.symm.trans (hpath.trans he')) rfl
          cases ih hreach' habove
          exact hnext.unique hnext' hpath

/-! #### What visits show -/

theorem Shows.list {required : Bool} {items : List Position}
    (h : v.Shows x (.list required items)) :
    ∃ item values after, v.type = .list item required ∧ v.value = .list values ∧
      observeItems (v.observe x item) v.path values 0 v.before = (.ok items, after) := by
  obtain ⟨after, h⟩ := h
  rcases observe_parts h with hbare | ⟨item, _, values, _, htype, hvalue, ht, hitems⟩ |
    ⟨_, _, _, _, _, _, _, _, _, hexec⟩
  · cases hbare
  · cases ht
    exact ⟨item, values, after, htype, hvalue, hitems⟩
  · rcases Run.observeSelections_parts hexec with hbare | ⟨_, _, _, ht, _⟩
    · cases hbare
    · cases ht

theorem Shows.object {required : Bool} {concrete : String} {sets : List (List ExecutableSelection)}
    {fields : List (String × Position)} (h : v.Shows x (.object required concrete sets fields)) :
    ∃ declared object type fuel after, v.Executes x declared object type ∧ type.name = concrete ∧
      v.sets = sets ∧ v.fuel = fuel + 1 ∧
      Run.observeGroups (x.observeMember fuel v.parent? type object v.path)
        (collect x.schema x.document type.name (Conditions.strict x.values) v.sets) v.before =
          (.ok fields, after) := by
  obtain ⟨after, h⟩ := h
  rcases observe_parts h with hbare | ⟨_, _, _, _, _, _, ht, _⟩ |
    ⟨declared, required', t, type, object, htype, hvalue, hknown, hconcrete, hexec⟩
  · cases hbare
  · cases ht
  · rcases Run.observeSelections_parts hexec with hbare | ⟨fuel, _, hfuel, ht, hfields⟩
    · cases hbare
    · cases ht
      exact ⟨declared, object, type, fuel, after, ⟨⟨_, htype⟩, hvalue, t, hknown, hconcrete⟩, rfl,
        rfl, hfuel, hfields⟩

/-- What is right below the position that a visit shows is bare, or what the next visit there
shows. -/
theorem Shows.child {t c : Position} {e : PathElement} (h : v.Shows x t)
    (hc : t.child? e = some c) :
    c.isBare = true ∨ ∃ w, v.Next x w ∧ w.path = v.path ++ [e] ∧ w.Shows x c := by
  cases t with
  | null | leaf | told | failed | lacking => cases e <;> cases hc
  | list required items =>
      cases e with
      | key => cases hc
      | index i =>
          obtain ⟨item, values, after, htype, hvalue, hitems⟩ := h.list
          obtain ⟨r, y₁, y₂, hr, hbefore, hleft, hitem⟩ := observeItems_item hitems hc
          rw [Nat.zero_add] at hitem
          exact .inr ⟨_, .item htype hvalue hr hbefore hleft, rfl, y₂, hitem⟩
  | object required concrete sets fields =>
      cases e with
      | index => cases hc
      | key k =>
          obtain ⟨declared, object, type, fuel, after, hexecutes, -, -, hfuel, hfields⟩ := h.object
          obtain ⟨earlier, first, rest, later, found, y₁, y₂, hplace, hbefore, hfield⟩ :=
            Run.observeGroups_member hfields (mem_of_lookup hc)
          rcases Run.observeField_resolved hfield with hbare |
            ⟨hother, huntold, definition, r, y', hdefined, hgives, hobserved⟩
          · exact .inl hbare
          · exact .inr ⟨_, .field hfuel hexecutes hplace hbefore hother huntold hdefined hgives,
              rfl, y₂, hobserved⟩

/-- **Positions are shown by visits**: what is at a path is bare, or what a visit there shows. -/
theorem Shows.at {t c : Position} {p : Path} (h : v.Shows x t) (hp : t.at? p = some c) :
    c.isBare = true ∨ ∃ w, v.Reaches x w ∧ w.path = v.path ++ p ∧ w.Shows x c := by
  induction p generalizing v t with
  | nil =>
      cases hp
      exact .inr ⟨v, .refl, (List.append_nil _).symm, h⟩
  | cons e rest ih =>
      obtain ⟨below, hc, hrest⟩ := Option.bind_eq_some_iff.mp hp
      rcases h.child hc with hbare | ⟨w, hnext, hpath, hshows⟩
      · exact .inl (Position.isBare_of_at? hbare hrest)
      rcases ih hshows hrest with hbare | ⟨w', hreaches, hpath', hshows'⟩
      · exact .inl hbare
      · refine .inr ⟨w', .head hnext hreaches, ?_, hshows'⟩
        rw [hpath', hpath, List.append_assoc, List.singleton_append]

/-- The type that an object is executed as: the one that it is to be of, or the one that it names
where that is an interface or union. -/
theorem Executes.concrete_name {declared : String} {object : ObjectValue Resolved}
    {concrete : TypeDefinition} (h : v.Executes x declared object concrete) :
    ∃ type, x.schema.type? declared = some type ∧
      (type.isObject = true → concrete.name = declared) ∧
      (type.isObject = false → concrete.name = object.typeName) := by
  obtain ⟨-, -, type, hknown, hconcrete⟩ := h
  refine ⟨type, hknown, ?_⟩
  rcases concreteType_cases hconcrete with ⟨hobject, rfl⟩ | ⟨hobject, hruntime, -, -⟩
  · exact ⟨fun _ => (Schema.type?_some hknown).2, fun h => absurd (hobject.symm.trans h) nofun⟩
  · exact ⟨fun h => absurd (h.symm.trans hobject) nofun, fun _ => (Schema.type?_some hruntime).2⟩

end Visit

/-! ### The objects that are executed -/

/-- The object that is executed at a path, in a run from a visit on: the name of the type that it is
to be of, and the concrete type that it is executed as. -/
def Executed (x : Run) (start : Visit) (p : Path) (declared : String)
    (object : ObjectValue Resolved) (concrete : TypeDefinition) : Prop :=
  ∃ v, start.Reaches x v ∧ v.path = p ∧ v.Executes x declared object concrete

/-- There is one object at a path, at most. -/
theorem Executed.unique {x : Run} {start : Visit} {p : Path} {declared declared' : String}
    {object object' : ObjectValue Resolved} {concrete concrete' : TypeDefinition}
    (h : Executed x start p declared object concrete)
    (h' : Executed x start p declared' object' concrete') :
    declared = declared' ∧ object = object' ∧ concrete = concrete' := by
  obtain ⟨v, hreaches, hpath, hexecutes⟩ := h
  obtain ⟨v', hreaches', hpath', hexecutes'⟩ := h'
  cases Visit.Reaches.unique hreaches hreaches' (hpath.trans hpath'.symm)
  exact hexecutes.unique hexecutes'

/-- A member of an object in the data is what is shown of the field at its position, and no `null`
is out of place in it. -/
theorem Position.Fits.member {s : Schema} {d : Executable} {values : Json.Members} {t : Position}
    {type : TypeRef} {sets sets' : List (List ExecutableSelection)}
    (ht : t.Fits s d values type sets)
    (hr : t.required true = false) {p : Path} {required : Bool} {concrete key : String}
    {fields : List (String × Position)} {c : Position} {members : Json.Members}
    (hp : t.at? p = some (.object required concrete sets' fields))
    (hv : (t.settle.getD .null).getAt p = some (.object members))
    (hc : fields.lookup key = some c) :
    ∃ n, members.get? key = some (c.shown n) ∧ c.Admissible n := by
  have hdistinct : t.Distinct := ht.typed.distinct
  have hsinks : ¬ t.Sinks true := fun hsinks => by
    simp [((sinks_iff hdistinct).mp hsinks).1] at hr
  have hdata : t.settle.getD .null = t.shown (t.nulled true) := by
    rw [settle_of_not_required hdistinct hr]; rfl
  rw [hdata] at hv
  have hshown := hv
  rw [shown_getAt hp (not_nulled_of_getAt hp hv), Option.some.injEq] at hshown
  have hmember : members.get? key =
      some (c.shown fun q => t.nulled true (p ++ .key key :: q)) := by
    rw [shown_eq_object hshown, shownFields_get?, hc]
    rfl
  refine ⟨_, hmember, Admissible.field (fun p u hp hu => ?_) (at?_field hp hc) hv hmember⟩
  exact getAt_ne_null hdistinct hsinks (.inl ⟨_, _, ht.typed⟩) hp hu

/-! ### Operations -/

/-- What is observed of an operation is what the visit of its root shows. -/
theorem shows_root {service : Service} {d : Executable} {o : Operation FieldDefinition}
    (hroot : HasRoot service.schema o.type) {fields : Chain Work FieldContext FieldResult}
    {response : ResponseContext} {root : ObjectValue Resolved} {y y₁ z : Exchange}
    {introspection : Option Json.Members} {t : Position}
    (hintrospect : introspect service response d o y = (.ok introspection, y₁))
    (hobserve : observeOperation service fields response d o root y = (.ok t, z)) :
    (Visit.root d o ((service.schema.root? o.type).getD "") root y₁).Shows
      { service, response, document := d, fields, introspection } t := by
  obtain ⟨type, htype, hobject, heq⟩ := hroot.observeOperation_eq
  rw [heq, Work.bind_ok hintrospect] at hobserve
  refine ⟨z, ?_⟩
  show observeObject service.schema response _ _ false [] root y₁ = _
  rw [observeObject, htype]
  simp only [concreteType_of_isObject hobject]
  exact hobserve

/-- **The name that is told.**  Whatever resolvers and the middleware around them do: at the path of
an object of the data one object was executed, and no other, as an object of the type that the
position is of.  It has the name that it gives itself under every key whose field is `__typename`;
this is the type that it was executed as if an interface or union was to be resolved, and otherwise
if it says so. -/
theorem executeOperation_names {service : Service} {definitions : List Definition}
    {d : Executable} {o : Operation FieldDefinition}
    (hd : Validation.validate service.schema definitions = .ok d) (ho : o ∈ d.allOperations)
    (hroot : HasRoot service.schema o.type) (fields : Chain Work FieldContext FieldResult)
    (response : ResponseContext) (root : ObjectValue Resolved) (y : Exchange) :
    ∃ introspection y₁ t data z,
      introspect service response d o y = (.ok introspection, y₁) ∧
      observeOperation service fields response d o root y = (.ok t, z) ∧
      executeOperation service fields response d o root y = (.ok data, z) ∧
      ∀ p required concrete sets found (members : Json.Members),
        t.at? p = some (.object required concrete sets found) →
        data.getAt p = some (.object members) →
        (∃ declared object definition,
          Executed { service, response, document := d, fields, introspection }
            (.root d o ((service.schema.root? o.type).getD "") root y₁) p declared object
            definition) ∧
        ∀ declared object definition,
          Executed { service, response, document := d, fields, introspection }
            (.root d o ((service.schema.root? o.type).getD "") root y₁) p declared object
            definition →
          definition.name = concrete ∧
          (∃ type, service.schema.type? declared = some type ∧
            (type.isObject = true → concrete = declared) ∧
            (type.isObject = false → concrete = object.typeName)) ∧
          ∀ key first rest, (key, first :: rest) ∈ collect service.schema d concrete
              (Conditions.strict response.operation.variableValues) sets →
            first.head.name.node = "__typename" →
            members.get? key = some (.string object.typeName) := by
  have hdeclared : d.IsDeclared service.schema :=
    (Validation.validate_ok hd).1 ▸ Executable.isDeclared_resolve _ _
  have hgives : (introspect service response d o).Gives fun _ => True := introspect_gives
  obtain ⟨introspection, y₁, hintrospect, -⟩ := hgives y
  obtain ⟨t, z, hobserve, ht⟩ := observeOperation_fits fields hdeclared ho hroot root y
  refine ⟨introspection, y₁, t, t.settle.getD .null, z, hintrospect, hobserve, ?_, ?_⟩
  · rw [executeOperation_eq]
    exact Work.map_ok hobserve
  intro p required concrete sets found members hp hv
  rcases (shows_root hroot hintrospect hobserve).at hp with hbare | ⟨v, hreaches, hpath, hshows⟩
  · cases hbare
  obtain ⟨declared, object, type, fuel, after, hexecutes, rfl, rfl, -, hfields⟩ := hshows.object
  refine ⟨⟨declared, object, type, v, hreaches, hpath, hexecutes⟩, fun _ _ _ hother => ?_⟩
  obtain ⟨rfl, rfl, rfl⟩ := Executed.unique ⟨v, hreaches, hpath, hexecutes⟩ hother
  refine ⟨rfl, hexecutes.concrete_name, fun key first rest hg hname => ?_⟩
  -- the field is among those of the position, and it is the name there
  have hkeys : found.map Prod.fst = (collect service.schema d type.name
      (Conditions.strict response.operation.variableValues) v.sets).map Prod.fst :=
    (Position.IsTyped.at (.inl ⟨_, _, ht.typed⟩) hp).keys
  obtain ⟨⟨key, c⟩, hmem, rfl⟩ := List.mem_map.mp (hkeys ▸ List.mem_map_of_mem hg)
  cases Run.observeGroups_typename hfields hg hname hmem
  obtain ⟨n, hmember, hadmissible⟩ := ht.member (by cases ht <;> rfl) hp hv
    ((Position.lookup_eq_some_iff (hkeys ▸ collect_keys_nodup _)).mpr hmem)
  have hkept : (Position.leaf true (.string object.typeName)).shown n ≠ .null := fun hnull =>
    hadmissible [] _ rfl rfl (by rw [hnull]; rfl)
  rw [hmember]
  cases hn : n [] with
  | true => exact absurd (by rw [Position.shown, hn]; rfl) hkept
  | false => rw [Position.shown, hn]; rfl

/-! ### An object that calls itself something else -/

namespace Misnamed

/-- A schema with a field of an object type. -/
def schema : Schema where
  types := Builtin.introspectionTypes ++ [Builtin.intScalar, Builtin.stringScalar,
    Builtin.booleanScalar,
    ⟨"U", none, [], .object [] [{ name := "a", type := .named "Int" false }]⟩,
    ⟨"Query", none, [], .object [] [{ name := "u", type := .named "U" false }]⟩]
  directives := Builtin.directives
  query := some "Query"

/-- A query of the object's name and of a field of it. -/
def definitions : List Definition :=
  [.query [.plain "u" 1 [.plain "__typename" 2 [], .plain "a" 3 []]]]

/-- The document of the query. -/
def document : Executable := (Executable.resolve schema definitions).1

/-- The query. -/
def query : Operation FieldDefinition := document.anonymous.getD default

/-- A service that has the object from JSON with a name of its own. -/
def service : Service where
  schema := schema
  query := .uniform "Query" (.ofJson (.object [("__typename", .string "Other"), ("a", .int 1)]) "U")

/-- What the theorem says of the query. -/
theorem executeOperation_names_other :
    Validation.validate service.schema definitions = .ok document ∧
      query ∈ document.allOperations ∧ HasRoot service.schema query.type ∧
      ∃ introspection y t data z,
        introspect service ⟨{}, .standard⟩ document query {} = (.ok introspection, y) ∧
        observeOperation service [] ⟨{}, .standard⟩ document query service.query {} = (.ok t, z) ∧
        executeOperation service [] ⟨{}, .standard⟩ document query service.query {} =
          (.ok data, z) ∧
        ∃ declared object definition,
          Executed { service, response := ⟨{}, .standard⟩, document, fields := [], introspection }
            (.root document query "Query" service.query y) [.key "u"] declared object definition ∧
          definition.name = "U" ∧ object.typeName = "Other" ∧
          ∃ members : Json.Members, data.getAt [.key "u"] = some (.object members) ∧
            members.get? "__typename" = some (.string object.typeName) := by
  have hvalid : Validation.validate service.schema definitions = .ok document := rfl
  have hquery : query ∈ document.allOperations := List.mem_cons_self
  have hroot : HasRoot service.schema query.type := ⟨_, rfl, rfl⟩
  obtain ⟨introspection, y, t, data, z, hintrospect, hobserve, hexecute, hnames⟩ :=
    executeOperation_names hvalid hquery hroot [] ⟨{}, .standard⟩ service.query {}
  refine ⟨hvalid, hquery, hroot, introspection, y, t, data, z, hintrospect, hobserve, hexecute, ?_⟩
  have ht : (observeOperation service [] ⟨{}, .standard⟩ document query service.query {}).1 =
      .ok t := by rw [hobserve]
  have hdata : (executeOperation service [] ⟨{}, .standard⟩ document query service.query {}).1 =
      .ok data := by rw [hexecute]
  cases ht
  cases hdata
  obtain ⟨⟨declared, object, definition, hexecuted⟩, hall⟩ :=
    hnames [.key "u"] false "U" _ _ [("__typename", .string "Other"), ("a", .int 1)] rfl rfl
  obtain ⟨hdefinition, -, htypename⟩ := hall declared object definition hexecuted
  have htold := htypename "__typename" _ _ List.mem_cons_self rfl
  exact ⟨declared, object, definition, hexecuted, hdefinition,
    (Json.string.inj (Option.some.inj htold)).symm, _, rfl, htold⟩

/-- The object is executed as one of the declared type, and yet the response has the name that it
gives itself. -/
theorem executeOperation_not_names :
    Validation.validate service.schema definitions = .ok document ∧
      query ∈ document.allOperations ∧ HasRoot service.schema query.type ∧
      (∃ t required sets fields,
        (observeOperation service [] ⟨{}, .standard⟩ document query service.query {}).1 = .ok t ∧
        t.at? [.key "u"] = some (.object required "U" sets fields)) ∧
      (executeOperation service [] ⟨{}, .standard⟩ document query service.query {}).1 =
        .ok (.object [("u", .object [("__typename", .string "Other"), ("a", .int 1)])]) :=
  ⟨rfl, List.mem_cons_self, ⟨_, rfl, rfl⟩, ⟨_, _, _, _, rfl, rfl⟩, rfl⟩

end Misnamed

end GraphServe.Execution
