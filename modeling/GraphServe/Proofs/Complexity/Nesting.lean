import GraphServe.Proofs.Complexity

/-!
# What is nested costs no more

A field costs at least what is selected of it, whatever costs a service has of its own, unless it is
selected on a vacant interface: then it costs nothing, as there are no objects to take the greatest
cost of (`le_fieldCost_iff`).

**Nesting cannot hide cost** (`ofOperation_nested`).  An operation costs at least what any selections
cost that are nested in it, through its fields and fragments (`Nested`), unless they are selected of
a field of the type `__Schema` or of one on a vacant interface.  The cost of what is selected of a
field on a vacant interface is lost (`ofOperation_hides`).
-/

namespace GraphServe

open Document

/-- The costs that a service has of its own are numbers of sixty-four bits. -/
def Service.FitsCosts (service : Service) : Prop :=
  ∀ type field child arguments cost, service.complexity type field child arguments = some cost →
    cost ≤ Complexity.maximum

namespace Complexity

open Executable

section

variable {service : Service} {values : Json.Members} {d : Executable}

/-! ### The cost of a field -/

theorem le_objectFieldCost {child : Nat} (hchild : child ≤ maximum) (type field : String)
    (arguments : Json.Members) : child ≤ objectFieldCost service type field child arguments := by
  have hadd : child ≤ add child 1 := Nat.le_min.mpr ⟨Nat.le_succ child, hchild⟩
  unfold objectFieldCost
  split
  · split
    · assumption
    · exact hadd
  · exact hadd

theorem objectFieldCost_le (hfit : service.FitsCosts) (type field : String) (child : Nat)
    (arguments : Json.Members) :
    objectFieldCost service type field child arguments ≤ maximum := by
  unfold objectFieldCost
  split
  · rename_i cost hcost
    split
    · exact hfit _ _ _ _ _ hcost
    · exact Nat.min_le_right _ _
  · exact Nat.min_le_right _ _

theorem le_foldl_max (l : List Nat) (start : Nat) : start ≤ l.foldl max start := by
  induction l generalizing start with
  | nil => exact Nat.le_refl start
  | cons n rest ih => exact Nat.le_trans (Nat.le_max_left start n) (ih (max start n))

theorem foldl_max_le {l : List Nat} {bound : Nat} (h : ∀ n ∈ l, n ≤ bound) {start : Nat}
    (hstart : start ≤ bound) : l.foldl max start ≤ bound := by
  induction l generalizing start with
  | nil => exact hstart
  | cons n rest ih =>
      exact ih (fun m hm => h m (List.mem_cons_of_mem n hm))
        (Nat.max_le.mpr ⟨hstart, h n List.mem_cons_self⟩)

theorem fieldCost_le (hfit : service.FitsCosts) (type field : String) (child : Nat)
    (arguments : Json.Members) : fieldCost service type field child arguments ≤ maximum := by
  rcases fieldCost_cases service type field child arguments with ⟨objects, -, h⟩ | ⟨-, h | h⟩
  · rw [h]
    refine foldl_max_le (fun n hn => ?_) (Nat.zero_le _)
    obtain ⟨t, -, rfl⟩ := List.mem_map.mp hn
    exact objectFieldCost_le hfit _ _ _ _
  · rw [h]
    exact Nat.min_le_right _ _
  · rw [h]
    exact objectFieldCost_le hfit _ _ _ _

/-- **A field costs at least what is selected of it**, unless it is on a vacant interface. -/
theorem le_fieldCost_iff {child : Nat} (hchild : child ≤ maximum) (type field : String)
    (arguments : Json.Members) :
    child ≤ fieldCost service type field child arguments ↔
      service.schema.isVacant type = false ∨ child = 0 := by
  rcases fieldCost_cases service type field child arguments with ⟨objects, hv, h⟩ | ⟨hv, h⟩
  · rw [h, hv]
    cases objects with
    | nil => simp
    | cons t rest =>
        rw [List.map_cons, List.foldl_cons, Nat.zero_max]
        exact iff_of_true (Nat.le_trans (le_objectFieldCost hchild _ _ _) (le_foldl_max _ _)) (.inl rfl)
  · refine iff_of_true ?_ (.inl hv)
    rcases h with h | h
    · rw [h]
      exact Nat.le_min.mpr ⟨Nat.le_succ child, hchild⟩
    · rw [h]
      exact le_objectFieldCost hchild _ _ _

/-! ### Nested selections -/

/-- From selections on a type to selections that are nested in them, with their type: in fragments,
and below the fields that `Through` admits. -/
inductive Nested (d : Executable) (Through : String → FieldHead FieldDefinition → Prop) :
    String → List ExecutableSelection → String → List ExecutableSelection → Prop where
  | here (type : String) (xs : List ExecutableSelection) : Nested d Through type xs type xs
  | field {type type' : String} {xs inner ys : List ExecutableSelection}
      {head : FieldHead FieldDefinition} (h : .field head inner ∈ xs) (through : Through type head)
      (below : Nested d Through head.note.type.innerName inner type' ys) :
      Nested d Through type xs type' ys
  | inline {type type' : String} {xs inner ys : List ExecutableSelection}
      {on? : Option (Located String)} {ds : List Directive} {place : Nat}
      (h : .inline on? ds place inner ∈ xs)
      (below : Nested d Through ((on?.map (·.node)).getD type) inner type' ys) :
      Nested d Through type xs type' ys
  | spread {type type' name : String} {xs ys : List ExecutableSelection} {ds : List Directive}
      {place : Nat} {f : Fragment FieldDefinition} (h : .spread name ds place ∈ xs)
      (hf : d.fragment? name = some f)
      (below : Nested d Through f.condition.node f.selections type' ys) :
      Nested d Through type xs type' ys

/-- A field that is counted with what is selected of it: neither of the type `__Schema` nor on a
vacant interface. -/
def Counts (s : Schema) (type : String) (head : FieldHead FieldDefinition) : Prop :=
  head.note.type.innerName ≠ "__Schema" ∧ s.isVacant type = false

namespace Nested

variable {Through : String → FieldHead FieldDefinition → Prop} {type type' : String}
  {xs ys : List ExecutableSelection}

/-- Nested selections reach no more fragments than those that they are nested in. -/
theorem reaches (h : Nested d Through type xs type' ys) {name : String} (hr : d.Reaches ys name) :
    d.Reaches xs name := by
  induction h with
  | here => exact hr
  | field h _ _ ih => exact (ih hr).mono fun m hm => spreads_of_mem h m (by rwa [spreadsOf])
  | inline h _ ih => exact (ih hr).mono fun m hm => spreads_of_mem h m (by rwa [spreadsOf])
  | spread h hf _ ih => exact .through (spreads_of_mem h _ (by simp [spreadsOf])) hf (ih hr)

theorem acyclic (h : Nested d Through type xs type' ys) (ha : d.Acyclic xs) : d.Acyclic ys :=
  fun name f hr => ha name f (h.reaches hr)

/-- What holds at any depth of selections and fragments, holds of what is nested. -/
theorem all {P : FieldHead FieldDefinition → List ExecutableSelection → Prop}
    (hd : ∀ name f, d.fragment? name = some f → AllFields P f.selections)
    (h : Nested d Through type xs type' ys) (hx : AllFields P xs) : AllFields P ys := by
  induction h with
  | here => exact hx
  | field h _ _ ih => exact ih (hx.of_mem h).2
  | inline h _ ih => exact ih (hx.of_mem h)
  | spread _ hf _ ih => exact ih (hd _ _ hf)

end Nested

/-! ### Costs grow outwards -/

theorem plainOf_le_maximum (hfit : service.FitsCosts) (type : String) (x : ExecutableSelection) :
    plainOf service values type x ≤ maximum := by
  cases x with
  | field head inner =>
      rw [plainOf]
      split
      · exact Nat.zero_le _
      · exact fieldCost_le hfit _ _ _ _
  | inline => exact plainIn_le_maximum _ _
  | spread => exact Nat.zero_le _

/-- One of some selections costs no more than all. -/
theorem plainOf_le_plainIn (hfit : service.FitsCosts) (type : String) {x : ExecutableSelection}
    {xs : List ExecutableSelection} (hx : x ∈ xs) :
    plainOf service values type x ≤ plainIn service values type xs := by
  induction xs with
  | nil => cases hx
  | cons first rest ih =>
      rw [plainIn, add]
      refine Nat.le_min.mpr ⟨?_, plainOf_le_maximum hfit type x⟩
      rcases List.mem_cons.mp hx with rfl | hx
      · exact Nat.le_add_right _ _
      · exact Nat.le_trans (ih hx) (Nat.le_add_left _ _)

theorem plainIn_singleton (hfit : service.FitsCosts) (type : String) (x : ExecutableSelection) :
    plainIn service values type [x] = plainOf service values type x := by
  rw [plainIn, plainIn, add, Nat.add_zero]
  exact Nat.min_eq_left (plainOf_le_maximum hfit type x)

/-- What a field costs is made of what is selected of it, which is nothing where the type of the
field has no selections. -/
theorem plainOf_field (hs : service.schema.IsValid) {head : FieldHead FieldDefinition}
    {inner inner' : List ExecutableSelection} (hdeclares : Declares service.schema head inner)
    (hinner : d.Inlines inner inner') (hschema : head.note.type.innerName ≠ "__Schema")
    (type : String) :
    plainOf service values type (.field head inner') =
      fieldCost service type head.name.node
        (plainIn service values head.note.type.innerName inner')
        (Arguments.ofField head head.note values) := by
  rw [plainOf, if_neg hschema]
  by_cases hnil : inner = []
  · subst hnil
    cases hinner
    rw [plainIn, ite_self]
  · obtain ⟨t, ht, hcomposite⟩ := hdeclares.isComposite hs hnil
    have hinside : isComposite service.schema head.note.type.innerName = true := by
      rw [isComposite, ht]
      exact hcomposite
    rw [if_pos hinside]

/-- Nested selections cost no more than those that they are nested in, if all fields on the way are
counted. -/
theorem Nested.plainIn_le (hs : service.schema.IsValid) (hfit : service.FitsCosts)
    (hd : d.IsDeclared service.schema) {type type' : String} {xs ys xs' ys' : List ExecutableSelection}
    (h : Nested d (Counts service.schema) type xs type' ys)
    (hx : AllFields (Declares service.schema) xs) (hxs : d.Inlines xs xs') (hys : d.Inlines ys ys') :
    plainIn service values type' ys' ≤ plainIn service values type xs' := by
  induction h generalizing xs' with
  | here => exact Nat.le_of_eq (by rw [hxs.unique hys])
  | field h hcounts _ ih =>
      obtain ⟨zs, hzs, hsub⟩ := hxs.of_mem h
      cases hzs with
      | field hinner =>
          obtain ⟨hdeclares, hall⟩ := hx.of_mem h
          refine Nat.le_trans (ih hall hinner hys) ?_
          refine Nat.le_trans ?_ (plainOf_le_plainIn hfit _ (hsub _ List.mem_cons_self))
          rw [plainOf_field hs hdeclares hinner hcounts.1]
          exact (le_fieldCost_iff (plainIn_le_maximum _ _) _ _ _).mpr (.inl hcounts.2)
  | inline h _ ih =>
      obtain ⟨zs, hzs, hsub⟩ := hxs.of_mem h
      cases hzs with
      | inline hinner =>
          exact Nat.le_trans (ih (hx.of_mem h) hinner hys)
            (plainOf_le_plainIn hfit _ (hsub _ List.mem_cons_self))
  | spread h hf _ ih =>
      obtain ⟨zs, hzs, hsub⟩ := hxs.of_mem h
      cases hzs with
      | spread hf' hinner =>
          cases hf.symm.trans hf'
          exact Nat.le_trans (ih (hd.fragment? _ _ hf) hinner hys)
            (plainOf_le_plainIn hfit _ (hsub _ List.mem_cons_self))
      | missing hf' => cases hf.symm.trans hf'

/-! ### Operations -/

/-- The cost that the walk gives selections on a type. -/
def walked (service : Service) (d : Executable) (values : Json.Members) (type : String)
    (xs : List ExecutableSelection) : Nat :=
  (ofSelections service values (ofFragment service d values (d.fragments.length + 1)) type xs {}).1

theorem walked_eq {xs ys : List ExecutableSelection} (ha : d.Acyclic xs) (h : d.Inlines xs ys)
    (type : String) : walked service d values type xs = plainIn service values type ys :=
  (ofSelections_computes h (spansWithin_of_acyclic ha) (Nat.le_succ _) type {}
    (remembers_nil service values d)).1

/-- **Nesting cannot hide cost.**  Of a valid operation, wherever a field is selected that is not of
the type `__Schema`, it costs at least what is selected of it, unless it is on a vacant interface and
something is selected of it; and the operation costs at least what any selections cost that are
nested in it through counted fields. -/
theorem ofOperation_nested {definitions : List Definition} {o : Operation FieldDefinition}
    (hs : service.schema.IsValid) (hfit : service.FitsCosts)
    (hd : Validation.validate service.schema definitions = .ok d) (ho : o ∈ d.allOperations)
    (values : Json.Members) :
    (∀ type xs head inner,
      Nested d (fun _ _ => True) ((service.schema.root? o.type).getD "") o.selections type xs →
      .field head inner ∈ xs → head.note.type.innerName ≠ "__Schema" →
      (walked service d values head.note.type.innerName inner ≤
          walked service d values type [.field head inner] ↔
        service.schema.isVacant type = false ∨
          walked service d values head.note.type.innerName inner = 0)) ∧
    ∀ type xs, Nested d (Counts service.schema) ((service.schema.root? o.type).getD "")
        o.selections type xs →
      walked service d values type xs ≤ (ofOperation service d o values).1 := by
  have hdeclared : d.IsDeclared service.schema :=
    (Validation.validate_ok hd).1 ▸ isDeclared_resolve _ _
  have hacyclic := Validation.acyclic_of_validate hd ho
  have hall := hdeclared.operations o ho
  refine ⟨fun type xs head inner hnested hx hschema => ?_, fun type xs hnested => ?_⟩
  · have hxs := hnested.acyclic hacyclic
    obtain ⟨xs', hxs'⟩ := exists_inlines_of_acyclic hxs
    obtain ⟨zs, hzs, -⟩ := hxs'.of_mem hx
    have hcost : walked service d values type [.field head inner] =
        plainIn service values type zs :=
      walked_eq (hxs.mono fun m hm =>
        spreads_of_mem hx m (by rwa [spreads, spreads, List.append_nil] at hm)) hzs type
    cases hzs with
    | field hinner hnil =>
        cases hnil
        have hdeclares := ((hnested.all hdeclared.fragment? hall).of_mem hx).1
        rw [walked_eq (hxs.mono fun m hm => spreads_of_mem hx m (by rwa [spreadsOf])) hinner, hcost,
          plainIn_singleton hfit, plainOf_field hs hdeclares hinner hschema]
        exact le_fieldCost_iff (plainIn_le_maximum _ _) _ _ _
  · obtain ⟨xs', hxs⟩ := exists_inlines_of_acyclic (hnested.acyclic hacyclic)
    obtain ⟨inlined, ho'⟩ := exists_inlines_of_acyclic hacyclic
    rw [walked_eq (hnested.acyclic hacyclic) hxs, ofOperation_plain hacyclic ho']
    exact hnested.plainIn_le hs hfit hdeclared hall ho' hxs

end

/-! ### Interfaces with objects and without -/

/-- What is selected of the first of some fields. -/
def ofFirst : List ExecutableSelection → List ExecutableSelection
  | .field _ inner :: _ => inner
  | _                   => []

namespace Implemented

/-- A service with an interface that an object implements, for which a field has a cost of its own. -/
def service : Service where
  schema :=
    { types := Builtin.introspectionTypes ++ [Builtin.stringScalar, Builtin.booleanScalar,
        ⟨"Node", none, [], .interface []
          [{ name := "name", type := .named "String" false },
            { name := "peer", type := .named "Node" false }]⟩,
        ⟨"Big", none, [], .object ["Node"]
          [{ name := "name", type := .named "String" false },
            { name := "peer", type := .named "Node" false }]⟩,
        ⟨"Query", none, [], .object [] [{ name := "node", type := .named "Node" false }]⟩]
      directives := Builtin.directives
      query := some "Query" }
  complexity type field child _ :=
    if type = "Big" ∧ field = "peer" then some (min (3 * child) maximum) else none
  query := .uniform "Query" .null

/-- A query through the interface. -/
def definitions : List Definition := [.query [.plain "node" 1 [.plain "peer" 2 [.plain "name" 3 []]]]]

/-- The document of the query. -/
def document : Executable := (Executable.resolve service.schema definitions).1

/-- The query. -/
def query : Operation FieldDefinition := document.anonymous.getD default

end Implemented

/-- What the theorem says of that query: it costs 4, and what is selected of the peer costs 1. -/
theorem ofOperation_nested_peer : Implemented.service.schema.IsValid ∧
    Implemented.service.FitsCosts ∧
    Validation.validate Implemented.service.schema Implemented.definitions =
      .ok Implemented.document ∧
    Implemented.query ∈ Implemented.document.allOperations ∧
    (∀ head inner, .field head inner ∈ ofFirst Implemented.query.selections →
      head.note.type.innerName ≠ "__Schema" →
      walked Implemented.service Implemented.document [] head.note.type.innerName inner ≤
        walked Implemented.service Implemented.document [] "Node" [.field head inner]) ∧
    walked Implemented.service Implemented.document [] "Node"
      (ofFirst (ofFirst Implemented.query.selections)) = 1 ∧
    (ofOperation Implemented.service Implemented.document Implemented.query []).1 = 4 ∧
    walked Implemented.service Implemented.document [] "Node"
        (ofFirst (ofFirst Implemented.query.selections)) ≤
      (ofOperation Implemented.service Implemented.document Implemented.query []).1 := by
  have hvalid : Implemented.service.schema.IsValid := ⟨by decide, by decide⟩
  have hfit : Implemented.service.FitsCosts := fun type field child _ cost hcost => by
    simp only [Implemented.service] at hcost
    split at hcost
    · cases hcost
      exact Nat.min_le_right _ _
    · cases hcost
  have hdocument : Validation.validate Implemented.service.schema Implemented.definitions =
      .ok Implemented.document := rfl
  obtain ⟨hfields, hnested⟩ := ofOperation_nested hvalid hfit hdocument List.mem_cons_self []
  refine ⟨hvalid, hfit, hdocument, List.mem_cons_self, fun head inner hmem hschema => ?_, rfl, rfl,
    hnested "Node" _ ?_⟩
  · exact (hfields "Node" _ head inner
      (.field List.mem_cons_self trivial (.here _ _)) hmem hschema).mpr (.inl rfl)
  · exact .field List.mem_cons_self ⟨by decide, rfl⟩
      (.field List.mem_cons_self ⟨by decide, rfl⟩ (.here _ _))

namespace Deserted

/-- A service with an interface that only another interface implements. -/
def service : Service where
  schema :=
    { types := Builtin.introspectionTypes ++ [Builtin.intScalar, Builtin.stringScalar,
        Builtin.booleanScalar,
        ⟨"I", none, [], .interface [] [{ name := "x", type := .named "A" false }]⟩,
        ⟨"J", none, [], .interface ["I"] [{ name := "x", type := .named "A" false }]⟩,
        ⟨"A", none, [], .object []
          [{ name := "a", type := .named "Int" false }, { name := "b", type := .named "Int" false }]⟩,
        ⟨"Query", none, [], .object [] [{ name := "i", type := .named "I" false }]⟩]
      directives := Builtin.directives
      query := some "Query" }
  query := .uniform "Query" .null

/-- A query through the interface. -/
def definitions : List Definition :=
  [.query [.plain "i" 1 [.plain "x" 2 [.plain "a" 3 [], .plain "b" 4 []]]]]

/-- The document of the query. -/
def document : Executable := (Executable.resolve service.schema definitions).1

/-- The query. -/
def query : Operation FieldDefinition := document.anonymous.getD default

end Deserted

/-- A query through an interface that only another interface implements: a field on it costs nothing,
and so what is selected of the field costs more than the query. -/
theorem ofOperation_hides : Deserted.service.schema.IsValid ∧ Deserted.service.OverridesNoCost ∧
    Validation.validate Deserted.service.schema Deserted.definitions = .ok Deserted.document ∧
    Deserted.query ∈ Deserted.document.allOperations ∧
    Nested Deserted.document (fun _ head => head.note.type.innerName ≠ "__Schema") "Query"
      Deserted.query.selections "A" (ofFirst (ofFirst Deserted.query.selections)) ∧
    walked Deserted.service Deserted.document [] "I" (ofFirst Deserted.query.selections) = 0 ∧
    walked Deserted.service Deserted.document [] "A"
      (ofFirst (ofFirst Deserted.query.selections)) = 2 ∧
    (ofOperation Deserted.service Deserted.document Deserted.query []).1 = 1 :=
  ⟨⟨by decide, by decide⟩, fun _ _ _ _ => rfl, rfl, List.mem_cons_self,
    .field List.mem_cons_self (by decide) (.field List.mem_cons_self (by decide) (.here _ _)),
    rfl, rfl, rfl⟩

end Complexity

end GraphServe
