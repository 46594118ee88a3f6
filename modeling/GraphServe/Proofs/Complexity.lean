import GraphServe.Proofs.Complexity.Memory
import GraphServe.Proofs.Document.Declared
import GraphServe.Proofs.Resolved
import GraphServe.Proofs.Validation.Acyclic

/-!
# What an operation costs

Where a service has no costs of its own, the cost of an operation is a plain sum over its selections
(`costIn`): each field costs one more than what is selected of it, but nothing if it is of the type
`__Schema`, or if it is selected on a vacant interface: one that types implement, but no object.

The walk that computes it cuts sums off at the greatest cost and computes each named fragment once.
The plain recursion remembers nothing; it cuts off what the sum would be (`plainIn_of_free`).

* `ofOperation_inlined` is the cost of an operation with its fragments on the spot.
* `ofOperation_eq` is its cost with its fragments named: what a fragment adds is a function of its
  name (`fragmentCost`) that agrees with the sum over the fragment wherever fragments are not nested
  without end.
-/

namespace GraphServe

open Document

namespace Schema

/-- An interface that some types implement, but no object. -/
def isVacant (s : Schema) (type : String) : Bool :=
  match (s.type? type).map TypeDefinition.body with
  | some (.interface _ _) =>
      s.types.any (fun t => t.interfaces.contains type) && (s.implementers type).isEmpty
  | _                     => false

/-- A type that stands for an object is not vacant. -/
theorem isVacant_of_mem_possibleTypes {s : Schema} {type object : String}
    (h : object ∈ s.possibleTypes type) : s.isVacant type = false := by
  unfold possibleTypes at h
  unfold isVacant
  cases ht : s.type? type with
  | none => rfl
  | some t =>
      rw [ht] at h
      obtain ⟨_, _, _, body⟩ := t
      cases body with
      | interface =>
          obtain ⟨t, ht, -⟩ := List.mem_map.mp h
          rw [List.isEmpty_eq_false_iff_exists_mem.mpr ⟨t, ht⟩]
          exact Bool.and_false _
      | _ => rfl

end Schema

/-- The service has no costs of its own. -/
def Service.OverridesNoCost (service : Service) : Prop :=
  ∀ type field child arguments, service.complexity type field child arguments = none

namespace Complexity

open Executable

/-! ### Costs as sums -/

mutual

/-- The cost of a selection on a type, with what named fragments cost. -/
def costOf (s : Schema) (fragment : String → Nat) (type : String) : ExecutableSelection → Nat
  | .spread name _ _      => fragment name
  | .inline on? _ _ inner => costIn s fragment ((on?.map (·.node)).getD type) inner
  | .field head inner     =>
      let inside := head.note.type.innerName
      if inside = "__Schema" ∨ s.isVacant type then 0
      else (if isComposite s inside then costIn s fragment inside inner else 0) + 1

/-- The cost of selections on a type, with what named fragments cost. -/
def costIn (s : Schema) (fragment : String → Nat) (type : String) :
    List ExecutableSelection → Nat
  | []            => 0
  | first :: rest => costOf s fragment type first + costIn s fragment type rest

end

/-- The cost of a named fragment, with at most `fuel` fragments inside each other. -/
def fragmentCost (s : Schema) (d : Executable) : Nat → String → Nat
  | 0,        _    => 0
  | fuel + 1, name =>
      match d.fragment? name with
      | some f => costIn s (fragmentCost s d fuel) f.condition.node f.selections
      | none   => 0

section

variable {s : Schema} {F G : String → Nat}

mutual

theorem costOf_congr : ∀ (x : ExecutableSelection) (type : String),
    (∀ name ∈ spreadsOf x, F name = G name) → costOf s F type x = costOf s G type x
  | .spread name ds place, type, h => h name (by simp [spreadsOf])
  | .inline on? ds place inner, type, h => by
      rw [costOf, costOf, costIn_congr inner _ h]
  | .field head inner, type, h => by
      rw [costOf, costOf, costIn_congr inner _ h]

theorem costIn_congr : ∀ (xs : List ExecutableSelection) (type : String),
    (∀ name ∈ spreads xs, F name = G name) → costIn s F type xs = costIn s G type xs
  | [], type, h => rfl
  | first :: rest, type, h => by
      rw [costIn, costIn,
        costOf_congr first type fun name hm => h name (List.mem_append_left _ hm),
        costIn_congr rest type fun name hm => h name (List.mem_append_right _ hm)]

end

/-- More fuel changes nothing once it is enough for the fragments inside each other. -/
theorem costIn_fragmentCost {d : Executable} {n m : Nat} (le : n ≤ m)
    {selections : List ExecutableSelection} (h : d.SpansWithin n selections) (type : String) :
    costIn s (fragmentCost s d m) type selections =
      costIn s (fragmentCost s d n) type selections := by
  induction n generalizing m selections type with
  | zero =>
      refine costIn_congr selections type fun name hname => ?_
      cases m with
      | zero => rfl
      | succ m => simp only [fragmentCost, h name hname]
  | succ n ih =>
      cases m with
      | zero => exact absurd le (Nat.not_succ_le_zero n)
      | succ m =>
          refine costIn_congr selections type fun name hname => ?_
          rw [fragmentCost, fragmentCost]
          cases hf : d.fragment? name with
          | none => rfl
          | some f => exact ih (Nat.le_of_succ_le_succ le) (h name hname f hf) f.condition.node

end

/-- What a fragment costs is what its selections cost, if enough fragments are counted. -/
theorem fragmentCost_eq {s : Schema} {d : Executable} {n k : Nat} (le : n ≤ k) {name : String}
    {f : Fragment FieldDefinition} (hf : d.fragment? name = some f)
    (h : d.SpansWithin n f.selections) :
    fragmentCost s d (k + 1) name =
      costIn s (fragmentCost s d (k + 1)) f.condition.node f.selections := by
  rw [costIn_fragmentCost (Nat.le_succ_of_le le) h, ← costIn_fragmentCost le h, fragmentCost, hf]

/-- Fragments that are reached cost what their selections cost. -/
def Priced (s : Schema) (d : Executable) (F : String → Nat) (selections : List ExecutableSelection) :
    Prop :=
  ∀ name f, d.Reaches selections name → d.fragment? name = some f →
    F name = costIn s F f.condition.node f.selections

theorem Priced.mono {s : Schema} {d : Executable} {F : String → Nat}
    {xs ys : List ExecutableSelection} (h : Priced s d F ys)
    (sub : ∀ m ∈ spreads xs, m ∈ spreads ys) : Priced s d F xs := fun name f hr =>
  h name f (hr.mono sub)

theorem priced_fragmentCost {s : Schema} {d : Executable} {selections : List ExecutableSelection}
    (ha : d.Acyclic selections) :
    Priced s d (fragmentCost s d (d.fragments.length + 1)) selections := fun _ _ hr hf =>
  fragmentCost_eq (Nat.le_refl _) hf
    (spansWithin_of_acyclic fun m g hm hg => ha m g (hr.trans hf hm) hg)

/-- Selections cost the same with their fragments on the spot. -/
theorem costIn_inlines {s : Schema} {d : Executable} {F : String → Nat}
    (hnone : ∀ name, d.fragment? name = none → F name = 0) {xs ys : List ExecutableSelection}
    (h : d.Inlines xs ys) (hF : Priced s d F xs) (type : String) :
    costIn s F type xs = costIn s (fun _ => 0) type ys := by
  induction h generalizing type with
  | nil => rfl
  | @field head inner inner' rest rest' _ _ below next =>
      rw [costIn, costIn, next (hF.mono mem_spreads_tail), costOf, costOf,
        below (hF.mono fun _ => List.mem_append_left _)]
  | inline _ _ below next =>
      rw [costIn, costIn, next (hF.mono mem_spreads_tail), costOf, costOf,
        below (hF.mono fun _ => List.mem_append_left _)]
  | @spread name ds place f inner' rest rest' hf _ _ below next =>
      have hname : name ∈ spreads (.spread name ds place :: rest) := List.mem_cons_self
      have hbelow : Priced s d F f.selections := fun m g hr => hF m g (.through hname hf hr)
      rw [costIn, costIn, next (hF.mono mem_spreads_tail), costOf, costOf,
        hF name f (.spread hname) hf, below hbelow]
      rfl
  | @missing name ds place rest rest' hf _ next =>
      rw [costIn, costOf, hnone name hf, Nat.zero_add, next (hF.mono mem_spreads_tail)]

/-! ### Costs cut off -/

theorem add_min (a b : Nat) : add (min a maximum) (min b maximum) = min (a + b) maximum := by
  unfold add
  omega

section

variable {service : Service} {values : Json.Members}

/-- The greatest of costs that are all the same. -/
theorem foldl_max_map_const {α : Type} (l : List α) (c : Nat) :
    (l.map fun _ => c).foldl max 0 = if l.isEmpty then 0 else c := by
  cases l with
  | nil => rfl
  | cons first rest =>
      rw [List.map_cons, List.foldl_cons, Nat.zero_max]
      induction rest with
      | nil => rfl
      | cons t rest ih => rw [List.map_cons, List.foldl_cons, Nat.max_self]; exact ih

/-- On an interface that types implement the greatest cost among the objects of these counts, on any
other type that on the type itself. -/
theorem fieldCost_cases (service : Service) (type field : String) (child : Nat)
    (arguments : Json.Members) :
    (∃ objects : List TypeDefinition, service.schema.isVacant type = objects.isEmpty ∧
      fieldCost service type field child arguments =
        (objects.map fun t => objectFieldCost service t.name field child arguments).foldl max 0) ∨
    (service.schema.isVacant type = false ∧
      (fieldCost service type field child arguments = add child 1 ∨
        fieldCost service type field child arguments =
          objectFieldCost service type field child arguments)) := by
  unfold fieldCost Schema.isVacant
  dsimp only
  cases (service.schema.type? type).map TypeDefinition.body with
  | none => exact .inr ⟨rfl, .inr rfl⟩
  | some body =>
      cases body with
      | interface =>
          dsimp only
          split
          · rename_i hany
            exact .inl ⟨_, by rw [hany, Bool.true_and], rfl⟩
          · rename_i hany
            exact .inr ⟨by rw [Bool.eq_false_iff.mpr hany, Bool.false_and], .inl rfl⟩
      | _ => exact .inr ⟨rfl, .inr rfl⟩

/-- Without costs of its own a service counts every field as one, but nothing for one that is selected
on a vacant type: that is the greatest cost among no objects. -/
theorem fieldCost_of_free (hfree : service.OverridesNoCost) (type field : String) (child : Nat)
    (arguments : Json.Members) :
    fieldCost service type field child arguments =
      if service.schema.isVacant type then 0 else add child 1 := by
  have hobject : ∀ type, objectFieldCost service type field child arguments = add child 1 :=
    fun type => by rw [objectFieldCost, hfree]
  rcases fieldCost_cases service type field child arguments with ⟨objects, hv, h⟩ | ⟨hv, h | h⟩
  · rw [h, hv]
    simp only [hobject]
    exact foldl_max_map_const _ _
  · rw [h, hv]
    rfl
  · rw [h, hv]
    exact hobject type

/-- The cut does not matter to what a field adds. -/
theorem fieldCost_min (hfree : service.OverridesNoCost) (type field : String) (child : Nat)
    (arguments : Json.Members) :
    fieldCost service type field (min child maximum) arguments =
      min (if service.schema.isVacant type then 0 else child + 1) maximum := by
  rw [fieldCost_of_free hfree]
  split
  · exact (Nat.zero_min _).symm
  · unfold Complexity.add
    omega

/-- Without costs of its own a service has the cost of selections as their sum, cut off. -/
theorem plainIn_of_free (hfree : service.OverridesNoCost) (type : String)
    (xs : List ExecutableSelection) :
    plainIn service values type xs = min (costIn service.schema (fun _ => 0) type xs) maximum := by
  induction xs using Selection.induct generalizing type with
  | nil => exact (Nat.zero_min _).symm
  | field head inner rest below next =>
      rw [plainIn, costIn, next, ← add_min]
      congr 1
      rw [plainOf, costOf]
      by_cases hinside : head.note.type.innerName = "__Schema"
      · rw [if_pos hinside, if_pos (.inl hinside), Nat.zero_min]
      · simp only [hinside, if_false, false_or]
        rw [← fieldCost_min hfree type head.name.node _ (Arguments.ofField head head.note values)]
        split
        · rw [below]
        · rw [Nat.zero_min]
  | inline on? ds place inner rest below next =>
      rw [plainIn, costIn, next, ← add_min, plainOf, costOf, below]
  | spread name ds place rest next =>
      rw [plainIn, costIn, next, ← add_min, plainOf, costOf, Nat.zero_min]

end

/-- **The cost of an operation** is the sum over its selections, cut off at the greatest cost. -/
theorem ofOperation_eq {service : Service} (hfree : service.OverridesNoCost) {d : Executable}
    {o : Operation FieldDefinition} (ha : d.Acyclic o.selections) (values : Json.Members) :
    (ofOperation service d o values).1 =
      min (costIn service.schema (fragmentCost service.schema d (d.fragments.length + 1))
        ((service.schema.root? o.type).getD "") o.selections) maximum := by
  obtain ⟨inlined, h⟩ := exists_inlines_of_acyclic ha
  rw [ofOperation_plain ha h, plainIn_of_free hfree]
  congr 1
  refine (costIn_inlines (fun name hnone => ?_) h (priced_fragmentCost ha) _).symm
  rw [fragmentCost, hnone]

/-- **Memory makes no difference.**  An operation of which no fragment reaches itself can be written
with its fragments on the spot, and its cost is that of the plain recursion through this: whatever
costs the service has of its own, and without them the sum, cut off at the greatest cost. -/
theorem ofOperation_inlined (service : Service) {d : Executable} {o : Operation FieldDefinition}
    (ha : d.Acyclic o.selections) (values : Json.Members) :
    (∃ inlined, d.Inlines o.selections inlined) ∧
    ∀ inlined, d.Inlines o.selections inlined → spreads inlined = [] ∧
      (ofOperation service d o values).1 =
        plainIn service values ((service.schema.root? o.type).getD "") inlined ∧
      (service.OverridesNoCost → (ofOperation service d o values).1 =
        min (costIn service.schema (fun _ => 0) ((service.schema.root? o.type).getD "") inlined)
          maximum) := by
  refine ⟨exists_inlines_of_acyclic ha, fun inlined h => ?_⟩
  have hplain : (ofOperation service d o values).1 = _ := ofOperation_plain ha h
  exact ⟨h.spreads_eq_nil, hplain, fun hfree => hplain.trans (plainIn_of_free hfree _ inlined)⟩

namespace Remembered

/-- A service with an object that has a field of its own type, and costs of its own. -/
def service (complexity : String → String → Nat → Json.Members → Option Nat) : Service where
  schema :=
    { types := Builtin.introspectionTypes ++ [Builtin.intScalar, Builtin.stringScalar,
        Builtin.booleanScalar,
        ⟨"A", none, [], .object []
          [{ name := "x", type := .named "Int" false }, { name := "next", type := .named "A" false }]⟩,
        ⟨"Query", none, [], .object [] [{ name := "a", type := .named "A" false }]⟩]
      directives := Builtin.directives
      query := some "Query" }
  complexity
  query := .uniform "Query" .null

/-- To go on costs ten times what is selected then. -/
def tenfold (type field : String) (child : Nat) (_ : Json.Members) : Option Nat :=
  if type = "A" ∧ field = "next" then some (10 * child) else none

/-- A fragment on the object, as read. -/
def fragment (name : String) (selections : List (Selection Unit)) : Definition :=
  .fragment ⟨⟨name, 0⟩, ⟨"A", 0⟩, [], selections, 0⟩

/-- A query that names one fragment twice, and another both inside of it and beside it. -/
def definitions : List Definition :=
  [.query [.plain "a" 1 [.plain "next" 2 [.spread "F" [] 3], .spread "F" [] 4, .spread "G" [] 5]],
    fragment "F" [.plain "next" 6 [.plain "x" 7 []], .spread "G" [] 8],
    fragment "G" [.plain "x" 9 []]]

/-- The document of the query. -/
def document : Executable := (Executable.resolve (service tenfold).schema definitions).1

/-- The query. -/
def query : Operation FieldDefinition := document.anonymous.getD default

end Remembered

/-- What the theorem says of that query, with costs of its own and without. -/
theorem ofOperation_inlined_tenfold : Remembered.document.Acyclic Remembered.query.selections ∧
    ∃ inlined, Remembered.document.Inlines Remembered.query.selections inlined ∧
      spreads inlined = [] ∧
      plainIn (Remembered.service Remembered.tenfold) [] "Query" inlined = 123 ∧
      min (costIn (Remembered.service fun _ _ _ _ => none).schema (fun _ => 0) "Query" inlined)
        maximum = 9 := by
  have hvalid : Validation.validate (Remembered.service Remembered.tenfold).schema
      Remembered.definitions = .ok Remembered.document := rfl
  have hacyclic : Remembered.document.Acyclic Remembered.query.selections :=
    Validation.acyclic_of_validate hvalid List.mem_cons_self
  obtain ⟨⟨inlined, h⟩, hown⟩ := ofOperation_inlined (Remembered.service Remembered.tenfold)
    hacyclic []
  obtain ⟨-, hfree⟩ := ofOperation_inlined (Remembered.service fun _ _ _ _ => none) hacyclic []
  obtain ⟨hspreads, hcost, -⟩ := hown inlined h
  obtain ⟨-, -, hsum⟩ := hfree inlined h
  exact ⟨hacyclic, inlined, h, hspreads, hcost.symm.trans rfl,
    (hsum fun _ _ _ _ => rfl).symm.trans rfl⟩

end Complexity

end GraphServe
