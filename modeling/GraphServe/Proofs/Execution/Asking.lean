import GraphServe.Proofs.Complexity
import GraphServe.Proofs.Document.Declared
import GraphServe.Proofs.Execution.Collection
import Mathlib.Algebra.Order.BigOperators.Group.List
import Mathlib.Algebra.Order.Ring.Nat

/-!
# What may be asked of one object

Execution goes from the fields under one response key of an object to the object that comes back, of
which all that is selected of them is asked together.  `Asked` are the sets of selections that may
be asked of one object of a concrete type in this way; they are parts of the selections of the
operation (`Asked.part`).

**Collecting costs no more** (`collect_total`): what the fields cost that are collected for an object
is at most what the sets cost from which they are collected, if these are selected on types that are
not vacant.  Fragments that apply to an object are never on vacant types.
-/

namespace GraphServe

open Document

namespace Document.Executable

/-- A field, with what is selected of it, is one that selections lead to, at any depth. -/
inductive Selects (d : Executable) :
    List ExecutableSelection → FieldHead FieldDefinition → List ExecutableSelection → Prop where
  | here {selections inner : List ExecutableSelection} {head : FieldHead FieldDefinition}
      (h : d.Occurs selections head inner) : Selects d selections head inner
  | within {selections inside inner : List ExecutableSelection}
      {outer head : FieldHead FieldDefinition} (h : d.Occurs selections outer inside)
      (hs : Selects d inside head inner) : Selects d selections head inner

variable {d : Executable}

/-- What holds at any depth of selections and of the fragments that they reach, holds of all fields
that they lead to. -/
theorem Selects.all_of_reaches {P : FieldHead FieldDefinition → List ExecutableSelection → Prop}
    {xs inner : List ExecutableSelection} {head : FieldHead FieldDefinition}
    (h : d.Selects xs head inner)
    (hd : ∀ name f, d.Reaches xs name → d.fragment? name = some f → AllFields P f.selections)
    (hx : AllFields P xs) : P head inner := by
  induction h with
  | here h => exact (h.all_of_reaches hd hx).1
  | within h _ ih =>
      exact ih (fun name f hr hf => hd name f (h.reaches hr) hf) (h.all_of_reaches hd hx).2

/-- What holds at any depth of selections and fragments, holds of all fields that they lead to. -/
theorem Selects.all {P : FieldHead FieldDefinition → List ExecutableSelection → Prop}
    (hd : ∀ name f, d.fragment? name = some f → AllFields P f.selections)
    {xs inner : List ExecutableSelection} {head : FieldHead FieldDefinition}
    (h : d.Selects xs head inner) (hx : AllFields P xs) : P head inner :=
  h.all_of_reaches (fun name f _ hf => hd name f hf) hx

/-- Selections that are a part of others: they lead to no other fields and reach no other fragments. -/
structure IsPart (d : Executable) (whole part : List ExecutableSelection) : Prop where
  selects : ∀ head inner, d.Selects part head inner → d.Selects whole head inner
  reaches : ∀ name, d.Reaches part name → d.Reaches whole name

theorem IsPart.refl (xs : List ExecutableSelection) : d.IsPart xs xs :=
  ⟨fun _ _ h => h, fun _ h => h⟩

theorem IsPart.occurs {whole part inner : List ExecutableSelection}
    {head : FieldHead FieldDefinition} (h : d.IsPart whole part) (ho : d.Occurs part head inner) :
    d.IsPart whole inner :=
  ⟨fun _ _ hs => h.selects _ _ (.within ho hs), fun _ hr => h.reaches _ (ho.reaches hr)⟩

end Document.Executable

namespace Execution

open Complexity Executable

/-- Sets of selections that may be asked together of one object of a concrete type, from those asked
of the root. -/
inductive Asked (s : Schema) (d : Executable) (values : Json.Members) (root : String)
    (selections : List ExecutableSelection) : String → List (List ExecutableSelection) → Prop where
  | root : Asked s d values root selections root [selections]
  | field {object key concrete : String} {sets : List (List ExecutableSelection)}
      {first : CollectedField} {rest : List CollectedField}
      (h : Asked s d values root selections object sets)
      (hg : (key, first :: rest) ∈ collect s d object (Conditions.strict values) sets)
      (hc : concrete ∈ s.possibleTypes first.head.note.type.innerName) :
      Asked s d values root selections concrete ((first :: rest).map (·.selections))

section

variable {s : Schema} {d : Executable} {values : Json.Members} {root object : String}
  {selections : List ExecutableSelection} {sets : List (List ExecutableSelection)}

/-- All that is asked of objects is a part of what is asked of the root. -/
theorem Asked.part (h : Asked s d values root selections object sets) :
    ∀ set ∈ sets, d.IsPart selections set := by
  induction h with
  | root =>
      intro set hset
      rw [List.mem_singleton.mp hset]
      exact .refl selections
  | field _ hg _ ih =>
      intro set hset
      obtain ⟨f, hf, rfl⟩ := List.mem_map.mp hset
      obtain ⟨-, set, hset, hocc⟩ := (mem_collect hg).2 f hf
      exact (ih set hset).occurs hocc

/-- Definitions come from the schema in all that is asked of objects. -/
theorem Asked.declares (hd : d.IsDeclared s) (ho : AllFields (Declares s) selections)
    (h : Asked s d values root selections object sets) :
    ∀ set ∈ sets, AllFields (Declares s) set := by
  induction h with
  | root => exact fun set hset => List.mem_singleton.mp hset ▸ ho
  | field _ hg _ ih =>
      intro set hset
      obtain ⟨f, hf, rfl⟩ := List.mem_map.mp hset
      obtain ⟨-, set, hset, hocc⟩ := (mem_collect hg).2 f hf
      exact (hocc.all hd.fragment? (ih set hset)).2

variable {key : String} {group : List CollectedField}

/-- What is collected for an object is selected. -/
theorem Asked.selects (h : Asked s d values root selections object sets)
    (hg : (key, group) ∈ collect s d object (Conditions.strict values) sets) :
    ∀ f ∈ group, d.Selects selections f.head f.selections := by
  intro f hf
  obtain ⟨-, set, hset, hocc⟩ := (mem_collect hg).2 f hf
  exact (h.part set hset).selects _ _ (.here hocc)

/-- What is collected for an object has definitions from the schema. -/
theorem Asked.declaresField (hd : d.IsDeclared s) (ho : AllFields (Declares s) selections)
    (h : Asked s d values root selections object sets)
    (hg : (key, group) ∈ collect s d object (Conditions.strict values) sets) :
    ∀ f ∈ group, Declares s f.head f.selections := by
  intro f hf
  obtain ⟨-, set, hset, hocc⟩ := (mem_collect hg).2 f hf
  exact (hocc.all hd.fragment? (h.declares hd ho set hset)).1

end

/-! ### What collected fields cost -/

/-- The cost of what is selected of a field. -/
def belowCost (s : Schema) (F : String → Nat) (f : CollectedField) : Nat :=
  costIn s F f.head.note.type.innerName f.selections

/-- The cost of a field that is not selected on a vacant type. -/
def ownCost (s : Schema) (F : String → Nat) (f : CollectedField) : Nat :=
  if f.head.note.type.innerName = "__Schema" then 0
  else (if isComposite s f.head.note.type.innerName then belowCost s F f else 0) + 1

/-- The cost of groups of fields. -/
def total (s : Schema) (F : String → Nat) (gs : FieldGroups) : Nat :=
  (gs.map fun g => (g.2.map (ownCost s F)).sum).sum

variable {s : Schema} {d : Executable} {F : String → Nat}

theorem total_add (f : CollectedField) (gs : FieldGroups) :
    total s F (gs.add f) = total s F gs + ownCost s F f := by
  unfold total
  induction gs with
  | nil => simp [FieldGroups.add]
  | cons g rest ih =>
      obtain ⟨key, fields⟩ := g
      rw [FieldGroups.add]
      split
      · simp only [List.map_cons, List.sum_cons, List.map_append, List.sum_append, List.map_nil,
          List.sum_nil]
        omega
      · simp only [List.map_cons, List.sum_cons, ih]
        omega

/-- A fragment that applies to an object is not on a vacant type. -/
theorem isVacant_of_applies {object condition : String} {t : TypeDefinition}
    (ht : s.type? object = some t) (hobject : t.isObject = true)
    (h : applies s object condition = true) : s.isVacant condition = false := by
  have hpossible : object ∈ s.possibleTypes condition := by
    rcases (Bool.or_eq_true _ _).mp h with h | h
    · rw [of_decide_eq_true h, Schema.possibleTypes_of_isObject ht hobject]
      exact List.mem_singleton_self _
    · exact Schema.mem_possibleTypes_of_isSubtype h ht hobject
  exact Schema.isVacant_of_mem_possibleTypes hpossible

section

variable {object : String} {counts : Conditions} {openFragment : String → Collected → Collected}

mutual

theorem collectSelection_total
    (hobject : ∀ condition, applies s object condition = true → s.isVacant condition = false) :
    ∀ (x : ExecutableSelection) {type : String} (found : Collected), s.isVacant type = false →
      (∀ name ∈ spreadsOf x, ∀ found,
        total s F (openFragment name found).groups ≤ total s F found.groups + F name) →
      total s F (collectSelection s object counts openFragment x found).groups ≤
        total s F found.groups + costOf s F type x
  | .field head inner, type, found, htype, _ => by
      rw [collectSelection, costOf, htype]
      split
      · rw [total_add]
        simp [ownCost, belowCost]
      · exact Nat.le_add_right _ _
  | .spread name ds place, type, found, _, hopen => by
      rw [collectSelection, costOf]
      split
      · exact hopen name (by simp [spreadsOf]) _
      · exact Nat.le_add_right _ _
  | .inline none ds place inner, type, found, htype, hopen => by
      rw [collectSelection, costOf]
      split
      · exact collectSelections_total hobject inner found htype hopen
      · exact Nat.le_add_right _ _
  | .inline (some condition) ds place inner, type, found, _, hopen => by
      rw [collectSelection, costOf]
      split
      · rename_i h
        have happlies := ((Bool.and_eq_true _ _).mp h).2
        exact collectSelections_total hobject inner found (hobject condition.node happlies) hopen
      · exact Nat.le_add_right _ _

theorem collectSelections_total
    (hobject : ∀ condition, applies s object condition = true → s.isVacant condition = false) :
    ∀ (xs : List ExecutableSelection) {type : String} (found : Collected), s.isVacant type = false →
      (∀ name ∈ spreads xs, ∀ found,
        total s F (openFragment name found).groups ≤ total s F found.groups + F name) →
      total s F (collectSelections s object counts openFragment xs found).groups ≤
        total s F found.groups + costIn s F type xs
  | [], _, _, _, _ => Nat.le_add_right _ _
  | x :: rest, type, found, htype, hopen => by
      rw [collectSelections, costIn]
      have hx := collectSelection_total hobject x found htype fun name hm =>
        hopen name (List.mem_append_left _ hm)
      have hrest := collectSelections_total hobject rest
        (collectSelection s object counts openFragment x found) htype fun name hm =>
          hopen name (List.mem_append_right _ hm)
      omega

end

theorem collectFragment_total
    (hobject : ∀ condition, applies s object condition = true → s.isVacant condition = false)
    {selections : List ExecutableSelection} (hF : Priced s d F selections) (fuel : Nat)
    {name : String} (hname : d.Reaches selections name) (found : Collected) :
    total s F (collectFragment s d object counts fuel name found).groups ≤
      total s F found.groups + F name := by
  induction fuel generalizing name found with
  | zero => exact Nat.le_add_right _ _
  | succ fuel ih =>
      rw [collectFragment]
      split
      · rename_i f hf
        split
        · rename_i happlies
          rw [hF name f hname hf]
          exact collectSelections_total hobject f.selections found (hobject _ happlies)
            fun m hm found => ih (hname.trans hf (.spread hm)) found
        · exact Nat.le_add_right _ _
      · exact Nat.le_add_right _ _

/-- **Collecting costs no more**: the fields that are collected for an object cost at most what the
sets cost from which they are collected, each on its type. -/
theorem collect_total
    (hobject : ∀ condition, applies s object condition = true → s.isVacant condition = false)
    {selections : List ExecutableSelection} (hF : Priced s d F selections)
    {sets : List (String × List ExecutableSelection)}
    (hsets : ∀ set ∈ sets, s.isVacant set.1 = false ∧ d.IsPart selections set.2) :
    total s F (collect s d object counts (sets.map Prod.snd)) ≤
      (sets.map fun set => costIn s F set.1 set.2).sum := by
  rw [collect]
  -- the sets are taken in one after the other
  suffices ∀ found : Collected,
      total s F ((sets.map Prod.snd).foldl (fun found selections =>
        collectSelections s object counts
          (collectFragment s d object counts (d.fragments.length + 1)) selections found) found).groups ≤
        total s F found.groups + (sets.map fun set => costIn s F set.1 set.2).sum by
    simpa [total] using this {}
  induction sets with
  | nil => exact fun found => Nat.le_add_right _ _
  | cons set rest ih =>
      intro found
      obtain ⟨hvacant, hpart⟩ := hsets set List.mem_cons_self
      have hset : total s F (collectSelections s object counts
          (collectFragment s d object counts (d.fragments.length + 1)) set.2 found).groups ≤
            total s F found.groups + costIn s F set.1 set.2 :=
        collectSelections_total hobject set.2 found hvacant fun name hm found =>
          collectFragment_total hobject hF _ (hpart.reaches name (.spread hm)) found
      have hrest := ih (fun set hm => hsets set (List.mem_cons_of_mem _ hm))
        (collectSelections s object counts
          (collectFragment s d object counts (d.fragments.length + 1)) set.2 found)
      rw [List.map_cons, List.foldl_cons, List.map_cons, List.sum_cons]
      omega

end

end Execution

end GraphServe
