import GraphServe.Proofs.Document.Standing
import GraphServe.Proofs.Execution.Collection
import GraphServe.Proofs.Schema.Implementing

/-!
# The types that collected fields are selected on

Of an object only the fields are collected that are selected on a type that stands for its concrete
type (`CollectedField.IsOn`, `isOn_of_mem_collect`): the selections of the object are on such types,
and a fragment on another is not opened.  So where the schema keeps to the rules for interfaces, the
concrete type declares each field that is collected and no field of introspection, with a type that
is no wider than the one the field was selected with (`CollectedField.IsOn.declared`).
-/

namespace GraphServe.Execution

open Document

/-- A field is selected on a type that stands for an object type. -/
structure CollectedField.IsOn (s : Schema) (object : String) (f : CollectedField) : Prop where
  field : ∃ type t, applies s object type = true ∧ s.type? type = some t ∧
    s.field? t f.head.name.node = some f.head.note
  inner : AreOn s f.head.note.type.innerName f.selections

variable {s : Schema} {d : Executable} {object : String} {counts : Conditions}

/-- **The object type declares a field that is collected for it**, if that is none of introspection,
and its type there is no wider. -/
theorem CollectedField.IsOn.declared (hs : s.Implements) {f : CollectedField}
    (h : f.IsOn s object) {t : TypeDefinition} (ht : s.type? object = some t)
    (htypename : f.head.name.node ≠ "__typename")
    (hintro : Introspection.isField f.head.name.node = false) :
    ∃ g, s.declared? object f.head.name.node = some g ∧
      s.narrows g.type f.head.note.type = true := by
  obtain ⟨type, u, happlies, hu, hf⟩ := h.field
  exact hs.declared ht hu happlies hf htypename hintro

/-- What the object type declares under the name of a field is no wider than that. -/
theorem CollectedField.IsOn.narrows (hs : s.IsValid) (hi : s.Implements) {f : CollectedField}
    (h : f.IsOn s object) {g : FieldDefinition}
    (hg : s.declared? object f.head.name.node = some g) :
    s.narrows g.type f.head.note.type = true := by
  obtain ⟨t, ht, -⟩ := Option.bind_eq_some_iff.mp hg
  obtain ⟨htypename, hintro⟩ := hs.declared hg
  obtain ⟨g', hg', hnarrows⟩ := h.declared hi ht htypename hintro
  cases hg.symm.trans hg'
  exact hnarrows

/-- All fields of some groups are selected on types that stand for an object type. -/
def FieldGroups.AreOn (s : Schema) (object : String) (gs : FieldGroups) : Prop :=
  ∀ g ∈ gs, ∀ f ∈ g.2, f.IsOn s object

theorem FieldGroups.AreOn.add {gs : FieldGroups} (h : gs.AreOn s object) {f : CollectedField}
    (hf : f.IsOn s object) : (gs.add f).AreOn s object := by
  intro g hg f' hf'
  rcases FieldGroups.mem_add hg with hg | ⟨-, hg | ⟨fields, hm, hg⟩⟩
  · exact h g hg f' hf'
  · rw [hg] at hf'
    exact List.mem_singleton.mp hf' ▸ hf
  · rw [hg] at hf'
    rcases List.mem_append.mp hf' with hf' | hf'
    · exact h _ hm f' hf'
    · exact List.mem_singleton.mp hf' ▸ hf

section

variable {openFragment : String → Collected → Collected}

mutual

theorem collectSelection_areOn
    (hopen : ∀ name found, found.groups.AreOn s object →
      (openFragment name found).groups.AreOn s object) :
    ∀ (x : ExecutableSelection) (type : String) (found : Collected), applies s object type = true →
      IsOn s type x → found.groups.AreOn s object →
      (collectSelection s object counts openFragment x found).groups.AreOn s object
  | .field head inner, type, found, happlies, hx, h => by
      rw [collectSelection]
      split
      · obtain ⟨⟨t, ht, hfield⟩, hinner⟩ := hx
        exact h.add ⟨⟨type, t, happlies, ht, hfield⟩, hinner⟩
      · exact h
  | .spread name ds place, type, found, happlies, hx, h => by
      rw [collectSelection]
      split
      · exact hopen _ _ h
      · exact h
  | .inline none ds place inner, type, found, happlies, hx, h => by
      rw [collectSelection]
      split
      · exact collectSelections_areOn hopen inner type found happlies hx h
      · exact h
  | .inline (some on) ds place inner, type, found, happlies, hx, h => by
      rw [collectSelection]
      split
      · rename_i hcounts
        exact collectSelections_areOn hopen inner on.node found
          ((Bool.and_eq_true _ _).mp hcounts).2 hx h
      · exact h

theorem collectSelections_areOn
    (hopen : ∀ name found, found.groups.AreOn s object →
      (openFragment name found).groups.AreOn s object) :
    ∀ (xs : List ExecutableSelection) (type : String) (found : Collected),
      applies s object type = true → AreOn s type xs → found.groups.AreOn s object →
      (collectSelections s object counts openFragment xs found).groups.AreOn s object
  | [], _, _, _, _, h => h
  | x :: rest, type, found, happlies, hx, h => by
      rw [collectSelections]
      exact collectSelections_areOn hopen rest type _ happlies hx.2
        (collectSelection_areOn hopen x type found happlies hx.1 h)

end

end

theorem collectFragment_areOn (hd : d.IsTyped s) (fuel : Nat) (name : String) (found : Collected)
    (h : found.groups.AreOn s object) :
    (collectFragment s d object counts fuel name found).groups.AreOn s object := by
  induction fuel generalizing name found with
  | zero => exact h
  | succ fuel ih =>
      rw [collectFragment]
      split
      · rename_i f hf
        split
        · exact collectSelections_areOn ih f.selections f.condition.node found ‹_› (hd.fragment? hf) h
        · exact h
      · exact h

/-- Sets of selections that are on types which stand for an object type. -/
def AreFor (s : Schema) (object : String) (sets : List (List ExecutableSelection)) : Prop :=
  ∀ set ∈ sets, ∃ type, applies s object type = true ∧ AreOn s type set

theorem AreFor.of_applies (hs : s.Implements) {name : String}
    {sets : List (List ExecutableSelection)} (h : AreFor s name sets)
    (happlies : applies s object name = true) : AreFor s object sets := fun set hset => by
  obtain ⟨type, hon, hset⟩ := h set hset
  exact ⟨type, Schema.applies_trans hs happlies hon, hset⟩

/-- **Of an object only fields are collected that are selected on types which stand for it.** -/
theorem isOn_of_mem_collect (hd : d.IsTyped s) {sets : List (List ExecutableSelection)}
    (hsets : AreFor s object sets) {g : String × List CollectedField}
    (hg : g ∈ collect s d object counts sets) {f : CollectedField} (hf : f ∈ g.2) :
    f.IsOn s object := by
  suffices h : (collect s d object counts sets).AreOn s object from h g hg f hf
  rw [collect]
  have hempty : ({} : Collected).groups.AreOn s object :=
    fun _ h => absurd h List.not_mem_nil
  generalize ({} : Collected) = found at hempty
  clear hg
  induction sets generalizing found with
  | nil => exact hempty
  | cons set rest ih =>
      obtain ⟨type, happlies, hset⟩ := hsets set List.mem_cons_self
      rw [List.foldl_cons]
      exact ih (fun set h => hsets set (List.mem_cons_of_mem _ h)) _
        (collectSelections_areOn (collectFragment_areOn hd _) set type found happlies hset hempty)

/-- The selections of fields that are collected under one key are for the types that stand for the
values of all of them. -/
theorem areFor_of_isOn {fields : List CollectedField} {concrete : String}
    (hfields : ∀ f ∈ fields, f.IsOn s object)
    (hconcrete : ∀ f ∈ fields, applies s concrete f.head.note.type.innerName = true) :
    AreFor s concrete (fields.map (·.selections)) := by
  intro set hset
  obtain ⟨f, hf, rfl⟩ := List.mem_map.mp hset
  exact ⟨_, hconcrete f hf, (hfields f hf).inner⟩

end GraphServe.Execution
