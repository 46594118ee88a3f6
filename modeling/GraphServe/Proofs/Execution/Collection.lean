import Mathlib.Data.List.Nodup
import GraphServe.Execution.Collection
import GraphServe.Proofs.Document.Nesting
import GraphServe.Proofs.Json.Value

/-!
# Groups of fields, and what collecting gives

A field is added to the group of its response key.  The group gets the field as its last
(`FieldGroups.under_add`), and the key comes last among the keys if it is new
(`FieldGroups.keys_add`).

Two lists of groups are `FieldGroups.Alike` that have the same keys in the same order and under each
the same first field and the same fields: then they differ in how often a field is held, and where
it stands after the first.  A field that is held already may be added again
(`FieldGroups.Holds.alike_add`).

The groups of fields that selections ask of an object: their keys are different, no group is empty,
and every field in them stands under its response key and occurs in the selections.

`collect_induction` is the principle behind: a property of groups that adding a field keeps, holds
of all that is collected.
-/

namespace GraphServe.Execution

/-! ### Groups -/

namespace FieldGroups

/-- The fields under a response key. -/
def under (gs : FieldGroups) (key : String) : List CollectedField := (gs.lookup key).getD []

/-- A field is in the group of its response key. -/
def Holds (gs : FieldGroups) (field : CollectedField) : Prop :=
  field ∈ gs.under field.head.responseKey

/-- Add fields one after the other. -/
def addAll (gs : FieldGroups) (fields : List CollectedField) : FieldGroups :=
  fields.foldl (fun gs field => gs.add field) gs

/-- The same response keys in the same order, and under each the same first field and the same
fields, no matter how often. -/
structure Alike (gs gs' : FieldGroups) : Prop where
  keys : gs.map Prod.fst = gs'.map Prod.fst
  first : ∀ key, (gs.under key).head? = (gs'.under key).head?
  mem : ∀ key field, field ∈ gs.under key ↔ field ∈ gs'.under key

variable {gs gs' gs'' : FieldGroups} {field : CollectedField}

theorem under_add (gs : FieldGroups) (field : CollectedField) (key : String) :
    (gs.add field).under key =
      if key = field.head.responseKey then gs.under key ++ [field] else gs.under key := by
  induction gs with
  | nil =>
      rw [add, under, under, List.lookup_cons]
      split <;> simp_all
  | cons g rest ih =>
      obtain ⟨key', fields⟩ := g
      simp only [under] at ih
      rw [add, under, under]
      by_cases h : key' = field.head.responseKey
      · rw [if_pos h, List.lookup_cons, List.lookup_cons]
        split <;> simp_all
      · rw [if_neg h, List.lookup_cons, List.lookup_cons]
        split
        · rename_i he
          rw [beq_iff_eq] at he
          rw [if_neg (he ▸ h)]
        · exact ih

theorem keys_add (gs : FieldGroups) (field : CollectedField) :
    (gs.add field).map Prod.fst =
      if field.head.responseKey ∈ gs.map Prod.fst then gs.map Prod.fst
      else gs.map Prod.fst ++ [field.head.responseKey] := by
  induction gs with
  | nil => rfl
  | cons g rest ih =>
      obtain ⟨key, fields⟩ := g
      rw [add]
      by_cases h : key = field.head.responseKey
      · simp [h]
      · have hne : ¬ field.head.responseKey = key := fun he => h he.symm
        rw [if_neg h, List.map_cons, ih]
        by_cases hm : field.head.responseKey ∈ rest.map Prod.fst <;> simp [hm, hne]

theorem mem_add {field : CollectedField} {gs : FieldGroups} {g : String × List CollectedField}
    (h : g ∈ gs.add field) :
    g ∈ gs ∨ g.1 = field.head.responseKey ∧
      (g.2 = [field] ∨ ∃ fields, (g.1, fields) ∈ gs ∧ g.2 = fields ++ [field]) := by
  induction gs with
  | nil => exact .inr (by rw [List.mem_singleton.mp h]; exact ⟨rfl, .inl rfl⟩)
  | cons g' rest ih =>
      obtain ⟨key, fields⟩ := g'
      rw [add] at h
      split at h
      · rcases List.mem_cons.mp h with rfl | h
        · exact .inr ⟨‹_›, .inr ⟨fields, List.mem_cons_self, rfl⟩⟩
        · exact .inl (List.mem_cons_of_mem _ h)
      · rcases List.mem_cons.mp h with rfl | h
        · exact .inl List.mem_cons_self
        · rcases ih h with h | ⟨hk, h | ⟨fields, hm, he⟩⟩
          · exact .inl (List.mem_cons_of_mem _ h)
          · exact .inr ⟨hk, .inl h⟩
          · exact .inr ⟨hk, .inr ⟨fields, List.mem_cons_of_mem _ hm, he⟩⟩

theorem nodup_add {field : CollectedField} {gs : FieldGroups} (h : (gs.map Prod.fst).Nodup) :
    ((gs.add field).map Prod.fst).Nodup := by
  rw [keys_add]
  split
  · exact h
  · refine List.nodup_append.mpr ⟨h, List.nodup_cons.mpr ⟨List.not_mem_nil, List.nodup_nil⟩, ?_⟩
    intro key hkey key' hkey'
    rw [List.mem_singleton.mp hkey']
    exact fun he => absurd (he ▸ hkey) ‹_›

theorem Holds.mem_keys (h : gs.Holds field) : field.head.responseKey ∈ gs.map Prod.fst := by
  rw [Holds, under] at h
  cases hl : gs.lookup field.head.responseKey with
  | none => rw [hl] at h; cases h
  | some fields => exact List.mem_map_of_mem (mem_of_lookup hl)

theorem Holds.add (h : gs.Holds field) (other : CollectedField) : (gs.add other).Holds field := by
  rw [Holds, under_add]
  split
  · exact List.mem_append_left _ h
  · exact h

theorem holds_add_self (gs : FieldGroups) (field : CollectedField) : (gs.add field).Holds field := by
  rw [Holds, under_add, if_pos rfl]
  exact List.mem_append_right _ (List.mem_singleton_self _)

theorem Holds.addAll (h : gs.Holds field) (fields : List CollectedField) :
    (gs.addAll fields).Holds field := by
  induction fields generalizing gs with
  | nil => exact h
  | cons f rest ih => exact ih (h.add f)

theorem holds_addAll {fields : List CollectedField} (h : field ∈ fields) :
    (gs.addAll fields).Holds field := by
  induction fields generalizing gs with
  | nil => cases h
  | cons f rest ih =>
      rcases List.mem_cons.mp h with rfl | h
      · exact (holds_add_self gs field).addAll rest
      · exact ih h

theorem addAll_append (gs : FieldGroups) (fields fields' : List CollectedField) :
    gs.addAll (fields ++ fields') = (gs.addAll fields).addAll fields' := List.foldl_append

namespace Alike

theorem refl (gs : FieldGroups) : gs.Alike gs := ⟨rfl, fun _ => rfl, fun _ _ => Iff.rfl⟩

theorem trans (h : gs.Alike gs') (h' : gs'.Alike gs'') : gs.Alike gs'' :=
  ⟨h.keys.trans h'.keys, fun key => (h.first key).trans (h'.first key),
    fun key field => (h.mem key field).trans (h'.mem key field)⟩

theorem holds (h : gs.Alike gs') (hf : gs'.Holds field) : gs.Holds field :=
  (h.mem _ field).mpr hf

theorem add (h : gs.Alike gs') (field : CollectedField) : (gs.add field).Alike (gs'.add field) where
  keys := by rw [keys_add, keys_add, h.keys]
  first key := by
    rw [under_add, under_add]
    split
    · rw [List.head?_append, List.head?_append, h.first key]
    · exact h.first key
  mem key other := by
    rw [under_add, under_add]
    split
    · rw [List.mem_append, List.mem_append, h.mem key other]
    · exact h.mem key other

theorem addAll (h : gs.Alike gs') (fields : List CollectedField) :
    (gs.addAll fields).Alike (gs'.addAll fields) := by
  induction fields generalizing gs gs' with
  | nil => exact h
  | cons f rest ih => exact ih (h.add f)

/-- What is alike to one addition, and then to another, is alike to both. -/
theorem append {fields fields' : List CollectedField} (h : gs'.Alike (gs.addAll fields))
    (h' : gs''.Alike (gs'.addAll fields')) : gs''.Alike (gs.addAll (fields ++ fields')) := by
  rw [addAll_append]
  exact h'.trans (h.addAll fields')

end Alike

/-- A field that is held already changes nothing. -/
theorem Holds.alike_add (h : gs.Holds field) : gs.Alike (gs.add field) where
  keys := by rw [keys_add, if_pos h.mem_keys]
  first key := by
    rw [under_add]
    split
    · rename_i hk
      obtain ⟨first, hfirst⟩ := Option.isSome_iff_exists.mp
        (List.isSome_head?.mpr (hk ▸ List.ne_nil_of_mem h : gs.under key ≠ []))
      rw [List.head?_append, hfirst, Option.some_or]
    · rfl
  mem key other := by
    rw [under_add]
    split
    · rename_i hk
      rw [List.mem_append, List.mem_singleton]
      exact ⟨.inl, fun ho => ho.elim id fun ho => by rw [ho, hk]; exact h⟩
    · rfl

theorem alike_addAll {fields : List CollectedField} (h : ∀ field ∈ fields, gs.Holds field) :
    gs.Alike (gs.addAll fields) := by
  induction fields with
  | nil => exact .refl gs
  | cons f rest ih =>
      have hf : gs.Alike (gs.add f) := (h f List.mem_cons_self).alike_add
      exact (ih fun field hm => h field (List.mem_cons_of_mem _ hm)).trans (hf.addAll rest)

end FieldGroups

/-! ### Collecting -/

open Document

variable {s : Schema} {d : Executable} {object : String} {counts : Conditions}

section

variable {P : FieldGroups → Prop} {Q : FieldHead FieldDefinition → List ExecutableSelection → Prop}
  {openFragment : String → Collected → Collected}

mutual

theorem collectSelection_induction
    (add : ∀ gs head inner, P gs → Q head inner → P (gs.add ⟨head, inner⟩)) :
    ∀ (x : ExecutableSelection) (found : Collected),
      (∀ head inner, d.Occurs [x] head inner → Q head inner) →
      (∀ name found, (∀ f, d.fragment? name = some f →
          ∀ head inner, d.Occurs f.selections head inner → Q head inner) →
        P found.groups → P (openFragment name found).groups) →
      P found.groups → P (collectSelection s object counts openFragment x found).groups
  | .field head inner, found, hq, _, h => by
      rw [collectSelection]
      split
      · exact add _ _ _ h (hq head inner (.field List.mem_cons_self))
      · exact h
  | .spread name ds place, found, hq, hopen, h => by
      rw [collectSelection]
      split
      · exact hopen _ _ (fun f hf head inner ho => hq head inner (.spread List.mem_cons_self hf ho)) h
      · exact h
  | .inline on? ds place inside, found, hq, hopen, h => by
      rw [collectSelection]
      split
      · exact collectSelections_induction add inside found
          (fun head inner ho => hq head inner (.inline List.mem_cons_self ho)) hopen h
      · exact h

theorem collectSelections_induction
    (add : ∀ gs head inner, P gs → Q head inner → P (gs.add ⟨head, inner⟩)) :
    ∀ (xs : List ExecutableSelection) (found : Collected),
      (∀ head inner, d.Occurs xs head inner → Q head inner) →
      (∀ name found, (∀ f, d.fragment? name = some f →
          ∀ head inner, d.Occurs f.selections head inner → Q head inner) →
        P found.groups → P (openFragment name found).groups) →
      P found.groups → P (collectSelections s object counts openFragment xs found).groups
  | [], found, _, _, h => h
  | x :: rest, found, hq, hopen, h => by
      rw [collectSelections]
      have hx : ∀ head inner, d.Occurs [x] head inner → Q head inner := fun head inner ho =>
        hq head inner (ho.mono fun y hy => List.mem_singleton.mp hy ▸ List.mem_cons_self)
      have hrest : ∀ head inner, d.Occurs rest head inner → Q head inner := fun head inner ho =>
        hq head inner (ho.mono fun y hy => List.mem_cons_of_mem _ hy)
      exact collectSelections_induction add rest _ hrest hopen
        (collectSelection_induction add x found hx hopen h)

end

theorem collectFragment_induction
    (add : ∀ gs head inner, P gs → Q head inner → P (gs.add ⟨head, inner⟩)) (fuel : Nat)
    (name : String) (found : Collected)
    (hq : ∀ f, d.fragment? name = some f →
      ∀ head inner, d.Occurs f.selections head inner → Q head inner)
    (h : P found.groups) : P (collectFragment s d object counts fuel name found).groups := by
  induction fuel generalizing name found with
  | zero => exact h
  | succ fuel ih =>
      rw [collectFragment]
      split
      · rename_i f hf
        split
        · exact collectSelections_induction add f.selections found (hq f hf)
            (fun name found hq h => ih name found hq h) h
        · exact h
      · exact h

end

/-! ### Several sets of selections -/

theorem collectSelections_append {openFragment : String → Collected → Collected}
    (xs ys : List ExecutableSelection) (found : Collected) :
    collectSelections s object counts openFragment (xs ++ ys) found =
      collectSelections s object counts openFragment ys
        (collectSelections s object counts openFragment xs found) := by
  induction xs generalizing found with
  | nil => rfl
  | cons x rest ih => rw [List.cons_append, collectSelections, collectSelections, ih]

/-- Sets of selections are collected as the selections of all. -/
theorem collect_flatten (sets : List (List ExecutableSelection)) :
    collect s d object counts sets = (collectSelections s object counts
      (collectFragment s d object counts (d.fragments.length + 1)) sets.flatten {}).groups := by
  rw [collect]
  generalize ({} : Collected) = found
  induction sets generalizing found with
  | nil => rfl
  | cons set rest ih => rw [List.foldl_cons, List.flatten_cons, collectSelections_append, ih]

/-- A property of groups that holds of none and that adding a field of the selections keeps, holds
of what is collected. -/
theorem collect_induction {P : FieldGroups → Prop} {sets : List (List ExecutableSelection)}
    (nil : P []) (add : ∀ gs head inner, P gs → (∃ set ∈ sets, d.Occurs set head inner) →
      P (gs.add ⟨head, inner⟩)) : P (collect s d object counts sets) := by
  rw [collect_flatten]
  exact collectSelections_induction (d := d)
    (Q := fun head inner => ∃ set ∈ sets, d.Occurs set head inner) add sets.flatten {}
    (fun head inner ho => ho.of_flatten)
    (fun name found hq h => collectFragment_induction add _ name found hq h) nil

/-! ### What the groups hold -/

/-- The response keys of what is collected are different. -/
theorem collect_keys_nodup (sets : List (List ExecutableSelection)) :
    ((collect s d object counts sets).map Prod.fst).Nodup :=
  collect_induction (P := fun gs => (gs.map Prod.fst).Nodup) List.nodup_nil
    fun _ _ _ h _ => FieldGroups.nodup_add h

/-- There is one group under a response key. -/
theorem collect_unique {sets : List (List ExecutableSelection)} {key : String}
    {fields fields' : List CollectedField} (h : (key, fields) ∈ collect s d object counts sets)
    (h' : (key, fields') ∈ collect s d object counts sets) : fields = fields' :=
  congrArg Prod.snd (List.inj_on_of_nodup_map (collect_keys_nodup sets) h h' rfl)

/-- The group under a response key has one place among those that are collected. -/
theorem collect_place_unique {sets : List (List ExecutableSelection)} {key : String}
    {earlier earlier' later later' : FieldGroups} {fields fields' : List CollectedField}
    (h : collect s d object counts sets = earlier ++ (key, fields) :: later)
    (h' : collect s d object counts sets = earlier' ++ (key, fields') :: later') :
    earlier = earlier' ∧ fields = fields' := by
  have hsame : fields = fields' := collect_unique (h ▸ List.mem_append_cons_self)
    (h' ▸ List.mem_append_cons_self)
  subst hsame
  have hnodup : (earlier ++ (key, fields) :: later).Nodup := h ▸ (collect_keys_nodup sets).of_map
  have hnone : (key, fields) ∉ earlier ++ later :=
    (List.nodup_cons.mp (List.nodup_middle.mp hnodup)).1
  obtain ⟨hearlier, hlater⟩ := not_or.mp (mt List.mem_append.mpr hnone)
  exact ⟨((List.append_cons_inj_of_notMem hearlier hlater).mp (h.symm.trans h')).1, rfl⟩

/-- A group that is collected is not empty, and its fields stand under their response key and occur
in the selections. -/
theorem mem_collect {sets : List (List ExecutableSelection)}
    {g : String × List CollectedField} (hg : g ∈ collect s d object counts sets) :
    g.2 ≠ [] ∧ ∀ f ∈ g.2, f.head.responseKey = g.1 ∧
      ∃ set ∈ sets, d.Occurs set f.head f.selections := by
  refine collect_induction (P := fun gs => ∀ g ∈ gs, g.2 ≠ [] ∧
    ∀ f ∈ g.2, f.head.responseKey = g.1 ∧ ∃ set ∈ sets, d.Occurs set f.head f.selections)
    (fun _ h => nomatch h) (fun gs head inner h ho g hg => ?_) g hg
  rcases FieldGroups.mem_add hg with hg | ⟨hk, hg | ⟨fields, hm, hg⟩⟩
  · exact h g hg
  · rw [hg]
    refine ⟨by simp, fun f hf => ?_⟩
    rw [List.mem_singleton.mp hf]
    exact ⟨hk.symm, ho⟩
  · rw [hg]
    refine ⟨by simp, fun f hf => ?_⟩
    rcases List.mem_append.mp hf with hf | hf
    · exact (h _ hm).2 f hf
    · rw [List.mem_singleton.mp hf]
      exact ⟨hk.symm, ho⟩

end GraphServe.Execution
