import GraphServe.Execution.Collection
import GraphServe.Proofs.Schema.Validity

/-!
# What objects take over from their interfaces

The rules for implementing interfaces, as far as execution relies on them (`Schema.Implements`): a
type has the fields of its interfaces, with types that are no wider (`Schema.narrows`), it has the
interfaces of its interfaces, and the members of a union are objects.

* `applies_trans`: what a type stands for, it stands for through another type as well.
* `Implements.declared`: **a field that may be selected on a type is declared by the objects that the
  type stands for**, with a type that is no wider.
-/

namespace GraphServe

open Document Execution

/-- The members of a union. -/
def Document.TypeDefinition.members (t : TypeDefinition) : List String :=
  match t.body with
  | .union members => members
  | _              => []

namespace Schema

/-- Whether values of a type are values of another: that admits `null` if the type does, and stands
for the types that the type stands for. -/
def narrows (s : Schema) : TypeRef → TypeRef → Bool
  | .named a ra, .named b rb => (ra || !rb) && applies s a b
  | .list a ra,  .list b rb  => (ra || !rb) && narrows s a b
  | _,           _           => false

/-- A schema that keeps to the rules for interfaces and unions. -/
structure Implements (s : Schema) : Prop where
  /-- A type declares the fields of its interfaces, with types that are no wider. -/
  fields    : ∀ t ∈ s.types, ∀ i ∈ t.interfaces, ∀ a ∈ s.type? i, ∀ f ∈ a.fields,
    (t.fields.find? (·.name = f.name)).any (fun g => s.narrows g.type f.type) = true
  /-- A type has the interfaces of its interfaces. -/
  inherited : ∀ t ∈ s.types, ∀ i ∈ t.interfaces, ∀ a ∈ s.type? i, ∀ j ∈ a.interfaces,
    j ∈ t.interfaces
  members   : ∀ t ∈ s.types, ∀ m ∈ t.members, (s.type? m).any (·.isObject) = true

variable {s : Schema} {a b c : String}

theorem applies_self (s : Schema) (a : String) : applies s a a = true := by
  simp [applies]

theorem applies_iff : applies s a b = true ↔ b = a ∨ s.isSubtype b a = true := by
  rw [applies, Bool.or_eq_true, decide_eq_true_iff]

/-- A type with subtypes is an interface that they have, or a union that they are members of. -/
theorem of_isSubtype (h : s.isSubtype a b = true) : ∃ t, s.type? a = some t ∧
    t.isObject = false ∧ (b ∈ t.members ∨
      (∃ is fs, t.body = .interface is fs) ∧ ∃ u, s.type? b = some u ∧ a ∈ u.interfaces) := by
  unfold isSubtype at h
  split at h
  · cases h
  · rename_i t ht
    refine ⟨t, ht, ?_⟩
    obtain ⟨_, _, _, body⟩ := t
    cases body with
    | union members => exact ⟨rfl, .inl (List.contains_iff_mem.mp h)⟩
    | interface is fs =>
        dsimp only at h
        split at h
        · rename_i u hu
          exact ⟨rfl, .inr ⟨⟨is, fs, rfl⟩, u, hu, List.contains_iff_mem.mp h⟩⟩
        · cases h
    | _ => cases h

/-- What stands for an object type is no leaf. -/
theorem isComposite_of_applies {t u : TypeDefinition} (hu : s.type? a = some u)
    (hobject : u.isObject = true) (h : applies s a b = true) (ht : s.type? b = some t) :
    t.isComposite = true := by
  rcases applies_iff.mp h with rfl | hsub
  · cases ht.symm.trans hu
    obtain ⟨_, _, _, body⟩ := t
    cases body <;> first | rfl | cases hobject
  · rw [isSubtype, ht] at hsub
    obtain ⟨_, _, _, body⟩ := t
    cases body <;> first | rfl | cases hsub

/-- A leaf type is one of no other type. -/
theorem eq_of_applies_leaf (hs : s.Implements) {t : TypeDefinition} (ht : s.type? a = some t)
    (hleaf : t.isComposite = false) (h : applies s a b = true) : b = a := by
  rcases applies_iff.mp h with h | h
  · exact h
  · obtain ⟨u, hu, -, hmem | ⟨-, t', ht', hmem⟩⟩ := of_isSubtype h
    · have hany := hs.members u (type?_some hu).1 a hmem
      rw [ht, Option.any_some] at hany
      obtain ⟨_, _, _, body⟩ := t
      cases body <;> first | (cases hleaf; done) | cases hany
    · cases ht.symm.trans ht'
      obtain ⟨_, _, _, body⟩ := t
      cases body <;> first | (cases hleaf; done) | cases hmem

/-- What a type stands for, it stands for through another type as well. -/
theorem applies_trans (hs : s.Implements) (hab : applies s a b = true)
    (hbc : applies s b c = true) : applies s a c = true := by
  rcases applies_iff.mp hab with rfl | hsub
  · exact hbc
  rcases applies_iff.mp hbc with rfl | hsub'
  · exact hab
  obtain ⟨tb, htb, hobject, hb⟩ := of_isSubtype hsub
  obtain ⟨tc, htc, -, hc | ⟨⟨is, fs, hbody⟩, tb', htb', hc⟩⟩ := of_isSubtype hsub'
  · -- a member of a union is an object, and that has no subtypes
    have hany := hs.members tc (type?_some htc).1 b hc
    rw [htb, Option.any_some, hobject] at hany
    cases hany
  · cases htb.symm.trans htb'
    rcases hb with hb | ⟨-, ta, hta, hb⟩
    · -- a union has no interfaces
      obtain ⟨_, _, _, body⟩ := tb
      cases body with
      | union => cases hc
      | _ => cases hb
    · have hmem := hs.inherited ta (type?_some hta).1 b hb tb htb c hc
      refine applies_iff.mpr (.inr ?_)
      rw [isSubtype, htc]
      dsimp only
      rw [hbody, hta]
      exact List.contains_iff_mem.mpr hmem

/-! ### Types that are no wider -/

theorem narrows_self (s : Schema) (type : TypeRef) : s.narrows type type = true := by
  induction type with
  | named name required => simp [narrows, applies_self]
  | list item required ih => simp [narrows, ih]

theorem applies_of_narrows {t u : TypeRef} (h : s.narrows t u = true) :
    applies s t.innerName u.innerName = true := by
  induction t generalizing u with
  | named a ra =>
      cases u with
      | named b rb => exact ((Bool.and_eq_true _ _).mp h).2
      | list => cases h
  | list item ra ih =>
      cases u with
      | named => cases h
      | list item' rb => exact ih (u := item') ((Bool.and_eq_true _ _).mp h).2

theorem isRequired_of_narrows {t u : TypeRef} (h : s.narrows t u = true)
    (hu : u.isRequired = true) : t.isRequired = true := by
  cases t <;> cases u <;> simp_all [narrows, TypeRef.isRequired]

/-! ### Fields that are taken over -/

theorem find?_of_field? {t : TypeDefinition} {name : String} {f : FieldDefinition}
    (h : s.field? t name = some f) (htypename : name ≠ "__typename")
    (hintro : Introspection.isField name = false) : t.fields.find? (·.name = name) = some f := by
  rw [field?, List.find?_append] at h
  cases hfind : t.fields.find? (·.name = name) with
  | some g => rwa [hfind] at h
  | none =>
      rw [hfind, Option.none_or] at h
      have hname : f.name = name := by simpa using List.find?_some h
      have hmeta := List.mem_of_find?_eq_some h
      -- each of the fields that types have besides theirs is excluded
      unfold metaFields at hmeta
      rcases List.mem_append.mp hmeta with hm | hm
      · split at hm
        · cases List.mem_singleton.mp hm
          exact absurd hname.symm htypename
        · cases hm
      · split at hm
        · simp only [List.mem_cons, List.not_mem_nil, or_false] at hm
          rcases hm with rfl | rfl <;> subst hname <;> cases hintro
        · cases hm

/-- **A field that may be selected on a type** is declared by the objects that the type stands for,
with a type that is no wider. -/
theorem Implements.declared (hs : s.Implements) {t u : TypeDefinition} {name : String}
    {f : FieldDefinition} (ha : s.type? a = some t) (hb : s.type? b = some u)
    (happlies : applies s a b = true) (hf : s.field? u name = some f)
    (htypename : name ≠ "__typename") (hintro : Introspection.isField name = false) :
    ∃ g, s.declared? a name = some g ∧ s.narrows g.type f.type = true := by
  have hfind := find?_of_field? hf htypename hintro
  rw [declared?, ha, Option.bind_some]
  rcases applies_iff.mp happlies with rfl | hsub
  · cases ha.symm.trans hb
    exact ⟨f, hfind, narrows_self s _⟩
  · obtain ⟨u', hu', hobject', hmem⟩ := of_isSubtype hsub
    cases hb.symm.trans hu'
    rcases hmem with hmem | ⟨-, t', ht', hmem⟩
    · -- a union has no fields
      obtain ⟨_, _, _, body⟩ := u
      cases body with
      | union => cases hfind
      | _ => cases hmem
    · cases ha.symm.trans ht'
      have hany := hs.fields t (type?_some ha).1 b hmem u hb f (List.mem_of_find?_eq_some hfind)
      have hname : f.name = name := by simpa using List.find?_some hfind
      rw [hname] at hany
      cases hg : t.fields.find? (·.name = name) with
      | none => rw [hg] at hany; cases hany
      | some g => rw [hg] at hany; exact ⟨g, rfl, hany⟩

end Schema

end GraphServe
