import GraphServe.Introspection

/-!
# Valid schemas

What the rules for schemas guarantee, as far as execution relies on it (`Schema.IsValid`): names
that begin with two underscores are kept for introspection, and every field that may be selected is
of a type that is there and not for input only.

`Schema.declared?` is the field that an object or interface itself declares under a name.  No field
of introspection is declared in a valid schema (`IsValid.declared`).
-/

namespace GraphServe

open Document

/-- Whether fields may be of a type. -/
def Document.TypeDefinition.isOutput (t : TypeDefinition) : Bool :=
  match t.body with
  | .input _ => false
  | _        => true

namespace Schema

/-- Whether a name is kept for introspection. -/
def isReserved (name : String) : Bool := "__".toList.isPrefixOf name.toList

/-- A schema that keeps to the rules for names and types of fields. -/
structure IsValid (s : Schema) : Prop where
  names   : ∀ t ∈ s.types, ∀ f ∈ t.fields, isReserved f.name = false
  outputs : ∀ t ∈ s.types, ∀ f ∈ t.fields ++ s.metaFields t,
    (s.type? f.type.innerName).any (·.isOutput) = true

/-- The field that a type declares under a name. -/
def declared? (s : Schema) (type name : String) : Option FieldDefinition :=
  (s.type? type).bind fun t => t.fields.find? (·.name = name)

variable {s : Schema}

theorem type?_some {name : String} {t : TypeDefinition} (h : s.type? name = some t) :
    t ∈ s.types ∧ t.name = name :=
  ⟨List.mem_of_find?_eq_some h, by simpa using List.find?_some h⟩

theorem mem_of_field? {t : TypeDefinition} {name : String} {f : FieldDefinition}
    (h : s.field? t name = some f) : f ∈ t.fields ++ s.metaFields t ∧ f.name = name :=
  ⟨List.mem_of_find?_eq_some h, by simpa using List.find?_some h⟩

/-- An object stands for itself. -/
theorem possibleTypes_of_isObject {name : String} {t : TypeDefinition} (h : s.type? name = some t)
    (hobject : t.isObject = true) : s.possibleTypes name = [name] := by
  unfold possibleTypes
  rw [h]
  obtain ⟨_, _, _, body⟩ := t
  cases body with
  | object => rfl
  | _ => cases hobject

/-- An interface or union stands for the objects that are its subtypes. -/
theorem mem_possibleTypes_of_isSubtype {abstract concrete : String} {t : TypeDefinition}
    (h : s.isSubtype abstract concrete = true) (ht : s.type? concrete = some t)
    (hobject : t.isObject = true) : concrete ∈ s.possibleTypes abstract := by
  obtain ⟨hmem, rfl⟩ := type?_some ht
  unfold isSubtype at h
  unfold possibleTypes
  split at h
  · cases h
  · rename_i a ha
    obtain ⟨_, _, _, body⟩ := a
    cases body with
    | union members => exact List.contains_iff_mem.mp h
    | interface =>
        dsimp only at h ⊢
        rw [ht] at h
        refine List.mem_map_of_mem (List.mem_filter.mpr ⟨hmem, ?_⟩)
        rw [hobject]
        exact h
    | _ => cases h

/-- No field of introspection is declared. -/
theorem IsValid.declared (h : s.IsValid) {type name : String} {f : FieldDefinition}
    (hf : s.declared? type name = some f) :
    name ≠ "__typename" ∧ Introspection.isField name = false := by
  obtain ⟨t, ht, hf⟩ := Option.bind_eq_some_iff.mp hf
  have hname : f.name = name := by simpa using List.find?_some hf
  have hfree : isReserved name = false :=
    hname ▸ h.names t (type?_some ht).1 f (List.mem_of_find?_eq_some hf)
  refine ⟨fun heq => ?_, Bool.eq_false_iff.mpr fun heq => ?_⟩
  · rw [heq] at hfree
    cases hfree
  · have hor : name = "__schema" ∨ name = "__type" := by simpa [Introspection.isField] using heq
    rcases hor with rfl | rfl <;> cases hfree

/-- The type of a field that may be selected is there, and not for input. -/
theorem IsValid.output (h : s.IsValid) {t : TypeDefinition} (ht : t ∈ s.types) {name : String}
    {f : FieldDefinition} (hf : s.field? t name = some f) :
    ∃ inner, s.type? f.type.innerName = some inner ∧ inner.isOutput = true := by
  have hany := h.outputs t ht f (mem_of_field? hf).1
  cases hinner : s.type? f.type.innerName with
  | none => rw [hinner] at hany; cases hany
  | some inner => rw [hinner] at hany; exact ⟨inner, rfl, hany⟩

end Schema

end GraphServe
