import GraphServe.Proofs.Document.Adding
import GraphServe.Proofs.Json.Value
import GraphServe.Proofs.Schema.Validity

/-!
# Documents — the types that selections are on

A selection is on a type: that of the field it is selected of, or that of the fragment around it.
A field that is selected on a type is one that the type has, and what is selected of it is on the
type of the field (`IsOn`, `AreOn`).  So it is in all operations and fragments of a document
(`Executable.isTyped_resolve`).
-/

namespace GraphServe.Document

mutual

/-- A selection is one on a named type. -/
def IsOn (s : Schema) : String → ExecutableSelection → Prop
  | type, .field head inner       =>
      (∃ t, s.type? type = some t ∧ s.field? t head.name.node = some head.note) ∧
        AreOn s head.note.type.innerName inner
  | _,    .spread _ _ _           => True
  | type, .inline none _ _ inner  => AreOn s type inner
  | _,    .inline (some on) _ _ inner => AreOn s on.node inner

/-- Selections are ones on a named type. -/
def AreOn (s : Schema) : String → List ExecutableSelection → Prop
  | _,    []            => True
  | type, first :: rest => IsOn s type first ∧ AreOn s type rest

end

variable {s : Schema} {d : Executable}

theorem AreOn.append {type : String} {xs ys : List ExecutableSelection} (hx : AreOn s type xs)
    (hy : AreOn s type ys) : AreOn s type (xs ++ ys) := by
  induction xs with
  | nil => exact hy
  | cons first rest ih => exact ⟨hx.1, ih hx.2⟩

namespace Executable

mutual

theorem isOn_resolveSelection :
    ∀ (x : Selection Unit) (type : String) (y : ExecutableSelection),
      (resolveSelection s (s.type? type) x).1 = some y → IsOn s type y
  | .spread fragment ds place, type, y, hy => by
      cases hy
      trivial
  | .inline none ds place inner, type, y, hy => by
      cases hy
      exact areOn_resolveSelections inner type
  | .inline (some condition) ds place inner, type, y, hy => by
      rw [resolveSelection] at hy
      split at hy
      · cases hy
      · rename_i t ht
        cases hy
        rw [← ht]
        exact areOn_resolveSelections inner condition.node
  | .field head inner, type, y, hy => by
      cases ht : s.type? type with
      | none => rw [ht] at hy; cases hy
      | some t =>
          rw [ht, resolveSelection] at hy
          split at hy
          · cases hy
          rename_i definition hdefinition
          split at hy
          · cases hy
          cases hy
          exact ⟨⟨t, ht, hdefinition⟩, areOn_resolveSelections inner _⟩

theorem areOn_resolveSelections :
    ∀ (xs : List (Selection Unit)) (type : String),
      AreOn s type (resolveSelections s (s.type? type) xs).1
  | [], _ => trivial
  | first :: rest, type => by
      rw [resolveSelections]
      refine AreOn.append ?_ (areOn_resolveSelections rest type)
      cases hfirst : (resolveSelection s (s.type? type) first).1 with
      | none => trivial
      | some y => exact ⟨isOn_resolveSelection first type y hfirst, trivial⟩

end

/-- The selections of all operations are on their root types, and those of the fragments on their
conditions. -/
structure IsTyped (s : Schema) (d : Executable) : Prop where
  operations : ∀ o ∈ d.allOperations, AreOn s ((s.root? o.type).getD "") o.selections
  fragments  : ∀ g ∈ d.fragments, AreOn s g.2.condition.node g.2.selections

theorem IsTyped.fragment? (h : d.IsTyped s) {name : String} {f : Fragment FieldDefinition}
    (hf : d.fragment? name = some f) : AreOn s f.condition.node f.selections :=
  h.fragments (name, f) (mem_of_lookup hf)

theorem areOn_resolveOperation {o : Operation Unit} {resolved : Operation FieldDefinition}
    (h : (resolveOperation s o).1 = some resolved) :
    AreOn s ((s.root? resolved.type).getD "") resolved.selections := by
  unfold resolveOperation at h
  split at h
  · cases h
  · rename_i root hroot
    cases h
    dsimp only
    rw [hroot]
    exact areOn_resolveSelections _ _

/-- **Selections are on types that have their fields**: in a document, whatever its text was. -/
theorem isTyped_resolve (s : Schema) (definitions : List Definition) :
    (resolve s definitions).1.IsTyped s := by
  obtain ⟨operations, fragments⟩ := resolve_all (s := s)
    (P := fun o => AreOn s ((s.root? o.type).getD "") o.selections)
    (Q := fun f => AreOn s f.condition.node f.selections)
    (fun o r h => areOn_resolveOperation h)
    (fun f t ht => ht ▸ areOn_resolveSelections f.selections f.condition.node) definitions
  exact ⟨operations, fragments⟩

end Executable

end GraphServe.Document
