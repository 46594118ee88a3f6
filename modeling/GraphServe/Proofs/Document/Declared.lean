import GraphServe.Proofs.Document.Adding
import GraphServe.Proofs.Document.Nesting
import GraphServe.Proofs.Json.Value
import GraphServe.Proofs.Schema.Validity

/-!
# Documents — the definitions of fields

The definition that a field of an executable document has is one that some type of the schema has
under its name, and from a field of a scalar or enum nothing is selected (`Declares`).  This holds
at any depth (`AllFields`), in all operations and fragments (`Executable.isDeclared_resolve`), and so
of all fields that selections lead to (`Occurs.all`).
-/

namespace GraphServe.Document

mutual

/-- Fields have a property at any depth of a selection; named fragments are not entered. -/
def AllFieldsOf (P : FieldHead FieldDefinition → List ExecutableSelection → Prop) :
    ExecutableSelection → Prop
  | .field head inner   => P head inner ∧ AllFields P inner
  | .spread _ _ _       => True
  | .inline _ _ _ inner => AllFields P inner

/-- Fields have a property at any depth of selections; named fragments are not entered. -/
def AllFields (P : FieldHead FieldDefinition → List ExecutableSelection → Prop) :
    List ExecutableSelection → Prop
  | []            => True
  | first :: rest => AllFieldsOf P first ∧ AllFields P rest

end

/-- A type of a schema has a field with its definition, and what is selected of the field is
nothing unless that is of a type with selections. -/
structure Declares (s : Schema) (head : FieldHead FieldDefinition)
    (inner : List ExecutableSelection) : Prop where
  field : ∃ t ∈ s.types, s.field? t head.name.node = some head.note
  leaf  : ∀ t, s.type? head.note.type.innerName = some t → t.isOutput = true →
    t.isComposite = false → inner = []

section

variable {P : FieldHead FieldDefinition → List ExecutableSelection → Prop}

theorem AllFields.of_mem {xs : List ExecutableSelection} (h : AllFields P xs)
    {x : ExecutableSelection} (hx : x ∈ xs) : AllFieldsOf P x := by
  induction xs with
  | nil => cases hx
  | cons first rest ih =>
      rcases List.mem_cons.mp hx with rfl | hx
      · exact h.1
      · exact ih h.2 hx

theorem AllFields.append {xs ys : List ExecutableSelection} (hx : AllFields P xs)
    (hy : AllFields P ys) : AllFields P (xs ++ ys) := by
  induction xs with
  | nil => exact hy
  | cons first rest ih => exact ⟨hx.1, ih hx.2⟩

/-- What holds at any depth of selections and of the fragments that they reach, holds of the fields
that occur in them and at any depth below them. -/
theorem Executable.Occurs.all_of_reaches {d : Executable} {xs inner : List ExecutableSelection}
    {head : FieldHead FieldDefinition} (h : d.Occurs xs head inner)
    (hd : ∀ name f, d.Reaches xs name → d.fragment? name = some f → AllFields P f.selections)
    (hx : AllFields P xs) : P head inner ∧ AllFields P inner := by
  induction h with
  | field h => exact hx.of_mem h
  | inline h _ ih =>
      refine ih (fun name f hr hf => hd name f ?_ hf) (hx.of_mem h)
      exact hr.mono fun m hm => spreads_of_mem h m (by rwa [spreadsOf])
  | @spread selections inner name ds place f head h hf _ ih =>
      have hname : name ∈ spreads selections := spreads_of_mem h name (by simp [spreadsOf])
      exact ih (fun name g hr hg => hd name g (.through hname hf hr) hg) (hd _ _ (.spread hname) hf)

/-- What holds at any depth of selections and fragments, holds of the fields that they lead to and
at any depth below them. -/
theorem Executable.Occurs.all {d : Executable}
    (hd : ∀ name f, d.fragment? name = some f → AllFields P f.selections)
    {xs inner : List ExecutableSelection} {head : FieldHead FieldDefinition}
    (h : d.Occurs xs head inner) (hx : AllFields P xs) : P head inner ∧ AllFields P inner :=
  h.all_of_reaches (fun name f _ hf => hd name f hf) hx

end

namespace Executable

variable {s : Schema} {d : Executable}

theorem leaf_of_leafProblem? {type : String} {selections : List (Selection Unit)}
    (h : leafProblem? s type selections = none) {t : TypeDefinition} (ht : s.type? type = some t)
    (hout : t.isOutput = true) (hleaf : t.isComposite = false) : selections = [] := by
  unfold leafProblem? at h
  split at h
  · exact List.isEmpty_iff.mp ‹_›
  · rw [ht] at h
    obtain ⟨name, description, directives, body⟩ := t
    cases body with
    | scalar | enum => cases h
    | object | interface | union => cases hleaf
    | input => cases hout

mutual

theorem declares_resolveSelection :
    ∀ (x : Selection Unit) (parent : Option TypeDefinition), (∀ t, parent = some t → t ∈ s.types) →
      ∀ y, (resolveSelection s parent x).1 = some y → AllFieldsOf (Declares s) y
  | .spread fragment ds place, _, _, y, hy => by
      cases hy
      trivial
  | .inline none ds place inner, parent, hparent, y, hy => by
      cases hy
      exact declares_resolveSelections inner parent hparent
  | .inline (some condition) ds place inner, parent, hparent, y, hy => by
      rw [resolveSelection] at hy
      split at hy
      · cases hy
      · rename_i t ht
        cases hy
        exact declares_resolveSelections inner (some t) fun t' ht' => by
          cases ht'; exact (Schema.type?_some ht).1
  | .field head inner, none, _, y, hy => by cases hy
  | .field head inner, some t, hparent, y, hy => by
      rw [resolveSelection] at hy
      split at hy
      · cases hy
      rename_i definition hdefinition
      split at hy
      · cases hy
      rename_i hproblem
      cases hy
      refine ⟨⟨⟨t, hparent t rfl, hdefinition⟩, fun type htype hout hleaf => ?_⟩, ?_⟩
      · rw [leaf_of_leafProblem? hproblem htype hout hleaf]
        rfl
      · exact declares_resolveSelections inner _ fun t' ht' => (Schema.type?_some ht').1

theorem declares_resolveSelections :
    ∀ (xs : List (Selection Unit)) (parent : Option TypeDefinition),
      (∀ t, parent = some t → t ∈ s.types) →
      AllFields (Declares s) (resolveSelections s parent xs).1
  | [], _, _ => trivial
  | first :: rest, parent, hparent => by
      rw [resolveSelections]
      refine AllFields.append ?_ (declares_resolveSelections rest parent hparent)
      cases hfirst : (resolveSelection s parent first).1 with
      | none => trivial
      | some y => exact ⟨declares_resolveSelection first parent hparent y hfirst, trivial⟩

end

/-- The fields of all operations and fragments have their definitions from the schema. -/
structure IsDeclared (s : Schema) (d : Executable) : Prop where
  operations : ∀ o ∈ d.allOperations, AllFields (Declares s) o.selections
  fragments  : ∀ g ∈ d.fragments, AllFields (Declares s) g.2.selections

theorem IsDeclared.fragment? (h : d.IsDeclared s) (name : String) (f : Fragment FieldDefinition)
    (hf : d.fragment? name = some f) : AllFields (Declares s) f.selections :=
  h.fragments (name, f) (mem_of_lookup hf)

theorem isDeclared_resolveOperation {o : Operation Unit} {resolved : Operation FieldDefinition}
    (h : (resolveOperation s o).1 = some resolved) : AllFields (Declares s) resolved.selections := by
  unfold resolveOperation at h
  split at h
  · cases h
  · cases h
    exact declares_resolveSelections _ _ fun t ht => (Schema.type?_some ht).1

/-- **Definitions come from the schema**: in a document, whatever its text was. -/
theorem isDeclared_resolve (s : Schema) (definitions : List Definition) :
    (resolve s definitions).1.IsDeclared s := by
  obtain ⟨operations, fragments⟩ := resolve_all (s := s)
    (P := fun o => AllFields (Declares s) o.selections)
    (Q := fun f => AllFields (Declares s) f.selections)
    (fun o r h => isDeclared_resolveOperation h)
    (fun f t ht => declares_resolveSelections f.selections (some t) fun t' ht' => by
      cases ht'; exact (Schema.type?_some ht).1) definitions
  exact ⟨operations, fragments⟩

end Executable

/-- What is selected of something is selected of a type with selections. -/
theorem Declares.isComposite {s : Schema} (hs : s.IsValid) {head : FieldHead FieldDefinition}
    {inner : List ExecutableSelection} (h : Declares s head inner) (hne : inner ≠ []) :
    ∃ t, s.type? head.note.type.innerName = some t ∧ t.isComposite = true := by
  obtain ⟨parent, hparent, hfield⟩ := h.field
  obtain ⟨t, ht, hout⟩ := hs.output hparent hfield
  refine ⟨t, ht, ?_⟩
  cases hc : t.isComposite with
  | true => rfl
  | false => exact absurd (h.leaf t ht hout hc) hne

/-! ### Plain queries -/

/-- A field without arguments and directives, as read. -/
def Selection.plain (name : String) (place : Nat) (inner : List (Selection Unit)) :
    Selection Unit :=
  .field ⟨none, ⟨name, place⟩, [], [], place, ()⟩ inner

/-- A query without name and variables, as read. -/
def Definition.query (selections : List (Selection Unit)) : Definition :=
  .operation
    { type := .query, name := none, variableDefinitions := [], directives := [], place := 0,
      selections }

end GraphServe.Document
