import GraphServe.Proofs.Execution.Asking
import GraphServe.Proofs.Validation.Acyclic

/-!
# Arguments of valid documents

In a valid document the arguments of every field that an operation selects were held against the
definition that the field was selected with (`checked_of_validate`), with the variables that the
operation declares, and these variables against their types (`declared_of_validate`).

* `ne_null_of_checkValue`: a type that does not admit `null` does not admit the literal.
* `Checked.literal` and `Checked.variable'` say what is known of an argument that is given, and
  `Checked.required` that one is given where it must be.
-/

namespace GraphServe.Validation

open Document Executable

variable {s : Schema} {d : Executable} {declared : List VariableDefinition}

/-! ### Values -/

section

variable {type : TypeRef} {place : Nat} {t : TypeDefinition} {v : Value}

/-- A type that does not admit `null` does not admit the literal. -/
theorem ne_null_of_checkValue (ht : s.type? type.innerName = some t)
    (required : type.isRequired = true) (h : checkValue s declared type place v = []) :
    v ≠ .null := by
  rintro rfl
  simp [checkValue, ht, scalarProblem?, required] at h

/-- A variable in a place for values is declared. -/
theorem declared?_of_checkValue {name : String} (ht : s.type? type.innerName = some t)
    (h : checkValue s declared type place (.variable name) = []) :
    ∃ w, declared? declared name = some w := by
  rw [checkValue, ht] at h
  dsimp only at h
  unfold variableProblem? at h
  split at h
  · cases h
  · cases hname : declared? declared name with
    | none => rw [hname] at h; cases h
    | some w => exact ⟨w, rfl⟩

end

/-! ### Variables -/

theorem declared?_some {name : String} {v : VariableDefinition}
    (h : declared? declared name = some v) : v ∈ declared ∧ v.name = name :=
  ⟨List.mem_of_find?_eq_some h, by simpa using List.find?_some h⟩

/-- A variable of a type for input that is there, which its default is of. -/
structure Admitted (s : Schema) (v : VariableDefinition) : Prop where
  input   : ∃ t, s.type? v.type.innerName = some t
  default : ∀ value, v.default? = some value →
    checkValue s [] v.type value.place value.node = []

theorem checkVariables_nil {seen : List String} (h : checkVariables s seen declared = []) :
    (∀ v ∈ declared, v.name ∉ seen) ∧ (declared.map (·.name)).Nodup ∧
      ∀ v ∈ declared, Admitted s v := by
  induction declared generalizing seen with
  | nil =>
      exact ⟨fun _ hv => absurd hv List.not_mem_nil, List.nodup_nil,
        fun _ hv => absurd hv List.not_mem_nil⟩
  | cons v rest ih =>
      rw [checkVariables] at h
      obtain ⟨h, hrest⟩ := List.append_eq_nil_iff.mp h
      obtain ⟨h, hseen⟩ := List.append_eq_nil_iff.mp h
      obtain ⟨-, htype⟩ := List.append_eq_nil_iff.mp h
      obtain ⟨hnew, hnames, hall⟩ := ih hrest
      have hadmitted : Admitted s v := by
        cases ht : s.type? v.type.innerName with
        | none => rw [ht] at htype; cases htype
        | some t =>
            refine ⟨⟨t, ht⟩, fun value hvalue => ?_⟩
            rw [ht] at htype
            dsimp only at htype
            split at htype
            · cases htype
            · rw [hvalue] at htype
              exact htype
      refine ⟨List.forall_mem_cons.mpr ⟨fun hmem => ?_, fun w hw hmem => ?_⟩,
        List.nodup_cons.mpr ⟨fun hmem => ?_, hnames⟩, List.forall_mem_cons.mpr ⟨hadmitted, hall⟩⟩
      · rw [if_pos hmem] at hseen
        cases hseen
      · exact hnew w hw (List.mem_cons_of_mem _ hmem)
      · obtain ⟨w, hw, hname⟩ := List.mem_map.mp hmem
        exact hnew w hw (hname ▸ List.mem_cons_self)

/-- The variables of an operation of a valid document have names of their own, and their defaults are
of their types. -/
theorem declared_of_validate {definitions : List Definition} (h : validate s definitions = .ok d)
    {o : Operation FieldDefinition} (ho : o ∈ d.allOperations) :
    (o.variableDefinitions.map (·.name)).Nodup ∧ ∀ v ∈ o.variableDefinitions, Admitted s v := by
  have hoperation := checkOperation_of_validate h ho
  rw [checkOperation] at hoperation
  obtain ⟨hoperation, -⟩ := List.append_eq_nil_iff.mp hoperation
  obtain ⟨hoperation, -⟩ := List.append_eq_nil_iff.mp hoperation
  obtain ⟨hoperation, -⟩ := List.append_eq_nil_iff.mp hoperation
  obtain ⟨-, hvariables⟩ := List.append_eq_nil_iff.mp hoperation
  exact (checkVariables_nil hvariables).2

/-! ### Fields -/

/-- A field whose arguments nothing is wrong with. -/
def Checked (s : Schema) (declared : List VariableDefinition) (head : FieldHead FieldDefinition) :
    Prop :=
  ∃ owner, checkArguments s declared owner head.note.arguments head.arguments head.place = []

mutual

theorem checked_selection : ∀ (x : ExecutableSelection) {parent : String},
    (checkSelection s d declared parent x).diagnostics = [] →
      AllFieldsOf (fun head _ => Checked s declared head) x
  | .field head inner, parent, h => by
      rw [checkSelection, diagnostics_append] at h
      obtain ⟨hfield, hinner⟩ := List.append_eq_nil_iff.mp h
      dsimp only at hfield
      rw [checkField] at hfield
      obtain ⟨hfield, -⟩ := List.append_eq_nil_iff.mp hfield
      obtain ⟨-, harguments⟩ := List.append_eq_nil_iff.mp hfield
      exact ⟨⟨_, harguments⟩, checked_selections inner hinner⟩
  | .spread name ds place, _, _ => trivial
  | .inline none ds place inner, parent, h => by
      rw [checkSelection, diagnostics_append] at h
      exact checked_selections inner (List.append_eq_nil_iff.mp h).2
  | .inline (some condition) ds place inner, parent, h => by
      rw [checkSelection] at h
      by_cases hc : isFragmentType s condition.node = true
      · simp only [if_pos hc] at h
        rw [diagnostics_append] at h
        exact checked_selections inner (List.append_eq_nil_iff.mp h).2
      · simp only [if_neg hc] at h
        exact absurd (List.append_eq_nil_iff.mp h).2 (List.cons_ne_nil _ _)

theorem checked_selections : ∀ (xs : List ExecutableSelection) {parent : String},
    (checkSelections s d declared parent xs).diagnostics = [] →
      AllFields (fun head _ => Checked s declared head) xs
  | [], _, _ => trivial
  | first :: rest, parent, h => by
      rw [checkSelections, diagnostics_append] at h
      obtain ⟨hfirst, hrest⟩ := List.append_eq_nil_iff.mp h
      exact ⟨checked_selection first hfirst, checked_selections rest hrest⟩

end

theorem checked_fragment {f : Fragment FieldDefinition}
    (h : (checkFragment s d declared f).diagnostics = []) :
    AllFields (fun head _ => Checked s declared head) f.selections := by
  rw [checkFragment, diagnostics_append] at h
  obtain ⟨hhere, hinside⟩ := List.append_eq_nil_iff.mp h
  obtain ⟨hhere, hcycle⟩ := List.append_eq_nil_iff.mp hhere
  obtain ⟨-, hcondition⟩ := List.append_eq_nil_iff.mp hhere
  rw [hcycle, hcondition] at hinside
  exact checked_selections f.selections hinside

/-- **Arguments are checked**: nothing is wrong with those of any field that an operation of a valid
document selects, with the variables that the operation declares. -/
theorem checked_of_validate {definitions : List Definition} (h : validate s definitions = .ok d)
    {o : Operation FieldDefinition} (ho : o ∈ d.allOperations) {inner : List ExecutableSelection}
    {head : FieldHead FieldDefinition} (hs : d.Selects o.selections head inner) :
    Checked s o.variableDefinitions head := by
  have hoperation := checkOperation_of_validate h ho
  rw [checkOperation] at hoperation
  obtain ⟨hoperation, -⟩ := List.append_eq_nil_iff.mp hoperation
  obtain ⟨-, hfinding⟩ := List.append_eq_nil_iff.mp hoperation
  exact hs.all_of_reaches (P := fun head _ => Checked s o.variableDefinitions head)
    (fun name f hr hf => checked_fragment (checkFragment_of_reaches h ho hr hf))
    (checked_selections o.selections hfinding)

/-! ### Arguments -/

namespace Checked

variable {head : FieldHead FieldDefinition}

/-- An argument that is given is one that the definition of the field has. -/
theorem given (h : Checked s declared head) {name : String} {item : Located Value}
    (hitem : head.argument? name = some item) :
    ∃ b ∈ head.note.arguments, ∃ a : Argument, b.name = name ∧ a.name = name ∧ a.value = item ∧
      checkArgument s declared b a = [] := by
  obtain ⟨owner, h⟩ := h
  obtain ⟨a, ha, rfl⟩ := Option.map_eq_some_iff.mp hitem
  have hname : a.name = name := by simpa using List.find?_some ha
  rw [checkArguments] at h
  have heach := List.flatMap_eq_nil_iff.mp (List.append_eq_nil_iff.mp h).1 a
    (List.mem_of_find?_eq_some ha)
  cases hb : head.note.arguments.find? (·.name = a.name) with
  | none => rw [hb] at heach; cases heach
  | some b =>
      rw [hb] at heach
      have hbname : b.name = a.name := by simpa using List.find?_some hb
      exact ⟨b, List.mem_of_find?_eq_some hb, a, hbname.trans hname, hname, rfl, heach⟩

/-- A literal that is given is of the type of the argument. -/
theorem literal (h : Checked s declared head) {name : String} {l : Value} {place : Nat}
    (hl : ∀ name, l ≠ .variable name) (hitem : head.argument? name = some ⟨l, place⟩) :
    ∃ b ∈ head.note.arguments, b.name = name ∧ checkValue s declared b.type place l = [] := by
  obtain ⟨b, hb, a, hname, -, hvalue, hcheck⟩ := h.given hitem
  refine ⟨b, hb, hname, ?_⟩
  unfold checkArgument at hcheck
  rw [hvalue] at hcheck
  match l with
  | .variable name => exact absurd rfl (hl name)
  | .null | .bool _ | .int _ | .float _ | .string _ | .enum _ | .list _ | .object _ => exact hcheck

/-- A variable that is given is declared, and may be used for the argument. -/
theorem variable' (h : Checked s declared head)
    (input : ∀ b ∈ head.note.arguments, ∃ t, s.type? b.type.innerName = some t) {name w : String}
    {place : Nat} (hitem : head.argument? name = some ⟨.variable w, place⟩) :
    ∃ b ∈ head.note.arguments, b.name = name ∧
      ∃ v, declared? declared w = some v ∧ isUsable v b = true := by
  obtain ⟨b, hb, a, hname, -, hvalue, hcheck⟩ := h.given hitem
  refine ⟨b, hb, hname, ?_⟩
  obtain ⟨t, ht⟩ := input b hb
  unfold checkArgument at hcheck
  rw [hvalue] at hcheck
  dsimp only at hcheck
  cases hw : declared? declared w with
  | none =>
      rw [hw] at hcheck
      obtain ⟨v, hv⟩ := declared?_of_checkValue ht hcheck
      rw [hw] at hv
      cases hv
  | some v =>
      refine ⟨v, rfl, ?_⟩
      by_contra hunusable
      rw [hw, Option.filter_some, if_pos (by simpa using hunusable)] at hcheck
      cases hcheck

/-- An argument that must be given is. -/
theorem required (h : Checked s declared head) {b : InputValue} (hb : b ∈ head.note.arguments)
    (hrequired : b.isRequired = true) : head.argument? b.name ≠ none := by
  obtain ⟨owner, h⟩ := h
  intro hnone
  have hfind : head.arguments.find? (·.name = b.name) = none := Option.map_eq_none_iff.mp hnone
  rw [checkArguments] at h
  have hmissing := List.map_eq_nil_iff.mp (List.append_eq_nil_iff.mp h).2
  refine absurd (List.filter_eq_nil_iff.mp hmissing b hb) fun hno => hno ?_
  rw [hrequired, hfind]
  rfl

end Checked

end GraphServe.Validation
