import GraphServe.Proofs.Execution.Arguments
import GraphServe.Proofs.Execution.Coercion
import Mathlib.Data.List.Nodup

/-!
# Arguments — literals and variables

A value for an argument can stand in the document as a literal, or come with the request as the value
of a variable of the argument's type.  A literal is handed on as the JSON it spells, and the value of
a variable is coerced first.

`Variants` relates two fields of which the first gives the literal and the second the variable, and
`Provides` two requests of which the second provides the JSON of the literal for a variable that its
operation declares besides.

**Literals and variables** (`ofField_literal_iff`).  The second request is accepted and hands the same
arguments to the resolver exactly if the JSON of the literal conforms to the type of the argument.
If the literal is plain and valid at the type, the second request is accepted, and what it hands to
the resolver is what the literal becomes as a value of the type; all other arguments are the same.
-/

namespace GraphServe.Variables

open Document Validation Arguments

variable {s : Schema}

/-- Fields of input types that are among others, with the same members for them, come to the same. -/
theorem Filled.get?_eq {fields fields' : List InputValue} {members members' results results' : Json.Members}
    (distinct : s.HasDistinctFields) (h : Filled s members fields results)
    (h' : Filled s members' fields' results') {name : String}
    (hfields : ∀ f, f.name = name → (f ∈ fields ↔ f ∈ fields'))
    (hmembers : members.get? name = members'.get? name) :
    results.get? name = results'.get? name := by
  by_cases hname : ∃ f ∈ fields, f.name = name
  · obtain ⟨f, hf, rfl⟩ := hname
    have hf' := (hfields f rfl).mp hf
    cases hv : members.get? f.name with
    | none => rw [(h.lacking f hf hv).2, (h'.lacking f hf' (hmembers ▸ hv)).2]
    | some v =>
        have hv' := hmembers ▸ hv
        obtain ⟨r, hr⟩ := h.present f hf v hv
        obtain ⟨r', hr'⟩ := h'.present f hf' v hv'
        rw [hr, hr', (h.provided f hf v r hv hr).unique distinct (h'.provided f hf' v r' hv' hr')]
  · have hnone {fields : List InputValue} {members results : Json.Members}
        (h : Filled s members fields results) (hname : ∀ f ∈ fields, f.name ≠ name) :
        results.get? name = none := by
      refine Json.Members.get?_eq_none.mpr fun hmem => ?_
      obtain ⟨f, hf, heq⟩ := List.mem_map.mp (h.order.subset hmem)
      exact hname f hf heq
    rw [hnone h fun f hf heq => hname ⟨f, hf, heq⟩,
      hnone h' fun f hf heq => hname ⟨f, (hfields f heq).mpr hf, heq⟩]

variable {α β : Type}

/-- Two fields give an argument with a literal and with a variable, and all others alike and without
the variable. -/
structure Variants (definition : FieldDefinition) (a : InputValue) (l : Value) (name : String)
    (head : FieldHead α) (head' : FieldHead β) : Prop where
  literal : ∃ place, head.argument? a.name = some ⟨l, place⟩
  named   : ∃ place, head'.argument? a.name = some ⟨.variable name, place⟩
  others  : ∀ b ∈ definition.arguments, b.name ≠ a.name →
    head'.argument? b.name = head.argument? b.name ∧
      ∀ item, head.argument? b.name = some item → name ∉ item.node.variableNames

/-- The second of two requests provides a value for a variable that its operation declares besides
those of the first, under a name of its own. -/
structure Provides (d : VariableDefinition) (v : Json) (o : Operation α) (values : Json.Members)
    (o' : Operation β) (values' : Json.Members) : Prop where
  declares : ∃ before after, o.variableDefinitions = before ++ after ∧
    o'.variableDefinitions = before ++ d :: after
  names    : (o'.variableDefinitions.map (·.name)).Nodup
  provides : values'.get? d.name = some v
  others   : ∀ name, name ≠ d.name → values'.get? name = values.get? name

variable {d : VariableDefinition} {v : Json} {o : Operation α} {o' : Operation β}
  {values values' results results' : Json.Members}

namespace Provides

theorem mem (h : Provides d v o values o' values') : d ∈ o'.variableDefinitions := by
  obtain ⟨before, after, -, ho'⟩ := h.declares
  rw [ho']
  simp

theorem mem_iff (h : Provides d v o values o' values') {g : VariableDefinition}
    (hg : g.name ≠ d.name) : g ∈ o.variableDefinitions ↔ g ∈ o'.variableDefinitions := by
  obtain ⟨before, after, ho, ho'⟩ := h.declares
  have hne : g ≠ d := fun heq => hg (congrArg _ heq)
  rw [ho, ho']
  simp [hne]

/-- No variable of the first request has the name of the one declared besides. -/
theorem name_ne (h : Provides d v o values o' values') {g : VariableDefinition}
    (hg : g ∈ o.variableDefinitions) : g.name ≠ d.name := by
  obtain ⟨before, after, ho, ho'⟩ := h.declares
  have hnames := h.names
  rw [ho', List.map_append, List.map_cons, List.nodup_middle, List.nodup_cons, ← List.map_append,
    ← ho] at hnames
  exact fun heq => hnames.1 (heq ▸ List.mem_map_of_mem hg)

theorem names_first (h : Provides d v o values o' values') :
    (o.variableDefinitions.map (·.name)).Nodup := by
  obtain ⟨before, after, ho, ho'⟩ := h.declares
  have hnames := h.names
  rw [ho', List.map_append, List.map_cons, List.nodup_middle, List.nodup_cons, ← List.map_append,
    ← ho] at hnames
  exact hnames.2

/-- The other variables come to the same. -/
theorem get?_eq (h : Provides d v o values o' values') (distinct : s.HasDistinctFields)
    (hr : ofRequest s o values = .ok results) (hr' : ofRequest s o' values' = .ok results')
    {name : String} (hname : name ≠ d.name) : results.get? name = results'.get? name := by
  refine (ofRequest_filled distinct h.names_first hr).get?_eq distinct
    (ofRequest_filled distinct h.names hr') (fun f hf => ?_) (h.others name hname).symm
  constructor
  · intro hmem
    obtain ⟨g, hg, rfl⟩ := List.mem_map.mp hmem
    exact List.mem_map_of_mem ((h.mem_iff (h.name_ne hg)).mp hg)
  · intro hmem
    obtain ⟨g, hg, rfl⟩ := List.mem_map.mp hmem
    exact List.mem_map_of_mem ((h.mem_iff fun heq => hname (hf.symm.trans heq)).mpr hg)

/-- The variable that is declared besides comes to what its value becomes. -/
theorem becomes (h : Provides d v o values o' values') (distinct : s.HasDistinctFields)
    (hr' : ofRequest s o' values' = .ok results') :
    ∃ w, results'.get? d.name = some w ∧ Becomes s d.type v w := by
  have hfilled := ofRequest_filled distinct h.names hr'
  have hmem := List.mem_map_of_mem (f := fieldOf) h.mem
  obtain ⟨w, hw⟩ := hfilled.present (fieldOf d) hmem v h.provides
  exact ⟨w, hw, hfilled.provided (fieldOf d) hmem v w h.provides hw⟩

/-- The second request is accepted if the first is, and the type admits the value. -/
theorem accepted (h : Provides d v o values o' values') (distinct : s.HasDistinctFields)
    (hr : ofRequest s o values = .ok results) (hv : Coercible s d.type v) :
    ∃ results', ofRequest s o' values' = .ok results' := by
  refine exists_ofRequest distinct fun g hg => ?_
  by_cases hname : g.name = d.name
  · obtain rfl : g = d := List.inj_on_of_nodup_map h.names hg h.mem hname
    exact ⟨fun w hw => Option.some_inj.mp (h.provides.symm.trans hw) ▸ hv,
      fun hnone => nomatch h.provides.symm.trans hnone⟩
  · have hfilled := ofRequest_filled distinct h.names_first hr
    have hadmits := hfilled.admits (List.mem_map_of_mem (f := fieldOf) ((h.mem_iff hname).mpr hg))
    have hget := h.others g.name hname
    exact ⟨fun w hw => hadmits.provided w (hget ▸ hw), fun hnone => hadmits.lacking (hget ▸ hnone)⟩

end Provides

/-- The values of the other arguments are the same. -/
theorem Variants.value?_eq {definition : FieldDefinition} {a b : InputValue} {l : Value}
    {name : String} {head : FieldHead α} {head' : FieldHead β}
    (h : Variants definition a l name head head') (hb : b ∈ definition.arguments)
    (hne : b.name ≠ a.name)
    (hdefault : ∀ default, b.default? = some default → default.variableNames = [])
    (hresults : ∀ other, other ≠ name → results.get? other = results'.get? other) :
    value? head results b = value? head' results' b := by
  obtain ⟨hsame, hapart⟩ := h.others b hb hne
  refine value?_congr hsame (fun item hitem other hother => hresults other fun heq => ?_) hdefault
  exact hapart item hitem (heq ▸ hother)

/-- **Literals and variables.**  A field that gives an argument with a literal and one that gives it
with a variable hand the same to their resolvers exactly if the literal conforms to the type of the
argument. -/
theorem ofField_literal_iff (distinct : s.HasDistinctFields) {definition : FieldDefinition}
    (arguments : (definition.arguments.map (·.name)).Nodup)
    (constants : ∀ b ∈ definition.arguments, ∀ default, b.default? = some default →
      default.variableNames = [])
    {a : InputValue} (ha : a ∈ definition.arguments) (htype : d.type = a.type) {l : Value}
    (constant : l.variableNames = []) {head : FieldHead α} {head' : FieldHead β}
    (hfields : Variants definition a l d.name head head')
    (hrequests : Provides d l.constant o values o' values')
    (hr : ofRequest s o values = .ok results) :
    ((∃ results', ofRequest s o' values' = .ok results' ∧
        ofField head' definition results' = ofField head definition results)
      ↔ Conforms s a.type l.constant) ∧
    (l.IsPlain → s.HasInputFields → s.IsInput a.type →
      (∃ place, checkValue s [] a.type place l = []) →
      ∃ results' w, ofRequest s o' values' = .ok results' ∧ Becomes s a.type l.constant w ∧
        (ofField head definition results).get? a.name = some l.constant ∧
        (ofField head' definition results').get? a.name = some w ∧
        ∀ b ∈ definition.arguments, b.name ≠ a.name →
          (ofField head' definition results').get? b.name
            = (ofField head definition results).get? b.name) := by
  have hliteral : value? head results a = some l.constant := by
    obtain ⟨place, hplace⟩ := hfields.literal
    rw [value?_literal (fun name heq => ?_) hplace, Value.toJson_constant constant]
    rw [heq, Value.variableNames] at constant
    cases constant
  have hvariable {results' : Json.Members} {w : Json} (hw : results'.get? d.name = some w) :
      value? head' results' a = some w := by
    obtain ⟨place, hplace⟩ := hfields.named
    rw [value?_variable hplace, hw]
    rfl
  have hothers {results' : Json.Members} (hr' : ofRequest s o' values' = .ok results')
      {b : InputValue} (hb : b ∈ definition.arguments) (hne : b.name ≠ a.name) :
      value? head results b = value? head' results' b :=
    hfields.value?_eq hb hne (constants b hb) fun _ hother =>
      hrequests.get?_eq distinct hr hr' hother
  refine ⟨⟨fun hsame => ?_, fun hconforms => ?_⟩, fun plain known input hvalid => ?_⟩
  · obtain ⟨results', hr', heq⟩ := hsame
    obtain ⟨w, hw, hbecomes⟩ := hrequests.becomes distinct hr'
    have hget := congrArg (Json.Members.get? · a.name) heq
    simp only [get?_ofField arguments ha, hliteral, hvariable hw, Option.some.injEq] at hget
    rw [hget] at hbecomes
    exact htype ▸ hbecomes.conforms_self
  · rw [← htype] at hconforms
    obtain ⟨results', hr'⟩ := hrequests.accepted distinct hr hconforms.becomes.coercible
    obtain ⟨w, hw, hbecomes⟩ := hrequests.becomes distinct hr'
    obtain rfl := hbecomes.unique distinct hconforms.becomes
    refine ⟨results', hr', (ofField_congr fun b hb => ?_).symm⟩
    by_cases hname : b.name = a.name
    · obtain rfl : b = a := List.inj_on_of_nodup_map arguments hb ha hname
      rw [hliteral, hvariable hw]
    · exact hothers hr' hb hname
  · obtain ⟨place, hcheck⟩ := hvalid
    have hcoercible := coercible_of_check distinct known input plain hcheck
    rw [← htype] at hcoercible
    obtain ⟨results', hr'⟩ := hrequests.accepted distinct hr hcoercible
    obtain ⟨w, hw, hbecomes⟩ := hrequests.becomes distinct hr'
    refine ⟨results', w, hr', htype ▸ hbecomes, ?_, ?_, fun b hb hne => ?_⟩
    · rw [get?_ofField arguments ha, hliteral]
    · rw [get?_ofField arguments ha, hvariable hw]
    · rw [get?_ofField arguments hb, get?_ofField arguments hb, hothers hr' hb hne]

open OneField in
/-- A list of integers can be a literal or a variable. -/
theorem ofField_literal_iff_list :
    let l : Value := .list [⟨.int "1", 4⟩]
    let o : Operation Unit := ⟨.query, none, [], [], [], 0⟩
    let o' : Operation Unit := ⟨.query, none, [variable' none], [], [], 0⟩
    Variants (field numbers) numbers l "v" (head l) (head (.variable "v")) ∧
      Provides (variable' none) l.constant o [] o' [("v", l.constant)] ∧
      ∃ results', ofRequest (schema numbers) o' [("v", l.constant)] = .ok results' ∧
        ofField (head (.variable "v")) (field numbers) results'
          = ofField (head l) (field numbers) [] := by
  intro l o o'
  have hfields : Variants (field numbers) numbers l "v" (head l) (head (.variable "v")) := by
    refine ⟨⟨3, rfl⟩, ⟨3, rfl⟩, fun b hb hne => ?_⟩
    exact absurd (congrArg _ (List.mem_singleton.mp hb)) hne
  have hrequests : Provides (variable' none) l.constant o [] o' [("v", l.constant)] :=
    ⟨⟨[], [], rfl, rfl⟩, by decide, rfl, fun name hne => if_neg (Ne.symm hne)⟩
  have hconforms : Conforms (schema numbers) integers l.constant := by
    refine .list fun v hv => ?_
    obtain rfl : v = .int 1 := List.mem_singleton.mp hv
    exact .scalar rfl Json.noConfusion ⟨1, rfl, by decide⟩
  have hconstants : ∀ b ∈ (field numbers).arguments, ∀ default, b.default? = some default →
      default.variableNames = [] := by
    intro b hb default hdefault
    rw [List.mem_singleton.mp hb] at hdefault
    cases hdefault
  exact ⟨hfields, hrequests, (ofField_literal_iff (distinct numbers) (by decide) hconstants
    List.mem_cons_self rfl rfl hfields hrequests rfl).1.mpr hconforms⟩

open OneField in
/-- A single integer in place of a list is handed on as it is if it is a literal, and as a list if it
is the value of a variable. -/
theorem ofField_literal_ne :
    let declared := [variable' none]
    validate (schema numbers) (definitions [] (.int "1")) = .ok (document numbers [] (.int "1")) ∧
      validate (schema numbers) (definitions declared (.variable "v"))
        = .ok (document numbers declared (.variable "v")) ∧
      ofRequest (schema numbers) (query numbers [] (.int "1")) [] = .ok [] ∧
      ofRequest (schema numbers) (query numbers declared (.variable "v"))
        [("v", (Value.int "1").constant)] = .ok [("v", .list [.int 1])] ∧
      ofField (head (.int "1")) (field numbers) [] = [("a", .int 1)] ∧
      ofField (head (.variable "v")) (field numbers) [("v", .list [.int 1])]
        = [("a", .list [.int 1])] ∧
      [("a", Json.int 1)] ≠ [("a", .list [.int 1])] :=
  ⟨rfl, rfl, rfl, rfl, rfl, rfl, by simp⟩

end GraphServe.Variables
