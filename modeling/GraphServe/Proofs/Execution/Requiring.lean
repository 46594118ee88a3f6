import GraphServe.Proofs.Execution.Arguments
import GraphServe.Proofs.Execution.Coercion
import GraphServe.Proofs.Execution.Handing
import GraphServe.Proofs.Validation.Arguments

/-!
# Arguments that are not to be `null`

For an argument of a type that does not admit `null`, a resolver finds a value that is not `null`,
unless it `Slips` through.  No check is made when a field is resolved, so there is nothing between
the validation of the document, the coercion of the variables and the resolver that would stop

* a variable that may be `null`, and is, where a default of its own or of the argument is all that
  lets it stand for the argument;
* a number beyond all doubles, whose JSON is `null`;
* a default that only the selected definition has, which is that of an interface, or one that is
  `null` itself.

**Resolvers get what is required** (`executeOperation_required`), but for exactly these.
-/

namespace GraphServe

open Document Validation

/-! ### The rules for arguments -/

/-- The arguments of every field have names of their own, and are of types of input that are there. -/
structure Schema.HasArguments (s : Schema) : Prop where
  distinct : ∀ t ∈ s.types, ∀ f ∈ t.fields, (f.arguments.map (·.name)).Nodup
  inputs   : ∀ t ∈ s.types, ∀ f ∈ t.fields ++ s.metaFields t, ∀ a ∈ f.arguments, s.IsInput a.type

/-- The definition that an object has of a field keeps the arguments of the one that the field was
selected with: arguments of one name are of one type, and no others must be given. -/
structure Document.FieldDefinition.KeepsArguments (definition selected : FieldDefinition) :
    Prop where
  types  : ∀ a ∈ definition.arguments, ∀ b ∈ selected.arguments, b.name = a.name → b.type = a.type
  others : ∀ a ∈ definition.arguments, a.isRequired = true →
    ∃ b ∈ selected.arguments, b.name = a.name

/-! ### Values -/

/-- A number that is beyond all doubles. -/
def Document.Value.IsBeyond (l : Value) : Prop :=
  ∃ text, (l = .int text ∨ l = .float text) ∧ Json.ofNumberText text = .null

theorem Document.Value.IsBeyond.toJson {l : Value} (h : l.IsBeyond) (values : Json.Members) :
    l.toJson values = .null := by
  obtain ⟨text, rfl | rfl, hnull⟩ := h
  · exact hnull
  · exact hnull

theorem Document.Value.IsBeyond.ne_variable {l : Value} (h : l.IsBeyond) (name : String) :
    l ≠ .variable name := by
  obtain ⟨text, rfl | rfl, -⟩ := h
  · exact Value.noConfusion
  · exact Value.noConfusion

/-- Only a number that is beyond all doubles, and `null` itself, are `null`. -/
theorem Document.Value.isBeyond_of_toJson {l : Value} {values : Json.Members}
    (hl : ∀ name, l ≠ .variable name) (present : l ≠ .null) (h : l.toJson values = .null) :
    l.IsBeyond := by
  match l with
  | .null => exact absurd rfl present
  | .variable name => exact absurd rfl (hl name)
  | .int text => exact ⟨text, .inl rfl, h⟩
  | .float text => exact ⟨text, .inr rfl, h⟩
  | .bool _ | .string _ | .enum _ | .list _ | .object _ => cases h

namespace Variables

variable {s : Schema}

/-- A value that is coerced to a type that does not admit `null` is not `null`. -/
theorem Becomes.ne_null {type : TypeRef} {v r : Json} (h : Becomes s type v r)
    (required : type.isRequired = true) : r ≠ .null := by
  cases h with
  | null admits => rw [admits] at required; cases required
  | scalar _ present => exact present
  | enum _ fits =>
      obtain ⟨m, -, rfl⟩ := fits
      exact Json.noConfusion
  | input | list | single => exact Json.noConfusion

section

variable {members results : Json.Members} {fields : List InputValue} {f : InputValue}

/-- What has no value has no default either, and is of a type that admits `null`. -/
theorem Filled.bare_of_none (h : Filled s members fields results) (hf : f ∈ fields)
    (hr : results.get? f.name = none) : f.default? = none ∧ f.type.isRequired = false := by
  cases hv : members.get? f.name with
  | some v =>
      obtain ⟨r, hpresent⟩ := h.present f hf v hv
      exact nomatch hr.symm.trans hpresent
  | none =>
      obtain ⟨hmay, hlacking⟩ := h.lacking f hf hv
      have hdefault : f.default? = none := Option.map_eq_none_iff.mp (hlacking.symm.trans hr)
      exact ⟨hdefault, hmay hdefault⟩

/-- Of a type that does not admit `null`, only a default is `null`. -/
theorem Filled.default_of_null (h : Filled s members fields results) (hf : f ∈ fields)
    (required : f.type.isRequired = true) (hr : results.get? f.name = some .null) :
    ∃ default, f.default? = some default ∧ default.constant = .null := by
  cases hv : members.get? f.name with
  | some v => exact absurd rfl ((h.provided f hf v .null hv hr).ne_null required)
  | none => exact Option.map_eq_some_iff.mp ((h.lacking f hf hv).2.symm.trans hr)

end

end Variables

/-! ### What slips through -/

namespace Arguments

/-- A field gets `null` or nothing for an argument, although this is of a type that does not admit
`null`. -/
inductive Slips (declared : List VariableDefinition) (values : Json.Members)
    (head : FieldHead FieldDefinition) (a : InputValue) : Prop where
  /-- It is a variable that may be `null`, and may stand here because of a default. -/
  | null {v : VariableDefinition} {place : Nat}
      (given : head.argument? a.name = some ⟨.variable v.name, place⟩) (hv : v ∈ declared)
      (optional : v.type.isRequired = false)
      (excused : v.default?.isSome = true ∨
        ∃ b ∈ head.note.arguments, b.name = a.name ∧ b.default?.isSome = true)
      (null : values.get? v.name = some .null)
  /-- It is a number that is beyond all doubles. -/
  | beyond {l : Value} {place : Nat} (given : head.argument? a.name = some ⟨l, place⟩)
      (beyond : l.IsBeyond)
  /-- It is a variable that is left to its default, which is such a number. -/
  | left {v : VariableDefinition} {place : Nat} {default : Located Value}
      (given : head.argument? a.name = some ⟨.variable v.name, place⟩) (hv : v ∈ declared)
      (required : v.type.isRequired = true) (own : v.default? = some default)
      (beyond : default.node.IsBeyond) (null : values.get? v.name = some .null)
  /-- It is left to its default, which is `null`. -/
  | default {default : Value} (lacking : provided? head values a.name = none)
      (own : a.default? = some default) (null : default.toJson values = .null)
  /-- It is left to a default that it does not have: only the selected definition has one. -/
  | dropped {b : InputValue} (lacking : provided? head values a.name = none)
      (bare : a.default? = none) (hb : b ∈ head.note.arguments) (name : b.name = a.name)
      (other : b.default?.isSome = true)

variable {s : Schema} {declared : List VariableDefinition} {provided values : Json.Members}
  {head : FieldHead FieldDefinition} {definition : FieldDefinition} {a : InputValue}

/-- What slips through is `null` or nothing. -/
theorem Slips.not_present (h : Slips declared values head a) :
    ¬ ∃ v, value? head values a = some v ∧ v ≠ .null := by
  rintro ⟨v, hv, hpresent⟩
  refine hpresent ?_
  cases h with
  | null given _ _ _ null | left given _ _ _ _ null =>
      rw [value?_variable given, null] at hv
      exact (Option.some.inj hv).symm
  | beyond given beyond =>
      rw [value?_literal beyond.ne_variable given, beyond.toJson] at hv
      exact (Option.some.inj hv).symm
  | default lacking own null =>
      rw [value?, lacking, own, Option.map_some, null] at hv
      exact (Option.some.inj hv).symm
  | dropped lacking bare =>
      rw [value?, lacking, bare] at hv
      cases hv

/-- What is not provided is left to the default of the argument, or to that of the selected
definition. -/
theorem slips_of_lacking (lacking : provided? head values a.name = none)
    (hb : a.default? = none →
      ∃ b ∈ head.note.arguments, b.name = a.name ∧ b.default?.isSome = true)
    (h : ¬ ∃ v, value? head values a = some v ∧ v ≠ .null) : Slips declared values head a := by
  cases hown : a.default? with
  | none =>
      obtain ⟨b, hb, hname, hother⟩ := hb hown
      exact .dropped lacking hown hb hname hother
  | some default =>
      have hvalue : value? head values a = some (default.toJson values) := by
        rw [value?, lacking, hown]
        rfl
      exact .default lacking hown (by_contra fun hne => h ⟨_, hvalue, hne⟩)

section

variable (checked : Checked s declared head) (required : a.type.isRequired = true)
  (keeps : definition.KeepsArguments head.note) (ha : a ∈ definition.arguments)
include checked required keeps ha

/-- An argument that is not given has a default: its own, or that of the selected definition. -/
theorem default_of_not_given (hnone : head.argument? a.name = none) (bare : a.default? = none) :
    ∃ b ∈ head.note.arguments, b.name = a.name ∧ b.default?.isSome = true := by
  have hneeded : a.isRequired = true := by rw [InputValue.isRequired, required, bare]; rfl
  obtain ⟨b, hb, hname⟩ := keeps.others a ha hneeded
  refine ⟨b, hb, hname, ?_⟩
  cases hdefault : b.default? with
  | some _ => rfl
  | none =>
      have hmust : b.isRequired = true := by
        rw [InputValue.isRequired, keeps.types a ha b hb hname, required, hdefault]
        rfl
      exact absurd (hname ▸ hnone) (checked.required hb hmust)

/-- A literal that is given is `null` only if it is beyond all doubles. -/
theorem isBeyond_of_given (inputs : ∀ b ∈ head.note.arguments, s.IsInput b.type) {l : Value}
    {place : Nat} (hl : ∀ name, l ≠ .variable name)
    (given : head.argument? a.name = some ⟨l, place⟩) (hnull : l.toJson values = .null) :
    l.IsBeyond := by
  obtain ⟨b, hb, hname, hcheck⟩ := checked.literal hl given
  obtain ⟨t, ht, -⟩ := inputs b hb
  rw [← keeps.types a ha b hb hname] at required
  exact Value.isBeyond_of_toJson hl (ne_null_of_checkValue ht required hcheck) hnull

/-- A variable that is given and may be `null` stands here because of a default. -/
theorem excused_of_given (inputs : ∀ b ∈ head.note.arguments, s.IsInput b.type)
    {w : String} {place : Nat} (given : head.argument? a.name = some ⟨.variable w, place⟩) :
    ∃ v ∈ declared, v.name = w ∧ (v.type.isRequired = false → v.default?.isSome = true ∨
      ∃ b ∈ head.note.arguments, b.name = a.name ∧ b.default?.isSome = true) := by
  have hinputs (b : InputValue) (hb : b ∈ head.note.arguments) :
      ∃ t, s.type? b.type.innerName = some t := (inputs b hb).imp fun _ h => h.1
  obtain ⟨b, hb, hname, v, hv, husable⟩ := checked.variable' hinputs given
  obtain ⟨hmem, hvname⟩ := declared?_some hv
  refine ⟨v, hmem, hvname, fun optional => ?_⟩
  rw [isUsable, keeps.types a ha b hb hname, required, optional, Bool.not_false, Bool.and_true,
    if_pos rfl] at husable
  rcases (Bool.or_eq_true _ _).mp ((Bool.and_eq_true _ _).mp husable).1 with hdefault | hdefault
  · exact .inl hdefault
  · exact .inr ⟨b, hb, hname, hdefault⟩

/-- A variable that is given and does not make a value slips through, or is left to the defaults. -/
theorem slips_of_variable (inputs : ∀ b ∈ head.note.arguments, s.IsInput b.type)
    (admitted : ∀ v ∈ declared, Admitted s v)
    (filled : Variables.Filled s provided (declared.map Variables.fieldOf) values) {w : String}
    {place : Nat} (given : head.argument? a.name = some ⟨.variable w, place⟩)
    (h : ¬ ∃ v, value? head values a = some v ∧ v ≠ .null) : Slips declared values head a := by
  obtain ⟨v, hv, rfl, hexcused⟩ := excused_of_given checked required keeps ha inputs given
  have hmem : Variables.fieldOf v ∈ declared.map Variables.fieldOf := List.mem_map_of_mem hv
  cases hr : values.get? v.name with
  | some r =>
      have hnull : r = .null := by_contra fun hne => h ⟨r, by rw [value?_variable given, hr]; rfl, hne⟩
      subst hnull
      cases hrequired : v.type.isRequired with
      | false => exact .null given hv hrequired (hexcused hrequired) hr
      | true =>
          obtain ⟨default, hown, hconstant⟩ := filled.default_of_null hmem hrequired hr
          obtain ⟨item, hitem, rfl⟩ := Option.map_eq_some_iff.mp hown
          have hcheck := (admitted v hv).default item hitem
          obtain ⟨t, ht⟩ := (admitted v hv).input
          have hliteral : ∀ name, item.node ≠ .variable name := fun name heq => by
            obtain ⟨_, hnone⟩ := declared?_of_checkValue ht (heq ▸ hcheck)
            cases hnone
          exact .left given hv hrequired hitem (Value.isBeyond_of_toJson hliteral
            (ne_null_of_checkValue ht hrequired hcheck) hconstant) hr
  | none =>
      -- a variable without value has no default, and its type admits `null`
      have hbare : v.default?.isSome ≠ true ∧ v.type.isRequired = false := by
        obtain ⟨hdefault, hadmits⟩ := filled.bare_of_none hmem hr
        rw [Variables.fieldOf, Option.map_eq_none_iff] at hdefault
        exact ⟨by rw [hdefault]; exact Bool.false_ne_true, hadmits⟩
      have lacking : provided? head values a.name = none := by rw [provided?, given]; exact hr
      exact slips_of_lacking lacking (fun _ => (hexcused hbare.2).resolve_left hbare.1) h

/-- **All that slips through**: an argument that does not get a value other than `null`. -/
theorem slips_of_not_present (inputs : ∀ b ∈ head.note.arguments, s.IsInput b.type)
    (admitted : ∀ v ∈ declared, Admitted s v)
    (filled : Variables.Filled s provided (declared.map Variables.fieldOf) values)
    (h : ¬ ∃ v, value? head values a = some v ∧ v ≠ .null) : Slips declared values head a := by
  cases hitem : head.argument? a.name with
  | none =>
      have lacking : provided? head values a.name = none := by rw [provided?, hitem]
      exact slips_of_lacking lacking (default_of_not_given checked required keeps ha hitem) h
  | some item =>
      obtain ⟨l, place⟩ := item
      by_cases hvariable : ∃ w, l = .variable w
      · obtain ⟨w, rfl⟩ := hvariable
        exact slips_of_variable checked required keeps ha inputs admitted filled hitem h
      · have hl : ∀ name, l ≠ .variable name := fun name heq => hvariable ⟨name, heq⟩
        have hnull : l.toJson values = .null :=
          by_contra fun hne => h ⟨_, value?_literal hl hitem, hne⟩
        exact .beyond hitem (isBeyond_of_given checked required keeps ha inputs hl hitem hnull)

end

end Arguments

/-! ### Contexts -/

/-- A resolver finds a value other than `null` for every argument whose type does not admit `null`,
if the object keeps the arguments that the field was selected with, but for what slips through. -/
def FieldContext.GetsRequired (s : Schema) (declared : List VariableDefinition)
    (values : Json.Members) (c : FieldContext) : Prop :=
  ∀ definition, s.declared? c.object c.name = some definition →
    definition.KeepsArguments c.field.note → ∀ a ∈ definition.arguments, a.type.isRequired = true →
      ((∃ v, c.argument? a.name = some v ∧ v ≠ .null) ↔ ¬ Arguments.Slips declared values c.field a)

namespace Execution

open Executable

/-- **What is handed on is what is required.** -/
theorem Handed.getsRequired {s : Schema} {definitions : List Definition} {d : Executable}
    {o : Operation FieldDefinition} {provided values : Json.Members} {root : String}
    (arguments : s.HasArguments) (distinct : s.HasDistinctFields)
    (hd : validate s definitions = .ok d) (ho : o ∈ d.allOperations)
    (accepted : Variables.ofRequest s o provided = .ok values) {c : FieldContext}
    (h : Handed s d values root o.selections c) :
    c.GetsRequired s o.variableDefinitions values := by
  intro definition hdefinition hkeeps a ha hrequired
  have hdeclared : d.IsDeclared s := (validate_ok hd).1 ▸ isDeclared_resolve _ _
  obtain ⟨hnames, hadmitted⟩ := declared_of_validate hd ho
  cases h with
  | @intro sets key inner rest _ asked group declared harguments =>
      cases declared.symm.trans hdefinition
      have hselects := asked.selects group ⟨c.field, inner⟩ List.mem_cons_self
      have hchecked := checked_of_validate hd ho hselects
      have hinputs (b : InputValue) (hb : b ∈ c.field.note.arguments) : s.IsInput b.type := by
        obtain ⟨t, ht, hfield⟩ := (asked.declaresField hdeclared (hdeclared.operations o ho) group
          ⟨c.field, inner⟩ List.mem_cons_self).field
        exact arguments.inputs t ht _ (Schema.mem_of_field? hfield).1 b hb
      have hdistinct : (definition.arguments.map (·.name)).Nodup := by
        obtain ⟨t, ht, hfind⟩ := Option.bind_eq_some_iff.mp hdefinition
        exact arguments.distinct t (Schema.type?_some ht).1 definition
          (List.mem_of_find?_eq_some hfind)
      rw [FieldContext.argument?, harguments, Arguments.get?_ofField hdistinct ha]
      refine ⟨fun hpresent hslips => hslips.not_present hpresent, fun hslips => ?_⟩
      by_contra hlacks
      exact hslips (Arguments.slips_of_not_present hchecked hrequired hkeeps ha hinputs
        hadmitted (Variables.ofRequest_filled distinct hnames accepted) hlacks)

/-- **Resolvers get what is required.**  For an operation of a valid document, with the variables that
a request was accepted with, it makes no difference what resolvers do where they would be called
without a value that is required of the field, unless that is one of those that slip through. -/
theorem executeOperation_required {service : Service} {definitions : List Definition}
    {d : Executable} {o : Operation FieldDefinition} {response : ResponseContext}
    {provided : Json.Members} (arguments : service.schema.HasArguments)
    (distinct : service.schema.HasDistinctFields)
    (hd : validate service.schema definitions = .ok d) (ho : o ∈ d.allOperations)
    (accepted : Variables.ofRequest service.schema o provided
      = .ok response.operation.variableValues)
    {fields : Chain Work FieldContext FieldResult}
    (hfields : ∀ mw ∈ fields, FieldMiddleware.KeepsTo (FieldContext.GetsRequired service.schema
      o.variableDefinitions response.operation.variableValues) mw)
    {root root' : ObjectValue Resolved}
    (hroot : (Resolved.object root).AgreeOn (FieldContext.GetsRequired service.schema
      o.variableDefinitions response.operation.variableValues) (.object root')) :
    executeOperation service fields response d o root =
      executeOperation service fields response d o root' :=
  executeOperation_congr hfields (fun _ h => h.getsRequired arguments distinct hd ho accepted) hroot

namespace Whole

/-- An argument that is an integer. -/
def whole : InputValue := { name := "a", type := .named "Int" true }

/-- An object whose fields have their arguments for values. -/
def echo : ObjectValue Resolved where
  typeName   := "Query"
  isMethod   := fun _ => false
  isResolver := fun _ => false
  resolve    := fun c x => (.ok (.ok (.leaf (.object c.arguments))), x)

/-- A service with one field, which takes the integer. -/
def service : Service where
  schema := OneField.schema whole
  query  := echo

/-- A variable that may be `null`, and is five if it is left out. -/
def five : VariableDefinition := ⟨"v", .named "Int" false, some ⟨.int "5", 5⟩, [], 4⟩

/-- A query of the field with the variable for the integer. -/
def definitions : List Definition := OneField.definitions [five] (.variable "v")

/-- The document of the query. -/
def document : Executable := OneField.document whole [five] (.variable "v")

/-- The query. -/
def query : Operation FieldDefinition := OneField.query whole [five] (.variable "v")

/-- A response to a request with a value for the variable. -/
def response (v : Json) : ResponseContext := ⟨{ variableValues := [("v", v)] }, .standard⟩

theorem arguments : service.schema.HasArguments where
  distinct := by decide
  inputs t ht f hf a ha := by
    have hall : ∀ t ∈ service.schema.types, ∀ f ∈ t.fields ++ service.schema.metaFields t,
        ∀ a ∈ f.arguments, (service.schema.type? a.type.innerName).any (·.isInput) = true := by
      decide
    exact (Option.any_eq_true _ _).mp (hall t ht f hf a ha)

end Whole

open Whole Classical in
/-- With seven for the variable, a resolver that panics where it does not get what is required gets
seven. -/
theorem executeOperation_required_whole :
    validate service.schema definitions = .ok document ∧ query ∈ document.allOperations ∧
      Variables.ofRequest service.schema query [("v", .int 7)]
        = .ok (response (.int 7)).operation.variableValues ∧
      (executeOperation service [] (response (.int 7)) document query
        (echo.guard (FieldContext.GetsRequired service.schema query.variableDefinitions
          (response (.int 7)).operation.variableValues)) {}).1
        = .ok (.object [("f", .object [("a", .int 7)])]) := by
  have hvalid : validate service.schema definitions = .ok document := rfl
  have hmem : query ∈ document.allOperations := List.mem_cons_self
  have haccepted : Variables.ofRequest service.schema query [("v", .int 7)]
      = .ok (response (.int 7)).operation.variableValues := rfl
  refine ⟨hvalid, hmem, haccepted, ?_⟩
  rw [← executeOperation_required arguments (OneField.distinct whole) hvalid hmem haccepted
    (fun _ hmw => absurd hmw List.not_mem_nil) (.guard echo)]
  rfl

open Whole in
/-- With `null` for the variable, which stands for the integer because of its default, the resolver
gets `null`. -/
theorem executeOperation_not_required :
    whole.type.isRequired = true ∧ validate service.schema definitions = .ok document ∧
      query ∈ document.allOperations ∧
      Variables.ofRequest service.schema query [("v", .null)]
        = .ok (response .null).operation.variableValues ∧
      (executeOperation service [] (response .null) document query echo {}).1
        = .ok (.object [("f", .object [("a", .null)])]) :=
  ⟨rfl, rfl, List.mem_cons_self, rfl, rfl⟩

end Execution

end GraphServe
