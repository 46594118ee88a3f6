import GraphServe.Proofs.Execution.Literals

/-!
# Arguments — what a field hands to its resolver

Where the arguments of a field have names of their own, the object of them has a member for each
that has a value, in their order (`Arguments.ofField_eq`), and what is found under the name of an
argument is its value (`Arguments.get?_ofField`).  This depends on what the field gives for the
argument and on the variables in that (`Arguments.value?_congr`).
-/

namespace GraphServe.Arguments

open Document

variable {α β : Type} {head : FieldHead α} {head' : FieldHead β} {definition : FieldDefinition}
  {a : InputValue} {values values' : Json.Members}

/-- The arguments that were found, with one more if it has a value. -/
def withArgument (head : FieldHead α) (values found : Json.Members) (a : InputValue) :
    Json.Members :=
  match value? head values a with
  | some value => found.insert a.name value
  | none       => found

theorem foldl_withArgument (head : FieldHead α) (values : Json.Members)
    {arguments : List InputValue} (names : (arguments.map (·.name)).Nodup) {done : Json.Members}
    (new : ∀ a ∈ arguments, done.get? a.name = none) :
    arguments.foldl (withArgument head values) done
      = done ++ arguments.filterMap fun a => (value? head values a).map (a.name, ·) := by
  induction arguments generalizing done with
  | nil => exact (List.append_nil done).symm
  | cons a arguments ih =>
      obtain ⟨ha, hdistinct⟩ := List.nodup_cons.mp names
      obtain ⟨hfirst, hothers⟩ := List.forall_mem_cons.mp new
      rw [List.foldl_cons, withArgument]
      cases hvalue : value? head values a with
      | none =>
          rw [List.filterMap_cons_none (by rw [hvalue]; rfl)]
          exact ih hdistinct hothers
      | some value =>
          rw [List.filterMap_cons_some (b := (a.name, value)) (by rw [hvalue]; rfl)]
          have hlater : ∀ b ∈ arguments, (done.insert a.name value).get? b.name = none := by
            intro b hb
            have hne : a.name ≠ b.name := fun heq => ha (List.mem_map.mpr ⟨b, hb, heq.symm⟩)
            rw [Json.Members.get?_insert, if_neg hne, hothers b hb]
          rw [ih hdistinct hlater, Json.Members.insert_of_get? hfirst, List.append_assoc]
          rfl

/-- The arguments of a field, one after the other. -/
theorem ofField_eq (names : (definition.arguments.map (·.name)).Nodup) (head : FieldHead α)
    (values : Json.Members) : ofField head definition values
      = definition.arguments.filterMap fun a => (value? head values a).map (a.name, ·) :=
  foldl_withArgument head values names fun _ _ => rfl

/-- What a resolver finds under the name of an argument is its value. -/
theorem get?_ofField (names : (definition.arguments.map (·.name)).Nodup)
    (ha : a ∈ definition.arguments) (head : FieldHead α) (values : Json.Members) :
    (ofField head definition values).get? a.name = value? head values a := by
  rw [ofField_eq names, Json.Members.get?_filterMap names (fun b _ k v hkv => ?_) ha]
  · rw [Option.map_map]
    exact Option.map_id'
  · obtain ⟨value, -, heq⟩ := Option.map_eq_some_iff.mp hkv
    exact (congrArg Prod.fst heq).symm

/-- Fields whose arguments have the same values hand the same to their resolvers. -/
theorem ofField_congr (h : ∀ a ∈ definition.arguments, value? head values a = value? head' values' a) :
    ofField head definition values = ofField head' definition values' := by
  rw [ofField, ofField]
  exact List.foldl_ext _ _ _ fun found a ha => by rw [h a ha]

/-- The value of an argument that a field gives with a variable. -/
theorem value?_variable {name : String} {place : Nat}
    (h : head.argument? a.name = some ⟨.variable name, place⟩) :
    value? head values a = (values.get? name).or (a.default?.map (·.toJson values)) := by
  rw [value?, provided?, h]
  exact Option.orElse_eq_or

/-- The value of an argument that a field gives with a literal. -/
theorem value?_literal {l : Value} {place : Nat} (hl : ∀ name, l ≠ .variable name)
    (h : head.argument? a.name = some ⟨l, place⟩) :
    value? head values a = some (l.toJson values) := by
  rw [value?, provided?, h]
  match l with
  | .variable name => exact absurd rfl (hl name)
  | .null | .bool _ | .int _ | .float _ | .string _ | .enum _ | .list _ | .object _ => rfl

/-- The value of an argument that a field does not give. -/
theorem value?_default (h : head.argument? a.name = none) :
    value? head values a = a.default?.map (·.toJson values) := by
  rw [value?, provided?, h]
  rfl

/-- The value of an argument depends on what the field gives for it and the variables in that. -/
theorem value?_congr (hsame : head'.argument? a.name = head.argument? a.name)
    (hvariables : ∀ item, head.argument? a.name = some item →
      ∀ name ∈ item.node.variableNames, values.get? name = values'.get? name)
    (hdefault : ∀ default, a.default? = some default → default.variableNames = []) :
    value? head values a = value? head' values' a := by
  have hdefaults : a.default?.map (·.toJson values) = a.default?.map (·.toJson values') := by
    cases hd : a.default? with
    | none => rfl
    | some default =>
        rw [Option.map_some, Option.map_some, Value.toJson_constant (hdefault default hd),
          Value.toJson_constant (hdefault default hd)]
  cases hitem : head.argument? a.name with
  | none => rw [value?_default hitem, value?_default (hsame.trans hitem), hdefaults]
  | some item =>
      obtain ⟨l, place⟩ := item
      have hl := hvariables _ hitem
      by_cases hvariable : ∃ name, l = .variable name
      · obtain ⟨name, rfl⟩ := hvariable
        rw [value?_variable hitem, value?_variable (hsame.trans hitem), hdefaults,
          hl name (by rw [Value.variableNames]; exact List.mem_singleton_self name)]
      · have hliteral : ∀ name, l ≠ .variable name := fun name h => hvariable ⟨name, h⟩
        rw [value?_literal hliteral hitem, value?_literal hliteral (hsame.trans hitem),
          Value.toJson_congr hl]

end GraphServe.Arguments
