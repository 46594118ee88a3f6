import GraphServe.Document.Executable
import GraphServe.Number.Literal

/-!
# Values, arguments and directives

Whether the values in a document are of the types they are used at, and whether arguments and
directives are those that the schema knows.

* `checkValue` holds a value against a type.
* `checkArguments` holds arguments against their definitions, `checkDirectives` directives against
  theirs.

A variable inside a value is only held against the name of the type, not against lists or `null`.
-/

namespace GraphServe.Validation

open Document

/-- The variable of a name. -/
def declared? (declared : List VariableDefinition) (name : String) : Option VariableDefinition :=
  declared.find? (·.name = name)

/-- Whether an integer literal fits thirty-two bits. -/
def fitsInt (text : String) : Bool :=
  let n := NumberLiteral.intOf text.toList
  decide (-2147483648 ≤ n) && decide (n < 2147483648)

/-- Whether a number literal is within the range of doubles. -/
def fitsFloat (text : String) : Bool := (NumberLiteral.ofText text).toDouble.isFinite

/-- A scalar that is not built in takes any value. -/
def isCustomScalar (t : TypeDefinition) : Bool :=
  match t.body with
  | .scalar => !Builtin.isScalar t.name
  | _       => false

/-- The fields of an input object. -/
def inputFields (t : TypeDefinition) : List InputValue :=
  match t.body with
  | .input fields => fields
  | _             => []

/-- The problem of a value without parts at a type. -/
def scalarProblem? (t : TypeDefinition) (type : TypeRef) (v : Value) : Option Problem :=
  let other : Option Problem := some (.valueOfOtherType type v.describe)
  match v, t.body with
  | .null,       _         => if type.isRequired then other else none
  | .enum value, .enum values =>
      if values.any (·.name = value) then none else some (.undefinedEnumValue value t.name)
  | .int text,   .scalar   =>
      if t.name = "Int" then if fitsInt text then none else some .integerTooLarge
      else if t.name = "Float" then if fitsFloat text then none else some .floatTooLarge
      else if t.name = "ID" ∨ isCustomScalar t then none
      else other
  | .float text, .scalar   =>
      if t.name = "Float" then if fitsFloat text then none else some .floatTooLarge
      else if isCustomScalar t then none
      else other
  | .string _,   .scalar   =>
      if t.name = "String" ∨ t.name = "ID" ∨ isCustomScalar t then none else other
  | .bool _,     .scalar   => if t.name = "Boolean" ∨ isCustomScalar t then none else other
  | .enum _,     .scalar   => if isCustomScalar t then none else other
  | _,           _         => other

/-- The problem of a variable inside a value. -/
def variableProblem? (declared : List VariableDefinition) (t : TypeDefinition) (type : TypeRef)
    (name : String) : Option Problem :=
  let other : Problem := .valueOfOtherType type "a variable"
  if !t.isInput then some other
  else
    match declared? declared name with
    | none   => some (.undefinedVariable name)
    | some v => if v.type.innerName = t.name then none else some other

/-- The fields that an input object needs and a literal does not give. -/
def missingFields (t : TypeDefinition) (given : List (String × Located Value)) :
    List Problem :=
  (inputFields t).filterMap fun f =>
    let values := given.filter (·.1 = f.name)
    let isGiven := !values.isEmpty && values.all fun (_, v) => !v.node.isNull
    if f.isRequired && !isGiven then some (.missingInputField t.name f.name) else none

/-- The first field of a literal that its input object does not have. -/
def undefinedFieldOf (t : TypeDefinition) (given : List (String × Located Value)) :
    List Diagnostic :=
  match given.find? fun (name, _) => !(inputFields t).any (·.name = name) with
  | none           => []
  | some (name, v) => [⟨.undefinedInputField name t.name, v.place⟩]

mutual

/-- What is wrong with a value at a type. -/
def checkValue (s : Schema) (declared : List VariableDefinition) (type : TypeRef) (place : Nat) :
    Value → List Diagnostic
  | .variable name =>
      match s.type? type.innerName with
      | none   => []
      | some t => (variableProblem? declared t type name).toList.map (⟨·, place⟩)
  | .list items    =>
      match s.type? type.innerName with
      | none   => []
      | some t =>
          if !(type.isList || isCustomScalar t) then [⟨.valueOfOtherType type "a list", place⟩]
          else if t.isInput then checkItems s declared type.itemType items
          else [⟨.valueOfOtherType type.itemType "a list", place⟩]
  | .object fields =>
      match s.type? type.innerName with
      | none   => []
      | some t =>
          match t.body with
          | .input _ =>
              undefinedFieldOf t fields ++ (missingFields t fields).map (⟨·, place⟩)
                ++ checkFields s declared (inputFields t) [] fields
          | _        =>
              if isCustomScalar t then []
              else [⟨.valueOfOtherType type "an input object", place⟩]
  | v              =>
      match s.type? type.innerName with
      | none   => []
      | some t => (scalarProblem? t type v).toList.map (⟨·, place⟩)

/-- What is wrong with the items of a list. -/
def checkItems (s : Schema) (declared : List VariableDefinition) (type : TypeRef) :
    List (Located Value) → List Diagnostic
  | []                => []
  | ⟨v, place⟩ :: rest => checkValue s declared type place v ++ checkItems s declared type rest

/-- What is wrong with the fields of an input object; of a field given twice the first counts. -/
def checkFields (s : Schema) (declared : List VariableDefinition) (fields : List InputValue)
    (seen : List String) : List (String × Located Value) → List Diagnostic
  | []                        => []
  | (name, ⟨v, place⟩) :: rest =>
      (match fields.find? (·.name = name) with
        | some f => if name ∈ seen then [] else checkValue s declared f.type place v
        | none   => [])
      ++ checkFields s declared fields (name :: seen) rest

end

/-! ### Arguments -/

/-- Whether a variable may be used where a value of an argument is expected: its type fits, or fits
but for `null` where one of the two has a default. -/
def isUsable (v : VariableDefinition) (argument : InputValue) : Bool :=
  if argument.type.isRequired && !v.type.isRequired then
    (v.default?.isSome || argument.default?.isSome)
      && v.type.isAssignableTo argument.type.nullable
  else v.type.isAssignableTo argument.type

/-- Arguments whose name came before. -/
def repeatedArguments (seen : List String) : List Argument → List Diagnostic
  | []        => []
  | a :: rest =>
      (if a.name ∈ seen then [⟨.repeatedArgument a.name, a.place⟩] else [])
        ++ repeatedArguments (a.name :: seen) rest

/-- What is wrong with the value of an argument. -/
def checkArgument (s : Schema) (declared : List VariableDefinition) (definition : InputValue)
    (a : Argument) : List Diagnostic :=
  let refused := match a.value.node with
    | .variable name => (declared? declared name).filter (!isUsable · definition)
    | _              => none
  match refused with
  | some v => [⟨.variableNotAllowed v.name v.type a.name definition.type, a.place⟩]
  | none   => checkValue s declared definition.type a.value.place a.value.node

/-- What is wrong with given arguments, and which needed ones are not given; `place` is that of
what the arguments belong to. -/
def checkArguments (s : Schema) (declared : List VariableDefinition) (owner : ArgumentOwner)
    (definitions : List InputValue) (given : List Argument) (place : Nat) : List Diagnostic :=
  let each := given.flatMap fun a =>
    match definitions.find? (·.name = a.name) with
    | some definition => checkArgument s declared definition a
    | none            => [⟨.undefinedArgument a.name owner, a.place⟩]
  let missing := definitions.filter fun d =>
    d.isRequired && match given.find? (·.name = d.name) with
      | some a => a.value.node.isNull
      | none   => true
  each ++ missing.map fun d => ⟨.missingArgument d.name owner, place⟩

/-! ### Directives -/

/-- What is wrong with directives at a location; `seen` are those that came before. -/
def checkDirectives (s : Schema) (declared : List VariableDefinition) (location : String)
    (seen : List String) : List Directive → List Diagnostic
  | []        => []
  | d :: rest =>
      let here := repeatedArguments [] d.arguments ++
        match s.directive? d.name with
        | none            => [⟨.undefinedDirective d.name, d.place⟩]
        | some definition =>
            (if d.name ∈ seen ∧ !definition.repeatable then [⟨.repeatedDirective d.name, d.place⟩]
              else [])
            ++ (if location ∈ definition.locations then []
                else [⟨.misplacedDirective d.name location, d.place⟩])
            ++ checkArguments s declared (.directive d.name) definition.arguments d.arguments
                d.place
      here ++ checkDirectives s declared location (d.name :: seen) rest

end GraphServe.Validation
