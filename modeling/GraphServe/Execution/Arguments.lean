import GraphServe.Document.Ast
import GraphServe.Json.Value
import GraphServe.Number.Literal
import GraphServe.Number.Word

/-!
# Arguments

The values that resolvers get for the arguments of a field: literals as JSON, variables by their
values, and defaults where nothing is provided.

* `Document.Value.toJson` is the JSON of a literal.
* `Arguments.ofField` is the object of all arguments of a field.
-/

namespace GraphServe

open Document

/-- The number that a literal spells: an integer of sixty-four bits, else the nearest double, else
`null`. -/
def Json.ofNumberText (text : String) : Json :=
  let chars := text.toList
  let digits := match chars with
    | '-' :: rest => rest
    | all         => all
  let n := NumberLiteral.intOf chars
  if digits.all Char.isDigit && Word.isSigned 64 n then .int n
  else
    let x := (NumberLiteral.ofText text).toDouble
    if x.isFinite then .float x else .null

namespace Document.Value

/-- Whether a value is a variable that has no value. -/
def isMissing (values : Json.Members) : Value → Bool
  | .variable name => !values.contains name
  | _              => false

mutual

/-- The JSON of a literal, with the values of variables.  A variable without value is `null`, and a
field of an object that is such a variable is left out. -/
def toJson (values : Json.Members) : Value → Json
  | .null          => .null
  | .bool b        => .bool b
  | .int text      => .ofNumberText text
  | .float text    => .ofNumberText text
  | .string s      => .string s
  | .enum name     => .string name
  | .variable name => (values.get? name).getD .null
  | .list items    => .list (itemsToJson values items)
  | .object fields => .object (fieldsToJson values [] fields)

/-- The JSON of some items. -/
def itemsToJson (values : Json.Members) : List (Located Value) → List Json
  | []                => []
  | ⟨item, _⟩ :: rest => toJson values item :: itemsToJson values rest

/-- The members of some fields, after those already `done`. -/
def fieldsToJson (values : Json.Members) (done : Json.Members) :
    List (String × Located Value) → Json.Members
  | []                        => done
  | (name, ⟨item, _⟩) :: rest =>
      if item.isMissing values then fieldsToJson values done rest
      else fieldsToJson values (done.insert name (toJson values item)) rest

end

/-- The JSON of a literal without variables. -/
def constant (v : Value) : Json := v.toJson []

end Document.Value

namespace Arguments

variable {α : Type}

/-- The value that a field provides for an argument; a variable without value provides none. -/
def provided? (head : FieldHead α) (values : Json.Members) (name : String) : Option Json :=
  match head.argument? name with
  | none                          => none
  | some ⟨.variable variable', _⟩ => values.get? variable'
  | some ⟨literal, _⟩             => some (literal.toJson values)

/-- The value of an argument: what the field provides, else the default. -/
def value? (head : FieldHead α) (values : Json.Members) (definition : InputValue) : Option Json :=
  provided? head values definition.name <|> definition.default?.map (·.toJson values)

/-- The arguments of a field, in the order of their definitions. -/
def ofField (head : FieldHead α) (definition : FieldDefinition) (values : Json.Members) :
    Json.Members :=
  definition.arguments.foldl (fun found argument =>
    match value? head values argument with
    | some value => found.insert argument.name value
    | none       => found) []

end Arguments

end GraphServe
