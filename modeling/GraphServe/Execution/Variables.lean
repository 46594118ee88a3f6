import GraphServe.Error
import GraphServe.Execution.Arguments
import GraphServe.Schema.Basic

/-!
# Variables

The values that a request provides for the variables of an operation, coerced to their types.  The
first value that does not fit is an error at its path, which starts with `variable`.

* `Variables.coerce` coerces one value.
* `Variables.ofRequest` coerces the values of all variables of an operation.
-/

namespace GraphServe.Variables

open Document

/-- An error of a value at a path. -/
def mismatch (path : Path) (message : String) : Error :=
  { Error.validation message with path := some path }

/-- A value that is of another kind than a type. -/
def otherKind (path : Path) (value : Json) (type : String) : Error :=
  mismatch path ("cannot use " ++ value.kind.name ++ " as " ++ type)

/-- A value that is to be of a scalar type. -/
def coerceScalar (type : String) (value : Json) (path : Path) : Except Error Json :=
  let accept (fits : Bool) : Except Error Json :=
    if fits then .ok value else .error (otherKind path value type)
  if type = "Int" then
    match value with
    | .int n =>
        if Word.isSigned 32 n then .ok value
        else if Word.isSigned 64 n then .error (mismatch path (toString n ++ " overflows Int"))
        else .error (otherKind path value type)
    | _      => .error (otherKind path value type)
  else if type = "Float" then accept (value.kind = .int ∨ value.kind = .float)
  else if type = "String" then accept (value.kind = .string)
  else if type = "Boolean" then accept (value.kind = .bool)
  else if type = "ID" then accept (value.kind = .string ∨ value.kind = .int)
  else .ok value

/-- A value that is to be a member of an enum. -/
def coerceEnum (type : String) (members : List EnumValue) (value : Json) (path : Path) :
    Except Error Json :=
  match value with
  | .string name =>
      if members.any (·.name = name) then .ok value
      else .error (mismatch path (name ++ " is not a valid " ++ type))
  | _            => .error (otherKind path value type)

/-- The fields of an input object, in the order of their definitions: each from the coercion of the
member that provides it, or from its default. -/
def coerceFields (members : List (String × (TypeRef → Path → Except Error Json))) (path : Path) :
    List InputValue → Json.Members → Except Error Json.Members
  | [],             done => .ok done
  | field :: fields, done =>
      let fieldPath := path ++ [.key field.name]
      match members.lookup field.name, field.default? with
      | some coerceMember, _            => do
          let value ← coerceMember field.type fieldPath
          coerceFields members path fields (done.insert field.name value)
      | none,              some default =>
          coerceFields members path fields (done.insert field.name default.constant)
      | none,              none         =>
          if field.type.isRequired then .error (mismatch fieldPath "must be defined")
          else coerceFields members path fields done

/-- A value that is to be of a named type.  The members of an object come with their coercions. -/
def coerceNamed (s : Schema) (type : String) (value : Json)
    (members : List (String × (TypeRef → Path → Except Error Json))) (path : Path) :
    Except Error Json :=
  match (s.type? type).map TypeDefinition.body with
  | some .scalar        => coerceScalar type value path
  | some (.enum values) => coerceEnum type values value path
  | some (.input fields) =>
      match value with
      | .object _ =>
          match members.find? fun m => !fields.any (·.name = m.1) with
          | some (unknown, _) => .error (mismatch (path ++ [.key unknown]) "unknown field")
          | none              => (coerceFields members path fields []).map .object
      | _         => .error (otherKind path value type)
  | _ => .error (mismatch path (type ++ " is not an input type"))

/-- A single value for a list type stands for a list of one, at every depth of the type. -/
def wrap : TypeRef → Json → Json
  | .named _ _,   value => value
  | .list item _, value => .list [wrap item value]

mutual

/-- A value that is to be of a type. -/
def coerce (s : Schema) : Json → TypeRef → Path → Except Error Json
  | .null, type, path =>
      if type.isRequired then .error (mismatch path "cannot be null") else .ok .null
  | .list items, .list item _, path => do return .list (← coerceItems s items item path 0)
  | .list items, .named name _, path => coerceNamed s name (.list items) [] path
  | .object members, type, path =>
      let fields := coerceMembers s members
      (coerceNamed s type.innerName (.object members) fields path).map (wrap type)
  | .bool b,   type, path => (coerceNamed s type.innerName (.bool b) [] path).map (wrap type)
  | .int n,    type, path => (coerceNamed s type.innerName (.int n) [] path).map (wrap type)
  | .float x,  type, path => (coerceNamed s type.innerName (.float x) [] path).map (wrap type)
  | .string t, type, path => (coerceNamed s type.innerName (.string t) [] path).map (wrap type)

/-- The items of a list, from an index on. -/
def coerceItems (s : Schema) : List Json → TypeRef → Path → Nat → Except Error (List Json)
  | [],            _,    _,    _ => .ok []
  | item :: items, type, path, i => do
      let first ← coerce s item type (path ++ [.index i])
      return first :: (← coerceItems s items type path (i + 1))

/-- The members of an object with their coercions. -/
def coerceMembers (s : Schema) :
    List (String × Json) → List (String × (TypeRef → Path → Except Error Json))
  | []                   => []
  | (key, value) :: rest => (key, coerce s value) :: coerceMembers s rest

end

/-- The path of a variable. -/
def pathOf (name : String) : Path := [.key "variable", .key name]

/-- Coerce the values of variables, after those already `done`. -/
def coerceAll (s : Schema) (values : Json.Members) :
    List VariableDefinition → Json.Members → Except Error Json.Members
  | [],                     done => .ok done
  | definition :: definitions, done =>
      match values.get? definition.name, definition.default? with
      | some value, _            => do
          let value ← coerce s value definition.type (pathOf definition.name)
          coerceAll s values definitions (done.insert definition.name value)
      | none,       some default =>
          coerceAll s values definitions (done.insert definition.name default.node.constant)
      | none,       none         =>
          if definition.type.isRequired then
            .error (mismatch (pathOf definition.name) "must be defined")
          else coerceAll s values definitions done

/-- The values of an operation's variables for those that a request provides. -/
def ofRequest {α : Type} (s : Schema) (operation : Operation α) (values : Json.Members) :
    Except Error Json.Members :=
  coerceAll s values operation.variableDefinitions []

end GraphServe.Variables
