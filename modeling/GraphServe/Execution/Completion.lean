import GraphServe.Execution.Variables
import GraphServe.Json.Printer
import GraphServe.Resolved

/-!
# Completion

Resolved values shaped after the types of their fields.  A value that does not fit is an error at
its path and leaves a `null`; where the type does not admit one, the `null` goes further out.

* `Completed` is the outcome at a position: a value, or nothing that can stay there.
* `nullify` keeps a `null` where a type admits it.
* `complete` shapes a resolved value; the fields of an object are left to a given function.
-/

namespace GraphServe.Execution

open Document

/-- The outcome at a position of the data; `none` when the `null` left by an error must go further
out. -/
abbrev Completed := Option Json

/-- Keep a `null` where a type admits it. -/
def nullify (type : TypeRef) : Completed → Completed
  | some value => some value
  | none       => if type.isRequired then none else some .null

/-- Report an error at a path and leave nothing. -/
def raise {α : Type} (response : ResponseContext) (path : Path) (message : String) :
    Work (Option α) := do
  response.addError (some path) (.message message)
  return none

/-- Whether a value is one of a scalar type. -/
def isOfScalar (type : String) (value : Json) : Bool :=
  if type = "Int" then (value.int?.map (Word.isSigned 32)).getD false
  else if type = "Float" then value.kind = .int || value.kind = .float
  else if type = "String" then value.kind = .string
  else if type = "Boolean" then value.kind = .bool
  else if type = "ID" then value.kind = .string
  else true

/-- A leaf that is to be of a scalar type.  An integer stands for the identifier it spells. -/
def coerceScalar (type : String) (value : Json) : Except String Json :=
  match value with
  | .int n =>
      if type = "ID" then .ok (.string (toString n))
      else if isOfScalar type value then .ok value
      else .error ("cannot use " ++ value.render ++ " as " ++ type)
  | _      =>
      if isOfScalar type value then .ok value
      else .error ("cannot use " ++ value.render ++ " as " ++ type)

/-- A leaf that is to be of a type. -/
def coerceLeaf (type : TypeDefinition) (value : Json) : Except String Json :=
  match type.body with
  | .scalar      => coerceScalar type.name value
  | .enum values =>
      match value with
      | .string name =>
          if values.any (·.name = name) then .ok value
          else .error (value.render ++ " is not a value of enum " ++ type.name)
      | _            => .error (value.render ++ " is not a value of enum " ++ type.name)
  | .input _     => .error ("input object " ++ type.name ++ " cannot be returned")
  | _            =>
      .error (type.name ++ " is a composite type, but a leaf value was resolved")

/-- The concrete type of an object that is to be of a type. -/
def concreteType (s : Schema) (type : TypeDefinition) (runtime : String) :
    Except String TypeDefinition :=
  match type.body with
  | .object _ _               => .ok type
  | .interface _ _ | .union _ =>
      let impossible := runtime ++ " is not a possible type of " ++ type.name
      match s.type? runtime with
      | some t =>
          if t.isObject && s.isSubtype type.name runtime then .ok t else .error impossible
      | none   => .error impossible
  | _                         =>
      .error (type.name ++ " is a leaf type, but an object was resolved")

/-- Executes what is selected of an object of a concrete type at a path. -/
abbrev ExecuteObject := TypeDefinition → ObjectValue Resolved → Path → Work (Option Json.Members)

/-- Complete the items of a list in order; nothing can stay of a list with an item that can not. -/
def completeItems (complete : Path → Resolved → Work Completed) (item : TypeRef) (path : Path) :
    List Resolved → Nat → Work (Option (List Json))
  | [],            _ => return some []
  | first :: rest, i => do
      match nullify item (← complete (path ++ [.index i]) first) with
      | none       => return none
      | some value =>
          let values ← completeItems complete item path rest (i + 1)
          return values.map (value :: ·)

/-- Complete a leaf that is to be of a named type. -/
def completeLeaf (s : Schema) (response : ResponseContext) (name : String) (path : Path)
    (value : Json) : Work Completed :=
  match s.type? name with
  | none      => raise response path ("type " ++ name ++ " is not defined")
  | some type =>
      match coerceLeaf type value with
      | .ok value      => return some value
      | .error message => raise response path message

/-- Complete an object that is to be of a named type. -/
def completeObject (s : Schema) (response : ResponseContext) (execute : ExecuteObject)
    (name : String) (path : Path) (object : ObjectValue Resolved) : Work Completed :=
  match s.type? name with
  | none      => raise response path ("type " ++ name ++ " is not defined")
  | some type =>
      match concreteType s type object.typeName with
      | .ok concrete   => do return (← execute concrete object path).map .object
      | .error message => raise response path message

/-- Complete a value that is to be of a type. -/
def complete (s : Schema) (response : ResponseContext) (execute : ExecuteObject) :
    TypeRef → Path → Resolved → Work Completed
  | type, path, .leaf .null =>
      if type.isRequired then raise response path "must not be null" else return some .null
  | .named name _, path, .leaf value => completeLeaf s response name path value
  | .named name _, path, .object o => completeObject s response execute name path o
  | .named name required, path, .list _ =>
      raise response path ((TypeRef.named name required).render
        ++ " is not a list type, but a list was resolved")
  | .list item required, path, .list items => do
      match ← completeItems (complete s response execute item) item path items 0 with
      | some values => return some (.list values)
      | none        => return nullify (.list item required) none
  | .list item required, path, _ =>
      raise response path ((TypeRef.list item required).render
        ++ " is a list type, but a single value was resolved")

end GraphServe.Execution
