import GraphServe.Chain
import GraphServe.Exchange
import GraphServe.Schema.Basic

/-!
# Resolved values

What resolvers give for fields, before it is shaped after the types of the schema, and the services
that schemas get their values from.

* `ObjectValue` resolves the fields of one object.
* `Resolved.ofJson` takes plain JSON for resolved values.
* `Service` is a schema with the objects that its operations start from.
-/

namespace GraphServe

open Document

/-- What a resolver and the middleware around it know of the field that they resolve. -/
structure FieldContext where
  response   : ResponseContext
  /-- The path of the field that the object is a value of, `none` at the root.  It stands for all
  that is known of that field: execution asks only whether there is one, and scripted resolvers tell
  its path.  Nothing reads another part of it. -/
  parent?    : Option Path
  /-- The name of the object type that the field is selected on. -/
  object     : String
  field      : FieldHead FieldDefinition
  /-- The arguments, with variables substituted and defaults filled in. -/
  arguments  : Json.Members
  /-- Where the value stands in the data. -/
  path       : Path
  /-- Whether the field is computed and not read from a stored value. -/
  isMethod   : Bool
  /-- Whether the service names the field as one that it resolves itself. -/
  isResolver : Bool

namespace FieldContext

/-- The operation that the field belongs to. -/
def operation (c : FieldContext) : OperationContext := c.response.operation

/-- The name of the field. -/
def name (c : FieldContext) : String := c.field.name.node

/-- The type of the field. -/
def returnType (c : FieldContext) : TypeRef := c.field.note.type

/-- The value of an argument. -/
def argument? (c : FieldContext) (name : String) : Option Json := c.arguments.get? name

/-- The file that an argument refers to. -/
def upload? (c : FieldContext) (name : String) : Option Upload := do
  c.operation.uploads.find? (← c.argument? name)

/-- Report a failure of the field without failing it. -/
def addError (c : FieldContext) (failure : Failure) : Work Unit :=
  c.response.addError (some c.path) failure

end FieldContext

/-- An object: its concrete type, and how its fields get their values. -/
structure ObjectValue (ρ : Type) where
  typeName   : String
  /-- Whether a field is computed and not read from a stored value. -/
  isMethod   : String → Bool
  /-- Whether the service names a field as one that it resolves itself. -/
  isResolver : String → Bool
  resolve    : FieldContext → Exchange → Except Panic (Except Failure ρ) × Exchange

/-- The value of a resolved field. -/
inductive Resolved where
  /-- A scalar or enum value, or `null`. -/
  | leaf (value : Json)
  | list (items : List Resolved)
  | object (object : ObjectValue Resolved)

/-- What a resolver or middleware in its place answers. -/
abbrev FieldResult := Except Failure Resolved

namespace Resolved

/-- The value `null`. -/
def null : Resolved := .leaf .null

mutual

/-- Plain JSON as a resolved value.  An object resolves its fields by their keys; it has the type
that its member `__typename` says, or else the type of the field. -/
def ofJson : Json → String → Resolved
  | .list items,     type => .list (ofItems items type)
  | .object members, type =>
      let fields := ofMembers members
      .object
        { typeName := ((members.lookup "__typename").bind Json.string?).getD type
          isMethod := fun _ => false
          isResolver := fun _ => false
          resolve := fun c x =>
            let value := match fields.lookup c.name with
              | some value => value c.returnType.innerName
              | none       => null
            (.ok (.ok value), x) }
  | .null,     _ => .leaf .null
  | .bool b,   _ => .leaf (.bool b)
  | .int n,    _ => .leaf (.int n)
  | .float x,  _ => .leaf (.float x)
  | .string s, _ => .leaf (.string s)

/-- The items of a list as resolved values. -/
def ofItems : List Json → String → List Resolved
  | [],            _    => []
  | item :: items, type => ofJson item type :: ofItems items type

/-- The members of an object as resolved values, once the type of the field is known. -/
def ofMembers : List (String × Json) → List (String × (String → Resolved))
  | []                   => []
  | (key, value) :: rest => (key, fun type => ofJson value type) :: ofMembers rest

end

end Resolved

/-- Call the resolver of a field of an object. -/
def ObjectValue.call (object : ObjectValue Resolved) (c : FieldContext) : Work FieldResult := do
  Work.record (.call c.path (object.isMethod c.name))
  object.resolve c

/-- Stands around the resolution of fields. -/
abbrev FieldMiddleware := Middleware Work FieldContext FieldResult

/-- A schema with the objects that its operations start from. -/
structure Service where
  schema   : Schema
  /-- The cost of a field, by its type and name, the cost of what is selected of it and its
  arguments; `none` stands for one more than what is selected. -/
  complexity : String → String → Nat → Json.Members → Option Nat := fun _ _ _ _ => none
  query    : ObjectValue Resolved
  /-- Missing when the service executes no mutations. -/
  mutation : Option (ObjectValue Resolved) := none

end GraphServe
