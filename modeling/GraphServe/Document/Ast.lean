import GraphServe.Document.Value

/-!
# Document trees

What a document says, before anything is known of the types it is about.  The fields of a selection
carry an annotation: nothing as read, their definitions once they are resolved against a schema.
-/

namespace GraphServe.Document

/-- An argument with its place and its value. -/
structure Argument where
  name  : String
  value : Located Value
  place : Nat
deriving Repr, Inhabited

/-- A directive with its arguments. -/
structure Directive where
  name      : String
  arguments : List Argument
  place     : Nat
deriving Repr, Inhabited

namespace Directive

/-- The argument of a name. -/
def argument? (d : Directive) (name : String) : Option (Located Value) :=
  (d.arguments.find? (·.name = name)).map (·.value)

/-- The first directive of a name. -/
def find? (directives : List Directive) (name : String) : Option Directive :=
  directives.find? (·.name = name)

end Directive

/-- A variable of an operation. -/
structure VariableDefinition where
  name       : String
  type       : TypeRef
  default?   : Option (Located Value)
  directives : List Directive
  place      : Nat
deriving Repr, Inhabited

/-- A field but for what is selected of it. -/
structure FieldHead (α : Type) where
  alias?     : Option String
  name       : Located String
  arguments  : List Argument
  directives : List Directive
  place      : Nat
  /-- The annotation. -/
  note       : α
deriving Repr, Inhabited

namespace FieldHead

variable {α : Type}

/-- The key of a field in the response. -/
def responseKey (f : FieldHead α) : String := f.alias?.getD f.name.node

/-- The value of an argument. -/
def argument? (f : FieldHead α) (name : String) : Option (Located Value) :=
  (f.arguments.find? (·.name = name)).map (·.value)

end FieldHead

/-- A selection: a field with what is selected of it, the name of a fragment, or a fragment on the
spot. -/
inductive Selection (α : Type) where
  | field (head : FieldHead α) (selections : List (Selection α))
  | spread (fragment : String) (directives : List Directive) (place : Nat)
  | inline (condition : Option (Located String)) (directives : List Directive) (place : Nat)
      (selections : List (Selection α))
deriving Inhabited

/-- The directives of a selection. -/
def Selection.directives {α : Type} : Selection α → List Directive
  | .field head _      => head.directives
  | .spread _ ds _     => ds
  | .inline _ ds _ _   => ds

/-- What an operation does. -/
inductive OperationType where
  | query
  | mutation
  | subscription
deriving DecidableEq, Repr, Inhabited

/-- The word for an operation. -/
def OperationType.word : OperationType → String
  | .query        => "query"
  | .mutation     => "mutation"
  | .subscription => "subscription"

/-- An operation. -/
structure Operation (α : Type) where
  type                : OperationType
  name                : Option (Located String)
  variableDefinitions : List VariableDefinition
  directives          : List Directive
  selections          : List (Selection α)
  place               : Nat
deriving Inhabited

/-- The name of an operation. -/
def Operation.name? {α : Type} (o : Operation α) : Option String := o.name.map (·.node)

/-- A named fragment. -/
structure Fragment (α : Type) where
  name       : Located String
  condition  : Located String
  directives : List Directive
  selections : List (Selection α)
  place      : Nat
deriving Inhabited

/-! ### Definitions of a schema -/

/-- An argument of a field or directive, or a field of an input object. -/
structure InputValue where
  name        : String
  description : Option String := none
  type        : TypeRef
  default?    : Option Value := none
  directives  : List Directive := []
deriving Repr, Inhabited

/-- Whether a value must be given: `null` is not admitted and there is no default. -/
def InputValue.isRequired (v : InputValue) : Bool := v.type.isRequired && v.default?.isNone

/-- A field of an object or interface. -/
structure FieldDefinition where
  name        : String
  description : Option String := none
  arguments   : List InputValue := []
  type        : TypeRef
  directives  : List Directive := []
deriving Repr, Inhabited

/-- A member of an enum. -/
structure EnumValue where
  name        : String
  description : Option String := none
  directives  : List Directive := []
deriving Repr, Inhabited

/-- What a type consists of. -/
inductive TypeBody where
  | scalar
  | object (interfaces : List String) (fields : List FieldDefinition)
  | interface (interfaces : List String) (fields : List FieldDefinition)
  | union (members : List String)
  | enum (values : List EnumValue)
  | input (fields : List InputValue)
deriving Repr, Inhabited

/-- A type. -/
structure TypeDefinition where
  name        : String
  description : Option String := none
  directives  : List Directive := []
  body        : TypeBody
deriving Repr, Inhabited

/-- A directive that documents may use. -/
structure DirectiveDefinition where
  name        : String
  description : Option String := none
  arguments   : List InputValue := []
  repeatable  : Bool := false
  locations   : List String
deriving Repr, Inhabited

/-- The root types of a schema, with its description. -/
structure SchemaDefinition where
  description : Option String
  directives  : List Directive
  roots       : List (OperationType × String)
deriving Repr, Inhabited

/-- A definition that belongs into a schema. -/
inductive TypeSystemDefinition where
  | schema (definition : SchemaDefinition)
  | type (definition : TypeDefinition)
  | directive (definition : DirectiveDefinition)
  | extendSchema (definition : SchemaDefinition)
  | extendType (definition : TypeDefinition)
deriving Repr, Inhabited

/-- What a definition is called in a message. -/
def TypeSystemDefinition.describe : TypeSystemDefinition → String
  | schema _       => "a schema definition"
  | type d         => ofBody d.body ++ " definition"
  | directive _    => "a directive definition"
  | extendSchema _ => "a schema extension"
  | extendType d   => ofBody d.body ++ " extension"
where
  /-- The kind of a type with its article. -/
  ofBody : TypeBody → String
    | .scalar        => "a scalar type"
    | .object _ _    => "an object type"
    | .interface _ _ => "an interface type"
    | .union _       => "a union type"
    | .enum _        => "an enum type"
    | .input _       => "an input object type"

/-- A definition of a document as read. -/
inductive Definition where
  | operation (operation : Operation Unit)
  | fragment (fragment : Fragment Unit)
  | typeSystem (definition : TypeSystemDefinition) (place : Nat)
deriving Inhabited

end GraphServe.Document
