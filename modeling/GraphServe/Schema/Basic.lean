import GraphServe.Document.Reader
import GraphServe.Schema.Builtin

/-!
# Schemas

The types and directives of a service, with the types that its operations start from.

* `Schema.ofDefinitions` builds a schema from the definitions of a document and adds the built-in
  ones.
* `Schema.field?` is the field that may be selected on a type, meta fields included.
* `Schema.isSubtype` and `Schema.possibleTypes` say which types an interface or union stands for.
-/

namespace GraphServe

open Document

namespace Document.TypeDefinition

/-- The fields that a type defines. -/
def fields (t : TypeDefinition) : List FieldDefinition :=
  match t.body with
  | .object _ fields | .interface _ fields => fields
  | _                                      => []

/-- The interfaces that a type implements. -/
def interfaces (t : TypeDefinition) : List String :=
  match t.body with
  | .object interfaces _ | .interface interfaces _ => interfaces
  | _                                              => []

/-- Whether values of a type have selections. -/
def isComposite (t : TypeDefinition) : Bool :=
  match t.body with
  | .object _ _ | .interface _ _ | .union _ => true
  | _                                       => false

/-- Whether a type is an object. -/
def isObject (t : TypeDefinition) : Bool :=
  match t.body with
  | .object _ _ => true
  | _           => false

/-- Whether variables and arguments may have a type. -/
def isInput (t : TypeDefinition) : Bool :=
  match t.body with
  | .scalar | .enum _ | .input _ => true
  | _                            => false

/-- The types that the arguments of a field or directive name. -/
def namedByArguments (arguments : List InputValue) : List String :=
  arguments.map (·.type.innerName)

/-- The types that a type names. -/
def namedTypes (t : TypeDefinition) : List String :=
  match t.body with
  | .object _ fields | .interface _ fields =>
      fields.flatMap fun f => f.type.innerName :: namedByArguments f.arguments
  | .input fields                          => fields.map (·.type.innerName)
  | _                                      => []

/-- A type with the members of an extension added. -/
def extend (t more : TypeDefinition) : TypeDefinition :=
  { t with
    directives := t.directives ++ more.directives
    body := match t.body, more.body with
      | .object is fs,    .object is' fs'    => .object (is ++ is') (fs ++ fs')
      | .interface is fs, .interface is' fs' => .interface (is ++ is') (fs ++ fs')
      | .union ms,        .union ms'         => .union (ms ++ ms')
      | .enum vs,         .enum vs'          => .enum (vs ++ vs')
      | .input fs,        .input fs'         => .input (fs ++ fs')
      | body,             _                  => body }

end Document.TypeDefinition

/-- The types and directives of a service. -/
structure Schema where
  description  : Option String := none
  types        : List TypeDefinition
  directives   : List DirectiveDefinition
  query        : Option String := none
  mutation     : Option String := none
  subscription : Option String := none
deriving Inhabited

namespace Schema

/-- The type of a name. -/
def type? (s : Schema) (name : String) : Option TypeDefinition := s.types.find? (·.name = name)

/-- The directive of a name. -/
def directive? (s : Schema) (name : String) : Option DirectiveDefinition :=
  s.directives.find? (·.name = name)

/-- The value of an argument of a directive: the one given, or else the default. -/
def directiveArgument? (s : Schema) (d : Directive) (name : String) : Option Value :=
  match d.argument? name with
  | some value => some value.node
  | none       => do
      let definition ← s.directive? d.name
      (← definition.arguments.find? (·.name = name)).default?

/-- The type that an operation starts from. -/
def root? (s : Schema) : OperationType → Option String
  | .query        => s.query
  | .mutation     => s.mutation
  | .subscription => s.subscription

/-- The fields that may be selected on a type besides those it defines. -/
def metaFields (s : Schema) (t : TypeDefinition) : List FieldDefinition :=
  (if t.isComposite then [Builtin.typenameField] else [])
    ++ (if s.query = some t.name then [Builtin.schemaField, Builtin.typeField] else [])

/-- The field that may be selected on a type. -/
def field? (s : Schema) (t : TypeDefinition) (name : String) : Option FieldDefinition :=
  (t.fields ++ s.metaFields t).find? (·.name = name)

/-- Whether an interface or union stands for a type. -/
def isSubtype (s : Schema) (abstract concrete : String) : Bool :=
  match s.type? abstract with
  | none   => false
  | some a =>
      match a.body with
      | .union members => members.contains concrete
      | .interface _ _ =>
          match s.type? concrete with
          | some c => c.interfaces.contains abstract
          | none   => false
      | _              => false

/-- The objects that implement an interface. -/
def implementers (s : Schema) (interface : String) : List TypeDefinition :=
  s.types.filter fun t => t.isObject && t.interfaces.contains interface

/-- The object types that a composite type stands for. -/
def possibleTypes (s : Schema) (name : String) : List String :=
  match s.type? name with
  | none   => []
  | some t =>
      match t.body with
      | .object _ _    => [name]
      | .interface _ _ => (s.implementers name).map (·.name)
      | .union members => members
      | _              => []

/-! ### Building a schema -/

/-- The scalars that a schema has: `String` and `Boolean` always, the others if something names
them. -/
def usedScalars (types : List TypeDefinition) (directives : List DirectiveDefinition) :
    List TypeDefinition :=
  let names := types.flatMap TypeDefinition.namedTypes
    ++ directives.flatMap fun d => TypeDefinition.namedByArguments d.arguments
  Builtin.scalars.filter fun t => t.name = "String" ∨ t.name = "Boolean" ∨ t.name ∈ names

/-- The built-in directives, each as some definitions have it if they do, and then the others that
they have. -/
def allDirectives (own : List DirectiveDefinition) : List DirectiveDefinition :=
  let standard := Builtin.directives.map fun d => (own.find? (·.name = d.name)).getD d
  standard ++ own.filter fun d => !Builtin.directives.any (·.name = d.name)

/-- The schema that definitions describe. -/
def ofDefinitions (definitions : List Definition) : Schema :=
  let parts := definitions.filterMap fun
    | .typeSystem d _ => some d
    | _               => none
  let types := parts.filterMap fun
    | .type t => some t
    | _       => none
  let types := types.map fun t =>
    parts.foldl (fun t part => match part with
      | .extendType more => if more.name = t.name then t.extend more else t
      | _                => t) t
  let directives := parts.filterMap fun
    | .directive d => some d
    | _            => none
  let schemas := parts.filterMap fun
    | .schema d | .extendSchema d => some d
    | _                           => none
  let explicit := parts.any fun
    | .schema _ => true
    | _         => false
  let root (kind : OperationType) (standard : String) : Option String :=
    let implied := if !explicit && types.any fun t => t.name = standard && t.isObject then
      some standard else none
    implied <|> (schemas.flatMap (·.roots)).lookup kind
  { description := (schemas.head?.bind (·.description))
    types := Builtin.introspectionTypes ++ usedScalars types directives ++ types
    directives := allDirectives directives
    query := root .query "Query"
    mutation := root .mutation "Mutation"
    subscription := root .subscription "Subscription" }

/-- The schema that a text describes. -/
def read (text : String) : Except (List Fault) Schema :=
  (Document.read text).map ofDefinitions

end Schema

end GraphServe
