import GraphServe.Document.Ast

/-!
# Built-in definitions

The types by which a schema describes itself, the scalars and the directives that every schema has,
with their descriptions.

* `Builtin.introspectionTypes`, `Builtin.scalars` and `Builtin.directives` list them in order.
* `Builtin.typenameField`, `schemaField` and `typeField` are the fields that may be selected besides
  those a type defines.
-/

namespace GraphServe.Builtin

open Document

/-- A named type that does not admit `null`. -/
def needed (name : String) : TypeRef := .named name true

/-- A named type that admits `null`. -/
def optional (name : String) : TypeRef := .named name false

/-- A field. -/
def field (name : String) (type : TypeRef) (arguments : List InputValue := []) :
    FieldDefinition :=
  { name, arguments, type }

/-- A field with a description. -/
def described (description : String) (f : FieldDefinition) : FieldDefinition :=
  { f with description := some description }

/-- A member of an enum with its description. -/
def member (name description : String) : EnumValue := { name, description := some description }

/-- The argument that asks for deprecated members too. -/
def includeDeprecated : InputValue :=
  { name := "includeDeprecated", type := optional "Boolean", default? := some (.bool false) }

/-- The type `__Schema`. -/
def schemaType : TypeDefinition where
  name := "__Schema"
  description := some
    ("A GraphQL Schema defines the capabilities of a GraphQL server. It exposes all available "
      ++ "types and directives on the server, as well as the entry points for query, mutation, "
      ++ "and subscription operations.")
  body := .object []
    [field "description" (optional "String"),
     described
        "A list of all types supported by this server."
        (field "types" (.list (needed "__Type") true)),
     described
        "The type that query operations will be rooted at."
        (field "queryType" (needed "__Type")),
     described
        "If this server supports mutation, the type that mutation operations will be rooted at."
        (field "mutationType" (optional "__Type")),
     described
        ("If this server support subscription, the type that subscription operations will be "
          ++ "rooted at.")
        (field "subscriptionType" (optional "__Type")),
     described
        "A list of all directives supported by this server."
        (field "directives" (.list (needed "__Directive") true))]

/-- The type `__Type`. -/
def typeType : TypeDefinition where
  name := "__Type"
  description := some
    ("The fundamental unit of any GraphQL Schema is the type. There are many kinds of types "
      ++ "in GraphQL as represented by the `__TypeKind` enum.\n\nDepending on the kind of a type, "
      ++ "certain fields describe information about that type. Scalar types provide no "
      ++ "information beyond a name, description and optional `specifiedByURL`, while Enum types "
      ++ "provide their values. Object and Interface types provide the fields they describe. "
      ++ "Abstract types, Union and Interface, provide the Object types possible at runtime. List "
      ++ "and NonNull types compose other types.")
  body := .object []
    [field "kind" (needed "__TypeKind"),
     field "name" (optional "String"),
     field "description" (optional "String"),
     field "fields" (.list (needed "__Field") false) [includeDeprecated],
     field "interfaces" (.list (needed "__Type") false),
     field "possibleTypes" (.list (needed "__Type") false),
     field "enumValues" (.list (needed "__EnumValue") false) [includeDeprecated],
     field "inputFields" (.list (needed "__InputValue") false) [includeDeprecated],
     field "ofType" (optional "__Type"),
     field "specifiedByURL" (optional "String")]

/-- The type `__TypeKind`. -/
def typeKindType : TypeDefinition where
  name := "__TypeKind"
  description := some
    "An enum describing what kind of type a given `__Type` is."
  body := .enum
    [member "SCALAR"
        "Indicates this type is a scalar.",
     member "OBJECT"
        "Indicates this type is an object. `fields` and `interfaces` are valid fields.",
     member "INTERFACE"
        ("Indicates this type is an interface. `fields`, `interfaces`, and `possibleTypes` "
          ++ "are valid fields."),
     member "UNION"
        "Indicates this type is a union. `possibleTypes` is a valid field.",
     member "ENUM"
        "Indicates this type is an enum. `enumValues` is a valid field.",
     member "INPUT_OBJECT"
        "Indicates this type is an input object. `inputFields` is a valid field.",
     member "LIST"
        "Indicates this type is a list. `ofType` is a valid field.",
     member "NON_NULL"
        "Indicates this type is a non-null. `ofType` is a valid field."]

/-- The type `__Field`. -/
def fieldType : TypeDefinition where
  name := "__Field"
  description := some
    ("Object and Interface types are described by a list of Fields, each of which has a name, "
      ++ "potentially a list of arguments, and a return type.")
  body := .object []
    [field "name" (needed "String"),
     field "description" (optional "String"),
     field "args" (.list (needed "__InputValue") true) [includeDeprecated],
     field "type" (needed "__Type"),
     field "isDeprecated" (needed "Boolean"),
     field "deprecationReason" (optional "String")]

/-- The type `__InputValue`. -/
def inputValueType : TypeDefinition where
  name := "__InputValue"
  description := some
    ("Arguments provided to Fields or Directives and the input fields of an InputObject are "
      ++ "represented as Input Values which describe their type and optionally a default value.")
  body := .object []
    [field "name" (needed "String"),
     field "description" (optional "String"),
     field "type" (needed "__Type"),
     described
        "A GraphQL-formatted string representing the default value for this input value."
        (field "defaultValue" (optional "String")),
     field "isDeprecated" (needed "Boolean"),
     field "deprecationReason" (optional "String")]

/-- The type `__EnumValue`. -/
def enumValueType : TypeDefinition where
  name := "__EnumValue"
  description := some
    ("One possible value for a given Enum. Enum values are unique values, not a placeholder "
      ++ "for a string or numeric value. However an Enum value is returned in a JSON response as "
      ++ "a string.")
  body := .object []
    [field "name" (needed "String"),
     field "description" (optional "String"),
     field "isDeprecated" (needed "Boolean"),
     field "deprecationReason" (optional "String")]

/-- The type `__Directive`. -/
def directiveType : TypeDefinition where
  name := "__Directive"
  description := some
    ("A Directive provides a way to describe alternate runtime execution and type validation "
      ++ "behavior in a GraphQL document.\n\nIn some cases, you need to provide options to alter "
      ++ "GraphQL's execution behavior in ways field arguments will not suffice, such as "
      ++ "conditionally including or skipping a field. Directives provide this by describing "
      ++ "additional information to the executor.")
  body := .object []
    [field "name" (needed "String"),
     field "description" (optional "String"),
     field "locations" (.list (needed "__DirectiveLocation") true),
     field "args" (.list (needed "__InputValue") true) [includeDeprecated],
     field "isRepeatable" (needed "Boolean")]

/-- The type `__DirectiveLocation`. -/
def directiveLocationType : TypeDefinition where
  name := "__DirectiveLocation"
  description := some
    ("A Directive can be adjacent to many parts of the GraphQL language, a "
      ++ "__DirectiveLocation describes one such possible adjacencies.")
  body := .enum
    [member "QUERY"
        "Location adjacent to a query operation.",
     member "MUTATION"
        "Location adjacent to a mutation operation.",
     member "SUBSCRIPTION"
        "Location adjacent to a subscription operation.",
     member "FIELD"
        "Location adjacent to a field.",
     member "FRAGMENT_DEFINITION"
        "Location adjacent to a fragment definition.",
     member "FRAGMENT_SPREAD"
        "Location adjacent to a fragment spread.",
     member "INLINE_FRAGMENT"
        "Location adjacent to an inline fragment.",
     member "VARIABLE_DEFINITION"
        "Location adjacent to a variable definition.",
     member "SCHEMA"
        "Location adjacent to a schema definition.",
     member "SCALAR"
        "Location adjacent to a scalar definition.",
     member "OBJECT"
        "Location adjacent to an object type definition.",
     member "FIELD_DEFINITION"
        "Location adjacent to a field definition.",
     member "ARGUMENT_DEFINITION"
        "Location adjacent to an argument definition.",
     member "INTERFACE"
        "Location adjacent to an interface definition.",
     member "UNION"
        "Location adjacent to a union definition.",
     member "ENUM"
        "Location adjacent to an enum definition.",
     member "ENUM_VALUE"
        "Location adjacent to an enum value definition.",
     member "INPUT_OBJECT"
        "Location adjacent to an input object type definition.",
     member "INPUT_FIELD_DEFINITION"
        "Location adjacent to an input object field definition."]

/-- The directive `skip`. -/
def skipDirective : DirectiveDefinition where
  name := "skip"
  description := some
    "Directs the executor to skip this field or fragment when the `if` argument is true."
  arguments :=
    [{ name := "if", type := (needed "Boolean"),
        description := some
          "Skipped when true." }]
  locations :=
    ["FIELD", "FRAGMENT_SPREAD", "INLINE_FRAGMENT"]

/-- The directive `include`. -/
def includeDirective : DirectiveDefinition where
  name := "include"
  description := some
    "Directs the executor to include this field or fragment only when the `if` argument is true."
  arguments :=
    [{ name := "if", type := (needed "Boolean"),
        description := some
          "Included when true." }]
  locations :=
    ["FIELD", "FRAGMENT_SPREAD", "INLINE_FRAGMENT"]

/-- The directive `deprecated`. -/
def deprecatedDirective : DirectiveDefinition where
  name := "deprecated"
  description := some
    "Marks an element of a GraphQL schema as no longer supported."
  arguments :=
    [{ name := "reason", type := (optional "String"),
        default? := some (.string "No longer supported"),
        description := some
          ("Explains why this element was deprecated, usually also including a suggestion for "
            ++ "how to access supported similar data. Formatted using the Markdown syntax, as "
            ++ "specified by [CommonMark](https://commonmark.org/).") }]
  locations :=
    ["FIELD_DEFINITION", "ARGUMENT_DEFINITION", "INPUT_FIELD_DEFINITION", "ENUM_VALUE"]

/-- The directive `specifiedBy`. -/
def specifiedByDirective : DirectiveDefinition where
  name := "specifiedBy"
  description := some
    "Exposes a URL that specifies the behavior of this scalar."
  arguments :=
    [{ name := "url", type := (needed "String"),
        description := some
          "The URL that specifies the behavior of this scalar." }]
  locations :=
    ["SCALAR"]

/-- The scalar `Int`. -/
def intScalar : TypeDefinition where
  name := "Int"
  description := some
    ("The `Int` scalar type represents non-fractional signed whole numeric values. Int can "
      ++ "represent values between -(2^31) and 2^31 - 1.")
  body := .scalar

/-- The scalar `Float`. -/
def floatScalar : TypeDefinition where
  name := "Float"
  description := some
    ("The `Float` scalar type represents signed double-precision fractional values as "
      ++ "specified by [IEEE 754](https://en.wikipedia.org/wiki/IEEE_floating_point).")
  body := .scalar

/-- The scalar `String`. -/
def stringScalar : TypeDefinition where
  name := "String"
  description := some
    ("The `String` scalar type represents textual data, represented as UTF-8 character "
      ++ "sequences. The String type is most often used by GraphQL to represent free-form "
      ++ "human-readable text.")
  body := .scalar

/-- The scalar `Boolean`. -/
def booleanScalar : TypeDefinition where
  name := "Boolean"
  description := some
    "The `Boolean` scalar type represents `true` or `false`."
  body := .scalar

/-- The scalar `ID`. -/
def idScalar : TypeDefinition where
  name := "ID"
  description := some
    ("The `ID` scalar type represents a unique identifier, often used to refetch an object or "
      ++ "as key for a cache. The ID type appears in a JSON response as a String; however, it is "
      ++ "not intended to be human-readable. When expected as an input type, any string (such as "
      ++ "`\"4\"`) or integer (such as `4`) input value will be accepted as an ID.")
  body := .scalar
/-- The types by which a schema describes itself. -/
def introspectionTypes : List TypeDefinition :=
  [schemaType, typeType, typeKindType, fieldType, inputValueType, enumValueType, directiveType,
   directiveLocationType]

/-- The built-in scalars. -/
def scalars : List TypeDefinition :=
  [intScalar, floatScalar, stringScalar, booleanScalar, idScalar]

/-- Whether a name is one of a built-in scalar. -/
def isScalar (name : String) : Bool := scalars.any (·.name = name)

/-- The built-in directives. -/
def directives : List DirectiveDefinition :=
  [skipDirective, includeDirective, deprecatedDirective, specifiedByDirective]

/-- The field for the name of the type of an object. -/
def typenameField : FieldDefinition := field "__typename" (needed "String")

/-- The field for the schema. -/
def schemaField : FieldDefinition := field "__schema" (needed "__Schema")

/-- The field for a type of the schema. -/
def typeField : FieldDefinition :=
  field "__type" (optional "__Type") [{ name := "name", type := needed "String" }]

end GraphServe.Builtin
