import GraphServe.Execution.ArgumentFault
import GraphServe.Execution.Collection

/-!
# Introspection

What a schema says of itself when the root of a query selects `__schema` or `__type`.

* `Introspection.Subject` is a part of a schema that fields are selected on, and `Subject.answer` is
  the value of one of its fields.
* `Introspection.isAsked` searches an operation for such a field, through all its fragments.
* `Introspection.answer` gives the values of the root fields by their response keys, with the errors
  met.
-/

namespace GraphServe.Introspection

open Document Execution

/-- A part of a schema that fields are selected on. -/
inductive Subject where
  | schema
  | type (type : TypeRef)
  | field (definition : FieldDefinition)
  | input (definition : InputValue)
  | enumValue (definition : EnumValue)
  | directive (definition : DirectiveDefinition)
deriving Inhabited

/-- The value of a field of a subject. -/
inductive Answer where
  | value (value : Json)
  | one (subject : Subject)
  | many (subjects : List Subject)
deriving Inhabited

namespace Answer

/-- No value. -/
def null : Answer := .value .null

/-- A text, if there is one. -/
def text? (text : Option String) : Answer := .value (Json.ofString? text)

/-- A truth value. -/
def bool (b : Bool) : Answer := .value (.bool b)

/-- A named type, if there is one. -/
def type? (name : Option String) : Answer :=
  match name with
  | some n => .one (.type (.named n false))
  | none   => null

/-- Named types. -/
def types (names : List String) : Answer := .many (names.map fun n => .type (.named n false))

end Answer

/-! ### Deprecation -/

/-- Whether directives deprecate what they stand on. -/
def isDeprecated (directives : List Directive) : Bool :=
  (Directive.find? directives "deprecated").isSome

/-- The reason of a deprecation: the one that is given, or else the one that the directive has. -/
def deprecationReason (s : Schema) (directives : List Directive) : Option String := do
  let d ← Directive.find? directives "deprecated"
  match s.directiveArgument? d "reason" with
  | some (.string reason) => some reason
  | _                     => none

/-- What is not deprecated, or all. -/
def listed {α : Type} (all : Bool) (directives : α → List Directive) (parts : List α) : List α :=
  parts.filter fun part => all || !isDeprecated (directives part)

/-! ### Subjects -/

namespace Subject

/-- The type of a subject. -/
def typeName : Subject → String
  | schema      => "__Schema"
  | type _      => "__Type"
  | field _     => "__Field"
  | input _     => "__InputValue"
  | enumValue _ => "__EnumValue"
  | directive _ => "__Directive"

/-- The kind of a type. -/
def kindOf : TypeBody → String
  | .scalar        => "SCALAR"
  | .object _ _    => "OBJECT"
  | .interface _ _ => "INTERFACE"
  | .union _       => "UNION"
  | .enum _        => "ENUM"
  | .input _       => "INPUT_OBJECT"

/-- The place that a scalar says it is specified at. -/
def specifiedBy (s : Schema) (t : TypeDefinition) : Option String := do
  let d ← Directive.find? t.directives "specifiedBy"
  match t.body, s.directiveArgument? d "url" with
  | .scalar, some (.string url) => some url
  | _,       _                  => none

/-- A field of a schema. -/
def answerSchema (s : Schema) (name : String) : Answer :=
  match name with
  | "description"      => .text? s.description
  | "types"            => .types (s.types.map (·.name))
  | "queryType"        => .type? s.query
  | "mutationType"     => .type? s.mutation
  | "subscriptionType" => .type? s.subscription
  | "directives"       => .many (s.directives.map .directive)
  | _                  => .null

/-- A field of a named type; `all` asks for deprecated members too. -/
def answerDefinition (s : Schema) (all : Bool) (t : TypeDefinition) (name : String) : Answer :=
  match name, t.body with
  | "kind",           body => .value (.string (kindOf body))
  | "name",           _    => .text? t.name
  | "description",    _    => .text? t.description
  | "specifiedByURL", _    => .text? (specifiedBy s t)
  | "fields",         .object _ fields
  | "fields",         .interface _ fields     =>
      .many ((listed all (·.directives) fields).map .field)
  | "interfaces",     .object interfaces _
  | "interfaces",     .interface interfaces _ => .types interfaces
  | "possibleTypes",  .interface _ _
  | "possibleTypes",  .union _                => .types (s.possibleTypes t.name)
  | "enumValues",     .enum values            =>
      .many ((listed all (·.directives) values).map .enumValue)
  | "inputFields",    .input fields           =>
      .many ((listed all (·.directives) fields).map .input)
  | _,                _                       => .null

/-- A field of a type that wraps another. -/
def answerWrapper (kind : String) (inner : TypeRef) (name : String) : Answer :=
  match name with
  | "kind"   => .value (.string kind)
  | "ofType" => .one (.type inner)
  | _        => .null

/-- A field of a type. -/
def answerType (s : Schema) (all : Bool) (type : TypeRef) (name : String) : Answer :=
  if type.isRequired then answerWrapper "NON_NULL" type.nullable name
  else
    match type with
    | .list item _   => answerWrapper "LIST" item name
    | .named named _ =>
        match s.type? named with
        | some t => answerDefinition s all t name
        | none   => .null

/-- A field of a subject; `all` asks for deprecated members too. -/
def answer (s : Schema) (all : Bool) : Subject → String → Answer
  | schema,      name => answerSchema s name
  | type t,      name => answerType s all t name
  | field f,     name =>
      match name with
      | "name"              => .text? f.name
      | "description"       => .text? f.description
      | "args"              => .many ((listed all (·.directives) f.arguments).map .input)
      | "type"              => .one (.type f.type)
      | "isDeprecated"      => .bool (isDeprecated f.directives)
      | "deprecationReason" => .text? (deprecationReason s f.directives)
      | _                   => .null
  | input v,     name =>
      match name with
      | "name"              => .text? v.name
      | "description"       => .text? v.description
      | "type"              => .one (.type v.type)
      | "defaultValue"      => .text? (v.default?.map (·.render))
      | "isDeprecated"      => .bool (isDeprecated v.directives)
      | "deprecationReason" => .text? (deprecationReason s v.directives)
      | _                   => .null
  | enumValue v, name =>
      match name with
      | "name"              => .text? v.name
      | "description"       => .text? v.description
      | "isDeprecated"      => .bool (isDeprecated v.directives)
      | "deprecationReason" => .text? (deprecationReason s v.directives)
      | _                   => .null
  | directive d, name =>
      match name with
      | "name"         => .text? d.name
      | "description"  => .text? d.description
      | "locations"    => .value (.list (d.locations.map .string))
      | "args"         => .many ((listed all (·.directives) d.arguments).map .input)
      | "isRepeatable" => .bool d.repeatable
      | _              => .null

end Subject

/-! ### Selections -/

/-- Whether a field asks for deprecated members too. -/
def asksForAll (head : FieldHead FieldDefinition) (values : Json.Members) : Bool :=
  ((Arguments.value? head values Builtin.includeDeprecated).bind Json.bool?).getD false

/-- What selections give of a subject, with at most `fuel` fields inside each other. -/
def describe (s : Schema) (d : Executable) (values : Json.Members) :
    Nat → Subject → List (List ExecutableSelection) → Json
  | 0,        _,       _    => .null
  | fuel + 1, subject, sets =>
      .object <| (collect s d subject.typeName (Conditions.lenient values) sets).map
        fun (key, fields) =>
          let head := (fields.headD default).head
          let inner := fields.map CollectedField.selections
          let value :=
            if head.name.node = "__typename" then .string subject.typeName
            else
              match subject.answer s (asksForAll head values) head.name.node with
              | .value value   => value
              | .one part      => describe s d values fuel part inner
              | .many parts    => .list (parts.map fun part => describe s d values fuel part inner)
          (key, value)

/-- The type that a root field names by its argument. -/
def namedType (s : Schema) (head : FieldHead FieldDefinition) (values : Json.Members) :
    Except String (Option TypeRef) :=
  match Arguments.provided? head values "name" with
  | some (.string name) => .ok ((s.type? name).map fun _ => .named name false)
  | _                   => .error "resolver error: expected string argument `name`"

/-- Whether a root field tells of the schema. -/
def isField (name : String) : Bool := name = "__schema" || name = "__type"

/-- The value of a root field that tells of the schema, and the error met. -/
def answerField (s : Schema) (d : Executable) (values : Json.Members)
    (head : FieldHead FieldDefinition) (inner : List (List ExecutableSelection)) :
    Json × List String :=
  if head.name.node = "__schema" then (describe s d values (d.fieldCount + 1) .schema inner, [])
  else
    match namedType s head values with
    | .ok (some type) => (describe s d values (d.fieldCount + 1) (.type type) inner, [])
    | .ok none        => (.null, [])
    | .error message  => (.null, [message])

/-- The values of the root fields that tell of the schema and the errors met.  The arguments of the
other root fields are held to their types as well; there are no values at all where those of a field
that cannot be `null` are at fault. -/
def answerGroups (s : Schema) (d : Executable) (values : Json.Members) :
    FieldGroups → Option Json.Members × List String
  | []                   => (some [], [])
  | (key, fields) :: rest =>
      let head := (fields.headD default).head
      match Arguments.fault? s values head head.note.arguments with
      | some message =>
          if head.note.type.isRequired then (none, [message])
          else
            let (data, errors) := answerGroups s d values rest
            (data.map ((key, .null) :: ·), message :: errors)
      | none         =>
          let (data, errors) := answerGroups s d values rest
          if isField head.name.node then
            let (value, met) := answerField s d values head (fields.map CollectedField.selections)
            (data.map ((key, value) :: ·), met ++ errors)
          else (data, errors)

/-! ### Asking -/

mutual

/-- Search a selection for a field that tells of the schema, and keep the names of the fragments
that were visited.  A named fragment is visited by `visit`, once. -/
def searchSelection (visit : String → List String → Bool × List String) :
    ExecutableSelection → List String → Bool × List String
  | .field head _,       visited => (isField head.name.node, visited)
  | .spread name _ _,    visited =>
      if visited.contains name then (false, visited) else visit name (name :: visited)
  | .inline _ _ _ inner, visited => searchSelections visit inner visited

/-- Search selections in order, and none after a field is found. -/
def searchSelections (visit : String → List String → Bool × List String) :
    List ExecutableSelection → List String → Bool × List String
  | [],            visited => (false, visited)
  | first :: rest, visited =>
      match searchSelection visit first visited with
      | (true, visited)  => (true, visited)
      | (false, visited) => searchSelections visit rest visited

end

/-- Search a named fragment, with at most `fuel` fragments open inside each other. -/
def searchFragment (d : Executable) : Nat → String → List String → Bool × List String
  | 0,        _,    visited => (false, visited)
  | fuel + 1, name, visited =>
      match d.fragment? name with
      | some f => searchSelections (searchFragment d fuel) f.selections visited
      | none   => (false, visited)

/-- Whether a field that tells of the schema stands at the root of selections.  Each fragment is
visited once, so no more are open inside each other than the document has. -/
def isAsked (d : Executable) (selections : List ExecutableSelection) : Bool :=
  (searchSelections (searchFragment d (d.fragments.length + 1)) selections []).1

/-- What the root fields of an operation tell of the schema, by their response keys, and the errors
met. -/
def told (s : Schema) (d : Executable) (o : Operation FieldDefinition) (values : Json.Members) :
    Json.Members × List String :=
  let root := (s.root? o.type).getD ""
  let (data, errors) :=
    answerGroups s d values (collect s d root (Conditions.lenient values) [o.selections])
  (data.getD [], errors)

/-- The values of the root fields that tell of the schema, by their response keys, and the errors
met.  An operation is executed for them only if it has such a field. -/
def answer (s : Schema) (d : Executable) (o : Operation FieldDefinition) (values : Json.Members) :
    Json.Members × List String :=
  if isAsked d o.selections then told s d o values else ([], [])

end GraphServe.Introspection
