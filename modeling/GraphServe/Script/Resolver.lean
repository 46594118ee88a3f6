import GraphServe.Complexity
import GraphServe.Text.Utf8

/-!
# Scripted resolvers

Resolvers written down as data: what a field gives, or how it fails.

* `Script.Resolver` is such a resolver and `Resolver.run` runs it.
* `Script.Object` is an object whose fields are resolved so.
-/

namespace GraphServe.Script

/-- How often something is repeated. -/
inductive Count where
  | times (n : Int)
  /-- As often as an argument says; one that is no integer says never. -/
  | argument (name : String)
deriving Repr

/-- A resolver. -/
inductive Resolver where
  /-- Plain JSON, objects included. -/
  | json (value : Json)
  | leaf (value : Json)
  | list (items : List Resolver)
  | repeated (count : Count) (each : Resolver)
  | object (type : String) (fields : List (String × Resolver)) (resolvers : List String)
  | fail (failure : Failure)
  | panic (panic : Panic)
  /-- The value of an argument. -/
  | argument (name : String)
  /-- All arguments. -/
  | arguments
  /-- What is known of the field. -/
  | describe
  /-- The file that an argument refers to. -/
  | upload (argument : String)
  /-- The files that the items of an argument refer to. -/
  | uploads (argument : String)
  | uploadCount
  /-- A header field of the request. -/
  | header (name : String)
  /-- Report a failure, and go on. -/
  | warn (failure : Failure) (andThen : Resolver)
  /-- Count one more under a key of the request's values. -/
  | countUp (key : String)
deriving Inhabited

/-- The most that anything is repeated. -/
def maxRepeats : Nat := 1000

/-- The number of repetitions. -/
def Count.get (count : Count) (c : FieldContext) : Nat :=
  let n := match count with
    | .times n     => n
    | .argument a  => ((c.argument? a).bind Json.int?).getD 0
  min n.toNat maxRepeats

/-- What is known of a field, as JSON. -/
def describeField (c : FieldContext) : Json :=
  .object
    [("name", .string c.name), ("responseKey", .string c.field.responseKey),
     ("object", .string c.object), ("returnType", .string c.returnType.render),
     ("path", c.path.toJson),
     ("parent", match c.parent? with
      | some path => path.toJson
      | none      => .null),
     ("isMethod", .bool c.isMethod), ("isResolver", .bool c.isResolver)]

/-- A file as JSON. -/
def describeUpload : Option Upload → Json
  | none   => .null
  | some u =>
      .object
        [("filename", .string u.filename), ("contentType", Json.ofString? u.contentType),
         ("size", .int u.size), ("inMemory", .bool u.inMemory), ("hasPath", .bool !u.inMemory),
         ("content", .string (Text.decodeLossy u.content))]

/-- A header field as JSON; only one of visible characters can be read. -/
def describeHeader (value : Option String) : Except Failure Json :=
  match value with
  | none   => .ok .null
  | some v =>
      if v.toList.all fun c => (32 ≤ c.toNat ∧ c.toNat < 127) ∨ c = '\t' then .ok (.string v)
      else .error (.message "failed to convert header to a str")

/-- Count one more under a key. -/
def countUp (key : String) : Work FieldResult := do
  let (outcome, context) := (← get).context.upsert Codec.unsigned32 key (· + 1) 0
  modify fun x => { x with context }
  match outcome with
  | .error message => return .error (.message message)
  | .ok ()         => return .ok (.leaf ((context.values.get? key).getD .null))

/-- Run a resolver some times; the first failure is the last. -/
def repeatWork (run : Work FieldResult) : Nat → Work (Except Failure (List Resolved))
  | 0     => return .ok []
  | n + 1 => do
      match ← run with
      | .error failure => return .error failure
      | .ok first      =>
          match ← repeatWork run n with
          | .error failure => return .error failure
          | .ok rest       => return .ok (first :: rest)

namespace Resolver

mutual

/-- Run a resolver. -/
def run : Resolver → FieldContext → Work FieldResult
  | json value, c => return .ok (Resolved.ofJson value c.returnType.innerName)
  | leaf value, _ => return .ok (.leaf value)
  | list items, c => do
      match ← runAll items c with
      | .ok values     => return .ok (.list values)
      | .error failure => return .error failure
  | repeated count each, c => do
      match ← repeatWork (run each c) (count.get c) with
      | .ok values     => return .ok (.list values)
      | .error failure => return .error failure
  | object type fields resolvers, _ =>
      let fields := runFields fields
      return .ok <| .object
        { typeName := type
          isMethod := fun _ => true
          isResolver := fun name => resolvers.contains name
          resolve := fun c =>
            match fields.lookup c.name with
            | some field => field c
            | none       => (return .ok .null : Work FieldResult) }
  | fail failure, _ => return .error failure
  | panic p, _ => Work.panic p
  | argument name, c => return .ok (.leaf ((c.argument? name).getD .null))
  | arguments, c => return .ok (.leaf (.object c.arguments))
  | describe, c => return .ok (.leaf (describeField c))
  | upload name, c => return .ok (.leaf (describeUpload (c.upload? name)))
  | uploads name, c =>
      let items := ((c.argument? name).bind Json.list?).getD []
      return .ok <| .list <| items.map fun item =>
        .leaf (describeUpload (c.operation.uploads.find? item))
  | uploadCount, c => return .ok (.leaf (.int c.operation.uploads.length))
  | header name, c =>
      match describeHeader (c.operation.headers.get? name) with
      | .ok value      => return .ok (.leaf value)
      | .error failure => return .error failure
  | warn failure next, c => do
      c.addError failure
      run next c
  | countUp key, _ => Script.countUp key

/-- Run resolvers in order; the first failure is the last. -/
def runAll : List Resolver → FieldContext → Work (Except Failure (List Resolved))
  | [],            _ => return .ok []
  | first :: rest, c => do
      match ← run first c with
      | .error failure => return .error failure
      | .ok value      =>
          match ← runAll rest c with
          | .error failure => return .error failure
          | .ok values     => return .ok (value :: values)

/-- The fields of an object with what runs them. -/
def runFields : List (String × Resolver) → List (String × (FieldContext → Work FieldResult))
  | []                   => []
  | (name, field) :: rest => (name, run field) :: runFields rest

end

end Resolver

/-- An object whose fields are scripted. -/
structure Object where
  type      : String
  fields    : List (String × Resolver)
  resolvers : List String := []

/-- The object. -/
def Object.toValue (o : Object) : ObjectValue Resolved where
  typeName := o.type
  isMethod := fun _ => true
  isResolver := fun name => o.resolvers.contains name
  resolve := fun c =>
    match o.fields.lookup c.name with
    | some field => field.run c
    | none       => (return .ok .null : Work FieldResult)

/-- What a field costs. -/
inductive Cost where
  | constant (n : Nat)
  /-- So much more than what is selected of it. -/
  | plus (n : Nat)
  /-- As many times what is selected of it as an argument says. -/
  | timesArgument (name : String)
deriving Repr

/-- The cost of a field, if there is one. -/
def Cost.get (cost : Cost) (child : Nat) (arguments : Json.Members) : Option Nat :=
  match cost with
  | .constant n         => some n
  | .plus n             => some (Complexity.add child n)
  | .timesArgument name =>
      ((arguments.get? name).bind Json.nat?).map fun n => min (n * child) Complexity.maximum

/-- A service whose objects are scripted. -/
def service (s : Schema) (query : Object) (mutation : Option Object)
    (costs : List (String × Cost)) : Service where
  schema := s
  complexity type field child arguments :=
    (costs.lookup (type ++ "." ++ field)).bind (·.get child arguments)
  query := query.toValue
  mutation := mutation.map (·.toValue)

end GraphServe.Script
