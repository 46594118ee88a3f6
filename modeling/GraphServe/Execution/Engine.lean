import GraphServe.Execution.Completion
import GraphServe.Introspection

/-!
# Execution

An operation is executed from its root object inwards: the fields asked of an object are collected,
each is resolved through the chain of field middleware, and what comes back is completed after the
type of the field.  Failures and panics of a field are errors at its path.

* `executeField` and `executeObject` are the two halves of the recursion.
* `executeOperation` gives the data of an operation; errors are reported on the way.
-/

namespace GraphServe.Execution

open Document

/-- One run of an operation: what its fields share. -/
structure Run where
  service  : Service
  response : ResponseContext
  document : Executable
  /-- Stands around the resolution of each field. -/
  fields   : Chain Work FieldContext FieldResult
  /-- The root fields that tell of the schema, by response key; missing when they are disabled. -/
  introspection : Option Json.Members

namespace Run

/-- The schema. -/
def schema (x : Run) : Schema := x.service.schema

/-- The values of the variables. -/
def values (x : Run) : Json.Members := x.response.operation.variableValues

/-- Resolve a field of an object; a failure or panic is reported and leaves nothing. -/
def resolveField (x : Run) (object : ObjectValue Resolved) (c : FieldContext) :
    Work (Option Resolved) := do
  match ← Work.hold (x.fields.run object.call c) with
  | .ok (.ok resolved)     => return some resolved
  | .ok (.error failure)   =>
      x.response.addError (some c.path) failure
      return none
  | .error panic           =>
      let e ← x.response.recover (some c.path) panic
      modify (·.push e)
      return none

/-- Execute the fields under one response key of an object at a path.  `execute` executes what is
selected of an object that comes back; the path of the field is the first of its arguments. -/
def executeField (x : Run)
    (execute : Path → List (List ExecutableSelection) → ExecuteObject) (parent? : Option Path)
    (type : TypeDefinition) (object : ObjectValue Resolved) (path : Path)
    (field : CollectedField) (fields : List CollectedField) : Work Completed := do
  let head := field.head
  let name := head.name.node
  let returnType := head.note.type
  if name = "__typename" then return some (.string object.typeName)
  else if Introspection.isField name && parent?.isNone then
    match x.introspection with
    | some data => return some ((data.get? head.responseKey).getD .null)
    | none      =>
        x.response.addError (some path) (.message "introspection disabled")
        return nullify returnType none
  else
    match type.fields.find? (·.name = name) with
    | none            =>
        raise x.response path ("field " ++ name ++ " not defined on type " ++ type.name)
    | some definition =>
        let c : FieldContext :=
          { response := x.response, parent?, object := type.name, field := head,
            arguments := Arguments.ofField head definition x.values, path,
            isMethod := object.isMethod name, isResolver := object.isResolver name }
        match ← x.resolveField object c with
        | none          => return nullify returnType none
        | some resolved =>
            let completed ← complete x.schema x.response
              (execute path (fields.map (·.selections))) returnType path resolved
            return nullify returnType completed

/-- Execute groups of fields in order, all of them; nothing can stay of an object with a field that
can not. -/
def executeGroups (execute : String → CollectedField → List CollectedField → Work Completed) :
    FieldGroups → Work (Option Json.Members)
  | []                              => return some []
  | (_, []) :: rest                 => executeGroups execute rest
  | (key, field :: fields) :: rest  => do
      let value ← execute key field (field :: fields)
      let values ← executeGroups execute rest
      match value, values with
      | some value, some values => return some ((key, value) :: values)
      | _,          _           => return none

/-- Execute what sets of selections ask of an object, with at most `fuel` objects inside each
other. -/
def executeObject (x : Run) :
    Nat → Option Path → List (List ExecutableSelection) → ExecuteObject
  | 0,        _,       _    => fun _ _ path =>
      raise x.response path "selections are nested too deeply"
  | fuel + 1, parent?, sets => fun type object path =>
      let groups := collect x.schema x.document type.name (Conditions.strict x.values) sets
      executeGroups (fun key field fields =>
        x.executeField (fun path sets => x.executeObject fuel (some path) sets) parent? type object
          (path ++ [.key key]) field fields) groups

end Run

/-- The root fields that tell of the schema, unless they are disabled or the operation is no query.
The errors met are reported. -/
def introspect (service : Service) (response : ResponseContext) (d : Executable)
    (o : Operation FieldDefinition) : Work (Option Json.Members) := do
  if response.operation.disableIntrospection || o.type ≠ .query then return none
  else
    let (data, errors) := Introspection.answer service.schema d o response.operation.variableValues
    errors.forM fun message => response.addError none (.message message)
    return some data

/-- The data of an operation on a root object; `null` when nothing can stay of it. -/
def executeOperation (service : Service) (fields : Chain Work FieldContext FieldResult)
    (response : ResponseContext) (d : Executable) (o : Operation FieldDefinition)
    (root : ObjectValue Resolved) : Work Json := do
  let introspection ← introspect service response d o
  let x : Run := { service, response, document := d, fields, introspection }
  let rootName := (service.schema.root? o.type).getD ""
  match service.schema.type? rootName with
  | some ⟨name, description, directives, .object interfaces defined⟩ =>
      let type : TypeDefinition := ⟨name, description, directives, .object interfaces defined⟩
      match ← x.executeObject (d.fieldCount + 1) none [o.selections] type root [] with
      | some data => return .object data
      | none      => return .null
  | _ =>
      response.addError none (.message ("root type " ++ rootName ++ " is not defined"))
      return .null

end GraphServe.Execution
