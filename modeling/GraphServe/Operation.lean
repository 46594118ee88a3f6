import GraphServe.Context
import GraphServe.Document.Executable
import GraphServe.Http.Headers
import GraphServe.Request
import GraphServe.Upload

/-!
# Operations

The unit of work built from one request: first the parameters as a transport reads them, then the
operation that is to run, with its document and the values of its variables.
-/

namespace GraphServe

open Document

/-- What a transport reads from a request. -/
structure Params where
  query          : Option String := none
  operationName  : Option String := none
  variableValues : Json.Members := []
  extensions     : Json.Members := []
  headers        : Headers := {}
  uploads        : Uploads := []
  /-- The values that the stages of the request share. -/
  context        : Context := {}
deriving Inhabited

/-- The parameters of a request; an empty document or name counts as absent. -/
def Params.ofRequest (request : Request) (headers : Headers := {}) : Params :=
  let r := request.normalize
  { query := r.query, operationName := r.operationName, variableValues := r.variableValues,
    extensions := r.extensions, headers }

/-- What a persisted query extension saw. -/
structure PersistedStats where
  /-- The hash that the client sent. -/
  hash     : String
  /-- Whether the text of the document came with the hash. -/
  sentText : Bool
deriving DecidableEq, Repr

/-- What a complexity limit found. -/
structure ComplexityStats where
  complexity : Nat
  limit      : Nat
deriving DecidableEq, Repr

/-- What extensions recorded about an operation. -/
structure Stats where
  persisted?  : Option PersistedStats := none
  complexity? : Option ComplexityStats := none
deriving DecidableEq, Repr, Inhabited

/-- An operation with all that is known of it. -/
structure OperationContext where
  /-- The text of the document, empty when there is none. -/
  rawQuery       : String := ""
  operationName  : Option String := none
  /-- The values of the variables, coerced to the types that the operation declares. -/
  variableValues : Json.Members := []
  extensions     : Json.Members := []
  headers        : Headers := {}
  document       : Option Executable := none
  operation      : Option (Operation FieldDefinition) := none
  disableIntrospection : Bool := true
  stats          : Stats := {}
  uploads        : Uploads := []
  context        : Context := {}
deriving Inhabited

namespace OperationContext

/-- The context before anything was done with the parameters. -/
def ofParams (p : Params) : OperationContext where
  rawQuery := p.query.getD ""
  operationName := p.operationName
  extensions := p.extensions
  headers := p.headers
  uploads := p.uploads
  context := p.context

/-- What the selected operation does. -/
def type? (c : OperationContext) : Option OperationType := c.operation.map (·.type)

end OperationContext

end GraphServe
