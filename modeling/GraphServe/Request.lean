import GraphServe.Json.Decode
import GraphServe.Text.FormEncoded

/-!
# Requests

The parameters of one operation, as a JSON body, the operations part of a form or a query string
carry them.  The three agree on what counts as absent: no variables and no extensions are empty
objects, and a document or name of a query string that is empty is none.

* `Request.decoder` reads a request from JSON and `Request.toJson` writes it.
* `Request.ofQueryString` reads it from a query string.
-/

namespace GraphServe

/-- The parameters of an operation. -/
structure Request where
  /-- The document; missing when the request names a persisted one. -/
  query          : Option String := none
  /-- Picks an operation of the document. -/
  operationName  : Option String := none
  variableValues : Json.Members := []
  extensions     : Json.Members := []
deriving Inhabited, Repr

namespace Request

/-- Members, or none for `null`. -/
def optionalMembers : Json.Decoder Json.Members := fun d n =>
  return (← Json.Decoder.option Json.Decoder.members d n).getD []

/-- How a request is read: every member may be missing. -/
def recordReader : Json.Decoder.Record Request where
  name := "Request"
  members :=
    [("query", fun r d n =>
        return { r with query := ← Json.Decoder.option Json.Decoder.string d n }),
     ("operationName", fun r d n =>
        return { r with operationName := ← Json.Decoder.option Json.Decoder.string d n }),
     ("variables", fun r d n => return { r with variableValues := ← optionalMembers d n }),
     ("extensions", fun r d n => return { r with extensions := ← optionalMembers d n })]

/-- Reads a request. -/
def decoder : Json.Decoder Request := Json.Decoder.record recordReader {}

/-- A request as JSON; what is absent or empty is left out. -/
def toJson (r : Request) : Json :=
  .object <|
    (match r.query with
      | none   => []
      | some q => [("query", .string q)])
    ++ (match r.operationName with
        | none   => []
        | some n => [("operationName", .string n)])
    ++ (if r.variableValues.isEmpty then [] else [("variables", .object r.variableValues)])
    ++ (if r.extensions.isEmpty then [] else [("extensions", .object r.extensions)])

/-- Why a query string is no request. -/
inductive QueryStringError where
  /-- A member comes twice. -/
  | duplicate (name : String)
  | variableValues (cause : Json.Mismatch)
  | extensions (cause : Json.Mismatch)

namespace QueryStringError

/-- The wording of an error. -/
def message : QueryStringError → String
  | duplicate _      => "query string could not be decoded"
  | variableValues _ => "variables could not be decoded"
  | extensions _     => "extensions could not be decoded"

/-- The wording of what caused an error. -/
def cause : QueryStringError → String
  | duplicate name   => Text.duplicateField name
  | variableValues m => m.message
  | extensions m     => m.message

end QueryStringError

/-- The members of a query string that a request has. -/
def queryStringMembers : List String := ["query", "operationName", "variables", "extensions"]

/-- The first member that comes a second time. -/
def repeated? (seen : List String) : List (String × String) → Option String
  | []                => none
  | (name, _) :: rest =>
      if name ∈ queryStringMembers then
        if name ∈ seen then some name else repeated? (name :: seen) rest
      else repeated? seen rest

/-- The object that a member of a query string holds as JSON; an empty text holds none. -/
def membersOfText (text : String) : Except Json.Mismatch Json.Members :=
  if text.isEmpty then .ok [] else Json.Decoder.run optionalMembers (Text.bytes text)

/-- A text that is not empty. -/
def nonempty (text : String) : Option String := if text.isEmpty then none else some text

/-- Reads a request from a query string.  Empty members count as absent. -/
def ofQueryString (query : String) : Except QueryStringError Request := do
  let pairs := Text.formPairs query
  if let some name := repeated? [] pairs then throw (.duplicate name)
  let member (name : String) : String := (pairs.lookup name).getD ""
  let variableValues ← (membersOfText (member "variables")).mapError .variableValues
  let extensions ← (membersOfText (member "extensions")).mapError .extensions
  return { query := nonempty (member "query"), operationName := nonempty (member "operationName"),
           variableValues, extensions }

/-- The request with an empty document or name counted as absent. -/
def normalize (r : Request) : Request :=
  { r with query := r.query.bind nonempty, operationName := r.operationName.bind nonempty }

end Request

end GraphServe
