import GraphServe.Transport.Form
import GraphServe.Transport.Serving

/-!
# Transports

A transport knows the requests it supports, and reads the parameters of an operation from them: from
the query of a GET request, from the JSON body or the form of a POST request.  One more answers the
requests that ask what the others are.

* `Transport.supports` tells the requests of a transport.
* `Transport.handle` answers one of them.
* `requestedType?` is the type of the operation that a text and a name ask for.
-/

namespace GraphServe

open Document

/-- A way to carry operations over HTTP. -/
inductive Transport where
  | options
  | get
  | post
  | form (settings : UploadSettings)
  /-- A transport that does not come with the library. -/
  | custom (supports : Http.Request → Bool) (handle : Http.Request → Serving Http.Response)

/-- The type of the operation that a text and a name ask for: of the first with this name, or
without name of the only one.  The text need not be valid. -/
def requestedType? (text : String) (name : Option String) : Option OperationType :=
  match Document.read text with
  | .error _        => none
  | .ok definitions =>
      let operations := definitions.filterMap fun
        | .operation o => some o
        | _            => none
      match name with
      | some n => (operations.find? (·.name? = some n)).map (·.type)
      | none   =>
          match operations with
          | [o] => some o.type
          | _   => none

namespace Transport

/-- Whether a transport supports a request. -/
def supports (r : Http.Request) : Transport → Bool
  | options             => r.method = "OPTIONS" || r.method = "HEAD"
  | get                 => !r.isUpgrade && r.method = "GET"
  | post                =>
      !r.isUpgrade && r.method = "POST" && r.hasMediaType "application" "json"
  | form _              =>
      !r.isUpgrade && r.method = "POST" && r.hasMediaType "multipart" "form-data"
  | custom isSupported _ => isSupported r

/-- What is said of an operation that changes something and comes by GET. -/
def queriesOnly : Http.Response :=
  .error 406 "GET requests only allow query operations"

/-- Answer a request that asks for the transports. -/
def handleOptions (r : Http.Request) : Http.Response :=
  if r.method = "OPTIONS" then { headers := Headers.ofList [("allow", "OPTIONS, GET, POST")] }
  else { status := 405 }

/-- Answer a request that carries an operation in its query.  The operation has to be a query, by
its text and once it is built. -/
def handleGet (r : Http.Request) : Serving Http.Response := do
  match Request.ofQueryString (r.target.query?.getD "") with
  | .error fault => return .error 400 fault.message
  | .ok request  =>
      let type? := request.query.bind fun text => requestedType? text request.operationName
      if type?.any (· ≠ .query) then return queriesOnly
      match ← Serving.prepare (Params.ofRequest request r.headers) with
      | .error refusal => Serving.refuse refusal
      | .ok c          => if c.type? = some .query then Serving.respond c else return queriesOnly

/-- The request that a JSON body holds, or what is wrong with the body. -/
def readJson (body : Http.Body) : Except String Request := do
  let bytes ← body.collect
  (Json.Decoder.run Request.decoder bytes).mapError (·.message)

/-- Answer a request that carries an operation as JSON. -/
def handlePost (r : Http.Request) : Serving Http.Response :=
  match readJson r.body with
  | .error cause => return .error 400 ("json body could not be decoded: " ++ cause)
  | .ok request  => Serving.execute (Params.ofRequest request r.headers)

/-- Answer a request that carries an operation and files as a form. -/
def handleForm (settings : UploadSettings) (r : Http.Request) : Serving Http.Response := do
  let (outcome, events) := UploadForm.read settings r
  Serving.log events
  match outcome with
  | .ok params   => Serving.execute params
  | .error fault =>
      Serving.log [{ severity := .debug, message := "could not read multipart request",
                     fields := [("error", .string fault.message)] }]
      return .error 422 fault.message

/-- Answer a request that a transport supports. -/
def handle (r : Http.Request) : Transport → Serving Http.Response
  | options         => return handleOptions r
  | get             => handleGet r
  | post            => handlePost r
  | form settings   => handleForm settings r
  | custom _ answer => answer r

end Transport

end GraphServe
