import GraphServe.Client.Form
import GraphServe.Http.Message
import GraphServe.Http.Status

/-!
# Clients

A client sends operations to an HTTP service that is called directly, for tests of servers.

* `Client.newRequest` is the HTTP request for a document and options.
* `Client.readResponse` and `Client.readData` read what comes back.
-/

namespace GraphServe

/-- Sends operations to one target. -/
structure Client where
  target  : String
  /-- Changes to every request, before those of one request. -/
  options : List ClientOption := []

/-- Why a client has no result. -/
inductive ClientFault where
  /-- The target of the request is none. -/
  | build (fault : Http.Target.Fault)
  /-- The response says that the request failed. -/
  | http (status : Nat) (body : String)
  /-- The response is not JSON of the right form. -/
  | decode (mismatch : Json.Mismatch)
  /-- The response has errors. -/
  | errors (errors : List Error)

/-- The wording of a fault. -/
def ClientFault.message : ClientFault → String
  | build fault      => "could not build request: " ++ fault.message
  | http status body =>
      "http " ++ toString status ++ " " ++ Http.Status.phrase status ++ ": " ++ body
  | decode mismatch  => "could not decode response: " ++ mismatch.message
  | errors found     => "graphql errors: " ++ ", ".intercalate (found.map (·.message))

namespace Client

/-- The HTTP request for a document and options.  The boundary is used if there are files to send;
it must not occur in them. -/
def newRequest (c : Client) (boundary query : String) (options : List ClientOption) :
    Except ClientFault Http.Request := do
  let r := (c.options ++ options).foldl ClientOption.apply { query }
  let (type, body) :=
    if r.files.isEmpty then ("application/json", Text.bytes r.toRequest.toJson.render)
    else (ClientForm.contentType boundary, ClientForm.encode boundary r)
  let target ← (Http.Target.read c.target).mapError .build
  return { method := "POST", target, headers := r.headers.insert "content-type" type,
           body := .whole body }

/-- The GraphQL response that an HTTP response carries. -/
def readResponse (r : Http.Response) : Except ClientFault Response :=
  if Http.Status.isFailure r.status then .error (.http r.status r.body)
  else (Json.Decoder.run Response.decoder (Text.bytes r.body)).mapError .decode

/-- The data of a response without errors. -/
def readData (r : Http.Response) : Except ClientFault Json := do
  let response ← readResponse r
  if response.errors.isEmpty then return response.data else throw (.errors response.errors)

end Client

end GraphServe
