import GraphServe.Http.Headers
import GraphServe.Json.Path
import GraphServe.Request
import GraphServe.Text.Base64

/-!
# Outgoing requests

A request that a client makes ready, and the options that change it.  A file goes to variables by
their dotted paths; what is not there on the way to a variable is made.

* `Json.insertAt` writes a value at a path and makes room for it.
* `ClientOption.apply` changes a request.
-/

namespace GraphServe

namespace Json

/-- Write a value at a path.  What stands in the way is replaced: by an object where the path has a
key, by a list where it has an index; a list that is too short is filled up with `null`. -/
def insertAt (value : Json) : Path → Json → Json
  | [],                _      => value
  | .index i :: rest, target =>
      let items := (target.list?.getD [])
      let room := items ++ List.replicate (i + 1 - items.length) null
      list (room.set i (insertAt value rest (room.getD i null)))
  | .key k :: rest,   target =>
      let members := (target.object?.getD [])
      object (Members.insert members k (insertAt value rest ((Members.get? members k).getD null)))

end Json

/-- A file to be sent.  Two files are one exactly if they have the same handle. -/
structure ClientFile where
  handle   : String
  filename : String
  content  : List UInt8
deriving DecidableEq, Inhabited, Repr

/-- A request that is made ready. -/
structure Outgoing where
  query          : String := ""
  operationName  : Option String := none
  variableValues : Json.Members := []
  extensions     : Json.Members := []
  headers        : Headers := {}
  /-- The files with the paths of the variables they go to. -/
  files          : List (String × ClientFile) := []
deriving Inhabited, Repr

namespace Outgoing

/-- The operation of a request; an empty document is left out. -/
def toRequest (r : Outgoing) : Request where
  query := Request.nonempty r.query
  operationName := r.operationName
  variableValues := r.variableValues
  extensions := r.extensions

/-- Write a value at the dotted path of a variable.  Variables that would become something else than
an object are lost. -/
def writeVariable (r : Outgoing) (path : String) (value : Json) : Outgoing :=
  let written := Json.insertAt value (Path.parseDotted path) (.object r.variableValues)
  { r with variableValues := written.object?.getD [] }

end Outgoing

/-- A change to a request. -/
inductive ClientOption where
  | setVariable (name : String) (value : Json)
  | operationName (name : String)
  | extensions (extensions : Json.Members)
  /-- One more header field. -/
  | header (name value : String)
  | basicAuth (user password : String)
  | cookie (name value : String)
  /-- Send a file for a variable. -/
  | file (path : String) (content : ClientFile)
  /-- Send files for a variable that is a list. -/
  | files (path : String) (contents : List ClientFile)
  | custom (change : Outgoing → Outgoing)

namespace ClientOption

/-- Whether a text can be the value of a header field. -/
def isSendable (text : String) : Bool :=
  text.toList.all fun c => c = '\t' || (32 ≤ c.toNat && c.toNat ≠ 127)

/-- Whether the value of a header field can be read as text. -/
def isVisible (text : String) : Bool := isSendable text && text.toList.all (·.toNat < 128)

/-- Add a cookie to those that a request has, as far as they can be read; one that cannot be sent is
left out. -/
def addCookie (name value : String) (h : Headers) : Headers :=
  let pair := name ++ "=" ++ value
  let cookies := match (h.get? "cookie").filter isVisible with
    | some cookies => cookies ++ "; " ++ pair
    | none         => pair
  if isSendable cookies then h.insert "cookie" cookies else h

/-- Change a request. -/
def apply (r : Outgoing) : ClientOption → Outgoing
  | setVariable name value  => { r with variableValues := r.variableValues.insert name value }
  | operationName name      => { r with operationName := some name }
  | extensions members      => { r with extensions := members }
  | header name value       => { r with headers := r.headers.append name value }
  | basicAuth user password =>
      { r with
        headers := r.headers.insert "authorization"
          ("Basic " ++ Text.base64 (user ++ ":" ++ password)) }
  | cookie name value       => { r with headers := addCookie name value r.headers }
  | file path content       => { r with files := r.files ++ [(path, content)] }
  | files path contents     =>
      let r := r.writeVariable path (.list (contents.map fun _ => .null))
      { r with
        files := r.files ++ contents.zipIdx.map fun (f, i) => (path ++ "." ++ toString i, f) }
  | custom change           => change r

end ClientOption

end GraphServe
