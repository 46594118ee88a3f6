import GraphServe.Http.Headers
import GraphServe.Http.MediaType
import GraphServe.Http.Target
import GraphServe.Response

/-!
# HTTP messages

The requests and the responses of one exchange over HTTP, as far as a GraphQL server looks at them.
A body comes whole, or in chunks each of which is waited for; a chunk may fail instead.

* `Http.Body.collect` waits for all of a body.
* `Http.Response.json` is the response that carries a GraphQL response.
-/

namespace GraphServe.Http

/-- A piece of a body that arrives at once. -/
inductive Chunk where
  | bytes (bytes : List UInt8)
  /-- The connection failed. -/
  | failure (message : String)
deriving Inhabited, Repr

/-- The number of bytes of a piece. -/
def Chunk.size : Chunk → Nat
  | bytes b   => b.length
  | failure _ => 0

/-- The body of a request. -/
inductive Body where
  /-- All of it is there from the start. -/
  | whole (bytes : List UInt8)
  /-- The pieces arrive one after the other. -/
  | chunks (chunks : List Chunk)
deriving Inhabited, Repr

namespace Body

/-- The bytes of chunks, or the message of the first that failed. -/
def collectChunks : List Chunk → Except String (List UInt8)
  | []                  => .ok []
  | .failure message :: _ => .error message
  | .bytes b :: rest    => (collectChunks rest).map (b ++ ·)

/-- All bytes of a body. -/
def collect : Body → Except String (List UInt8)
  | whole bytes   => .ok bytes
  | chunks pieces => collectChunks pieces

/-- The number of bytes of a body. -/
def size : Body → Nat
  | whole bytes   => bytes.length
  | chunks pieces => pieces.foldr (fun piece n => piece.size + n) 0

end Body

/-- A request. -/
structure Request where
  method  : String := "POST"
  target  : Target := {}
  headers : Headers := {}
  body    : Body := .whole []
deriving Inhabited, Repr

namespace Request

/-- Whether a request asks for another protocol. -/
def isUpgrade (r : Request) : Bool := r.headers.contains "upgrade"

/-- Whether the body of a request has a media type. -/
def hasMediaType (r : Request) (type subtype : String) : Bool :=
  match (r.headers.get? "content-type").bind MediaType.read? with
  | some m => m.is type subtype
  | none   => false

end Request

/-- A response. -/
structure Response where
  status  : Nat := 200
  headers : Headers := {}
  body    : String := ""
deriving Inhabited, Repr

namespace Response

/-- The response that carries a GraphQL response. -/
def json (status : Nat) (response : GraphServe.Response) : Response where
  status := status
  headers := Headers.ofList [("content-type", "application/json")]
  body := response.render

/-- The response that carries one error with nothing but a message. -/
def error (status : Nat) (message : String) : Response := json status (.ofMessage message)

end Response

end GraphServe.Http
