import GraphServe.Error

/-!
# Responses

A response as it is written on the wire: errors, data and extensions, in this order.
-/

namespace GraphServe

/-- A response.  Without data it carries `null`. -/
structure Response where
  errors     : List Error := []
  data       : Json := .null
  extensions : Json.Members := []
deriving Inhabited, Repr

namespace Response

/-- A response with errors alone. -/
def ofErrors (errors : List Error) : Response := { errors }

/-- A response with one error that has nothing but a message. -/
def ofMessage (message : String) : Response := ofErrors [{ message }]

/-- A response as JSON; errors and extensions are left out when empty. -/
def toJson (r : Response) : Json :=
  .object <|
    (if r.errors.isEmpty then [] else [("errors", .list (r.errors.map (·.toJson)))])
    ++ [("data", r.data)]
    ++ (if r.extensions.isEmpty then [] else [("extensions", .object r.extensions)])

/-- The text of a response. -/
def render (r : Response) : String := r.toJson.render

/-- How a response is read: every member may be missing. -/
def recordReader : Json.Decoder.Record Response where
  name := "Response"
  members :=
    [("errors", fun r d n => return { r with errors := ← Json.Decoder.list Error.decoder d n }),
     ("data", fun r d n => return { r with data := ← Json.Decoder.value d n }),
     ("extensions", fun r d n => return { r with extensions := ← Json.Decoder.members d n })]

/-- Reads a response. -/
def decoder : Json.Decoder Response := Json.Decoder.record recordReader {}

end Response

end GraphServe
