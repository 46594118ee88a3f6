import GraphServe.Json.Path

/-!
# Errors

The errors of a response: a message, the places in the document they are about or the path of the
field they were raised for, and extensions, among them a code.

* `Error.kind` sorts errors by their code, and `Error.status` is the HTTP status of a request that
  failed before it was executed.
* `Error.toJson` writes an error and `Error.decoder` reads one.
-/

namespace GraphServe

/-- A line and a column of a document, each counted from one and held in thirty-two bits. -/
structure Location where
  line   : Nat
  column : Nat
deriving DecidableEq, Repr, Inhabited

namespace Location

/-- The greatest number a location holds. -/
def maximum : Nat := Word.greatest 32

/-- A location; greater numbers count as the greatest. -/
def new (line column : Nat) : Location := ⟨min line maximum, min column maximum⟩

/-- A location as JSON. -/
def toJson (l : Location) : Json := .object [("line", .int l.line), ("column", .int l.column)]

/-- How a location is read. -/
def recordReader : Json.Decoder.Record Location where
  name := "Location"
  members :=
    [("line", fun l d n => return { l with line := ← number d n }),
     ("column", fun l d n => return { l with column := ← number d n })]
  required := ["line", "column"]
where
  /-- Reads a number of thirty-two bits. -/
  number : Json.Decoder Nat := Json.Decoder.unsigned "u32" 32

/-- Reads a location. -/
def decoder : Json.Decoder Location := Json.Decoder.record recordReader default

end Location

/-- An entry of the errors of a response. -/
structure Error where
  message    : String := ""
  locations  : List Location := []
  path       : Option Path := none
  extensions : Json.Members := []
deriving Inhabited, Repr

/-- Which side of the HTTP exchange an error belongs to. -/
inductive Error.Kind where
  /-- A client sees it next to partial data. -/
  | user
  /-- The request itself is at fault. -/
  | protocol
deriving DecidableEq, Repr

/-! ### Codes -/

/-- The codes that this library gives to errors. -/
inductive Error.Code where
  | parseFailed
  | validationFailed
  | complexityLimitExceeded
  | persistedQueryNotFound
  | persistedQueryNotSupported
deriving DecidableEq, Repr

/-- The text of a code. -/
def Error.Code.text : Error.Code → String
  | .parseFailed                => "GRAPHQL_PARSE_FAILED"
  | .validationFailed           => "GRAPHQL_VALIDATION_FAILED"
  | .complexityLimitExceeded    => "COMPLEXITY_LIMIT_EXCEEDED"
  | .persistedQueryNotFound     => "PERSISTED_QUERY_NOT_FOUND"
  | .persistedQueryNotSupported => "PERSISTED_QUERY_NOT_SUPPORTED"

namespace Error

/-- Give an error a code, unless its extensions hold one. -/
def withCode (e : Error) (code : String) : Error :=
  { e with extensions := e.extensions.insertNew "code" (.string code) }

/-- An error with a message and a code. -/
def coded (code : Code) (message : String) : Error :=
  { message, extensions := [("code", .string code.text)] }

/-- An error of the document, the selection of an operation or a variable. -/
def validation (message : String) : Error := coded .validationFailed message

/-- The code of an error, if it is a text or a number. -/
def code (e : Error) : Option String :=
  match e.extensions.get? "code" with
  | some (.string s) => some s
  | some (.int n)    => some (toString n)
  | some (.float x)  => some (Json.floatText x)
  | _                => none

/-- The kind of an error, by its code: what could not be parsed or validated is the request's
fault. -/
def kind (e : Error) : Kind :=
  match e.code with
  | some c =>
      if c = Code.parseFailed.text ∨ c = Code.validationFailed.text then .protocol else .user
  | none   => .user

/-- The HTTP status of a request that failed before execution. -/
def status (errors : List Error) : Nat :=
  if errors.any (·.kind = .protocol) then 422 else 200

/-- Give an error a path, unless it has one. -/
def orPath (e : Error) (path : Option Path) : Error :=
  match e.path with
  | some _ => e
  | none   => { e with path }

/-- An error as JSON; locations, path and extensions are left out when absent. -/
def toJson (e : Error) : Json :=
  .object <|
    [("message", .string e.message)]
    ++ (if e.locations.isEmpty then [] else [("locations", .list (e.locations.map (·.toJson)))])
    ++ (match e.path with
        | none   => []
        | some p => [("path", p.toJson)])
    ++ (if e.extensions.isEmpty then [] else [("extensions", .object e.extensions)])

/-- How an error is read: every member may be missing. -/
def recordReader : Json.Decoder.Record Error where
  name := "Error"
  members :=
    [("message", fun e d n => return { e with message := ← Json.Decoder.string d n }),
     ("locations", fun e d n =>
        return { e with locations := ← Json.Decoder.list Location.decoder d n }),
     ("path", fun e d n => return { e with path := ← Json.Decoder.option Path.decoder d n }),
     ("extensions", fun e d n => return { e with extensions := ← Json.Decoder.members d n })]

/-- Reads an error. -/
def decoder : Json.Decoder Error := Json.Decoder.record recordReader {}

end Error

end GraphServe
