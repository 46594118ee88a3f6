import GraphServe.Http.Form
import GraphServe.Journal
import GraphServe.Json.Path
import GraphServe.Operation
import GraphServe.Text.Charset

/-!
# Operations with files

A form that carries an operation and files: the part `operations` is the request as JSON, the part
`map` lists for each file the variables it goes to, and every other part with a filename is a file.
A variable that a file goes to gets the placeholder of the file.

* `UploadForm.read` reads the parameters of a form.
* `UploadForm.place` puts files in the place of variables.
-/

namespace GraphServe

open Http

/-- Why a form holds no operation. -/
inductive UploadFault where
  | form (fault : FormFault)
  /-- There is not exactly one part with the request, or it is none. -/
  | operations
  /-- There is not exactly one part with the variables of the files, or it is none. -/
  | map
  /-- A file goes to no variable. -/
  | noPaths (key : String)
  /-- A key has not exactly one file. -/
  | fileCount (key : String) (count : Nat)
  /-- A file cannot be put on disk. -/
  | disk (key : String)
  /-- What a file goes to is no variable. -/
  | path (key : String)
  /-- A variable that a file goes to is not there. -/
  | value (key : String)
deriving DecidableEq, Repr

/-- The wording of a fault. -/
def UploadFault.message : UploadFault → String
  | form .malformed     => "failed to parse multipart form"
  | form .tooLarge      => "failed to parse multipart form, request body too large"
  | operations          => "operations form field could not be decoded"
  | map                 => "map form field could not be decoded"
  | noPaths key         => "invalid empty operations paths list for key " ++ key
  | fileCount key count => "expected file header len for key " ++ key ++ ": " ++ toString count
  | disk key            => "failed to open multipart file for key " ++ key
  | path key            => "invalid operations paths for key " ++ key
  | value key           => "invalid value for key " ++ key

/-- How forms with files are read. -/
structure UploadSettings where
  /-- The most bytes that a form may have. -/
  maxUploadSize : Nat := 32 * 1024 * 1024
  /-- The most bytes of a file that is held in memory. -/
  maxMemory     : Nat := 32 * 1024 * 1024
  /-- Whether files can be put on disk. -/
  hasDisk       : Bool := true
deriving DecidableEq, Repr

namespace UploadForm

/-! ### Reading files -/

/-- A file as far as it was read: in memory, until it outgrows the memory for it and is put on
disk. -/
structure Receipt where
  size   : Nat := 0
  /-- The bytes held in memory. -/
  buffer : Array UInt8 := #[]
  /-- The bytes written to disk, once the file is there. -/
  disk?  : Option (Array UInt8) := none

/-- Take in a piece of a file.  The piece that the memory has no room for is written to disk behind
what was held, and so is every piece after it. -/
def Receipt.take (settings : UploadSettings) (key : String) (r : Receipt) (piece : List UInt8) :
    Except UploadFault Receipt :=
  let size := r.size + piece.length
  match r.disk? with
  | some written => .ok { r with size, disk? := some (written ++ piece) }
  | none         =>
      if size ≤ settings.maxMemory then .ok { r with size, buffer := r.buffer ++ piece }
      else if settings.hasDisk then
        .ok { r with size, buffer := #[], disk? := some (r.buffer ++ piece) }
      else .error (.disk key)

/-- A file that was read; one in memory has as many bytes as are held of it, one on disk as many as
were counted. -/
def Receipt.upload (r : Receipt) (part : Part) : Upload :=
  let filename := part.filename?.getD ""
  let contentType := part.contentType?.map (·.text)
  match r.disk? with
  | some written =>
      { filename, contentType, content := written.toList, size := r.size, inMemory := false }
  | none         => { filename, contentType, content := r.buffer.toList }

/-- Read the data of a part as a file. -/
def readFile (settings : UploadSettings) (part : Part) (reader : FormReader) :
    Except UploadFault (Upload × FormReader) := do
  let (receipt, reader) ← reader.foldData .form (Receipt.take settings part.name) {}
  return (receipt.upload part, reader)

/-- The event for a file that is on disk. -/
def diskEvents (key : String) (u : Upload) : List Event :=
  if u.inMemory then []
  else [{ severity := .trace, message := "multipart file written to disk",
          fields := [("key", .string key), ("size", .int u.size)] }]

/-! ### Reading parts -/

/-- What the parts of a form hold. -/
structure Parts where
  operations : List String := []
  maps       : List String := []
  /-- The files with the names of their parts, in order. -/
  files      : List (String × Upload) := []
  events     : List Event := []

/-- The text of a part, in the encoding that its content type names. -/
def textOf (part : Part) (content : List UInt8) : String :=
  let label? := part.contentType?.bind (·.parameter? "charset")
  ((label?.map Text.Charset.ofLabel).getD .utf8).decode content

/-- Take in a part. -/
def Parts.take (settings : UploadSettings) (parts : Parts) (part : Part) (reader : FormReader) :
    Except (UploadFault × List Event) (Parts × FormReader) :=
  let fail (fault : UploadFault) : UploadFault × List Event := (fault, parts.events)
  match part.filename? with
  | some _ => do
      let (file, reader) ← (readFile settings part reader).mapError fail
      return ({ parts with
          files := parts.files ++ [(part.name, file)]
          events := parts.events ++ diskEvents part.name file }, reader)
  | none   =>
      if part.name = "operations" ∨ part.name = "map" then do
        let (content, reader) ← reader.data.mapError (fail <| .form ·)
        let text := textOf part content
        return (if part.name = "map" then { parts with maps := parts.maps ++ [text] }
          else { parts with operations := parts.operations ++ [text] }, reader)
      else .ok (parts, reader)

/-- Read the parts of a form; there are at most `fuel` more. -/
def readParts (settings : UploadSettings) :
    Nat → Parts → FormReader → Except (UploadFault × List Event) Parts
  | 0,        parts, _      => .error (.form .malformed, parts.events)
  | fuel + 1, parts, reader => do
      let (next, reader) ← reader.nextPart.mapError fun fault => (.form fault, parts.events)
      match next with
      | none      => return parts
      | some part =>
          let (parts, reader) ← parts.take settings part reader
          readParts settings fuel parts reader

/-! ### Placing files -/

/-- What a path starts with that goes to a variable. -/
def variablesOpening : String := "variables."

/-- The path into the variables that a path of a form spells. -/
def variablePath? (path : String) : Option Path :=
  let opening := variablesOpening.toList
  if opening.isPrefixOf path.toList then
    some (Path.parseDotted (String.ofList (path.toList.drop opening.length)))
  else none

/-- Put a file in the place of the variables it goes to. -/
def placeAll (key : String) (values : Json) : List String → Except UploadFault Json
  | []           => .ok values
  | path :: rest =>
      match variablePath? path with
      | none      => .error (.path key)
      | some path =>
          match Json.setAt (Uploads.placeholder key) path values with
          | none           => .error (.value key)
          | some values => placeAll key values rest

/-- Put files in the place of the variables they go to, entry by entry of the map. -/
def place (files : List (String × Upload)) :
    List (String × List String) → Json × Uploads → Except UploadFault (Json × Uploads)
  | [],                   done                 => .ok done
  | (key, paths) :: rest, (values, uploads) => do
      if paths.isEmpty then throw (.noPaths key)
      match files.filter (·.1 = key) with
      | [(_, file)] =>
          let values ← placeAll key values paths
          place files rest (values, uploads.insert key file)
      | found       => throw (.fileCount key found.length)

/-- Reads which variables each file goes to. -/
def mapDecoder : Json.Decoder (List (String × List String)) :=
  Json.Decoder.dictionary (Json.Decoder.list Json.Decoder.string)

/-- The text of which there is exactly one, decoded. -/
def decodeOnly? {α : Type} (decoder : Json.Decoder α) : List String → Option α
  | [text] => (Json.Decoder.run decoder (Text.bytes text)).toOption
  | _      => none

/-- The parameters that the parts of a form hold. -/
def paramsOf (parts : Parts) (headers : Headers) : Except UploadFault Params := do
  let some request := decodeOnly? Request.decoder parts.operations | throw .operations
  let some entries := decodeOnly? mapDecoder parts.maps | throw .map
  let params := Params.ofRequest request headers
  let (values, uploads) ← place parts.files entries (.object params.variableValues, [])
  return { params with variableValues := values.object?.getD [], uploads }

/-- The boundary of a form, from the content type of the request. -/
def boundary? (headers : Headers) : Option String := do
  let type ← ContentType.read? (← headers.get? "content-type")
  type.parameter? "boundary"

/-- Read the parameters of a form, with the events on the way. -/
def read (settings : UploadSettings) (request : Http.Request) :
    Except UploadFault Params × List Event :=
  match boundary? request.headers with
  | none          => (.error (.form .malformed), [])
  | some boundary =>
      let reader := FormReader.ofBody boundary settings.maxUploadSize request.body
      match readParts settings (request.body.size + 1) {} reader with
      | .error (fault, events) => (.error fault, events)
      | .ok parts              => (paramsOf parts request.headers, parts.events)

end UploadForm

end GraphServe
