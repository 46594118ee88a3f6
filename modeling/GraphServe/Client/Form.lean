import GraphServe.Client.Outgoing

/-!
# Forms that clients send

A request with files is sent as a form: the operation, the map from files to the variables they go
to, and the files, each once.

* `ClientForm.group` lists each file once, with all its paths.
* `ClientForm.encode` is the body of the form.
-/

namespace GraphServe.ClientForm

/-- Add a path to those of a file. -/
def addPath (path : String) (file : ClientFile) :
    List (ClientFile × List String) → List (ClientFile × List String)
  | []                     => [(file, [path])]
  | (known, paths) :: rest =>
      if known.handle = file.handle then (known, paths ++ [path]) :: rest
      else (known, paths) :: addPath path file rest

/-- Each file once, in the order in which they first come, with all paths it comes with. -/
def group (files : List (String × ClientFile)) : List (ClientFile × List String) :=
  files.foldl (fun grouped (path, file) => addPath path file grouped) []

/-- The map from files, by their numbers, to the variables they go to. -/
def mapJson (files : List (ClientFile × List String)) : Json :=
  .object <| files.zipIdx.map fun ((_, paths), i) =>
    (toString i, .list (paths.map fun p => .string ("variables." ++ p)))

/-- Write an empty object at each of some dotted paths. -/
def writePlaces (paths : List String) (values : Json) : Json :=
  paths.foldl (fun v path => Json.insertAt (.object []) (Path.parseDotted path) v) values

/-- The request with an empty object in the place of each file. -/
def withPlaces (r : Outgoing) (files : List (ClientFile × List String)) : Outgoing :=
  let written := writePlaces (files.flatMap (·.2)) (.object r.variableValues)
  { r with variableValues := written.object?.getD [] }

/-- The bytes of a line. -/
def line (text : String) : List UInt8 := Text.bytes (text ++ "\r\n")

/-- A part of a form. -/
def part (boundary disposition : String) (contentType? : Option String) (content : List UInt8) :
    List UInt8 :=
  line ("--" ++ boundary) ++ line ("Content-Disposition: form-data; " ++ disposition)
    ++ (contentType?.toList.flatMap fun t => line ("Content-Type: " ++ t))
    ++ line "" ++ content ++ line ""

/-- The part of the file with a number. -/
def filePart (boundary : String) (number : Nat) (file : ClientFile) : List UInt8 :=
  part boundary ("name=\"" ++ toString number ++ "\"; filename=\"" ++ file.filename ++ "\"")
    (some "text/plain; charset=utf-8") file.content

/-- The body of the form for a request. -/
def encode (boundary : String) (r : Outgoing) : List UInt8 :=
  let files := group r.files
  let operations := (withPlaces r files).toRequest.toJson.render
  part boundary "name=\"operations\"" none (Text.bytes operations)
    ++ part boundary "name=\"map\"" none (Text.bytes (mapJson files).render)
    ++ files.zipIdx.flatMap (fun ((file, _), i) => filePart boundary i file)
    ++ line ("--" ++ boundary ++ "--")

/-- The content type of a form. -/
def contentType (boundary : String) : String := "multipart/form-data; boundary=" ++ boundary

end GraphServe.ClientForm
