import GraphServe.Json.Value

/-!
# Uploaded files

Variables cannot carry files, so in the place of a file stands a text that names it, and the file
itself is kept beside the variables under that name.

* `Uploads.placeholder` is the text for a file, and `Uploads.find?` gets the file back from it.
-/

namespace GraphServe

/-- A file as it was received. -/
structure Upload where
  filename    : String
  contentType : Option String := none
  content     : List UInt8
  /-- The number of bytes, as it was counted when the file was received. -/
  size        : Nat := content.length
  /-- Whether the content was held in memory and not put on disk. -/
  inMemory    : Bool := true
deriving Inhabited, Repr

/-- The files of a request, by their keys. -/
abbrev Uploads := List (String × Upload)

namespace Uploads

/-- What a placeholder starts with. -/
def opening : List Char := "<Placeholder for file '".toList

/-- What a placeholder ends with. -/
def closing : List Char := "'>".toList

/-- The text that stands for the file of a key. -/
def placeholder (key : String) : Json :=
  .string (String.ofList (opening ++ key.toList ++ closing))

/-- The key that a placeholder names. -/
def key? (value : Json) : Option String := do
  let text ← value.string?
  guard (opening.isPrefixOf text.toList)
  let rest := text.toList.drop opening.length
  guard (closing.isSuffixOf rest)
  return String.ofList (rest.take (rest.length - closing.length))

/-- The file that a placeholder stands for. -/
def find? (u : Uploads) (value : Json) : Option Upload := do u.lookup (← key? value)

/-- Put a file under a key. -/
def insert (u : Uploads) (key : String) (file : Upload) : Uploads :=
  (key, file) :: u.filter (·.1 ≠ key)

end Uploads

end GraphServe
