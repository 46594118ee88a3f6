import GraphServe.Json.Decode

/-!
# Paths into JSON values

A path is a list of keys and indexes.  Written with dots, a segment that spells a number is an
index; which of the two an element is matters only where it lands on a list, since an index that
lands on an object names the key it is written as.

* `Path.ofSegments` and `Path.parseDotted` read paths, `Path.render` writes them.
* `Json.getAt` and `Json.setAt` read and replace the value at a path.
-/

namespace GraphServe

/-- An element of a path. -/
inductive PathElement where
  | index (index : Nat)
  | key (key : String)
deriving DecidableEq, Repr, Inhabited

/-- A path into a JSON value. -/
abbrev Path := List PathElement

namespace PathElement

/-- The text of an element: the key it names in an object. -/
def text : PathElement → String
  | index i => toString i
  | key k   => k

instance : ToString PathElement := ⟨text⟩

/-- The number of sixty-four bits that a segment spells: digits, with a plus sign in front
allowed. -/
def number? (segment : String) : Option Nat :=
  let digits := match segment.toList with
    | '+' :: rest => rest
    | all         => all
  if !digits.isEmpty && digits.all Char.isDigit then
    let n : Nat := digits.foldl (fun n d => n * 10 + (d.toNat - '0'.toNat)) 0
    if Word.isUnsigned 64 n then some n else none
  else none

/-- A segment as an element: an index if it spells a number. -/
def ofSegment (segment : String) : PathElement :=
  match number? segment with
  | some n => index n
  | none   => key segment

/-- An element as JSON. -/
def toJson : PathElement → Json
  | index i => .int i
  | key k   => .string k

/-- The element that a JSON value stands for. -/
def ofJson? : Json → Option PathElement
  | .int n    => if Word.isUnsigned 64 n then some (index n.toNat) else none
  | .string s => some (key s)
  | _         => none

/-- What is said of a value that is no element. -/
def mismatch : String := "data did not match any variant of untagged enum PathElement"

/-- Reads an element. -/
def decoder : Json.Decoder PathElement := fun depth node => do
  let v ← Json.Decoder.value depth node
  match ofJson? v with
  | some e => .ok e
  | none   => .error (.unplaced mismatch)

end PathElement

namespace Path

/-- The path of some segments. -/
def ofSegments (segments : List String) : Path := segments.map PathElement.ofSegment

/-- The pieces of a text between dots. -/
def splitDots : List Char → List Char → List String
  | current, []        => [String.ofList current.reverse]
  | current, c :: rest =>
      if c = '.' then String.ofList current.reverse :: splitDots [] rest
      else splitDots (c :: current) rest

/-- The path that a dotted text spells. -/
def parseDotted (text : String) : Path := ofSegments (splitDots [] text.toList)

/-- The text of a path: each element after a slash. -/
def render (path : Path) : String := String.join (path.map fun e => "/" ++ e.text)

/-- A path as a JSON list. -/
def toJson (path : Path) : Json := .list (path.map PathElement.toJson)

/-- Reads a path. -/
def decoder : Json.Decoder Path := Json.Decoder.list PathElement.decoder

/-- The path that a JSON value stands for. -/
def ofJson? : Json → Except String Path
  | .list items =>
      items.mapM fun item =>
        match PathElement.ofJson? item with
        | some e => .ok e
        | none   => .error PathElement.mismatch
  | other => .error (Text.invalidType (Json.unexpected other) "a sequence")

end Path

namespace Json

/-- The value under an element: of an object under the text of the element, of a list under an
index. -/
def child? : Json → PathElement → Option Json
  | object m,    e                  => Members.get? m e.text
  | list items,  PathElement.index i => items[i]?
  | _,           _                  => none

/-- The value at a path. -/
def getAt : Json → Path → Option Json
  | v, []        => some v
  | v, e :: rest => (v.child? e).bind (getAt · rest)

/-- Replace the value at a path.  The last key of the path may be new in its object; all else on
the way must be there, or the answer is `none`. -/
def setAt (replacement : Json) : Path → Json → Option Json
  | [],        _            => some replacement
  | e :: rest, object m     =>
      if rest.isEmpty then some (object (Members.insert m e.text replacement))
      else
        match Members.get? m e.text with
        | none       => none
        | some child =>
            (setAt replacement rest child).map fun v => object (Members.insert m e.text v)
  | .index i :: rest, list items =>
      match items[i]? with
      | none       => none
      | some child => (setAt replacement rest child).map fun v => list (items.set i v)
  | _ :: _,    _            => none

end Json

end GraphServe
