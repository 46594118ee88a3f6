import GraphServe.Yaml.Scalar

/-!
# Tokens of YAML texts

The pieces that a text is made of, and the ways to read those that have a text of their own.

* `Token` is a piece with its place.
* `readDirective`, `readAnchorName` and `readTag` read such pieces from a cursor.
-/

namespace GraphServe.Yaml

/-- The type that is written before a node: `!suffix`, `!!suffix` or `!handle!suffix`. -/
structure Tag where
  handle : String
  suffix : String
deriving DecidableEq, Repr

/-- A kind of token. -/
inductive Token.Kind where
  | directive
  | documentStart
  | documentEnd
  | blockSequence
  | blockMapping
  /-- The end of a collection that is told by indentation. -/
  | blockEnd
  | blockEntry
  | flowSequence
  | flowSequenceEnd
  | flowMapping
  | flowMappingEnd
  | flowEntry
  | key
  | value
  | alias (name : String)
  | anchor (name : String)
  | tag (tag : Tag)
  | scalar (style : Style) (text : String)
  /-- The end of the text. -/
  | finish
  /-- From here on the text is no YAML. -/
  | broken (problem : Problem)
deriving DecidableEq, Repr

/-- A piece of a text. -/
structure Token where
  kind  : Token.Kind
  place : Place
deriving DecidableEq, Repr

/-! ### Tags -/

/-- An octet written as a percent sign and two digits. -/
def readOctet (start : Place) (c : Cursor) : Except Fault (Nat × Cursor) :=
  if c.peek ≠ '%' then .error ⟨.tagEscape, start⟩
  else
    match hexValue? (c.peek 1), hexValue? (c.peek 2) with
    | some high, some low => .ok (high * 16 + low, Cursor.skipMany 3 c)
    | _,         _        => .error ⟨.tagEscape, start⟩

/-- The number of octets that begin with an octet. -/
def octetsFrom? (lead : Nat) : Option Nat :=
  if lead < 0x80 then some 1
  else if lead < 0xC0 then none
  else if lead < 0xE0 then some 2
  else if lead < 0xF0 then some 3
  else if lead < 0xF8 then some 4
  else none

/-- Read octets that follow others. -/
def readTrailing (start : Place) : Nat → Nat → Cursor → Except Fault (Nat × Cursor)
  | 0,        number, c => .ok (number, c)
  | more + 1, number, c => do
      let (octet, c) ← readOctet start c
      if octet < 0x80 || 0xC0 ≤ octet then throw ⟨.tagEscapeTail, start⟩
      readTrailing start more (number * 256 + octet) c

/-- Read a character that is written by octets; its number has their bits side by side. -/
def readOctets (start : Place) (c : Cursor) : Except Fault (Char × Cursor) := do
  let (lead, c) ← readOctet start c
  match octetsFrom? lead with
  | none       => throw ⟨.tagEscapeLead, start⟩
  | some count =>
      let (number, c) ← readTrailing start (count - 1) lead c
      if number.isValidChar then return (Char.ofNat number, c)
      else throw ⟨.tagEscapeText, start⟩

/-- A character of the text of a tag. -/
def isTagChar (c : Char) : Bool := isWord c || ";/?:@&=+$,.!~*'()[]%".toList.contains c

/-- Read the characters of a tag, the ones so far coming last first. -/
def readTagChars (start : Place) : Nat → List Char → Cursor → Except Fault (List Char × Cursor)
  | 0,        done, c => .ok (done.reverse, c)
  | fuel + 1, done, c => do
      if !isTagChar c.peek then return (done.reverse, c)
      if c.peek = '%' then
        let (char, c) ← readOctets start c
        readTagChars start fuel (char :: done) c
      else readTagChars start fuel (c.peek :: done) c.skip

/-- Read the text of a tag after what was taken for its handle, whose exclamation mark is not part
of the text. -/
def readTagText (start : Place) (head : List Char) (c : Cursor) :
    Except Fault (String × Cursor) := do
  let (chars, c) ← readTagChars start (c.rest.length + 1) [] c
  if head.isEmpty && chars.isEmpty then throw ⟨.tagText, start⟩
  return (String.ofList (head.drop 1 ++ chars), c)

/-- Read the handle of a tag, or in a tag what may be one. -/
def readTagHandle (inDirective : Bool) (start : Place) (c : Cursor) :
    Except Fault (List Char × Cursor) := do
  if c.peek ≠ '!' then throw ⟨.tagOpening, start⟩
  let c := c.skip
  let name := '!' :: c.run isWord
  let c := c.skipRun isWord
  if c.peek = '!' then return (name ++ ['!'], c.skip)
  if inDirective && name ≠ ['!'] then throw ⟨.tagDirectiveHandle, start⟩
  return (name, c)

/-- Read a tag in angle brackets. -/
def readVerbatimTag (start : Place) (c : Cursor) : Except Fault (Tag × Cursor) := do
  let (suffix, c) ← readTagText start [] c.skip.skip
  if c.peek ≠ '>' then throw ⟨.tagClosing, start⟩
  return (⟨"", suffix⟩, c.skip)

/-- Read a tag that begins with a handle. -/
def readShorthandTag (start : Place) (c : Cursor) : Except Fault (Tag × Cursor) := do
  let (handle, c) ← readTagHandle false start c
  if 2 ≤ handle.length && handle.getLast? = some '!' then
    let (suffix, c) ← readTagText start [] c
    return (⟨String.ofList handle, suffix⟩, c)
  let (suffix, c) ← readTagText start handle c
  if suffix.isEmpty then return (⟨"", "!"⟩, c)
  return (⟨"!", suffix⟩, c)

/-- Read a tag. -/
def readTag (c : Cursor) : Except Fault (Tag × Cursor) := do
  let start := c.place
  let (tag, c) ← if c.peek 1 = '<' then readVerbatimTag start c else readShorthandTag start c
  if isGap c.peek then return (tag, c) else throw ⟨.tagEnd, start⟩

/-! ### Anchors -/

/-- Whether a character may follow the name of an anchor. -/
def endsAnchor (c : Char) : Bool := isGap c || "?:,]\x7d%@`".toList.contains c

/-- Read the name of an anchor or of an alias after the sign before it. -/
def readAnchorName (c : Cursor) : Except Fault (String × Cursor) :=
  let name := c.skip.run isWord
  let after := c.skip.skipRun isWord
  if name.isEmpty || !endsAnchor after.peek then .error ⟨.anchorName, c.place⟩
  else .ok (String.ofList name, after)

/-! ### Directives -/

/-- Read a number of a version. -/
def readVersionNumber (start : Place) (c : Cursor) : Except Fault Cursor :=
  let digits := c.run Char.isDigit
  if 9 < digits.length then .error ⟨.versionLength, start⟩
  else if digits.isEmpty then .error ⟨.versionNumber, start⟩
  else .ok (Cursor.skipMany digits.length c)

/-- Read the version in a directive. -/
def readVersion (start : Place) (c : Cursor) : Except Fault Cursor := do
  let c ← readVersionNumber start (c.skipRun isBlank)
  if c.peek ≠ '.' then throw ⟨.versionPoint, start⟩
  readVersionNumber start c.skip

/-- Read the handle and the text that a directive declares for tags. -/
def readTagDeclaration (start : Place) (c : Cursor) : Except Fault Cursor := do
  let (_, c) ← readTagHandle true start (c.skipRun isBlank)
  let (_, c) ← readTagText start [] (c.skipRun isBlank)
  if isGap c.peek then return c else throw ⟨.tagDirectiveEnd, start⟩

/-- Read a directive with its line break.  Directives change nothing, but have to be well-formed. -/
def readDirective (c : Cursor) : Except Fault Cursor := do
  let start := c.place
  let name := c.skip.run isWord
  let c := c.skip
  if name.isEmpty then throw ⟨.directiveName, c.place⟩
  let after := c.skipRun isWord
  if !isGap after.peek then throw ⟨.directiveNameEnd, c.place⟩
  let c ←
    if name = "YAML".toList then readVersion start after
    else if name = "TAG".toList then readTagDeclaration start after
    else pure (after.skipRun (!isBreakOrEnd ·))
  let c := (c.skipRun isBlank).skipComment
  if !isBreakOrEnd c.peek then throw ⟨.directiveEnd, start⟩
  return c.skipBreak

end GraphServe.Yaml
