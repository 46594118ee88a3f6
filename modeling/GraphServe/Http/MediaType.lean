import GraphServe.Http.Headers

/-!
# Media types

The media type of a request's body picks how it is read.  A header that strays from the form
`type/subtype+suffix; name=value` names no media type at all.

* `MediaType.read?` reads a header.
* `MediaType.is` compares it with a type and a subtype, without case.
-/

namespace GraphServe.Http

/-- A media type without its parameters. -/
structure MediaType where
  type    : String
  subtype : String
  suffix? : Option String := none
deriving DecidableEq, Repr

namespace MediaType

/-- A character of a token. -/
def isTokenChar (c : Char) : Bool := c.isAlphanum || "!#$%&'*+-.^_`|~".toList.contains c

/-- A character of a name or of a value without quotes. -/
def isNameChar (c : Char) : Bool := c.isAlphanum || "!#$%&'*+-.^_".toList.contains c

/-- The first character of a name. -/
def isNameStart (c : Char) : Bool := c.isAlphanum || c == '*'

/-- A blank inside a line. -/
def isBlank (c : Char) : Bool := c == ' ' || c == '\t'

/-- A name, with what follows it. -/
def name? (text : List Char) : Option (String × List Char) :=
  let name := text.takeWhile isNameChar
  if name.head?.any isNameStart then some (String.ofList name, text.drop name.length) else none

/-- A character that may stand between quotes. -/
def isQuotable (c : Char) : Bool := c.toNat < 127 && (32 ≤ c.toNat || c == '\t')

/-- What follows the closing quote of a quoted text. -/
def afterQuoted : List Char → Option (List Char)
  | '"' :: rest       => some rest
  | '\\' :: c :: rest => if isQuotable c then afterQuoted rest else none
  | c :: rest         => if isQuotable c then afterQuoted rest else none
  | []                => none

/-- What follows the value of a parameter. -/
def afterValue : List Char → Option (List Char)
  | '"' :: rest => afterQuoted rest
  | text        => some (text.dropWhile isNameChar)

/-- What follows a parameter: a semicolon, and a name, an equals sign and a value.  Nothing has to
follow the last semicolon. -/
def afterParameter? (text : List Char) : Option (List Char) :=
  match text.dropWhile isBlank with
  | ';' :: rest =>
      let rest := rest.dropWhile isBlank
      if rest.isEmpty then some []
      else
        match name? rest with
        | some (_, '=' :: value) => afterValue value
        | _                      => none
  | _           => none

/-- Whether a text is a list of parameters. -/
def areParameters : Nat → List Char → Bool
  | 0,        _    => false
  | fuel + 1, text =>
      (text.dropWhile isBlank).isEmpty ||
        match afterParameter? text with
        | some rest => areParameters fuel rest
        | none      => false

/-- A type with a subtype, from which a suffix of two characters or more is divided by the last plus
sign. -/
def ofNames (type subtype : String) : MediaType :=
  let suffix := (subtype.toList.reverse.takeWhile (· ≠ '+')).reverse
  let stem := subtype.toList.take (subtype.toList.length - suffix.length - 1)
  if 2 ≤ suffix.length ∧ !stem.isEmpty then
    ⟨type, String.ofList stem, some (String.ofList suffix)⟩
  else ⟨type, subtype, none⟩

/-- Reads a header. -/
def read? (header : String) : Option MediaType := do
  let text := header.toList
  let (type, rest) ← name? text
  let (subtype, rest) ← match rest with
    | '/' :: rest => name? rest
    | _           => none
  guard (areParameters (text.length + 1) rest)
  return ofNames type subtype

/-- Whether a media type is the one of a type and a subtype, its suffix aside; case does not
matter. -/
def is (m : MediaType) (type subtype : String) : Bool :=
  Headers.lower m.type == Headers.lower type && Headers.lower m.subtype == Headers.lower subtype

end MediaType

end GraphServe.Http
