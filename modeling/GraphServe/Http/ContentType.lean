import GraphServe.Http.MediaType

/-!
# Content types

The content type of a form or of one of its parts, with its parameters.  Names are put into lower
case; values keep theirs, but for the name of a character set.

* `ContentType.read?` reads a content type.
* `ContentType.parameter?` is the value of a parameter.
-/

namespace GraphServe.Http

/-- A content type. -/
structure ContentType where
  /-- The type and the subtype. -/
  essence    : String
  parameters : List (String × String) := []
  /-- The whole of it, as it was written but for case. -/
  text       : String
deriving Repr

namespace ContentType

/-- A character between quotes. -/
def isQuotedChar (c : Char) : Bool := 31 < c.toNat && c.toNat != 127

/-- The pieces of a text between semicolons; one inside of quotes does not count.  A quote right
after the opening one is part of what is quoted. -/
def pieces : Bool → List Char → List Char → List (List Char)
  | _,     current, []                => [current.reverse]
  | false, current, '"' :: c :: rest  => pieces true (c :: '"' :: current) rest
  | false, current, ';' :: rest       => current.reverse :: pieces false [] rest
  | true,  current, '"' :: rest       => pieces false ('"' :: current) rest
  | q,     current, c :: rest         => pieces q (c :: current) rest

/-- The text between quotes, if after the closing quote there are spaces alone. -/
def unquote? (text : List Char) : Option (List Char) :=
  match text with
  | '"' :: c :: rest =>
      let more := rest.takeWhile (· ≠ '"')
      match rest.drop more.length with
      | '"' :: after =>
          if (c :: more).all isQuotedChar ∧ after.all (· = ' ') then some (c :: more) else none
      | _            => none
  | _ => none

/-- A parameter: its name and value, and its text.  Only the last may lack a value. -/
def parameter (isLast : Bool) (piece : List Char) : Option ((String × String) × List Char) := do
  let blanks := piece.takeWhile (· = ' ')
  let written := piece.drop blanks.length
  let name := written.takeWhile MediaType.isTokenChar
  guard !name.isEmpty
  match written.drop name.length with
  | '=' :: text =>
      let key := name.map Char.toLower
      let value ←
        if text.head? = some '"' then unquote? text
        else if text.all MediaType.isTokenChar && (isLast || !text.isEmpty) then some text
        else none
      let fold (l : List Char) : List Char :=
        if key = "charset".toList then l.map Char.toLower else l
      return ((String.ofList key, String.ofList (fold value)), blanks ++ key ++ '=' :: fold text)
  | _ => none

/-- The parameters of pieces, with the text of each.  The last piece may be blank. -/
def readParameters : List (List Char) → Option (List ((String × String) × List Char))
  | []            => some []
  | [piece]       =>
      if piece.all (· = ' ') then some [] else do return [← parameter true piece]
  | piece :: rest => do return (← parameter false piece) :: (← readParameters rest)

/-- Reads a content type.  Only one without parameters may lack a subtype. -/
def read? (header : String) : Option ContentType := do
  if header = "*/*" then return { essence := header, text := header }
  match pieces false [] header.toList with
  | []           => none
  | head :: rest =>
      let type := head.takeWhile MediaType.isTokenChar
      match head.drop type.length with
      | '/' :: subtype => do
          guard (!type.isEmpty && subtype.all MediaType.isTokenChar)
          guard (!subtype.isEmpty || rest.isEmpty)
          let parameters ← readParameters rest
          let essence := head.map Char.toLower
          let texts := parameters.map (';' :: ·.2)
          let blank := match rest.getLast? with
            | some last => if parameters.isEmpty || !last.all (· = ' ') then [] else ';' :: last
            | none      => []
          return { essence := String.ofList essence, parameters := parameters.map (·.1),
                   text := String.ofList (essence ++ texts.flatten ++ blank) }
      | _              => none

/-- The value of a parameter. -/
def parameter? (t : ContentType) (name : String) : Option String := t.parameters.lookup name

end ContentType

end GraphServe.Http
