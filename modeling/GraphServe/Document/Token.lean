import GraphServe.Document.Place

/-!
# Tokens of a document

A document is cut into tokens and faults, each with its place.  Blanks, comments and commas are
tokens too, which a reader may pass over.  A fault takes up the characters that it is about, and
cutting goes on behind them.

* `Lexeme` is a token or a fault, `Lexeme.ofText` cuts a text.
* `Escape` is where the inside of a quoted string stands; `Escape.next` takes one more character,
  and `unescape` gives the characters that the inside stands for.
-/

namespace GraphServe.Document

/-- What a token is. -/
inductive TokenKind where
  | blank
  | comment
  | comma
  | punctuator
  | spread
  | name
  | int
  | float
  | string
  | blockString
  | finish
deriving DecidableEq, Repr, Inhabited

/-- A token with its characters. -/
structure Token where
  kind  : TokenKind
  text  : String
  place : Nat
deriving DecidableEq, Repr, Inhabited

namespace Token

/-- Whether a token is a blank or a comment. -/
def isSpace (t : Token) : Bool := t.kind = .blank || t.kind = .comment

/-- Whether a token only keeps others apart. -/
def isIgnored (t : Token) : Bool := t.isSpace || t.kind = .comma

/-- Whether a token is a string. -/
def isString (t : Token) : Bool := t.kind = .string || t.kind = .blockString

end Token

/-! ### The inside of quoted strings -/

/-- The value of a hexadecimal digit. -/
def hexDigit? (c : Char) : Option Nat :=
  if c.isDigit then some (c.toNat - '0'.toNat)
  else if 'a' ≤ c ∧ c ≤ 'f' then some (c.toNat - 'a'.toNat + 10)
  else if 'A' ≤ c ∧ c ≤ 'F' then some (c.toNat - 'A'.toNat + 10)
  else none

/-- Where the inside of a quoted string stands: at its start, in plain text, after a backslash, or
among the digits of an escape, of which some are left or which a brace closes.  `lead` is the first
half of a pair of escapes that stands right before. -/
inductive Escape where
  | start
  | plain (lead : Option Nat)
  | backslash (lead : Option Nat)
  | digits (lead : Option Nat) (left value : Nat)
  | braced (value : Option Nat)
deriving Repr

namespace Escape

/-- An end of line, which a string between single quotes may hold at its start alone. -/
def isLineEnd (c : Char) : Bool := c = '\n' || c = '\r'

/-- The character that an escape of one letter stands for. -/
def letter? (c : Char) : Option Char :=
  if c = '"' ∨ c = '\\' ∨ c = '/' then some c
  else if c = 'b' then some '\x08'
  else if c = 'f' then some '\x0c'
  else if c = 'n' then some '\n'
  else if c = 'r' then some '\r'
  else if c = 't' then some '\t'
  else none

/-- Whether a number is the first half of a pair that stands for one character. -/
def isLead (n : Nat) : Bool := 0xD800 ≤ n && n < 0xDC00

/-- Whether a number is the second half of a pair. -/
def isTrail (n : Nat) : Bool := 0xDC00 ≤ n && n < 0xE000

/-- The fault of a half that stands alone. -/
def unpaired : String := "unpaired surrogate in unicode escape sequence"

/-- What an escape of four digits stands for, after the first half of a pair or not. -/
def ofDigits (lead : Option Nat) (value : Nat) : Escape × Except String (List Char) :=
  match lead with
  | some high =>
      if isTrail value then
        (plain none, .ok [Char.ofNat (0x10000 + (high - 0xD800) * 0x400 + (value - 0xDC00))])
      else (plain (if isLead value then some value else none), .error unpaired)
  | none      =>
      if isLead value then (plain (some value), .ok [])
      else if isTrail value then (plain none, .error unpaired)
      else (plain none, .ok [Char.ofNat value])

/-- What the digits between braces stand for. -/
def ofBraced (value : Option Nat) : Except String (List Char) :=
  match value.filter Nat.isValidChar with
  | some n => .ok [Char.ofNat n]
  | none   => .error "unicode escape sequence must specify a Unicode scalar value"

/-- Take one more character: the characters that are now complete, or what is wrong.  After the
first half of a pair nothing may stand but the escape of its second half, by four digits. -/
def next : Escape → Char → Escape × Except String (List Char)
  | start, c                   =>
      if c = '\\' then (backslash none, .ok []) else (plain none, .ok [c])
  | plain lead, c              =>
      if c = '\\' then (backslash lead, .ok [])
      else if lead.isSome then (plain none, .error unpaired)
      else if isLineEnd c then (plain none, .error "unexpected line terminator")
      else (plain none, .ok [c])
  | backslash lead, c          =>
      if c = 'u' then (digits lead 4 0, .ok [])
      else if lead.isSome then (plain none, .error unpaired)
      else
        match letter? c with
        | some d => (plain none, .ok [d])
        | none   => (plain none, .error "unexpected escaped character")
  | digits lead left value, c  =>
      match hexDigit? c with
      | some n =>
          if left ≤ 1 then ofDigits lead (value * 16 + n)
          else (digits lead (left - 1) (value * 16 + n), .ok [])
      | none   =>
          if c = '\x7b' ∧ left = 4 ∧ lead.isNone then (braced none, .ok [])
          else (plain none, .error "invalid unicode escape sequence")
  | braced value, c            =>
      match hexDigit? c with
      | some n => (braced (some (value.getD 0 * 16 + n)), .ok [])
      | none   =>
          if c = '\x7d' then (plain none, ofBraced value)
          else (plain none, .error "invalid unicode escape sequence")

/-- What ends with a quote here: the string, with a fault or not, or only an escape. -/
inductive Closing where
  | closed
  | faulty (message : String)
  | escaped

/-- What a quote does. -/
def closing : Escape → Closing
  | start           => .closed
  | plain none      => .closed
  | plain (some _)  => .faulty unpaired
  | backslash _     => .escaped
  | digits _ _ _    => .faulty "incomplete unicode escape sequence"
  | braced _        => .faulty "incomplete unicode escape sequence"

/-- The characters that more of the inside of a string stands for. -/
def decode : Escape → List Char → List Char
  | _,     []        => []
  | state, c :: rest =>
      let (state, found) := state.next c
      (match found with
        | .ok cs   => cs
        | .error _ => []) ++ decode state rest

end Escape

/-- The characters that the inside of a quoted string stands for. -/
def unescape (inside : List Char) : List Char := Escape.decode .start inside

/-! ### Cutting -/

/-- A token, or what is wrong at a place. -/
inductive Lexeme where
  | token (token : Token)
  | fault (message : String) (place : Nat)
deriving Repr

namespace Lexeme

/-- A letter or underscore, with which a name starts. -/
def isNameStart (c : Char) : Bool := c = '_' || c.isAlpha

/-- A character of a name after its first. -/
def isNameChar (c : Char) : Bool := c = '_' || c.isAlphanum

/-- A blank between tokens; a byte order mark counts as one. -/
def isBlank (c : Char) : Bool :=
  c = ' ' || c = '\t' || c = '\n' || c = '\r' || c.toNat = 0xFEFF

/-- The punctuators of one character. -/
def punctuators : List Char := ['!', '$', '&', '(', ')', ':', '=', '@', '[', ']', '{', '|', '}']

/-- A piece at the start of a text: its kind or what is wrong with it, and how many characters it
takes up. -/
structure Cut where
  result : Except String TokenKind
  size   : Nat

/-- A token of some kind. -/
def found (kind : TokenKind) (size : Nat) : Cut := ⟨.ok kind, size⟩

/-- A fault. -/
def faulty (message : String) (size : Nat) : Cut := ⟨.error message, size⟩

/-- A character between back quotes. -/
def ticked (c : Char) : String := "`" ++ c.toString ++ "`"

/-- The end of a number of which `size` characters are known: nothing may be joined to it. -/
def cutNumberEnd (kind : TokenKind) (label : String) (allowDot : Bool) (size : Nat) :
    List Char → Cut
  | []     => found kind size
  | c :: _ =>
      if isNameStart c || (c = '.' && !allowDot) then
        faulty ("Unexpected character " ++ ticked c ++ " as " ++ label ++ " suffix") (size + 1)
      else found kind size

/-- The end of a number with a fraction or exponent, after one digit and those that follow. -/
def cutFloatEnd (size : Nat) (rest : List Char) : Cut :=
  let digits := (rest.takeWhile Char.isDigit).length
  cutNumberEnd .float "float" false (size + digits) (rest.drop digits)

/-- The exponent of a number, after its `e`. -/
def cutExponent (size : Nat) : List Char → Cut
  | []        => faulty "Unexpected EOF in float value" size
  | c :: rest =>
      if c.isDigit then cutFloatEnd (size + 1) rest
      else if c = '+' || c = '-' then
        match rest with
        | []        => faulty "Unexpected EOF in float value" (size + 1)
        | d :: tail =>
            if d.isDigit then cutFloatEnd (size + 2) tail
            else
              faulty ("Unexpected character " ++ ticked d ++ ", expected exponent digit") (size + 2)
      else
        faulty ("Unexpected character " ++ ticked c ++ ", expected exponent digit or sign")
          (size + 1)

/-- The fraction of a number, after its point. -/
def cutFraction (size : Nat) : List Char → Cut
  | []        => faulty "Unexpected EOF in float value" size
  | c :: rest =>
      if c.isDigit then
        let digits := (rest.takeWhile Char.isDigit).length
        match rest.drop digits with
        | e :: tail =>
            if e = 'e' || e = 'E' then cutExponent (size + digits + 2) tail
            else cutNumberEnd .float "float" false (size + digits + 1) (e :: tail)
        | []        => found .float (size + digits + 1)
      else
        faulty ("Unexpected character " ++ ticked c ++ ", expected fractional digit") (size + 1)

/-- What follows the integral digits of a number. -/
def cutAfterInteger (size : Nat) : List Char → Cut
  | []        => found .int size
  | c :: rest =>
      if c = '.' then cutFraction (size + 1) rest
      else if c = 'e' || c = 'E' then cutExponent (size + 1) rest
      else cutNumberEnd .int "integer" true size (c :: rest)

/-- A number from its first digit on, after a sign or not. -/
def cutNumber (size : Nat) : List Char → Cut
  | []        => faulty "Unexpected character \"-\"" size
  | c :: rest =>
      if c = '0' then
        match rest with
        | d :: _ =>
            if d.isDigit then
              faulty "Numbers must not have non-significant leading zeroes" (size + 2)
            else cutAfterInteger (size + 1) rest
        | []     => found .int (size + 1)
      else if c.isDigit then
        let digits := (rest.takeWhile Char.isDigit).length
        cutAfterInteger (size + 1 + digits) (rest.drop digits)
      else faulty ("Unexpected character " ++ ticked c) (size + 1)

/-- A string between single quotes after the first quote; of several faults the last one counts. -/
def cutString (fault : Option String) : Escape → Nat → List Char → Cut
  | .start, size, []       => faulty "unexpected end of data while lexing string value" size
  | _,     size, []        => faulty "unterminated string value" size
  | state, size, c :: rest =>
      match if c = '"' then state.closing else .escaped with
      | .faulty message => faulty message (size + 1)
      | .closed         =>
          match fault with
          | some message => faulty message (size + 1)
          | none         => found .string (size + 1)
      | .escaped        =>
          match state.next c with
          | (state, .ok _)          => cutString fault state (size + 1) rest
          | (state, .error message) => cutString (some message) state (size + 1) rest

/-- A block string after its three quotes. -/
def cutBlockString : Nat → List Char → Cut
  | size, []                                => faulty "unterminated string value" size
  | size, '"' :: '"' :: '"' :: _            => found .blockString (size + 3)
  | size, '\\' :: '"' :: '"' :: '"' :: rest => cutBlockString (size + 4) rest
  | size, _ :: rest                         => cutBlockString (size + 1) rest

/-- Cut the piece that starts with `c`. -/
def cut (c : Char) (rest : List Char) : Cut :=
  if isBlank c then found .blank (1 + (rest.takeWhile isBlank).length)
  else if c = '#' then found .comment (1 + (rest.takeWhile (!Escape.isLineEnd ·)).length)
  else if c = ',' then found .comma 1
  else if punctuators.contains c then found .punctuator 1
  else if isNameStart c then found .name (1 + (rest.takeWhile isNameChar).length)
  else if c.isDigit then cutNumber 0 (c :: rest)
  else if c = '-' then cutNumber 1 rest
  else if c = '"' then
    match rest with
    | '"' :: '"' :: tail => cutBlockString 3 tail
    | _                  => cutString none .start 1 rest
  else if c = '.' then
    match rest with
    | '.' :: '.' :: _ => found .spread 3
    | '.' :: tail     => faulty "Unterminated spread operator" (2 + (tail.take 1).length)
    | _               => faulty "Unterminated spread operator" (1 + (rest.take 1).length)
  else faulty ("Unexpected character \"" ++ c.toString ++ "\"") 1

/-- The bytes of some characters. -/
def widthOf (cs : List Char) : Nat := cs.foldl (fun n c => n + width c) 0

/-- The lexemes of characters that start at a place; the last is the end. -/
def ofChars : Nat → Nat → List Char → List Lexeme
  | 0,        place, _         => [.token ⟨.finish, "", place⟩]
  | _ + 1,    place, []        => [.token ⟨.finish, "", place⟩]
  | fuel + 1, place, c :: rest =>
      let piece := cut c rest
      let taken := (c :: rest).take piece.size
      let lexeme := match piece.result with
        | .ok kind       => Lexeme.token ⟨kind, String.ofList taken, place⟩
        | .error message => .fault message place
      lexeme :: ofChars fuel (place + widthOf taken) ((c :: rest).drop piece.size)

/-- The lexemes of a text. -/
def ofText (text : String) : List Lexeme :=
  let chars := text.toList
  ofChars (chars.length + 1) 0 chars

/-- The token that a lexeme is. -/
def token? : Lexeme → Option Token
  | token t   => some t
  | fault _ _ => none

end Lexeme

end GraphServe.Document
