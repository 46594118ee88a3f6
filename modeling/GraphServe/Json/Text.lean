import GraphServe.Json.Value
import GraphServe.Text.Utf8

/-!
# Reading JSON text

A text is read once, as far as it can be, into a tree that keeps the places where reading stood.
Where the text breaks off being JSON the tree ends in a fault, so that whoever walks the tree in
reading order meets a wrong type and a broken text in the order in which they stand.

* `Json.Node` is the tree, `Json.Node.read` builds it from bytes.
* `Json.Fault` says what is wrong and where; `Json.Fault.message` is its text.

Passing over a value asks less of it than reading it does: a number may be out of range, an escaped
surrogate alone, and nesting is not limited.  So a scalar can be unreadable and yet be passed over.
-/

namespace GraphServe.Json

/-- A line, counted from one, and the number of bytes of that line that were consumed. -/
structure Position where
  line   : Nat
  column : Nat
deriving DecidableEq, Repr, Inhabited

/-- What can be wrong with a text. -/
inductive Problem where
  | endOfList
  | endOfObject
  | endOfString
  | endOfValue
  | expectedColon
  | expectedListCommaOrEnd
  | expectedObjectCommaOrEnd
  | expectedIdent
  | expectedValue
  | invalidEscape
  | invalidNumber
  | numberOutOfRange
  | invalidCodePoint
  | controlCharacter
  | keyNotString
  | loneSurrogate
  | unfinishedSurrogate
  | trailingComma
  | trailingCharacters
  | tooDeep
  | other (text : String)
deriving DecidableEq, Repr

/-- The wording of a problem. -/
def Problem.message : Problem → String
  | .endOfList                => "EOF while parsing a list"
  | .endOfObject              => "EOF while parsing an object"
  | .endOfString              => "EOF while parsing a string"
  | .endOfValue               => "EOF while parsing a value"
  | .expectedColon            => "expected `:`"
  | .expectedListCommaOrEnd   => "expected `,` or `]`"
  | .expectedObjectCommaOrEnd => "expected `,` or `\x7d`"
  | .expectedIdent            => "expected ident"
  | .expectedValue            => "expected value"
  | .invalidEscape            => "invalid escape"
  | .invalidNumber            => "invalid number"
  | .numberOutOfRange         => "number out of range"
  | .invalidCodePoint         => "invalid unicode code point"
  | .controlCharacter         => "control character (\\u0000-\\u001F) found while parsing a string"
  | .keyNotString             => "key must be a string"
  | .loneSurrogate            => "lone leading surrogate in hex escape"
  | .unfinishedSurrogate      => "unexpected end of hex escape"
  | .trailingComma            => "trailing comma"
  | .trailingCharacters       => "trailing characters"
  | .tooDeep                  => "recursion limit exceeded"
  | .other text               => text

/-- A problem at a position. -/
structure Fault where
  problem  : Problem
  position : Position
deriving DecidableEq, Repr

/-- The wording of a fault, with its place. -/
def Fault.message (f : Fault) : String :=
  f.problem.message ++ " at line " ++ toString f.position.line ++ " column "
    ++ toString f.position.column

mutual

/-- A value of a text. -/
inductive Node where
  /-- A literal, number or string with the position after it; without a value it can only be passed
  over. -/
  | scalar (value : Except Fault Json) (finish : Position)
  /-- A list with the position before its bracket. -/
  | list (start : Position) (items : Node.Items)
  /-- An object with the position before its brace. -/
  | object (start : Position) (members : Node.Entries)
  /-- No value: the fault that reading meets, and the one that passing over meets. -/
  | broken (reading skipping : Fault)

/-- The rest of a list. -/
inductive Node.Items where
  /-- The closing bracket with the position after it. -/
  | close (after : Position)
  | broken (reading skipping : Fault)
  /-- An item with the position that a fault found in it takes: after the bracket or comma that
  follows. -/
  | item (value : Node) (resume : Position) (rest : Node.Items)

/-- The rest of an object. -/
inductive Node.Entries where
  /-- The closing brace with the position after it. -/
  | close (after : Position)
  | broken (reading skipping : Fault)
  /-- A member with the positions that faults found in its key and in its value take. -/
  | entry (key : Except Fault String) (keyResume : Position) (value : Node) (resume : Position)
      (rest : Node.Entries)

end

instance : Inhabited Node := ⟨.broken ⟨.endOfValue, default⟩ ⟨.endOfValue, default⟩⟩

/-- A whole text: its value, and what follows it that should not. -/
structure Document where
  root     : Node
  trailing : Option Fault

/-! ### The cursor -/

/-- A place in a text: the bytes still to come. -/
structure Cursor where
  rest     : List UInt8
  position : Position

namespace Cursor

/-- The position after a byte. -/
def step (p : Position) (b : UInt8) : Position :=
  if b = 10 then ⟨p.line + 1, 0⟩ else ⟨p.line, p.column + 1⟩

/-- The start of a text. -/
def start (bytes : List UInt8) : Cursor := ⟨bytes, ⟨1, 0⟩⟩

/-- Past the next byte. -/
def next (c : Cursor) : Cursor :=
  match c.rest with
  | []        => c
  | b :: rest => ⟨rest, step c.position b⟩

/-- The next byte, or zero at the end. -/
def peek (c : Cursor) : UInt8 := c.rest.headD 0

/-- A fault at what was consumed. -/
def fault (c : Cursor) (problem : Problem) : Fault := ⟨problem, c.position⟩

/-- A fault at the next byte. -/
def peekFault (c : Cursor) (problem : Problem) : Fault := ⟨problem, c.next.position⟩

/-- A fault some bytes before what was consumed, on the same line. -/
def faultBefore (c : Cursor) (problem : Problem) (back : Nat) : Fault :=
  ⟨problem, { c.position with column := c.position.column - back }⟩

/-- The bytes between values. -/
def isBlank (b : UInt8) : Bool := b = 32 || b = 10 || b = 9 || b = 13

/-- Past the blanks. -/
def skipBlanks (c : Cursor) : Cursor := go c.rest c.position
where
  /-- Walks over the blanks of the bytes. -/
  go : List UInt8 → Position → Cursor
    | [],        p => ⟨[], p⟩
    | b :: rest, p => if isBlank b then go rest (step p b) else ⟨b :: rest, p⟩

/-- A digit of a number. -/
def isDigit (b : UInt8) : Bool := 48 ≤ b && b ≤ 57

/-- The digits that come next, and the place after them. -/
def digits (c : Cursor) : List UInt8 × Cursor :=
  let run := c.rest.takeWhile isDigit
  (run, ⟨c.rest.drop run.length, ⟨c.position.line, c.position.column + run.length⟩⟩)

end Cursor

/-- How reading a piece of text ends: a value with the place after it, a value that can only be
passed over, or faults. -/
inductive Scan (α : Type) where
  | done (value : α) (rest : Cursor)
  | unreadable (fault : Fault) (rest : Cursor)
  | broken (reading skipping : Fault)

/-! ### Literals and numbers -/

/-- The rest of a literal word, standing for a value. -/
def scanWord (value : Json) : List UInt8 → Cursor → Scan Json
  | [],              c => .done value c
  | expected :: more, c =>
      match c.rest with
      | []     => .broken (c.fault .endOfValue) (c.fault .endOfValue)
      | b :: _ =>
          if b = expected then scanWord value more c.next
          else .broken (c.next.fault .expectedIdent) (c.next.fault .expectedIdent)

/-- The natural number that digits spell. -/
def natOfDigits (digits : List UInt8) : Nat :=
  digits.foldl (fun n d => n * 10 + (d.toNat - 48)) 0

/-- A number with a fraction or exponent, or an integer that does not fit sixty-four bits. -/
def scanFloat (negative : Bool) (digits : List UInt8) (exponent : Int) (rest : Cursor) :
    Scan Json :=
  let x := Double.ofDecimal negative (natOfDigits digits) exponent
  if x.isFinite then .done (.float x) rest
  else .unreadable (rest.fault .numberOutOfRange) rest

/-- How many of some digits it takes to pass the greatest exponent, a signed word of thirty-two
bits; `value` is what those before spell. -/
def exponentOverflow? (value : Nat) : List UInt8 → Option Nat
  | []          => none
  | d :: digits =>
      let value := value * 10 + (d.toNat - 48)
      if Word.isSigned 32 value then (exponentOverflow? value digits).map (· + 1) else some 1

/-- The exponent of a number, from its `e` on.  An exponent that is too great for the number is at
fault from the digit on that makes it so. -/
def scanExponent (negative : Bool) (digits : List UInt8) (exponent : Int) (c : Cursor) :
    Scan Json :=
  let c := c.next
  let (down, c) :=
    if c.peek = 43 then (false, c.next) else if c.peek = 45 then (true, c.next) else (false, c)
  match c.rest with
  | []     => .broken (c.fault .endOfValue) (c.fault .invalidNumber)
  | b :: _ =>
      if Cursor.isDigit b then
        let (power, rest) := c.digits
        let amount : Int := natOfDigits power
        match if down ∨ natOfDigits digits = 0 then none else exponentOverflow? 0 power with
        | some size =>
            .unreadable
              ⟨.numberOutOfRange, ⟨c.position.line, c.position.column + size⟩⟩ rest
        | none      => scanFloat negative digits (exponent + if down then -amount else amount) rest
      else .broken (c.next.fault .invalidNumber) (c.next.fault .invalidNumber)

/-- The end of a number whose integral digits were read. -/
def scanFraction (negative : Bool) (digits : List UInt8) (c : Cursor) : Scan Json :=
  if c.peek = 46 then
    let c := c.next
    let (places, rest) := c.digits
    if places.isEmpty then
      .broken (c.peekFault (if c.rest.isEmpty then .endOfValue else .invalidNumber))
        (c.peekFault .invalidNumber)
    else
      let exponent : Int := -places.length
      if rest.peek = 101 ∨ rest.peek = 69 then
        scanExponent negative (digits ++ places) exponent rest
      else scanFloat negative (digits ++ places) exponent rest
  else if c.peek = 101 ∨ c.peek = 69 then scanExponent negative digits 0 c
  else
    let n := natOfDigits digits
    if !negative && Word.isUnsigned 64 n then .done (.int n) c
    else if negative && 0 < n && Word.isSigned 64 (-n) then .done (.int (-n)) c
    else scanFloat negative digits 0 c

/-- A number after its sign. -/
def scanNumber (negative : Bool) (c : Cursor) : Scan Json :=
  match c.rest with
  | []     => .broken (c.fault .endOfValue) (c.fault .invalidNumber)
  | b :: _ =>
      if b = 48 then
        if Cursor.isDigit c.next.peek then
          .broken (c.next.peekFault .invalidNumber) (c.next.peekFault .invalidNumber)
        else scanFraction negative [b] c.next
      else if Cursor.isDigit b then
        let (digits, rest) := c.digits
        scanFraction negative digits rest
      else .broken (c.next.fault .invalidNumber) (c.next.fault .invalidNumber)

/-! ### Strings -/

/-- The value of a hexadecimal digit. -/
def hexValue? (b : UInt8) : Option Nat :=
  if 48 ≤ b ∧ b ≤ 57 then some (b.toNat - 48)
  else if 97 ≤ b ∧ b ≤ 102 then some (b.toNat - 87)
  else if 65 ≤ b ∧ b ≤ 70 then some (b.toNat - 55)
  else none

/-- The four hexadecimal digits of an escape. -/
def scanHex (c : Cursor) : Except Fault (Nat × Cursor) :=
  match c.rest with
  | h₁ :: h₂ :: h₃ :: h₄ :: _ =>
      let after := c.next.next.next.next
      match hexValue? h₁, hexValue? h₂, hexValue? h₃, hexValue? h₄ with
      | some a, some b, some d, some e => .ok (((a * 16 + b) * 16 + d) * 16 + e, after)
      | _, _, _, _ => .error (after.fault .invalidEscape)
  | short => .error ⟨.endOfString, short.foldl Cursor.step c.position⟩

/-- The UTF-8 bytes of a code point. -/
def utf8Bytes (code : Nat) : List UInt8 := (String.singleton (Char.ofNat code)).toUTF8.toList

/-- What an escape stands for. -/
inductive Escape where
  /-- The bytes it stands for, and the place after it. -/
  | bytes (value : List UInt8) (rest : Cursor)
  /-- A fault for who reads the string; who passes over it goes on. -/
  | flawed (fault : Fault) (rest : Cursor)
  | broken (fault : Fault)

/-- The second half of a surrogate pair, after its first half. -/
def scanLowSurrogate (high : Nat) (c : Cursor) : Escape :=
  match c.rest with
  | []       => .flawed (c.fault .endOfString) c
  | 92 :: _  =>
      match c.next.rest with
      | []       => .flawed (c.next.fault .endOfString) c
      | 117 :: _ =>
          match scanHex c.next.next with
          | .error f => .flawed f c
          | .ok (low, rest) =>
              if 0xDC00 ≤ low ∧ low ≤ 0xDFFF then
                .bytes (utf8Bytes ((high - 0xD800) * 1024 + (low - 0xDC00) + 0x10000)) rest
              else .flawed (rest.fault .loneSurrogate) c
      | _ :: _   => .flawed (c.next.next.fault .unfinishedSurrogate) c
  | _ :: _   => .flawed (c.next.fault .unfinishedSurrogate) c

/-- An escape after its backslash. -/
def scanEscape (c : Cursor) : Escape :=
  match c.rest with
  | []     => .broken (c.fault .endOfString)
  | b :: _ =>
      let one (value : UInt8) : Escape := .bytes [value] c.next
      if b = 34 ∨ b = 92 ∨ b = 47 then one b
      else if b = 98 then one 8
      else if b = 102 then one 12
      else if b = 110 then one 10
      else if b = 114 then one 13
      else if b = 116 then one 9
      else if b = 117 then
        match scanHex c.next with
        | .error f => .broken f
        | .ok (code, rest) =>
            if 0xDC00 ≤ code ∧ code ≤ 0xDFFF then .flawed (rest.fault .loneSurrogate) rest
            else if 0xD800 ≤ code ∧ code ≤ 0xDBFF then scanLowSurrogate code rest
            else .bytes (utf8Bytes code) rest
      else .broken (c.next.fault .invalidEscape)

/-- A string after its opening quote.  The bytes before the cursor are in `done`, last first, and
`flaw` is the first fault that only a reader meets.  Bytes that are no UTF-8 are a fault as far from
the end of the string as they are from the end of what it stands for. -/
def scanString (flaw : Option Fault) (done : List UInt8) : Nat → Cursor → Scan String
  | 0,        c => .broken (c.fault .endOfString) (c.fault .endOfString)
  | fuel + 1, c =>
      match c.rest with
      | []     => let f := c.fault .endOfString; .broken (flaw.getD f) f
      | b :: _ =>
          if b = 34 then
            match flaw with
            | some f => .unreadable f c.next
            | none   =>
                match String.fromUTF8? ⟨done.reverse.toArray⟩ with
                | some s => .done s c.next
                | none   =>
                    .unreadable (c.next.faultBefore .invalidCodePoint
                      (done.length - Text.validSize done.reverse)) c.next
          else if b = 92 then
            match scanEscape c.next with
            | .bytes value rest => scanString flaw (value.reverse ++ done) fuel rest
            | .flawed f rest    => scanString (flaw <|> some f) done fuel rest
            | .broken f         => .broken (flaw.getD f) f
          else if b < 32 then
            .broken (flaw.getD (c.next.fault .controlCharacter)) (c.fault .controlCharacter)
          else scanString flaw (b :: done) fuel c.next

/-! ### Values -/

/-- A scalar as a node, with the place after it. -/
def Scan.toNode : Scan Json → Node × Option Cursor
  | .done value rest     => (.scalar (.ok value) rest.position, some rest)
  | .unreadable f rest   => (.scalar (.error f) rest.position, some rest)
  | .broken reading skip => (.broken reading skip, none)

/-- The same scan of another value. -/
def Scan.map {α β : Type} (f : α → β) : Scan α → Scan β
  | .done value rest     => .done (f value) rest
  | .unreadable e rest   => .unreadable e rest
  | .broken reading skip => .broken reading skip

/-- A value that starts at the next byte and is no list or object. -/
def scanScalar (fuel : Nat) (c : Cursor) : Scan Json :=
  match c.rest with
  | []     => .broken (c.peekFault .endOfValue) (c.peekFault .endOfValue)
  | b :: _ =>
      if b = 110 then scanWord .null [117, 108, 108] c.next
      else if b = 116 then scanWord (.bool true) [114, 117, 101] c.next
      else if b = 102 then scanWord (.bool false) [97, 108, 115, 101] c.next
      else if b = 45 then scanNumber true c.next
      else if Cursor.isDigit b then scanNumber false c
      else if b = 34 then (scanString none [] fuel c.next).map .string
      else .broken (c.peekFault .expectedValue) (c.peekFault .expectedValue)

/-- Where a fault found in an item of a list stands: after the bracket or the comma. -/
def resumeInList (c : Cursor) : Position :=
  let c := c.skipBlanks
  if c.peek = 93 then c.next.position
  else if c.peek = 44 then c.next.skipBlanks.position
  else c.position

/-- Where a fault found in a member of an object stands: after the brace, if it comes next. -/
def resumeInObject (c : Cursor) : Position :=
  let c := c.skipBlanks
  if c.peek = 125 then c.next.position else c.position

mutual

/-- The value that comes next. -/
def readNode : Nat → Cursor → Node × Option Cursor
  | 0,        c => (.broken (c.fault .endOfValue) (c.fault .endOfValue), none)
  | fuel + 1, c =>
      let c := c.skipBlanks
      if c.peek = 91 then
        let (items, rest) := readItems fuel true c.next
        (.list c.position items, rest)
      else if c.peek = 123 then
        let (entries, rest) := readEntries fuel true c.next
        (.object c.position entries, rest)
      else (scanScalar (fuel + 1) c).toNode

/-- The rest of a list. -/
def readItems : Nat → Bool → Cursor → Node.Items × Option Cursor
  | 0,        _,     c => (.broken (c.fault .endOfList) (c.fault .endOfList), none)
  | fuel + 1, first, c =>
      let c := c.skipBlanks
      if c.rest.isEmpty then
        (.broken (c.peekFault .endOfList) (c.peekFault .endOfList), none)
      else if c.peek = 93 then (.close c.next.position, some c.next)
      else if first then readItem fuel c
      else if c.peek = 44 then
        let d := c.next.skipBlanks
        if d.rest.isEmpty then
          (.broken (d.peekFault .endOfValue) (d.peekFault .endOfValue), none)
        else if d.peek = 93 then
          (.broken (d.peekFault .trailingComma) (d.peekFault .expectedValue), none)
        else readItem fuel d
      else
        (.broken (c.peekFault .expectedListCommaOrEnd) (c.peekFault .expectedListCommaOrEnd), none)

/-- An item of a list and the rest of it. -/
def readItem : Nat → Cursor → Node.Items × Option Cursor
  | 0,        c => (.broken (c.fault .endOfList) (c.fault .endOfList), none)
  | fuel + 1, c =>
      match readNode fuel c with
      | (node, none)   => (.item node c.position (.close c.position), none)
      | (node, some d) =>
          let (items, rest) := readItems fuel false d
          (.item node (resumeInList d) items, rest)

/-- The rest of an object. -/
def readEntries : Nat → Bool → Cursor → Node.Entries × Option Cursor
  | 0,        _,     c => (.broken (c.fault .endOfObject) (c.fault .endOfObject), none)
  | fuel + 1, first, c =>
      let c := c.skipBlanks
      if c.rest.isEmpty then
        (.broken (c.peekFault .endOfObject) (c.peekFault .endOfObject), none)
      else if c.peek = 125 then (.close c.next.position, some c.next)
      else if first then
        if c.peek = 34 then readEntry fuel c
        else (.broken (c.peekFault .keyNotString) (c.peekFault .keyNotString), none)
      else if c.peek = 44 then
        let d := c.next.skipBlanks
        if d.rest.isEmpty then
          (.broken (d.peekFault .endOfValue) (d.peekFault .endOfObject), none)
        else if d.peek = 34 then readEntry fuel d
        else if d.peek = 125 then
          (.broken (d.peekFault .trailingComma) (d.peekFault .keyNotString), none)
        else (.broken (d.peekFault .keyNotString) (d.peekFault .keyNotString), none)
      else
        (.broken (c.peekFault .expectedObjectCommaOrEnd) (c.peekFault .expectedObjectCommaOrEnd),
          none)

/-- A member of an object, from the quote of its key, and the rest of the object. -/
def readEntry : Nat → Cursor → Node.Entries × Option Cursor
  | 0,        c => (.broken (c.fault .endOfObject) (c.fault .endOfObject), none)
  | fuel + 1, c =>
      let withValue (key : Except Fault String) (after : Cursor) :
          Node.Entries × Option Cursor :=
        let resume := resumeInObject after
        let d := after.skipBlanks
        let stop (f : Fault) : Node.Entries × Option Cursor :=
          (.entry key resume (.broken f f) resume (.close resume), none)
        if d.rest.isEmpty then stop (d.peekFault .endOfObject)
        else if d.peek = 58 then
          match readNode fuel d.next with
          | (node, none)   => (.entry key resume node resume (.close resume), none)
          | (node, some e) =>
              let (entries, rest) := readEntries fuel false e
              (.entry key resume node (resumeInObject e) entries, rest)
        else stop (d.peekFault .expectedColon)
      match scanString none [] (fuel + 1) c.next with
      | .done key after       => withValue (.ok key) after
      | .unreadable f after   => withValue (.error f) after
      | .broken reading skip  => (.broken reading skip, none)

end

/-- The tree of a text.  Each byte is met by at most four steps. -/
def Document.read (bytes : List UInt8) : Document :=
  match readNode (4 * bytes.length + 4) (.start bytes) with
  | (root, none)   => ⟨root, none⟩
  | (root, some c) =>
      let c := c.skipBlanks
      ⟨root, if c.rest.isEmpty then none else some (c.peekFault .trailingCharacters)⟩

end GraphServe.Json
