import GraphServe.Number.Literal
import GraphServe.Number.Word

/-!
# Sizes in bytes

A size is read from a number of bytes, or from a number and a unit.  It is shown with one place and
a unit of powers of a thousand.

* `ByteSize.read?` reads a size.
* `ByteSize.text` shows one.
-/

namespace GraphServe

/-- A number of bytes of sixty-four bits. -/
structure ByteSize where
  bytes : Nat
deriving DecidableEq, Inhabited, Repr

namespace ByteSize

/-- The greatest size. -/
def maximum : Nat := Word.greatest 64

/-- So many times `1024 ^ 2` bytes. -/
def mebibytes (n : Nat) : ByteSize := ⟨n * 1024 * 1024⟩

/-! ### Reading -/

/-- The units and the bytes they stand for. -/
def units : List (String × Nat) :=
  ("b", 1) :: ['k', 'm', 'g', 't', 'p'].zipIdx.flatMap fun (letter, i) =>
    let decimal := Nat.pow 1000 (i + 1)
    let binary := Nat.pow 1024 (i + 1)
    [(String.ofList [letter], decimal), (String.ofList [letter, 'b'], decimal),
     (String.ofList [letter, 'i'], binary), (String.ofList [letter, 'i', 'b'], binary)]

/-- A character in lower case; the sign for kelvin is a letter K. -/
def lowerChar (c : Char) : Char := if c = '\u212A' then 'k' else c.toLower

/-- The bytes that a unit stands for. -/
def unit? (text : List Char) : Option Nat := units.lookup (String.ofList (text.map lowerChar))

/-- A digit or the point between digits. -/
def isNumberChar (c : Char) : Bool := c.isDigit || c == '.'

/-- Blanks of any kind. -/
def isBlankChar (c : Char) : Bool :=
  [0x20, 0x85, 0xA0, 0x1680, 0x2028, 0x2029, 0x202F, 0x205F, 0x3000].contains c.toNat
    || (9 ≤ c.toNat && c.toNat ≤ 13) || (0x2000 ≤ c.toNat && c.toNat ≤ 0x200A)

/-- Digits with at most one point among them. -/
def isPlainNumber (digits : List Char) : Bool :=
  digits.any Char.isDigit && digits.count '.' ≤ 1

/-- The number of bytes that digits spell; a plus sign may stand in front. -/
def count? (text : List Char) : Option Nat :=
  let digits := match text with
    | '+' :: rest => rest
    | all         => all
  if !digits.isEmpty && digits.all Char.isDigit && NumberLiteral.natOf digits ≤ maximum then
    some (NumberLiteral.natOf digits)
  else none

/-- A multiple of a unit, without the fraction of a byte and at most the greatest size. -/
def scaled (number : Double) (unit : Nat) : Nat :=
  let product := number.mulNat unit
  if number.isFinite && product.isFinite then min product.toNatTrunc maximum else maximum

/-- Reads a size: digits alone, or a number, blanks and a unit. -/
def read? (text : String) : Option ByteSize :=
  match count? text.toList with
  | some n => some ⟨n⟩
  | none   => do
      let number := text.toList.takeWhile isNumberChar
      guard (isPlainNumber number)
      let unit ← unit? ((text.toList.drop number.length).dropWhile isBlankChar)
      return ⟨scaled (NumberLiteral.ofText (String.ofList number)).toDouble unit⟩

/-! ### Showing -/

/-- From where on a size is shown in the second, the third and further units: a little above the
powers of 1024. -/
def thresholds : List Nat :=
  [1048577, 1073741826, 1099511629538, 1125899909097501, 1152921507377637248]

/-- The letters of the units. -/
def letters : List Char := ['K', 'M', 'G', 'T', 'P', 'E']

/-- A positive double with one place, a tie to the even one. -/
def onePlace (x : Double) : String :=
  let tenths :=
    if 0 ≤ x.scale then x.mantissa * Nat.pow 2 x.scale.toNat * 10
    else Double.roundDiv (x.mantissa * 10) (Nat.pow 2 (-x.scale).toNat)
  toString (tenths / 10) ++ "." ++ toString (tenths % 10)

/-- The text of a size. -/
def text (s : ByteSize) : String :=
  if s.bytes < 1000 then toString s.bytes ++ " B"
  else
    let above := (thresholds.filter (· ≤ s.bytes)).length
    let bytes := (Double.ofInt s.bytes).toNatTrunc
    let quotient := Double.ofRatio false bytes (Nat.pow 1000 (above + 1))
    onePlace quotient ++ " " ++ String.ofList [letters.getD above 'E', 'B']

end ByteSize

end GraphServe
