import GraphServe.Text.Charset.Label
import GraphServe.Text.Charset.Pieces
import GraphServe.Text.Utf8

/-!
# Texts in other encodings

A text may name its encoding, and may begin with a mark that tells it; the mark counts for more and
is no part of the text.  What the encoding cannot stand for becomes a replacement character, so that
every row of bytes has a text.

* `Charset.ofMark?` is the encoding that the first bytes tell.
* `Charset.decode` is the text of bytes.
-/

namespace GraphServe.Text.Charset

/-! ### Units of two bytes -/

/-- The units that bytes make; a last byte that is alone makes none. -/
def units (higherFirst : Bool) : List UInt8 → List (Option Nat)
  | []             => []
  | [_]            => [none]
  | a :: b :: rest =>
      let (high, low) := if higherFirst then (a, b) else (b, a)
      some (high.toNat * 256 + low.toNat) :: units higherFirst rest

/-- Whether a unit is the first half of a pair that stands for one character. -/
def isFirstHalf (unit : Nat) : Bool := 0xD800 ≤ unit && unit < 0xDC00

/-- Whether a unit is the second half of a pair. -/
def isSecondHalf (unit : Nat) : Bool := 0xDC00 ≤ unit && unit < 0xE000

/-- The character of a unit that is alone. -/
def ofUnit (unit : Nat) : Char :=
  if isFirstHalf unit || isSecondHalf unit then '\uFFFD' else Char.ofNat unit

/-- The characters of units.  A first half and a byte alone at the end are one fault. -/
def ofUnits : List (Option Nat) → List Char
  | []                       => []
  | none :: _                => ['\uFFFD']
  | [some a]                 => [ofUnit a]
  | some a :: none :: _      => if isFirstHalf a then ['\uFFFD'] else [ofUnit a, '\uFFFD']
  | some a :: some b :: rest =>
      if isFirstHalf a && isSecondHalf b then
        Char.ofNat (0x10000 + (a - 0xD800) * 0x400 + (b - 0xDC00)) :: ofUnits rest
      else ofUnit a :: ofUnits (some b :: rest)

/-! ### Marks -/

/-- The encoding that the first bytes tell, and the bytes after them. -/
def ofMark? : List UInt8 → Option (Charset × List UInt8)
  | 0xEF :: 0xBB :: 0xBF :: rest => some (utf8, rest)
  | 0xFF :: 0xFE :: rest         => some (utf16 false, rest)
  | 0xFE :: 0xFF :: rest         => some (utf16 true, rest)
  | _                            => none

/-! ### Decoding -/

/-- The character of a byte where those from 128 are of private use. -/
def userDefinedChar (b : UInt8) : Char :=
  Char.ofNat (if b < 128 then b.toNat else 0xF780 + (b.toNat - 128))

/-- The characters of bytes that begin with no mark. -/
def chars : Charset → List UInt8 → List Char
  | utf8,              bytes => decodeChars bytes
  | utf16 higherFirst, bytes => ofUnits (units higherFirst bytes)
  | page p,            bytes => bytes.map p.char
  | gb18030,           bytes => readPieces Charset.gb18030Piece bytes
  | big5,              bytes => readPieces Charset.big5Piece bytes
  | eucKr,             bytes => readPieces Charset.eucKrPiece bytes
  | eucJp,             bytes => readPieces Charset.eucJpPiece bytes
  | shiftJis,          bytes => readPieces Charset.shiftJisPiece bytes
  | iso2022Jp,         bytes => switched .ascii false bytes
  | userDefined,       bytes => bytes.map userDefinedChar
  | unread,            bytes => if bytes.isEmpty then [] else ['\uFFFD']

/-- The text of bytes, which is in the given encoding if no mark tells another. -/
def decode (charset : Charset) (bytes : List UInt8) : String :=
  let (charset, bytes) := (ofMark? bytes).getD (charset, bytes)
  String.ofList (chars charset bytes)

end GraphServe.Text.Charset
