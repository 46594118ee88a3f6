import GraphServe.Text.Charset.Big5
import GraphServe.Text.Charset.Gb
import GraphServe.Text.Charset.Jis
import GraphServe.Text.Charset.Ks

/-!
# Characters of several bytes

A text is read piece by piece: what its first byte and some bytes after it stand for.  Bytes that
stand for nothing are one fault; the byte that shows it is left to the next piece if it is plain.

* `Charset.readPieces` reads a text, given how the first piece is read.
* `gb18030Piece`, `big5Piece`, `eucKrPiece`, `eucJpPiece` and `shiftJisPiece` read the first piece
  in an encoding.
* `Charset.switched` reads texts that change between sets by escapes.
-/

namespace GraphServe.Text.Charset

/-- What the first bytes of a text stand for. -/
structure Piece where
  chars : List Char
  /-- How many bytes after the first belong to it. -/
  more  : Nat

namespace Piece

/-- Bytes that stand for nothing. -/
def fault (more : Nat) : Piece := ⟨['\uFFFD'], more⟩

/-- A byte that stands for a character. -/
def ofNat (n : Nat) : Piece := ⟨[Char.ofNat n], 0⟩

/-- The piece of a first byte and the next, given what they stand for together. -/
def ofPair (together : UInt8 → List Char) : List UInt8 → Piece
  | []     => fault 0
  | b :: _ =>
      match together b with
      | []    => fault (if b < 0x80 then 0 else 1)
      | chars => ⟨chars, 1⟩

end Piece

/-- The characters of bytes, given how the first piece is read. -/
def readPieces (first : UInt8 → List UInt8 → Piece) : List UInt8 → List Char
  | []        => []
  | a :: rest =>
      let piece := first a rest
      piece.chars ++ readPieces first (rest.drop piece.more)
termination_by bytes => bytes.length
decreasing_by
  rw [List.length_drop, List.length_cons]
  omega

/-- Whether a byte is in a range. -/
def isWithin (first last b : UInt8) : Bool := first ≤ b && b ≤ last

/-! ### Chinese -/

/-- The place of a second byte that is not plain, or plain and from 64 to 126. -/
def secondPlace? (b : UInt8) : Option Nat :=
  if isWithin 0x40 0x7E b then some (b.toNat - 0x40)
  else if isWithin 0x80 0xFE b then some (b.toNat - 0x41)
  else none

/-- The character of private use at a place. -/
def gbPrivate? (place : Nat) : Option Char :=
  (gbPrivate.find? fun run => run.1 ≤ place && place < run.1 + run.2.1).map
    fun run => Char.ofNat (run.2.2 + (place - run.1))

/-- What two bytes stand for. -/
def gbPair (a b : UInt8) : List Char :=
  match secondPlace? b with
  | none        => []
  | some second =>
      let place := (a.toNat - 0x81) * 190 + second
      (gb.char? place <|> gbPrivate? place).toList

/-- The character at a place of four bytes. -/
def gbFour? (place : Nat) : Option Char :=
  if place = 7457 then some '\uE7C7'
  else if place < 39420 then
    (gbRuns.findRev? (·.1 ≤ place)).map fun run => Char.ofNat (run.2 + (place - run.1))
  else if 189000 ≤ place && place < 1237576 then some (Char.ofNat (0x10000 + (place - 189000)))
  else none

/-- The first piece in the Chinese encoding. -/
def gb18030Piece (a : UInt8) (rest : List UInt8) : Piece :=
  if a < 0x80 then .ofNat a.toNat
  else if a = 0x80 then .ofNat 0x20AC
  else if a = 0xFF then .fault 0
  else
    match rest with
    | []        => .fault 0
    | b :: more =>
        if isWithin 0x30 0x39 b then
          match more with
          | []          => .fault 1
          | [c]         => .fault (if isWithin 0x81 0xFE c then 2 else 0)
          | c :: d :: _ =>
              if isWithin 0x81 0xFE c && isWithin 0x30 0x39 d then
                let place := ((a.toNat - 0x81) * 10 + (b.toNat - 0x30)) * 1260
                  + (c.toNat - 0x81) * 10 + (d.toNat - 0x30)
                match gbFour? place with
                | some char => ⟨[char], 3⟩
                | none      => .fault 3
              else .fault 0
        else .ofPair (gbPair a) rest

/-- What two bytes stand for; four pairs stand for a letter and its accent. -/
def big5Pair (a b : UInt8) : List Char :=
  let second? :=
    if isWithin 0x40 0x7E b then some (b.toNat - 0x40)
    else if isWithin 0xA1 0xFE b then some (b.toNat - 0x62)
    else none
  match second? with
  | none        => []
  | some second =>
      match (a.toNat - 0x81) * 157 + second with
      | 1133  => ['\u00CA', '\u0304']
      | 1135  => ['\u00CA', '\u030C']
      | 1164  => ['\u00EA', '\u0304']
      | 1166  => ['\u00EA', '\u030C']
      | place => (big5Table.char? place).toList

/-- The first piece in the traditional Chinese encoding. -/
def big5Piece (a : UInt8) (rest : List UInt8) : Piece :=
  if a < 0x80 then .ofNat a.toNat
  else if a = 0x80 || a = 0xFF then .fault 0
  else .ofPair (big5Pair a) rest

/-! ### Korean -/

/-- What two bytes stand for. -/
def ksPair (a b : UInt8) : List Char :=
  if isWithin 0x41 0xFE b then
    (ks.char? ((a.toNat - 0x81) * 190 + (b.toNat - 0x41))).toList
  else []

/-- The first piece in the Korean encoding. -/
def eucKrPiece (a : UInt8) (rest : List UInt8) : Piece :=
  if a < 0x80 then .ofNat a.toNat
  else if a = 0x80 || a = 0xFF then .fault 0
  else .ofPair (ksPair a) rest

/-! ### Japanese -/

/-- The narrow syllables and signs, by their places. -/
def narrowKana (place : Nat) : Nat := 0xFF61 + place

/-- What two bytes from 161 stand for in a set. -/
def jisPair (t : Table) (a b : UInt8) : List Char :=
  if isWithin 0xA1 0xFE b then
    (t.char? ((a.toNat - 0xA1) * 94 + (b.toNat - 0xA1))).toList
  else []

/-- The first piece in the encoding that keeps the sets apart by bytes before them. -/
def eucJpPiece (a : UInt8) (rest : List UInt8) : Piece :=
  if a < 0x80 then .ofNat a.toNat
  else if a = 0x8E then
    .ofPair (fun b =>
      if isWithin 0xA1 0xDF b then [Char.ofNat (narrowKana (b.toNat - 0xA1))] else []) rest
  else if a = 0x8F then
    match rest with
    | []        => .fault 0
    | b :: more =>
        if isWithin 0xA1 0xFE b then
          let piece := Piece.ofPair (jisPair jisSupplement b) more
          ⟨piece.chars, piece.more + 1⟩
        else .ofPair (fun _ => []) rest
  else if isWithin 0xA1 0xFE a then .ofPair (jisPair jis a) rest
  else .fault 0

/-- What two bytes stand for; some places are left to private use. -/
def shiftJisPair (a b : UInt8) : List Char :=
  let row := a.toNat - (if a < 0xA0 then 0x81 else 0xC1)
  match (if b ≤ 0xFC then secondPlace? b else none) with
  | none        => []
  | some second =>
      let place := row * 188 + second
      if 8836 ≤ place && place < 10716 then [Char.ofNat (0xE000 + (place - 8836))]
      else (jis.char? place).toList

/-- The first piece in the encoding that leaves room for the narrow syllables. -/
def shiftJisPiece (a : UInt8) (rest : List UInt8) : Piece :=
  if a ≤ 0x80 then .ofNat a.toNat
  else if isWithin 0xA1 0xDF a then .ofNat (narrowKana (a.toNat - 0xA1))
  else if a = 0xA0 || 0xFC < a then .fault 0
  else .ofPair (shiftJisPair a) rest

/-! ### Escapes -/

/-- The sets between which escapes switch. -/
inductive Switch where
  | ascii
  | roman
  | kana
  | pairs
deriving DecidableEq, Repr

/-- The set that the two bytes of an escape switch to. -/
def Switch.ofEscape? : UInt8 → UInt8 → Option Switch
  | 0x28, 0x42              => some ascii
  | 0x28, 0x4A              => some roman
  | 0x28, 0x49              => some kana
  | 0x24, 0x40 | 0x24, 0x42 => some pairs
  | _,    _                 => none

/-- The character of a byte in a set of single bytes. -/
def Switch.char (s : Switch) (a : UInt8) : Char :=
  let isPlain := a < 0x80 && a ≠ 0x0E && a ≠ 0x0F
  match s, a with
  | roman, 0x5C => '\u00A5'
  | roman, 0x7E => '\u203E'
  | kana,  a    =>
      if isWithin 0x21 0x5F a then Char.ofNat (narrowKana (a.toNat - 0x21)) else '\uFFFD'
  | _,     a    => if isPlain then Char.ofNat a.toNat else '\uFFFD'

/-- What two bytes from 33 stand for in the first set. -/
def switchedPair (a b : UInt8) : Char :=
  (jis.char? ((a.toNat - 0x21) * 94 + (b.toNat - 0x21))).getD '\uFFFD'

/-- The characters of bytes that change between sets; `fresh` tells that an escape came just before,
after which another one is a fault. -/
def switched (s : Switch) (fresh : Bool) : List UInt8 → List Char
  | [] => []
  | 0x1B :: rest =>
      match rest with
      | a :: b :: more =>
          match Switch.ofEscape? a b with
          | some next => (if fresh then ['\uFFFD'] else []) ++ switched next true more
          | none      => '\uFFFD' :: switched s false (a :: b :: more)
      | short => '\uFFFD' :: switched s false short
  | a :: rest =>
      if s ≠ .pairs then s.char a :: switched s false rest
      else if !isWithin 0x21 0x7E a then '\uFFFD' :: switched s false rest
      else
        match rest with
        | []           => ['\uFFFD']
        | 0x1B :: more => '\uFFFD' :: switched s false (0x1B :: more)
        | b :: more    =>
            (if isWithin 0x21 0x7E b then switchedPair a b else '\uFFFD') :: switched s false more
termination_by bytes => bytes.length

end GraphServe.Text.Charset
