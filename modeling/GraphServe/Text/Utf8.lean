/-!
# Decoding UTF-8

`Text.decodeLossy` reads bytes as UTF-8; each stretch of bytes that begins a character but does not
complete one becomes a replacement character.  `Text.decode?` refuses such bytes, and
`Text.validSize` tells where the first of them stands.
-/

namespace GraphServe.Text

/-- The bytes that may follow a first byte, the lowest and the highest second byte; `none` for a
byte that begins no character of more than one byte. -/
def leadByte (b : UInt8) : Option (Nat × UInt8 × UInt8) :=
  if 0xC2 ≤ b ∧ b ≤ 0xDF then some (1, 0x80, 0xBF)
  else if b = 0xE0 then some (2, 0xA0, 0xBF)
  else if b = 0xED then some (2, 0x80, 0x9F)
  else if 0xE1 ≤ b ∧ b ≤ 0xEF then some (2, 0x80, 0xBF)
  else if b = 0xF0 then some (3, 0x90, 0xBF)
  else if 0xF1 ≤ b ∧ b ≤ 0xF3 then some (3, 0x80, 0xBF)
  else if b = 0xF4 then some (3, 0x80, 0x8F)
  else none

/-- A byte that continues a character. -/
def isTail (b : UInt8) : Bool := 0x80 ≤ b && b ≤ 0xBF

/-- The code point of a first byte and the bytes that follow it. -/
def codePoint (lead : UInt8) (tail : List UInt8) : Nat :=
  let mask := match tail.length with
    | 1 => 0x20
    | 2 => 0x10
    | _ => 0x08
  tail.foldl (fun n b => n * 64 + (b.toNat - 0x80)) (lead.toNat % mask)

/-- The characters of bytes; what is no UTF-8 becomes replacement characters. -/
def decodeChars : List UInt8 → List Char
  | []        => []
  | b :: rest =>
      if b < 0x80 then Char.ofNat b.toNat :: decodeChars rest
      else
        match leadByte b with
        | none => '\uFFFD' :: decodeChars rest
        | some (count, low, high) =>
            let second := rest.head?.filter fun c => decide (low ≤ c) && decide (c ≤ high)
            match second with
            | none   => '\uFFFD' :: decodeChars rest
            | some _ =>
                let tail := rest.take 1 ++ ((rest.drop 1).take (count - 1)).takeWhile isTail
                if tail.length = count then
                  Char.ofNat (codePoint b tail) :: decodeChars (rest.drop count)
                else '\uFFFD' :: decodeChars (rest.drop tail.length)
termination_by bytes => bytes.length
decreasing_by all_goals (simp only [List.length_cons, List.length_drop]; omega)

/-- How many bytes, counted from the first one, are UTF-8. -/
def validSize : List UInt8 → Nat
  | []        => 0
  | b :: rest =>
      if b < 0x80 then 1 + validSize rest
      else
        match leadByte b with
        | none => 0
        | some (count, low, high) =>
            let tail := rest.take count
            let second := tail.head?.any fun c => decide (low ≤ c) && decide (c ≤ high)
            if tail.length = count ∧ second ∧ tail.all isTail then
              1 + count + validSize (rest.drop count)
            else 0
termination_by bytes => bytes.length
decreasing_by all_goals (simp only [List.length_cons, List.length_drop]; omega)

/-- The text of bytes; what is no UTF-8 becomes replacement characters. -/
def decodeLossy (bytes : List UInt8) : String := String.ofList (decodeChars bytes)

/-- The bytes of a text. -/
def bytes (s : String) : List UInt8 := s.toUTF8.toList

/-- The text of bytes that are UTF-8 throughout. -/
def decode? (encoded : List UInt8) : Option String :=
  let text := decodeLossy encoded
  if bytes text = encoded then some text else none

end GraphServe.Text
