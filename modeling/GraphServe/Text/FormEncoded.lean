import GraphServe.Text.Utf8

/-!
# Form-encoded text

The names and values of a query string: pieces between `&`, each divided at its first `=`, with `+`
for a blank and `%XX` for a byte.
-/

namespace GraphServe.Text

/-- The value of a hexadecimal digit. -/
def hexDigit? (b : UInt8) : Option Nat :=
  if 48 ≤ b ∧ b ≤ 57 then some (b.toNat - 48)
  else if 97 ≤ b ∧ b ≤ 102 then some (b.toNat - 87)
  else if 65 ≤ b ∧ b ≤ 70 then some (b.toNat - 55)
  else none

/-- The bytes that a piece stands for; an escape that is none stays as it is. -/
def formBytes : List UInt8 → List UInt8
  | []                => []
  | [b]               => [if b = 43 then 32 else b]
  | [b, c]            => [if b = 43 then 32 else b, if c = 43 then 32 else c]
  | b :: h :: l :: rest =>
      if b = 37 then
        match hexDigit? h, hexDigit? l with
        | some x, some y => UInt8.ofNat (x * 16 + y) :: formBytes rest
        | _,      _      => b :: formBytes (h :: l :: rest)
      else (if b = 43 then 32 else b) :: formBytes (h :: l :: rest)

/-- The pieces of bytes between a separator. -/
def splitBytes (separator : UInt8) : List UInt8 → List UInt8 → List (List UInt8)
  | current, []        => [current.reverse]
  | current, b :: rest =>
      if b = separator then current.reverse :: splitBytes separator [] rest
      else splitBytes separator (b :: current) rest

/-- The names and values of a query string, in order. -/
def formPairs (query : String) : List (String × String) :=
  ((splitBytes 38 [] (bytes query)).filter (!·.isEmpty)).map fun piece =>
    let name := piece.takeWhile (· ≠ 61)
    (decodeLossy (formBytes name), decodeLossy (formBytes (piece.drop (name.length + 1))))

end GraphServe.Text
