import GraphServe.Text.Utf8

/-!
# Base 64

Bytes as characters, six bits each; the last group is filled up with equals signs.
-/

namespace GraphServe.Text

/-- The character for six bits. -/
def base64Char (n : Nat) : Char :=
  if n < 26 then Char.ofNat (n + 'A'.toNat)
  else if n < 52 then Char.ofNat (n - 26 + 'a'.toNat)
  else if n < 62 then Char.ofNat (n - 52 + '0'.toNat)
  else if n = 62 then '+' else '/'

/-- The characters for bytes, three of which make four characters. -/
def base64Chars : List UInt8 → List Char
  | a :: b :: c :: rest =>
      let n := a.toNat * 65536 + b.toNat * 256 + c.toNat
      base64Char (n / 262144) :: base64Char (n / 4096 % 64) :: base64Char (n / 64 % 64)
        :: base64Char (n % 64) :: base64Chars rest
  | [a, b]              =>
      let n := a.toNat * 1024 + b.toNat * 4
      [base64Char (n / 4096), base64Char (n / 64 % 64), base64Char (n % 64), '=']
  | [a]                 =>
      let n := a.toNat * 16
      [base64Char (n / 64), base64Char (n % 64), '=', '=']
  | []                  => []

/-- The bytes of a text in base 64. -/
def base64 (text : String) : String := String.ofList (base64Chars (bytes text))

end GraphServe.Text
