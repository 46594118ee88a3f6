import GraphServe.Json.Value
import GraphServe.Number.Shortest

/-!
# JSON text

The compact text of a value: no blanks, members in their order, and only what must be escaped is.

* `Json.render` writes a value, `Json.quote` a string, `Json.floatText` a double.
-/

namespace GraphServe.Json

/-- A lower-case hexadecimal digit. -/
def hexDigit (n : Nat) : Char := "0123456789abcdef".toList.getD n '0'

/-- A character inside a quoted string. -/
def escapeChar (c : Char) : List Char :=
  if c = '"' then ['\\', '"']
  else if c = '\\' then ['\\', '\\']
  else if c = '\n' then ['\\', 'n']
  else if c = '\r' then ['\\', 'r']
  else if c = '\t' then ['\\', 't']
  else if c.toNat = 8 then ['\\', 'b']
  else if c.toNat = 12 then ['\\', 'f']
  else if c.toNat < 32 then ['\\', 'u', '0', '0', hexDigit (c.toNat / 16), hexDigit (c.toNat % 16)]
  else [c]

/-- A string between quotes. -/
def quote (s : String) : String :=
  String.ofList ('"' :: (s.toList.flatMap escapeChar ++ ['"']))

/-- Doubles are positional from `0.00001` to below `1e16`, and an integral one ends in `.0`. -/
def floatStyle : Decimal.Style := ⟨-5, 16⟩

/-- The text of a double; what is not finite has none but `null`. -/
def floatText (x : Double) : String :=
  if !x.isFinite then "null"
  else
    let text := x.shortest.render floatStyle
    String.ofList (if x.isNegative then '-' :: text else text)

mutual

/-- The compact text of a value. -/
def render : Json → String
  | .null           => "null"
  | .bool b         => if b then "true" else "false"
  | .int n          => toString n
  | .float x        => floatText x
  | .string s       => quote s
  | .list items     => "[" ++ renderItems items ++ "]"
  | .object members => "\x7b" ++ renderMembers members ++ "\x7d"

/-- Items divided by commas. -/
def renderItems : List Json → String
  | []            => ""
  | [item]        => render item
  | item :: items => render item ++ "," ++ renderItems items

/-- Members divided by commas. -/
def renderMembers : List (String × Json) → String
  | []                        => ""
  | [(key, value)]            => quote key ++ ":" ++ render value
  | (key, value) :: members   => quote key ++ ":" ++ render value ++ "," ++ renderMembers members

end

instance : ToString Json := ⟨render⟩

end GraphServe.Json
