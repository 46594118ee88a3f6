import GraphServe.Json.Printer
import GraphServe.Text.Invisible

/-!
# Quoted text in messages

How a message shows a piece of text between quotes: the quote, the backslash and the usual controls
take a backslash, and a character that shows nothing by itself is written by its number.
-/

namespace GraphServe.Text

/-- The digits of a number to base sixteen. -/
def hexText (n : Nat) : String := String.ofList (Nat.toDigits 16 n)

/-- A character inside quotes. -/
def quoteChar (c : Char) : String :=
  if c = '"' then "\\\""
  else if c = '\\' then "\\\\"
  else if c = '\n' then "\\n"
  else if c = '\r' then "\\r"
  else if c = '\t' then "\\t"
  else if c.toNat = 0 then "\\0"
  else if isInvisible c then "\\u\x7b" ++ hexText c.toNat ++ "\x7d"
  else String.singleton c

/-- A text between quotes. -/
def quoted (s : String) : String :=
  "\"" ++ String.join (s.toList.map quoteChar) ++ "\""

end GraphServe.Text
