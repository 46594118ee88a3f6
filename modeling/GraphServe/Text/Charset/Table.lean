/-!
# Tables of characters

A set of characters numbers its places.  It is written in rows of ninety-four places, in which a
full stop marks a place that has no character; the places that a row leaves off at its end have none
either.

* `Table.char?` is the character at a place.
-/

namespace GraphServe.Text.Charset

/-- The rows of a set of characters. -/
abbrev Table := List String

/-- The character at a place. -/
def Table.char? (t : Table) (place : Nat) : Option Char :=
  ((t[place / 94]?).bind fun row => row.toList[place % 94]?).filter (· ≠ '.')

end GraphServe.Text.Charset
