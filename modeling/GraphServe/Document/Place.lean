import GraphServe.Error

/-!
# Places in a document

A place is the number of bytes before it.  `locate` turns it into a line and a column, both counted
from one; a column counts bytes.
-/

namespace GraphServe.Document

/-- The bytes that a character takes. -/
def width (c : Char) : Nat := c.utf8Size

/-- Whether a character ends a line. -/
def endsLine (c : Char) : Bool :=
  c = '\n' || c = '\r' || c.toNat = 0x0B || c.toNat = 0x0C || c.toNat = 0x85
    || c.toNat = 0x2028 || c.toNat = 0x2029

/-- The location of a place in the characters still to come, the first of which is at `here` on
the line `line` that starts at `start`.  A line end after which nothing comes starts no line. -/
def locateFrom (place line start : Nat) : Nat → List Char → Location
  | _,    []              => .new line (place - start + 1)
  | here, '\r' :: '\n' :: rest =>
      if place < here + 2 ∨ rest.isEmpty then .new line (place - start + 1)
      else locateFrom place (line + 1) (here + 2) (here + 2) rest
  | here, c :: rest       =>
      let next := here + width c
      if place < next then .new line (place - start + 1)
      else if endsLine c ∧ !rest.isEmpty then locateFrom place (line + 1) next next rest
      else locateFrom place line start next rest

/-- The line and column of a place in a text. -/
def locate (text : String) (place : Nat) : Location := locateFrom place 1 0 0 text.toList

end GraphServe.Document
