import GraphServe.Yaml.Fault

/-!
# Cursors into YAML texts

What remains of a text, with the place that was reached, and the characters that matter to the
format. Past the end there are null characters, and a null character ends a text.
-/

namespace GraphServe.Yaml

/-! ### Characters -/

/-- The end of a text. -/
def isEnd (c : Char) : Bool := c == '\x00'

/-- A line break. -/
def isBreak (c : Char) : Bool := c == '\n' || c == '\r'

/-- A blank inside a line. -/
def isBlank (c : Char) : Bool := c == ' ' || c == '\t'

/-- A line break or the end. -/
def isBreakOrEnd (c : Char) : Bool := isBreak c || isEnd c

/-- A blank, a line break or the end. -/
def isGap (c : Char) : Bool := isBlank c || isBreakOrEnd c

/-- A character of a name. -/
def isWord (c : Char) : Bool := c.isAlphanum || c == '_' || c == '-'

/-- A character that has a meaning of its own between brackets and braces. -/
def isFlow (c : Char) : Bool := [',', '[', ']', '\x7b', '\x7d'].contains c

/-! ### Cursors -/

/-- A text from some place on. -/
structure Cursor where
  rest  : List Char
  place : Place := {}

namespace Cursor

/-- The character some steps ahead. -/
def peek (c : Cursor) (ahead : Nat := 0) : Char := c.rest.getD ahead '\x00'

/-- Step over a character. -/
def skip (c : Cursor) : Cursor := ⟨c.rest.drop 1, c.place.after c.peek⟩

/-- Step over some characters. -/
def skipMany : Nat → Cursor → Cursor
  | 0,     c => c
  | n + 1, c => skipMany n c.skip

/-- The characters ahead that satisfy a test. -/
def run (c : Cursor) (test : Char → Bool) : List Char := c.rest.takeWhile test

/-- Step over the characters that satisfy a test. -/
def skipRun (c : Cursor) (test : Char → Bool) : Cursor := skipMany (c.run test).length c

/-- Step over a line break, which may be of two characters. -/
def skipBreak (c : Cursor) : Cursor :=
  if c.peek = '\r' ∧ c.peek 1 = '\n' then c.skip.skip
  else if isBreak c.peek then c.skip else c

/-- Step over a comment, if there is one. -/
def skipComment (c : Cursor) : Cursor :=
  if c.peek = '#' then c.skipRun (!isBreakOrEnd ·) else c

/-- Whether three characters stand alone at the start of a line. -/
def isMarker (c : Cursor) (mark : Char) : Bool :=
  c.place.column == 0 && c.peek == mark && c.peek 1 == mark && c.peek 2 == mark
    && isGap (c.peek 3)

/-- Whether a document begins or ends here. -/
def isDocumentMarker (c : Cursor) : Bool := c.isMarker '-' || c.isMarker '.'

end Cursor

/-! ### Gaps in scalars -/

/-- What stands between two words of a scalar: blanks, or line breaks with blanks around them. -/
structure Gap where
  blanks : List Char := []
  breaks : Nat := 0
  /-- Whether the first line break was escaped. -/
  escaped : Bool := false

/-- Whether there is a line break in a gap. -/
def Gap.isFolded (g : Gap) : Bool := g.escaped || 0 < g.breaks

/-- What a gap stands for: its blanks; or a space for one line break, and for more of them all but
one. -/
def Gap.text (g : Gap) : List Char :=
  if g.escaped then List.replicate g.breaks '\n'
  else if g.breaks = 0 then g.blanks
  else if g.breaks = 1 then [' ']
  else List.replicate (g.breaks - 1) '\n'

/-- Read a gap, after what was read of it.  After a line break no tab may stand before the column
`margin`. -/
def readGap (margin : Int) (start : Place) : Nat → Gap → Cursor → Except Fault (Gap × Cursor)
  | 0,        g, c => .ok (g, c)
  | fuel + 1, g, c =>
      if isBlank c.peek then
        if g.isFolded && (c.place.column : Int) < margin && c.peek == '\t' then
          .error ⟨.plainTab, start⟩
        else
          readGap margin start fuel
            (if g.isFolded then g else { g with blanks := g.blanks ++ [c.peek] }) c.skip
      else if isBreak c.peek then
        readGap margin start fuel { g with blanks := [], breaks := g.breaks + 1 } c.skipBreak
      else .ok (g, c)

end GraphServe.Yaml
