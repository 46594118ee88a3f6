import GraphServe.Yaml.Cursor

/-!
# Scalars of YAML texts

The five ways to write a scalar: plain, between single or double quotes, and as a literal or folded
block.

* `readPlain`, `readQuoted` and `readBlock` read a scalar from a cursor.
-/

namespace GraphServe.Yaml

/-- How a scalar is written. -/
inductive Style where
  | plain
  | singleQuoted
  | doubleQuoted
  | literal
  | folded
deriving DecidableEq, Repr

/-! ### Plain scalars -/

/-- The word at the start of a text. -/
def plainWord (inFlow : Bool) : List Char → List Char
  | []        => []
  | c :: rest =>
      let next := rest.headD '\x00'
      if isGap c then []
      else if c == ':' && (isGap next || (inFlow && isFlow next)) then []
      else if inFlow && isFlow c then []
      else c :: plainWord inFlow rest

/-- A plain scalar that was read. -/
structure Plain where
  text   : List Char
  /-- Whether a line break follows. -/
  folded : Bool
  cursor : Cursor

/-- Read a plain scalar: words with gaps between them, on lines from the column `margin` on.  What
was read so far comes last character first. -/
def readPlain (inFlow : Bool) (margin : Int) (start : Place) :
    Nat → List Char → Gap → Cursor → Except Fault Plain
  | 0,        done, gap, c => .ok ⟨done.reverse, gap.isFolded, c⟩
  | fuel + 1, done, gap, c => do
      if c.isDocumentMarker || c.peek == '#' then return ⟨done.reverse, gap.isFolded, c⟩
      let word := plainWord inFlow c.rest
      let (done, gap) : List Char × Gap :=
        if word.isEmpty then (done, gap)
        else (word.reverse ++ (gap.text.reverse ++ done), {})
      let c := Cursor.skipMany word.length c
      if !(isBlank c.peek || isBreak c.peek) then return ⟨done.reverse, gap.isFolded, c⟩
      let (gap, c) ← readGap margin start (c.rest.length + 1) gap c
      if !inFlow && (c.place.column : Int) < margin then return ⟨done.reverse, gap.isFolded, c⟩
      readPlain inFlow margin start fuel done gap c

/-! ### Quoted scalars -/

/-- The character of an escape of one letter. -/
def escape? (c : Char) : Option Char :=
  [('0', '\x00'), ('a', '\x07'), ('b', '\x08'), ('t', '\t'), ('\t', '\t'), ('n', '\n'),
   ('v', '\x0b'), ('f', '\x0c'), ('r', '\r'), ('e', '\x1b'), (' ', ' '), ('"', '"'), ('\'', '\''),
   ('\\', '\\'), ('N', '\u0085'), ('_', '\u00a0'), ('L', '\u2028'), ('P', '\u2029')].lookup c

/-- The number of digits of an escape that gives a character by its number. -/
def escapeLength? (c : Char) : Option Nat := [('x', 2), ('u', 4), ('U', 8)].lookup c

/-- The value of a hexadecimal digit. -/
def hexValue? (c : Char) : Option Nat :=
  if c.isDigit then some (c.toNat - '0'.toNat)
  else if 'a' ≤ c ∧ c ≤ 'f' then some (c.toNat - 'a'.toNat + 10)
  else if 'A' ≤ c ∧ c ≤ 'F' then some (c.toNat - 'A'.toNat + 10)
  else none

/-- The character that hexadecimal digits give the number of. -/
def numberedChar (start : Place) (digits : List Char) (count : Nat) : Except Fault Char :=
  match digits.mapM hexValue? with
  | none        => .error ⟨.escapeDigits, start⟩
  | some values =>
      let n := values.foldl (fun n d => n * 16 + d) 0
      if values.length < count then .error ⟨.escapeDigits, start⟩
      else if n.isValidChar then .ok (Char.ofNat n)
      else .error ⟨.escapeCharacter, start⟩

/-- A run of characters between quotes, up to a gap, the closing quote or an escaped line break; the
answer tells whether it was such. -/
def readQuotedRun (single : Bool) (start : Place) :
    Nat → List Char → Cursor → Except Fault (List Char × Bool × Cursor)
  | 0,        done, c => .ok (done, false, c)
  | fuel + 1, done, c => do
      if isGap c.peek then return (done, false, c)
      if single then
        if c.peek == '\'' then
          if c.peek 1 == '\'' then readQuotedRun single start fuel ('\'' :: done) c.skip.skip
          else return (done, false, c)
        else readQuotedRun single start fuel (c.peek :: done) c.skip
      else if c.peek == '"' then return (done, false, c)
      else if c.peek == '\\' then
        if isBreak (c.peek 1) then return (done, true, c.skip.skipBreak)
        match escapeLength? (c.peek 1) with
        | some count =>
            let c := c.skip.skip
            let char ← numberedChar start (c.rest.take count) count
            readQuotedRun single start fuel (char :: done) (Cursor.skipMany count c)
        | none =>
            match escape? (c.peek 1) with
            | some char => readQuotedRun single start fuel (char :: done) c.skip.skip
            | none      => throw ⟨.escapeUnknown, start⟩
      else readQuotedRun single start fuel (c.peek :: done) c.skip

/-- Read what is between quotes, and the closing quote. -/
def readQuotedRest (single : Bool) (start : Place) :
    Nat → List Char → Cursor → Except Fault (List Char × Cursor)
  | 0,        _,    _ => .error ⟨.quotedEnd, start⟩
  | fuel + 1, done, c => do
      if c.isDocumentMarker then throw ⟨.quotedDocument, start⟩
      if isEnd c.peek then throw ⟨.quotedEnd, start⟩
      let (done, escaped, c) ← readQuotedRun single start (c.rest.length + 1) done c
      if c.peek == (if single then '\'' else '"') then return (done.reverse, c.skip)
      let (gap, c) ← readGap (-1) start (c.rest.length + 1) { escaped } c
      readQuotedRest single start fuel (gap.text.reverse ++ done) c

/-- Read a scalar between quotes. -/
def readQuoted (single : Bool) (c : Cursor) : Except Fault (List Char × Cursor) :=
  readQuotedRest single c.place (c.rest.length + 1) [] c.skip

/-! ### Block scalars -/

/-- What becomes of the line breaks at the end of a block. -/
inductive Chomping where
  | strip
  | clip
  | keep
deriving DecidableEq, Repr

/-- The header of a block: what becomes of its end, and by how much it is indented, if that is
said. -/
def readBlockHeader (start : Place) (c : Cursor) :
    Except Fault (Chomping × Nat × Cursor) := do
  let chomping? (c : Char) : Option Chomping :=
    if c = '+' then some .keep else if c = '-' then some .strip else none
  let indentation (c : Cursor) : Except Fault (Nat × Cursor) :=
    if !c.peek.isDigit then .ok (0, c)
    else if c.peek = '0' then .error ⟨.zeroIndentation, start⟩
    else .ok (c.peek.toNat - '0'.toNat, c.skip)
  match chomping? c.peek with
  | some chomping =>
      let (increment, c) ← indentation c.skip
      return (chomping, increment, c)
  | none          =>
      let (increment, c) ← indentation c
      if increment = 0 then return (.clip, 0, c)
      match chomping? c.peek with
      | some chomping => return (chomping, increment, c.skip)
      | none          => return (.clip, increment, c)

/-- Read the line breaks before a line of a block, and its indentation up to `indent`; zero stands
for one that is not known yet.  The answer has the number of line breaks and the deepest indentation
seen. -/
def readBlockBreaks (indent : Nat) :
    Nat → Nat → Nat → Cursor → Except Fault (Nat × Nat × Cursor)
  | 0,        breaks, deepest, c => .ok (breaks, deepest, c)
  | fuel + 1, breaks, deepest, c => do
      let spaces := (c.run (· == ' ')).length
      let c := Cursor.skipMany
        (if indent = 0 then spaces else min spaces (indent - c.place.column)) c
      let deepest := max deepest c.place.column
      if (indent = 0 || c.place.column < indent) && c.peek == '\t' then throw ⟨.blockTab, c.place⟩
      if !isBreak c.peek then return (breaks, deepest, c)
      readBlockBreaks indent fuel (breaks + 1) deepest c.skipBreak

/-- A block as far as it was read. -/
structure Block where
  /-- The text, the last character first. -/
  text          : List Char := []
  /-- Whether a line break after the last line waits. -/
  lineBreak     : Bool := false
  /-- The number of line breaks after that. -/
  emptyLines    : Nat := 0
  /-- Whether the last line began with a blank. -/
  leadingBlank  : Bool := false

/-- Take in a line of a block after the line breaks that wait.  In a folded block a line break
between two lines that begin with no blank becomes a space, or nothing if empty lines follow it. -/
def Block.addLine (isLiteral : Bool) (b : Block) (line : List Char) : Block :=
  let blank := isBlank (line.headD 'x')
  let join : List Char :=
    if !b.lineBreak then []
    else if !isLiteral && !b.leadingBlank && !blank then (if b.emptyLines = 0 then [' '] else [])
    else ['\n']
  { text := line.reverse ++ (List.replicate b.emptyLines '\n' ++ (join ++ b.text))
    leadingBlank := blank }

/-- Read the lines of a block. -/
def readBlockLines (isLiteral : Bool) (indent : Nat) :
    Nat → Block → Cursor → Except Fault (Block × Cursor)
  | 0,        b, c => .ok (b, c)
  | fuel + 1, b, c => do
      if c.place.column ≠ indent || isEnd c.peek then return (b, c)
      let line := c.run (!isBreakOrEnd ·)
      let b := b.addLine isLiteral line
      let c := Cursor.skipMany line.length c
      if isEnd c.peek then return (b, c)
      let c := c.skipBreak
      let (breaks, _, c) ← readBlockBreaks indent (c.rest.length + 1) 0 0 c
      readBlockLines isLiteral indent fuel { b with lineBreak := true, emptyLines := breaks } c

/-- Read a block scalar inside of a collection that is indented by `outer`; the answer has the place
of its first line. -/
def readBlock (isLiteral : Bool) (outer : Int) (c : Cursor) :
    Except Fault (List Char × Place × Cursor) := do
  let start := c.place
  let (chomping, increment, c) ← readBlockHeader start c.skip
  let c := (c.skipRun isBlank).skipComment
  if !isBreakOrEnd c.peek then throw ⟨.blockHeader, start⟩
  let c := c.skipBreak
  let known : Nat :=
    if increment = 0 then 0 else if 0 ≤ outer then (outer + increment).toNat else increment
  let (breaks, deepest, c) ← readBlockBreaks known (c.rest.length + 1) 0 0 c
  let indent := if known = 0 then max (max deepest (outer + 1).toNat) 1 else known
  let (b, after) ← readBlockLines isLiteral indent (c.rest.length + 1) { emptyLines := breaks } c
  let ending := match chomping with
    | .strip => []
    | .clip  => if b.lineBreak then ['\n'] else []
    | .keep  =>
        (if b.lineBreak then ['\n'] else []) ++ List.replicate b.emptyLines '\n'
  return (b.text.reverse ++ ending, c.place, after)

end GraphServe.Yaml
