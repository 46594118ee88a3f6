import GraphServe.Yaml.Token

/-!
# From text to tokens

Where a collection begins and ends is told by indentation, and that a scalar is a key only shows
when a colon follows.  So tokens are held back in a queue as long as a key may still begin before
them, and the token for a key is put in later.

* `tokens` gives the tokens of a text.  The last one is its end, or tells what is wrong with it.
-/

namespace GraphServe.Yaml

/-- A place where a key may have begun. -/
structure Candidate where
  place      : Place := {}
  /-- The number of the token that the key would begin with. -/
  number     : Nat := 0
  /-- Whether a colon can still make it a key. -/
  isOpen     : Bool := false
  /-- Whether it has to be a key. -/
  isRequired : Bool := false
deriving DecidableEq, Repr

/-- A key takes one line and no more than 1024 characters. -/
def Candidate.isStale (k : Candidate) (p : Place) : Bool :=
  k.isOpen && (k.place.line < p.line || k.place.index + 1024 < p.index)

/-- A text that is read, with the tokens that were cut off it and not yet given out. -/
structure Reading where
  cursor     : Cursor
  queue      : List Token := []
  /-- The number of tokens that were given out. -/
  taken      : Nat := 0
  /-- Whether a key may begin here. -/
  keyAllowed : Bool := true
  /-- A candidate for each collection in brackets or braces that is open, the innermost first, and
  one outside of them. -/
  candidates : List Candidate := [{}]
  /-- The columns of the open collections that are told by indentation, the innermost first. -/
  indents    : List Nat := []
  /-- The number of open brackets and braces. -/
  flowDepth  : Nat := 0
  /-- Where the last quoted scalar ended. -/
  quoteEnd   : Option Nat := none

namespace Reading

/-- How deep brackets and braces may be nested. -/
def depthLimit : Nat := 255

/-- The place that was reached. -/
def place (r : Reading) : Place := r.cursor.place

/-- Whether a bracket or brace is open. -/
def inFlow (r : Reading) : Bool := 0 < r.flowDepth

/-- The column of the innermost collection that is told by indentation. -/
def indent (r : Reading) : Int :=
  match r.indents with
  | column :: _ => column
  | []          => -1

/-- Put a token at the end of the queue. -/
def push (r : Reading) (kind : Token.Kind) (place : Place) : Reading :=
  { r with queue := r.queue ++ [⟨kind, place⟩] }

/-- Put a token before the one of a number. -/
def insert (r : Reading) (number : Nat) (kind : Token.Kind) (place : Place) : Reading :=
  { r with queue := r.queue.insertIdx (number - r.taken) ⟨kind, place⟩ }

/-- Step over a character that is a token. -/
def pushChar (r : Reading) (kind : Token.Kind) : Reading :=
  { r.push kind r.place with cursor := r.cursor.skip }

/-! ### Candidates for keys -/

/-- Close the candidates that are too far back. -/
def dropStale (r : Reading) : Except Fault Reading :=
  if r.candidates.any fun k => k.isStale r.place && k.isRequired then .error ⟨.staleKey, r.place⟩
  else .ok
    { r with candidates := r.candidates.map fun k =>
        if k.isStale r.place then { k with isOpen := false } else k }

/-- Close the innermost candidate. -/
def dropKey (r : Reading) : Except Fault Reading :=
  match r.candidates with
  | []        => .ok r
  | k :: rest =>
      if k.isOpen && k.isRequired then .error ⟨.missingColon, r.place⟩
      else .ok { r with candidates := { k with isOpen := false } :: rest }

/-- Remember that a key may begin here. -/
def saveKey (r : Reading) : Except Fault Reading :=
  if !r.keyAllowed then .ok r
  else do
    let k : Candidate :=
      { place := r.place, number := r.taken + r.queue.length, isOpen := true
        isRequired := r.inFlow && r.indent == r.place.column }
    let r ← r.dropKey
    return { r with candidates := k :: r.candidates.drop 1 }

/-! ### Indentation -/

/-- Begin a collection at a column, unless it is open already; its token comes before the one of the
number. -/
def beginAt (r : Reading) (column number : Nat) (kind : Token.Kind) (place : Place) : Reading :=
  if !r.inFlow && r.indent < column then
    { r.insert number kind place with indents := column :: r.indents }
  else r

/-- Begin a collection here. -/
def beginHere (r : Reading) (kind : Token.Kind) : Reading :=
  r.beginAt r.place.column (r.taken + r.queue.length) kind r.place

/-- End the collections that are indented by more than a column. -/
def endBeyond (r : Reading) (column : Int) : Reading :=
  if r.inFlow then r
  else
    let ended := r.indents.takeWhile fun (i : Nat) => decide (column < i)
    { r with
      queue   := r.queue ++ ended.map fun _ => ⟨.blockEnd, r.place⟩
      indents := r.indents.drop ended.length }

/-- End all collections that are told by indentation, before a line that stands outside of them. -/
def endAll (r : Reading) : Except Fault Reading := do
  let r ← (r.endBeyond (-1)).dropKey
  return { r with keyAllowed := false }

/-! ### Cutting off tokens -/

/-- Step over blanks, comments and line breaks.  After a line break a key may begin, and where a key
may begin a tab is no blank. -/
def skipGap : Nat → Reading → Reading
  | 0,        r => r
  | fuel + 1, r =>
      let c := r.cursor
      if c.peek = ' ' || (c.peek = '\t' && (r.inFlow || !r.keyAllowed)) then
        skipGap fuel { r with cursor := c.skip }
      else if isBreak c.peek then
        skipGap fuel { r with cursor := c.skipBreak, keyAllowed := r.keyAllowed || !r.inFlow }
      else if c.peek = '#' then skipGap fuel { r with cursor := c.skipComment }
      else r

/-- The end of the text, at the start of a line. -/
def cutEnd (r : Reading) : Except Fault Reading := do
  let p := r.place
  let p := if p.column = 0 then p else { p with line := p.line + 1, column := 0 }
  let r ← { r with cursor := { r.cursor with place := p } }.endAll
  return r.push .finish r.place

/-- A directive. -/
def cutDirective (r : Reading) : Except Fault Reading := do
  let r ← r.endAll
  let cursor ← readDirective r.cursor
  return { r.push .directive r.place with cursor }

/-- The start or the end of a document. -/
def cutMarker (r : Reading) (kind : Token.Kind) : Except Fault Reading := do
  let r ← r.endAll
  return { r.push kind r.place with cursor := Cursor.skipMany 3 r.cursor }

/-- An opening bracket or brace, which may begin a key. -/
def cutOpening (r : Reading) (kind : Token.Kind) : Except Fault Reading := do
  let r ← r.saveKey
  if r.flowDepth = depthLimit then throw ⟨.tooDeep, r.place⟩
  return { r.pushChar kind with
    candidates := {} :: r.candidates, flowDepth := r.flowDepth + 1, keyAllowed := true }

/-- A closing bracket or brace. -/
def cutClosing (r : Reading) (kind : Token.Kind) : Except Fault Reading := do
  let r ← r.dropKey
  let r := if r.inFlow then
      { r with candidates := r.candidates.drop 1, flowDepth := r.flowDepth - 1 }
    else r
  return { r.pushChar kind with keyAllowed := false }

/-- A comma between brackets or braces. -/
def cutComma (r : Reading) : Except Fault Reading := do
  let r ← r.dropKey
  return { r.pushChar .flowEntry with keyAllowed := true }

/-- The dash before an item. -/
def cutDash (r : Reading) : Except Fault Reading := do
  if r.inFlow then throw ⟨.entryInFlow, r.place⟩
  if !r.keyAllowed then throw ⟨.entryNotAllowed, r.place⟩
  let r ← (r.beginHere .blockSequence).dropKey
  return { r.pushChar .blockEntry with keyAllowed := true }

/-- The question mark before a key. -/
def cutQuestion (r : Reading) : Except Fault Reading := do
  if !r.inFlow && !r.keyAllowed then throw ⟨.keyNotAllowed, r.place⟩
  let r ← (r.beginHere .blockMapping).dropKey
  return { r.pushChar .key with keyAllowed := !r.inFlow }

/-- The colon before a value.  If a key may have begun before it, it did; where no key was, the
value has an empty one. -/
def cutColon (r : Reading) : Except Fault Reading :=
  match r.candidates with
  | k :: rest =>
      if k.isOpen then
        let r := (r.insert k.number .key k.place).beginAt k.place.column k.number .blockMapping
          r.place
        .ok { r.pushChar .value with
          candidates := { k with isOpen := false } :: rest, keyAllowed := false }
      else emptyKey
  | []        => emptyKey
where
  /-- The colon that no key on the same line comes before. -/
  emptyKey : Except Fault Reading :=
    if !r.inFlow && !r.keyAllowed then .error ⟨.valueNotAllowed, r.place⟩
    else .ok { (r.beginHere .blockMapping).pushChar .value with keyAllowed := !r.inFlow }

/-- A token that may begin a key, but which no key can follow. -/
def cutNodePart (r : Reading) (read : Cursor → Except Fault (Token.Kind × Cursor)) :
    Except Fault Reading := do
  let r ← r.saveKey
  let (kind, cursor) ← read r.cursor
  return { r.push kind r.place with cursor, keyAllowed := false }

/-- A scalar between quotes. -/
def cutQuoted (r : Reading) (single : Bool) : Except Fault Reading := do
  let r ← r.cutNodePart fun c => do
    let (text, c) ← readQuoted single c
    return (.scalar (if single then .singleQuoted else .doubleQuoted) (String.ofList text), c)
  return { r with quoteEnd := some r.place.index }

/-- A scalar in a block. -/
def cutBlock (r : Reading) (isLiteral : Bool) : Except Fault Reading := do
  let r ← r.saveKey
  let (text, place, cursor) ← readBlock isLiteral r.indent r.cursor
  let kind := .scalar (if isLiteral then .literal else .folded) (String.ofList text)
  return { r.push kind place with cursor, keyAllowed := true }

/-- A plain scalar. -/
def cutPlain (r : Reading) : Except Fault Reading := do
  let r ← r.saveKey
  let plain ← readPlain r.inFlow (r.indent + 1) r.place (r.cursor.rest.length + 1) [] {} r.cursor
  return { r.push (.scalar .plain (String.ofList plain.text)) r.place with
    cursor := plain.cursor, keyAllowed := plain.folded }

/-- Whether a colon stands before a value: in brackets and braces also next to other signs and after
a quoted scalar. -/
def isValueColon (r : Reading) : Bool :=
  isGap (r.cursor.peek 1)
    || (r.inFlow && (isFlow (r.cursor.peek 1) || r.quoteEnd == some r.place.index))

/-- Cut off the token whose first character is at hand. -/
def cutToken (r : Reading) : Except Fault Reading :=
  let beforeGap := isGap (r.cursor.peek 1)
  match r.cursor.peek with
  | '['    => r.cutOpening .flowSequence
  | '\x7b' => r.cutOpening .flowMapping
  | ']'    => r.cutClosing .flowSequenceEnd
  | '\x7d' => r.cutClosing .flowMappingEnd
  | ','    => r.cutComma
  | '-'    => if beforeGap then r.cutDash else r.cutPlain
  | '?'    => if beforeGap then r.cutQuestion else r.cutPlain
  | ':'    => if r.isValueColon then r.cutColon else r.cutPlain
  | '*'    => r.cutNodePart fun c => do let (name, c) ← readAnchorName c; return (.alias name, c)
  | '&'    => r.cutNodePart fun c => do let (name, c) ← readAnchorName c; return (.anchor name, c)
  | '!'    => r.cutNodePart fun c => do let (tag, c) ← readTag c; return (.tag tag, c)
  | '|'    => if r.inFlow then r.cutPlain else r.cutBlock true
  | '>'    => if r.inFlow then r.cutPlain else r.cutBlock false
  | '\''   => r.cutQuoted true
  | '"'    => r.cutQuoted false
  | '%'    => .error ⟨.unexpectedCharacter '%', r.place⟩
  | '@'    => .error ⟨.unexpectedCharacter '@', r.place⟩
  | '`'    => .error ⟨.unexpectedCharacter '`', r.place⟩
  | _      => r.cutPlain

/-- Cut off a token. -/
def cut (r : Reading) : Except Fault Reading := do
  let r ← (skipGap (r.cursor.rest.length + 1) r).dropStale
  let r := r.endBeyond r.place.column
  if isEnd r.cursor.peek then r.cutEnd
  else if r.place.column = 0 && r.cursor.peek = '%' then r.cutDirective
  else if r.cursor.isMarker '-' then r.cutMarker .documentStart
  else if r.cursor.isMarker '.' then r.cutMarker .documentEnd
  else r.cutToken

/-- Whether a key may still begin before the token that is next in the queue. -/
def awaitsKey (r : Reading) : Bool := r.candidates.any fun k => k.isOpen && k.number == r.taken

/-- Whether the next token is known; if it is not, one more was cut off. -/
def settle (r : Reading) : Except Fault (Bool × Reading) := do
  if r.queue.isEmpty then return (false, ← r.cut)
  let r ← r.dropStale
  if r.awaitsKey then return (false, ← r.cut)
  return (true, r)

/-- Give out the tokens that remain. -/
def giveOut : Nat → Reading → List Token
  | 0,        _ => []
  | fuel + 1, r =>
      match r.settle with
      | .error f        => [⟨.broken f.problem, f.place⟩]
      | .ok (false, r)  => giveOut fuel r
      | .ok (true, r)   =>
          match r.queue with
          | []            => []
          | token :: rest =>
              if token.kind = .finish then [token]
              else token :: giveOut fuel { r with queue := rest, taken := r.taken + 1 }

end Reading

/-- The tokens of a text. -/
def tokens (text : String) : List Token :=
  Reading.giveOut (8 * text.length + 16) { cursor := { rest := text.toList } }

end GraphServe.Yaml
