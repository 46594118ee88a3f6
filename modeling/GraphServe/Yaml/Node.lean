import GraphServe.Yaml.Tokens

/-!
# Nodes of YAML documents

A document is one node: a scalar, a sequence, a mapping, or an alias for a node that has an anchor.

* `Document.ofText` reads the documents of a text.
* `Document.follow` gives the node that a node stands for.
-/

namespace GraphServe.Yaml

/-- A node of a document. -/
inductive Node where
  | scalar (place : Place) (style : Style) (tag? : Option Tag) (text : String)
  | sequence (place : Place) (items : List Node)
  | mapping (place : Place) (entries : List (Node × Node))
  /-- The node with the anchor of this number. -/
  | alias (anchor : Nat)
deriving Inhabited

/-- The scalar that stands where none is written. -/
def Node.empty (place : Place) : Node := .scalar place .plain none "~"

/-- A document. -/
structure Document where
  root     : Node
  /-- The nodes with anchors, by the number of the anchor. -/
  anchored : List (Nat × Node)

/-- The node that a node stands for. -/
def Document.follow (d : Document) : Node → Node
  | .alias anchor => (d.anchored.lookup anchor).getD default
  | node          => node

/-! ### Reading steps -/

/-- Where the reading of nodes stands. -/
structure Nodes where
  tokens   : List Token
  /-- The anchors of the document so far with their numbers, the last first. -/
  anchors  : List (String × Nat) := []
  anchored : List (Nat × Node) := []
  /-- The number of anchors so far. -/
  count    : Nat := 0

/-- A step of reading. -/
abbrev Read := StateT Nodes (Except Fault)

namespace Read

/-- The next token. -/
def peek : Read Token := do
  match (← get).tokens with
  | []             => throw ⟨.nodeContent, {}⟩
  | token :: _     =>
      match token.kind with
      | .broken problem => throw ⟨problem, token.place⟩
      | _               => return token

/-- Past the next token. -/
def bump : Read Unit := modify fun s => { s with tokens := s.tokens.drop 1 }

/-- Give a number to an anchor. -/
def register (name : String) : Read Nat := do
  let number := (← get).count + 1
  modify fun s => { s with anchors := (name, number) :: s.anchors, count := number }
  return number

/-- Keep a node that has an anchor. -/
def keep (anchor? : Option Nat) (node : Node) : Read Node := do
  match anchor? with
  | none        => return node
  | some anchor =>
      modify fun s => { s with anchored := (anchor, node) :: s.anchored }
      return node

/-- The anchor at hand, if there is one. -/
def anchor? : Read (Option Nat) := do
  match (← peek).kind with
  | .anchor name => do bump; return some (← register name)
  | _            => return none

/-- The tag at hand, if there is one. -/
def tag? : Read (Option Tag) := do
  match (← peek).kind with
  | .tag tag => do bump; return some tag
  | _        => return none

/-- An anchor and a tag in either order, each of which may be missing. -/
def properties : Read (Option Nat × Option Tag) := do
  match (← peek).kind with
  | .tag _ => do
      let tag? ← tag?
      return (← anchor?, tag?)
  | _      => do
      match ← anchor? with
      | none        => return (none, none)
      | some anchor => return (some anchor, ← tag?)

/-- An empty scalar before certain tokens, else what is read. -/
def emptyBefore (kinds : List Token.Kind) (inner : Read Node) : Read Node := do
  let token ← peek
  if kinds.contains token.kind then return .empty token.place else inner

/-! ### Nodes

The fuel bounds the number of steps on the way to a node.  Of four steps in a row one takes a token
at least. -/

/-- Which collections may follow: those told by indentation, and sequences that are not indented. -/
structure Allowed where
  block      : Bool := false
  unindented : Bool := false

mutual

/-- A node. -/
def node : Nat → Allowed → Read Node
  | 0,        _ => do throw ⟨.nodeContent, (← peek).place⟩
  | fuel + 1, allowed => do
      let token ← peek
      match token.kind with
      | .alias name =>
          bump
          match (← get).anchors.lookup name with
          | some number => return .alias number
          | none        => throw ⟨.unknownAnchor, token.place⟩
      | _           =>
          let (anchor?, tag?) ← properties
          let token ← peek
          let content ← match token.kind with
            | .scalar style text => do bump; pure (.scalar token.place style tag? text)
            | .flowSequence      => do bump; .sequence token.place <$> flowItems fuel true []
            | .flowMapping       => do bump; .mapping token.place <$> flowEntries fuel true []
            | kind               => do
                if kind = .blockEntry ∧ allowed.unindented then
                  .sequence token.place <$> unindentedItems fuel []
                else if kind = .blockSequence ∧ allowed.block then
                  bump
                  .sequence token.place <$> blockItems fuel []
                else if kind = .blockMapping ∧ allowed.block then
                  bump
                  .mapping token.place <$> blockEntries fuel []
                else if anchor?.isSome ∨ tag?.isSome then
                  pure (.scalar token.place .plain tag? "")
                else throw ⟨.nodeContent, token.place⟩
          keep anchor? content

/-- The items of a sequence that is told by indentation, after those that were read. -/
def blockItems : Nat → List Node → Read (List Node)
  | 0,        _    => do throw ⟨.sequenceEntry, (← peek).place⟩
  | fuel + 1, done => do
      let token ← peek
      match token.kind with
      | .blockEnd   => do bump; return done.reverse
      | .blockEntry => do
          bump
          let item ← emptyBefore [.blockEntry, .blockEnd] (node fuel { block := true })
          blockItems fuel (item :: done)
      | _           => throw ⟨.sequenceEntry, token.place⟩

/-- The items of a sequence that is not indented. -/
def unindentedItems : Nat → List Node → Read (List Node)
  | 0,        _    => do throw ⟨.sequenceEntry, (← peek).place⟩
  | fuel + 1, done => do
      let token ← peek
      match token.kind with
      | .blockEntry => do
          bump
          let item ← emptyBefore [.blockEntry, .key, .value, .blockEnd]
            (node fuel { block := true })
          unindentedItems fuel (item :: done)
      | _           => return done.reverse

/-- The entries of a mapping that is told by indentation. -/
def blockEntries : Nat → List (Node × Node) → Read (List (Node × Node))
  | 0,        _    => do throw ⟨.mappingKey, (← peek).place⟩
  | fuel + 1, done => do
      let token ← peek
      match token.kind with
      | .blockEnd => do bump; return done.reverse
      | .key      => do
          bump
          let key ← blockPart fuel
          let value ← blockValue fuel
          blockEntries fuel ((key, value) :: done)
      | .value    => do
          let value ← blockValue fuel
          blockEntries fuel ((.empty token.place, value) :: done)
      | _         => throw ⟨.mappingKey, token.place⟩

/-- A key or value of a mapping that is told by indentation. -/
def blockPart : Nat → Read Node
  | 0        => do throw ⟨.nodeContent, (← peek).place⟩
  | fuel + 1 =>
      emptyBefore [.key, .value, .blockEnd] (node fuel { block := true, unindented := true })

/-- The value after a key of such a mapping. -/
def blockValue : Nat → Read Node
  | 0        => do throw ⟨.nodeContent, (← peek).place⟩
  | fuel + 1 => do
      let token ← peek
      match token.kind with
      | .value => do bump; blockPart fuel
      | _      => return .empty token.place

/-- The items of a sequence in brackets. -/
def flowItems : Nat → Bool → List Node → Read (List Node)
  | 0,        _,       _    => do throw ⟨.flowSequenceEnd, (← peek).place⟩
  | fuel + 1, isFirst, done => do
      let token ← peek
      if token.kind = .flowSequenceEnd then
        bump
        return done.reverse
      if !isFirst then
        if token.kind = .flowEntry then bump else throw ⟨.flowSequenceEnd, token.place⟩
      let token ← peek
      match token.kind with
      | .flowSequenceEnd => do bump; return done.reverse
      | .key             => do
          bump
          let entry ← flowPair fuel
          flowItems fuel false (.mapping token.place [entry] :: done)
      | _                => do
          let item ← node fuel {}
          flowItems fuel false (item :: done)

/-- A key and its value that are an item of a sequence.  The token after an empty key is passed
over, whatever it is. -/
def flowPair : Nat → Read (Node × Node)
  | 0        => do throw ⟨.nodeContent, (← peek).place⟩
  | fuel + 1 => do
      let token ← peek
      let key ←
        if [.value, .flowEntry, .flowSequenceEnd].contains token.kind then
          bump
          pure (.empty token.place)
        else node fuel {}
      let token ← peek
      match token.kind with
      | .value => do
          bump
          return (key, ← emptyBefore [.flowEntry, .flowSequenceEnd] (node fuel {}))
      | _      => return (key, .empty token.place)

/-- The entries of a mapping in braces. -/
def flowEntries : Nat → Bool → List (Node × Node) → Read (List (Node × Node))
  | 0,        _,       _    => do throw ⟨.flowMappingEnd, (← peek).place⟩
  | fuel + 1, isFirst, done => do
      let token ← peek
      if token.kind = .flowMappingEnd then
        bump
        return done.reverse
      if !isFirst then
        if token.kind = .flowEntry then bump else throw ⟨.flowMappingEnd, token.place⟩
      let token ← peek
      match token.kind with
      | .flowMappingEnd => do bump; return done.reverse
      | .key            => do
          bump
          let key ← emptyBefore [.value, .flowEntry, .flowMappingEnd] (node fuel {})
          let value ← flowValue fuel
          flowEntries fuel false ((key, value) :: done)
      | .value          => do
          let value ← flowValue fuel
          flowEntries fuel false ((.empty token.place, value) :: done)
      | _               => do
          let key ← node fuel {}
          let token ← peek
          flowEntries fuel false ((key, .empty token.place) :: done)

/-- The value after a key in braces; an empty one stands at the colon. -/
def flowValue : Nat → Read Node
  | 0        => do throw ⟨.nodeContent, (← peek).place⟩
  | fuel + 1 => do
      let token ← peek
      if token.kind = .value then
        bump
        if [.flowEntry, .flowMappingEnd].contains (← peek).kind then return .empty token.place
        else node fuel {}
      else return .empty token.place

end

/-! ### Documents -/

/-- Past the marker before a document and the directives before that. -/
def documentStart : Nat → Read Unit
  | 0        => do throw ⟨.documentStart, (← peek).place⟩
  | fuel + 1 => do
      let token ← peek
      match token.kind with
      | .directive     => do bump; documentStart fuel
      | .documentStart => bump
      | _              => throw ⟨.documentStart, token.place⟩

/-- Past the marks after documents. -/
def documentEnds : Nat → Read Unit
  | 0        => return ()
  | fuel + 1 => do
      if (← peek).kind = .documentEnd then
        bump
        documentEnds fuel

/-- What is in a document. -/
def document (fuel : Nat) (isMarked : Bool) : Read Document := do
  modify fun s => { s with anchors := [], anchored := [] }
  let ends : List Token.Kind :=
    if isMarked then [.directive, .documentStart, .documentEnd, .finish] else []
  let root ← emptyBefore ends (node fuel { block := true })
  return ⟨root, (← get).anchored⟩

/-- The documents of a text.  The first one needs no marker before it. -/
def documents : Nat → Bool → Read (List Document)
  | 0,        _       => return []
  | fuel + 1, isFirst => do
      if !isFirst then documentEnds fuel
      let token ← peek
      if token.kind = .finish then return []
      let isMarked := !isFirst || token.kind = .directive || token.kind = .documentStart
      if isMarked then documentStart fuel
      let d ← document fuel isMarked
      return d :: (← documents fuel false)

end Read

/-- The documents of a text. -/
def Document.ofText (text : String) : Except Fault (List Document) :=
  let tokens := tokens text
  (Read.documents (4 * tokens.length + 8) true).run' { tokens }

end GraphServe.Yaml
