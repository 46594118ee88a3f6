import GraphServe.Text.Mismatch
import GraphServe.Yaml.Atom
import GraphServe.Yaml.Node

/-!
# Typed reading of YAML

Decoders read what a node holds.  A mismatch tells the path to the value and its place, and one that
has no place of its own gets that of the record it arises in.

* `Yaml.Decoder` is a decoder, `Decoder.run` applies it to a text.
* `Decoder.bool`, `unsigned`, `text`, `option` read scalars.
* `Decoder.record` reads a mapping with known keys, or a sequence of their values by position.
-/

namespace GraphServe.Yaml

/-- The way from the root of a document to a value. -/
inductive Path where
  | root
  | item (parent : Path) (index : Nat)
  | member (parent : Path) (key : String)
  /-- The value of a key that is not written as a scalar. -/
  | unnamed (parent : Path)
deriving DecidableEq, Repr

namespace Path

/-- The text before a key. -/
def lead (parent : Path) (text : String) : String :=
  match parent with
  | root => ""
  | _    => text ++ "."

/-- The text of a path. -/
def text : Path → String
  | root              => "."
  | item parent index => parent.text ++ "[" ++ toString index ++ "]"
  | member parent key => lead parent parent.text ++ key
  | unnamed parent    => lead parent parent.text ++ "?"

end Path

/-- Why decoding stops. -/
inductive Mismatch where
  | at (text : String) (path : Path) (place : Place)
  | unplaced (text : String)
deriving DecidableEq, Repr

namespace Mismatch

/-- Give a place to a mismatch without one. -/
def locate (path : Path) (place : Place) : Mismatch → Mismatch
  | unplaced text => .at text path place
  | placed        => placed

/-- The wording of a mismatch. -/
def message : Mismatch → String
  | .at text .root place => located text place
  | .at text path place  => located (path.text ++ ": " ++ text) place
  | unplaced text        => text

end Mismatch

/-- Why a text cannot be read. -/
inductive Refusal where
  | malformed (fault : Fault)
  | empty
  | mismatched (mismatch : Mismatch)
  | severalDocuments
deriving DecidableEq, Repr

/-- The wording of a refusal. -/
def Refusal.message : Refusal → String
  | malformed fault     => fault.message
  | empty               => "EOF while parsing a value"
  | mismatched mismatch => mismatch.message
  | severalDocuments    =>
      "deserializing from YAML containing more than one document is not supported"

/-- A decoder: from a document, the path to a node and the node to what it holds. -/
abbrev Decoder (α : Type) := Document → Path → Node → Except Mismatch α

namespace Decoder

/-! ### Scalars -/

/-- The wording for a value that is not expected. -/
def rejectAtom (expected : String) (a : Atom) : String := Text.invalidType a.name expected

/-- The wording for a scalar that is not what its tag says. -/
def rejectTagged (m : TagMismatch) : String :=
  Text.invalidValue ("string " ++ Text.quoted m.text) m.expected

/-- The mismatch at a node that holds something else than expected. -/
def reject (expected : String) (path : Path) : Node → Mismatch
  | .scalar place style tag? text =>
      .at (match Atom.ofScalar style tag? text with
        | .ok a    => rejectAtom expected a
        | .error m => rejectTagged m) path place
  | .sequence place _             => .at (Text.invalidType "sequence" expected) path place
  | .mapping place _              => .at (Text.invalidType "map" expected) path place
  | .alias _                      => .unplaced (Text.invalidType "map" expected)

section
variable {α : Type}

/-- A scalar by its value. -/
def atom (expected : String) (read : Atom → Except String α) : Decoder α := fun d path node =>
  match d.follow node with
  | .scalar place style tag? text =>
      match Atom.ofScalar style tag? text with
      | .ok a    => (read a).mapError (.at · path place)
      | .error m => .error (.at (rejectTagged m) path place)
  | other                         => .error (reject expected path other)

/-- A truth value. -/
def bool : Decoder Bool :=
  atom "a boolean" fun
    | .bool b => .ok b
    | a       => .error (rejectAtom "a boolean" a)

/-- A natural number of sixty-four bits, whose type has a name.  A negative one of as many bits has
the right type but is not allowed. -/
def unsigned (name : String) : Decoder Nat :=
  atom name fun
    | .int n =>
        if Word.isUnsigned 64 n then .ok n.toNat
        else if Word.isSigned 64 n then .error (Text.invalidValue (Atom.intName n) name)
        else .error (rejectAtom name (.int n))
    | a      => .error (rejectAtom name a)

/-- The characters of a scalar, whatever it stands for. -/
def text (expected : String) : Decoder String := fun d path node =>
  match d.follow node with
  | .scalar _ _ _ text => .ok text
  | other              => .error (reject expected path other)

/-- Whether a scalar stands for nothing. -/
def isNothing (style : Style) (tag? : Option Tag) (text : String) : Except TagMismatch Bool :=
  let isNull := text = "~" ∨ text = "null"
  if style ≠ .plain then .ok false
  else
    match tag? with
    | none     => .ok isNull
    | some tag =>
        if tag ≠ ⟨"!!", "null"⟩ then .ok false
        else if isNull then .ok true
        else .error ⟨text, "null"⟩

/-- A value, or nothing. -/
def option (inner : Decoder α) : Decoder (Option α) := fun d path node => do
  match d.follow node with
  | .scalar _ style tag? text =>
      if ← (isNothing style tag? text).mapError fun m => .unplaced (rejectTagged m) then
        return none
      return some (← inner d path node)
  | _                         => return some (← inner d path node)

/-! ### Records -/

/-- How a record is read: its name in messages, and its members in order, each with the reader that
puts the member's value into the record. -/
structure Record (α : Type) where
  name    : String
  members : List (String × (α → Decoder α))

namespace Record

variable (r : Record α)

/-- The keys of the members. -/
def keys : List String := r.members.map (·.1)

/-- The key that a node spells, with the path to its value. -/
def readKey (d : Document) (path : Path) (node : Node) :
    Except Mismatch (String × (α → Decoder α) × Path) :=
  let below (key : String) : Path := match node with
    | .scalar .. => .member path key
    | _          => .unnamed path
  match d.follow node with
  | .scalar place _ _ key =>
      match r.members.lookup key with
      | some read => .ok (key, read, below key)
      | none      => .error (.at (Text.unknownField key r.keys) path place)
  | other                 => .error (reject "field identifier" path other)

/-- Read entries into a record; `seen` are the keys that came already. -/
def readEntries (d : Document) (path : Path) (seen : List String) (record : α) :
    List (Node × Node) → Except Mismatch α
  | []                    => .ok record
  | (node, value) :: rest => do
      let (key, read, below) ← r.readKey d path node
      if key ∈ seen then throw (.unplaced (Text.duplicateField key))
      let record ← read record d below value
      readEntries d path (key :: seen) record rest

/-- The wording for a sequence of more items than a record has members. -/
def rejectLength (count : Nat) : String :=
  "invalid length " ++ toString count ++ ", expected sequence of "
    ++ toString r.members.length ++ (if r.members.length = 1 then " element" else " elements")

/-- Read items into a record, member by member. -/
def readItems (d : Document) (path : Path) (items : List Node) (default : α) :
    Except Mismatch α := do
  let fields := (r.members.zip items).zipIdx
  let record ← fields.foldlM
    (fun record ((member, item), index) => member.2 record d (.item path index) item) default
  if r.members.length < items.length then throw (.unplaced (r.rejectLength items.length))
  return record

end Record

/-- A record, from its members or from the list of their values; members that are missing are those
of `default`. -/
def record (r : Record α) (default : α) : Decoder α := fun d path node =>
  match d.follow node with
  | .mapping place entries =>
      (r.readEntries d path [] default entries).mapError (.locate path place)
  | .sequence place items  =>
      (r.readItems d path items default).mapError (.locate path place)
  | other                  => .error (reject ("struct " ++ r.name) path other)

/-- Decode a text of one document. -/
def run (decoder : Decoder α) (text : String) : Except Refusal α := do
  match ← (Document.ofText text).mapError .malformed with
  | []        => throw .empty
  | d :: rest =>
      let a ← (decoder d .root d.root).mapError .mismatched
      if rest.isEmpty then return a else throw .severalDocuments

end

end Decoder

end GraphServe.Yaml
