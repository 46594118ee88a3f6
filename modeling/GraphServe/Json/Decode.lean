import GraphServe.Json.Text
import GraphServe.Text.Mismatch
import GraphServe.Text.Quoted

/-!
# Typed reading of JSON

Decoders walk the tree of a text in reading order and stop at the first fault, be it that the text
breaks off or that a value has the wrong type.  A fault of the second sort has no position of its
own until the list or object that it arises in gives it one.

* `Json.Decoder` is a decoder, `Decoder.run` applies it to a text.
* `Decoder.value`, `string`, `unsigned`, `option`, `list`, `members` read the usual types.
* `Decoder.record` reads an object with known members, or a list of their values by position.
-/

namespace GraphServe.Json

/-- Why decoding stops; a type error may still lack a position. -/
inductive Mismatch where
  | at (fault : Fault)
  | unplaced (text : String)
deriving Repr

namespace Mismatch

/-- Give a position to a mismatch without one. -/
def place (position : Position) : Mismatch → Mismatch
  | .at f          => .at f
  | .unplaced text => .at ⟨.other text, position⟩

/-- The wording of a mismatch. -/
def message : Mismatch → String
  | .at f          => f.message
  | .unplaced text => text

end Mismatch

/-- How deep lists and objects may be nested. -/
def depthLimit : Nat := 127

/-- A decoder: from the depth of nesting still allowed and a value to what the value holds. -/
abbrev Decoder (α : Type) := Nat → Node → Except Mismatch α

/-- What a value is called when a value of another type was expected. -/
def unexpected : Json → String
  | .null     => "null"
  | .bool b   => Text.boolName b
  | .int n    => "integer `" ++ toString n ++ "`"
  | .float x  => "floating point `" ++ floatText x ++ "`"
  | .string s => "string " ++ Text.quoted s
  | .list _   => "sequence"
  | .object _ => "map"

namespace Decoder

variable {α : Type}

/-- The mismatch at a value that has another type than expected. -/
def reject (expected : String) : Node → Mismatch
  | .scalar (.ok v) finish   => .at ⟨.other (Text.invalidType (unexpected v) expected), finish⟩
  | .scalar (.error f) _     => .at f
  | .list start _            => .at ⟨.other (Text.invalidType "sequence" expected), start⟩
  | .object start _          => .at ⟨.other (Text.invalidType "map" expected), start⟩
  | .broken reading _        => .at reading

/-- Place what went wrong inside a list or object. -/
def placed (position : Position) : Except Mismatch α → Except Mismatch α
  | .ok a    => .ok a
  | .error m => .error (m.place position)

/-- Refuse to enter a list or object when no depth is left. -/
def enter (depth : Nat) (start : Position) (inside : Nat → Except Mismatch α) :
    Except Mismatch α :=
  match depth with
  | 0     => .error (.at ⟨.tooDeep, ⟨start.line, start.column + 1⟩⟩)
  | d + 1 => inside d

/-! ### Passing over values -/

mutual

/-- Pass over a value. -/
def skip : Node → Except Mismatch Unit
  | .scalar _ _        => .ok ()
  | .list _ items      => skipItems items
  | .object _ entries  => skipEntries entries
  | .broken _ skipping => .error (.at skipping)

/-- Pass over the items of a list. -/
def skipItems : Node.Items → Except Mismatch Unit
  | .close _           => .ok ()
  | .broken _ skipping => .error (.at skipping)
  | .item node _ rest  => do skip node; skipItems rest

/-- Pass over the members of an object. -/
def skipEntries : Node.Entries → Except Mismatch Unit
  | .close _               => .ok ()
  | .broken _ skipping     => .error (.at skipping)
  | .entry _ _ node _ rest => do skip node; skipEntries rest

end

/-! ### Any value -/

mutual

/-- Any value. -/
def value (depth : Nat) : Node → Except Mismatch Json
  | .scalar (.ok v) _       => .ok v
  | .scalar (.error f) _    => .error (.at f)
  | .broken reading _       => .error (.at reading)
  | .list start items       =>
      enter depth start fun d => do return .list (← valueItems d items)
  | .object start entries   =>
      enter depth start fun d => do return .object (← valueEntries d [] entries)

/-- The items of a list. -/
def valueItems (depth : Nat) : Node.Items → Except Mismatch (List Json)
  | .close _                => .ok []
  | .broken reading _       => .error (.at reading)
  | .item node resume rest  => do
      let v ← placed resume (value depth node)
      return v :: (← valueItems depth rest)

/-- The members of an object, after those already read. -/
def valueEntries (depth : Nat) (done : Members) : Node.Entries → Except Mismatch Members
  | .close _                        => .ok done
  | .broken reading _               => .error (.at reading)
  | .entry key _ node resume rest   => do
      let key ← match key with
        | .ok key  => pure key
        | .error f => .error (.at f)
      let v ← placed resume (value depth node)
      valueEntries depth (done.insert key v) rest

end

/-! ### Typed values -/

/-- A text. -/
def string : Decoder String
  | _, .scalar (.ok (.string s)) _ => .ok s
  | _, node                        => .error (reject "a string" node)

/-- A natural number below a bound, which has a name. -/
def unsigned (name : String) (bits : Nat) : Decoder Nat
  | _, .scalar (.ok (.int n)) finish =>
      if Word.isUnsigned bits n then .ok n.toNat
      else .error (.at ⟨.other (Text.invalidValue (unexpected (.int n)) name), finish⟩)
  | _, node => .error (reject name node)

/-- A value or `null`. -/
def option (inner : Decoder α) : Decoder (Option α)
  | _, .scalar (.ok .null) _ => .ok none
  | d, node                  => do return some (← inner d node)

/-- The items of a list, each read by a decoder. -/
def items (inner : Decoder α) (depth : Nat) : Node.Items → Except Mismatch (List α)
  | .close _               => .ok []
  | .broken reading _      => .error (.at reading)
  | .item node resume rest => do
      let a ← placed resume (inner depth node)
      return a :: (← items inner depth rest)

/-- A list, each item read by a decoder. -/
def list (inner : Decoder α) : Decoder (List α)
  | d, .list start content => enter d start fun d => items inner d content
  | _, node                => .error (reject "a sequence" node)

/-- The members of an object with any values. -/
def members : Decoder Members
  | d, .object start entries => enter d start fun d => valueEntries d [] entries
  | _, node                  => .error (reject "a map" node)

/-- The entries of an object, each value read by a decoder, after those already read. -/
def entries (inner : Decoder α) (depth : Nat) (done : List (String × α)) :
    Node.Entries → Except Mismatch (List (String × α))
  | .close _                      => .ok done
  | .broken reading _             => .error (.at reading)
  | .entry key _ node resume rest => do
      let key ← match key with
        | .ok key  => pure key
        | .error f => .error (.at f)
      let a ← placed resume (inner depth node)
      let replace (entry : String × α) : String × α := if entry.1 = key then (key, a) else entry
      entries inner depth
        (if done.any (·.1 = key) then done.map replace else done ++ [(key, a)]) rest

/-- The entries of an object, each value read by a decoder; a key that comes again replaces the
value it had. -/
def dictionary (inner : Decoder α) : Decoder (List (String × α))
  | d, .object start content => enter d start fun d => entries inner d [] content
  | _, node                  => .error (reject "a map" node)

/-! ### Records -/

/-- How a record is read: its name in messages, and its members in order, each with the reader that
puts the member's value into the record. -/
structure Record (α : Type) where
  name    : String
  members : List (String × (α → Decoder α))
  /-- The members that must be there. -/
  required : List String := []

namespace Record

variable (r : Record α)

/-- The reader of a member. -/
def reader? (key : String) : Option (α → Decoder α) :=
  (r.members.find? (·.1 = key)).map (·.2)

/-- Read the members of an object into the record; `seen` are the keys that came already. -/
def readEntries (depth : Nat) (seen : List String) (record : α) :
    Node.Entries → Except Mismatch α
  | .close after      =>
      match r.required.find? (· ∉ seen) with
      | some key => .error (.at ⟨.other ("missing field `" ++ key ++ "`"), after⟩)
      | none     => .ok record
  | .broken reading _ => .error (.at reading)
  | .entry key keyResume node resume rest => do
      let key ← match key with
        | .ok key  => pure key
        | .error f => .error (.at f)
      match r.reader? key with
      | none      => skip node; readEntries depth seen record rest
      | some read =>
          if key ∈ seen then
            .error (.at ⟨.other (Text.duplicateField key), keyResume⟩)
          else
            let record ← placed resume (read record depth node)
            readEntries depth (key :: seen) record rest

/-- The fault of a list that goes on after the last member was read. -/
def overrun (f : Fault) : Fault :=
  match f.problem with
  | .expectedListCommaOrEnd | .endOfValue => { f with problem := .trailingCharacters }
  | _                                     => f

/-- Read the items of a list into the record, member by member.  `count` of them were read, and
`previous` is where a fault in the last one stands. -/
def readItems (depth : Nat) (record : α) (count : Nat) (previous : Position) :
    List (String × (α → Decoder α)) → Node.Items → Except Mismatch α
  | [],                   .close _          => .ok record
  | [],                   .broken reading _ => .error (.at (overrun reading))
  | [],                   .item _ _ _       =>
      .error (.at ⟨.trailingCharacters, ⟨previous.line, previous.column + 1⟩⟩)
  | (key, _) :: _,        .close after      =>
      if key ∈ r.required then
        .error (.at ⟨.other ("invalid length " ++ toString count ++ ", expected struct " ++ r.name
          ++ " with " ++ toString r.members.length
          ++ (if r.members.length = 1 then " element" else " elements")), after⟩)
      else .ok record
  | _ :: _,               .broken reading _ => .error (.at reading)
  | (_, read) :: members, .item node resume rest => do
      let record ← placed resume (read record depth node)
      readItems depth record (count + 1) resume members rest

end Record

/-- A record, from its members or from the list of their values. -/
def record (r : Record α) (default : α) : Decoder α
  | d, .object start entries => enter d start fun d => r.readEntries d [] default entries
  | d, .list start content   =>
      enter d start fun d => r.readItems d default 0 start r.members content
  | _, node                  => .error (reject ("struct " ++ r.name) node)

/-- Decode a whole text. -/
def run (decoder : Decoder α) (bytes : List UInt8) : Except Mismatch α :=
  let document := Document.read bytes
  match decoder depthLimit document.root, document.trailing with
  | .error m, _       => .error m
  | .ok _,    some f  => .error (.at f)
  | .ok a,    none    => .ok a

end Decoder

/-- The value of a whole text. -/
def parse? (bytes : List UInt8) : Except Mismatch Json := Decoder.run Decoder.value bytes

end GraphServe.Json
