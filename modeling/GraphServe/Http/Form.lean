import GraphServe.Http.ContentType
import GraphServe.Http.Message
import GraphServe.Text.Utf8

/-!
# Forms with files

A body of type `multipart/form-data` as it arrives: parts between delimiters, each with a header and
data.  A reader holds what arrived and was not read yet, and receives more while a step lacks bytes.

* `FormReader.nextPart` goes to the next part and reads its header.
* `FormReader.foldData` goes over the data of a part, piece by piece as it arrives.
* `FormReader.data` is all of it.
-/

namespace GraphServe.Http

/-- Why a form cannot be read. -/
inductive FormFault where
  /-- It is no form, or it breaks off. -/
  | malformed
  /-- It has more bytes than are allowed. -/
  | tooLarge
deriving DecidableEq, Repr

/-! ### Bytes -/

/-- What stands before the first place where a pattern stands, and what follows from there. -/
def cutAt (pattern : List UInt8) : List UInt8 → List UInt8 → Option (List UInt8 × List UInt8)
  | before, text =>
      if pattern.isPrefixOf text then some (before.reverse, text)
      else match text with
        | []        => none
        | b :: rest => cutAt pattern (b :: before) rest

/-- What stands before the first place from where on a text could be the start of a pattern, and
what follows from there. -/
def cutHeld (pattern : List UInt8) : List UInt8 → List UInt8 → List UInt8 × List UInt8
  | before, []        => (before.reverse, [])
  | before, b :: rest =>
      if (b :: rest).isPrefixOf pattern then (before.reverse, b :: rest)
      else cutHeld pattern (b :: before) rest

/-- The first bytes of a text, if it has so many, and the rest. -/
def takeExactly (count : Nat) (text : List UInt8) : Option (List UInt8 × List UInt8) :=
  if count ≤ text.length then some (text.splitAt count) else none

/-- The end of a line. -/
def lineEnd : List UInt8 := [13, 10]

/-- A blank. -/
def isBlankByte (b : UInt8) : Bool := b == 32 || b == 9

/-! ### Headers of parts -/

/-- A part of a form: what its header says. -/
structure Part where
  name         : String := ""
  /-- There is one exactly if the part is a file. -/
  filename?    : Option String := none
  contentType? : Option ContentType := none
deriving Inhabited, Repr

/-- The most fields that the header of a part may have. -/
def maxPartFields : Nat := 32

/-- The lines of a header; each ends in a line feed, with or without a carriage return. -/
def headerLines : List UInt8 → List UInt8 → List (List UInt8)
  | _,       []         => []
  | current, 10 :: rest =>
      (match current with
        | 13 :: line => line.reverse
        | line       => line.reverse) :: headerLines [] rest
  | current, b :: rest  => headerLines (b :: current) rest

/-- A field of a header: a name, a colon right after it, and a value without blanks around it. -/
def headerField? (line : List UInt8) : Option (String × List UInt8) :=
  let name := line.takeWhile fun b => b < 128 && MediaType.isTokenChar (Char.ofNat b.toNat)
  match name, line.drop name.length with
  | _ :: _, 58 :: value =>
      if value.all fun b => b == 9 || (32 ≤ b && b != 127) then
        let value := ((value.dropWhile isBlankByte).reverse.dropWhile isBlankByte).reverse
        some (Headers.lower (Text.decodeLossy name), value)
      else none
  | _,      _           => none

/-- The fields of a header, up to its first empty line. -/
def headerFields? (header : List UInt8) : Option (List (String × List UInt8)) := do
  let fields ← ((headerLines [] header).takeWhile (!·.isEmpty)).mapM headerField?
  guard (fields.length ≤ maxPartFields)
  return fields

/-- Whether a byte is blank in the attributes of a disposition. -/
def isSpaceByte (b : UInt8) : Bool := [9, 10, 12, 13, 32].contains b

/-- A quoted value up to its closing quote; a quote after a backslash is part of the value. -/
def quotedValue? : List UInt8 → List UInt8 → Option (List UInt8)
  | _,      []               => none
  | before, 92 :: 34 :: rest => quotedValue? (34 :: before) rest
  | before, b :: rest        =>
      if b = 34 then some before.reverse else quotedValue? (b :: before) rest

/-- The value of an attribute after its name. -/
def attributeValue? (text : List UInt8) : Option (List UInt8) :=
  match text.dropWhile isSpaceByte with
  | 61 :: value =>
      match value.dropWhile isSpaceByte with
      | 34 :: quoted => quotedValue? [] quoted
      | bare         => some (bare.takeWhile fun b => b != 59 && b != 32)
  | _           => none

/-- The value of an attribute in the text of a disposition, after `passed` bytes.  Its name stands
at the start or after a blank or a semicolon; `previous` is the byte before the text.  Where the
name is found inside of another word, what follows it is taken for a start. -/
def attribute? (name : List UInt8) : Nat → Option UInt8 → List UInt8 → Option (List UInt8)
  | _,          _,        []        => none
  | passed + 1, _,        _ :: rest => attribute? name passed none rest
  | 0,          previous, b :: rest =>
      if name.isPrefixOf (b :: rest) then
        if previous.all fun p => isSpaceByte p || p == 59 then
          attributeValue? ((b :: rest).drop name.length)
        else attribute? name (name.length - 1) none rest
      else attribute? name 0 (some b) rest

/-- The text of bytes that are all visible or blank. -/
def visibleText? (bytes : List UInt8) : Option String :=
  if bytes.all fun b => b == 9 || (32 ≤ b && b < 127) then some (Text.decodeLossy bytes) else none

/-- A part as the fields of its header describe it; of fields of one name the last counts. -/
def Part.ofFields (fields : List (String × List UInt8)) : Part :=
  let last (name : String) : Option (List UInt8) := fields.reverse.lookup name
  let attributeText (name : String) : Option String :=
    ((last "content-disposition").bind (attribute? (Text.bytes name) 0 none)).bind Text.decode?
  { name := (attributeText "name").getD ""
    filename? := attributeText "filename"
    contentType? := ((last "content-type").bind visibleText?).bind ContentType.read? }

/-! ### Readers -/

/-- Where in a form a reader is. -/
inductive FormStage where
  /-- Before the first delimiter. -/
  | opening
  /-- Right before a delimiter. -/
  | delimiter
  /-- In the data of a part. -/
  | data
  /-- After the last delimiter. -/
  | closed
deriving DecidableEq, Repr

/-- Reads a form while it arrives. -/
structure FormReader where
  /-- The bytes between two hyphens and the end of the line that separates parts. -/
  boundary : List UInt8
  /-- The most bytes that the form may have. -/
  limit    : Nat
  stage    : FormStage := .opening
  /-- What arrived and was not read yet. -/
  buffer   : List UInt8 := []
  /-- What did not arrive yet. -/
  coming   : List Chunk
  /-- Whether the next of it is there for the taking. -/
  ready    : Bool
  /-- Whether all of it arrived. -/
  ended    : Bool := false
  /-- The number of bytes that arrived. -/
  received : Nat := 0

namespace FormReader

/-- A reader at the start of a body. -/
def ofBody (boundary : String) (limit : Nat) : Body → FormReader
  | .whole bytes   =>
      { boundary := Text.bytes boundary, limit, coming := [.bytes bytes], ready := true }
  | .chunks pieces => { boundary := Text.bytes boundary, limit, coming := pieces, ready := false }

/-- What separates parts. -/
def delimiter (r : FormReader) : List UInt8 := [45, 45] ++ r.boundary

/-- How many times something can still arrive. -/
def pending (r : FormReader) : Nat :=
  2 * r.coming.length + (if r.ready then 0 else 1) + (if r.ended then 0 else 1)

/-- Receive what is there; nothing new comes after the end. -/
def receive (r : FormReader) : Except FormFault FormReader :=
  if r.ended then .ok r
  else match r.coming with
    | []            => .ok { r with ended := true }
    | chunk :: rest =>
        if !r.ready then .ok { r with ready := true }
        else match chunk with
          | .failure _   => .error .malformed
          | .bytes bytes =>
              let received := r.received + bytes.length
              if r.limit < received then .error .tooLarge
              else .ok { r with
                buffer := r.buffer ++ bytes, coming := rest, received, ended := rest.isEmpty }

/-- Before the end, receiving brings it nearer. -/
theorem pending_receive {r s : FormReader} (h : r.receive = .ok s) (open_ : r.ended = false) :
    s.pending < r.pending := by
  unfold receive at h
  rw [if_neg (by simp [open_])] at h
  split at h
  · rename_i empty
    cases h
    simp [pending, open_]
  · rename_i chunk rest more
    split at h
    · rename_i notReady
      cases h
      have : r.ready = false := by simpa using notReady
      simp [pending, open_, this]
    · rename_i ready
      have : r.ready = true := by simpa using ready
      split at h
      · cases h
      · dsimp only at h
        split at h
        · cases h
        · cases h
          have : (if rest.isEmpty = true then 0 else 1) ≤ 1 := by split <;> omega
          simp only [pending, open_, ‹r.ready = true›, more, List.length_cons, if_true,
            Bool.false_eq_true, if_false]
          omega

/-- Receive until a step has the bytes that it needs. -/
def await {α : Type} (step : List UInt8 → Option (α × List UInt8)) (r : FormReader) :
    Except FormFault (α × FormReader) :=
  match step r.buffer with
  | some (a, rest) => .ok (a, { r with buffer := rest })
  | none           =>
      if _ : r.ended = true then .error .malformed
      else match _ : r.receive with
        | .error fault => .error fault
        | .ok s        => await step s
termination_by r.pending
decreasing_by
  rename_i open_ received
  exact pending_receive received (by simpa using open_)

/-- Find the first delimiter.  What comes last does not open a form, unless it is all there is. -/
def seek (r : FormReader) : Except FormFault FormReader :=
  match cutAt r.delimiter [] r.buffer with
  | some (_, rest) => .ok { r with stage := .delimiter, buffer := rest }
  | none           =>
      if _ : r.ended = true then .error .malformed
      else match _ : r.receive with
        | .error fault => .error fault
        | .ok s        =>
            if _ : s.ended = true then .error .malformed
            else match _ : s.receive with
              | .error fault => .error fault
              | .ok t        => seek t
termination_by r.pending
decreasing_by
  rename_i open_ received stillOpen again
  have first := pending_receive received (by simpa using open_)
  have second := pending_receive again (by simpa using stillOpen)
  omega

/-- Go over the data of a part, piece by piece as it arrives, up to the next delimiter. -/
def foldData {ε σ : Type} (fault : FormFault → ε) (step : σ → List UInt8 → Except ε σ) (state : σ)
    (r : FormReader) : Except ε (σ × FormReader) :=
  match _ : r.receive with
  | .error f => .error (fault f)
  | .ok s    =>
      match cutAt (lineEnd ++ s.delimiter) [] s.buffer with
      | some (piece, rest) => do
          return (← step state piece,
            { s with stage := .delimiter, buffer := rest.drop lineEnd.length })
      | none =>
          if _ : s.ended = true then .error (fault .malformed)
          else do
            let (piece, held) := cutHeld (lineEnd ++ s.delimiter) [] s.buffer
            let state ← step state piece
            foldData fault step state { s with buffer := held }
termination_by r.pending
decreasing_by
  rename_i received closed
  have open_ : r.ended = false := by
    cases ended : r.ended with
    | false => rfl
    | true =>
        rw [receive, if_pos ended] at received
        cases received
        exact absurd ended closed
  exact (pending_receive received open_ :)

/-- All data of a part. -/
def data (r : FormReader) : Except FormFault (List UInt8 × FormReader) := do
  let (pieces, r) ← r.foldData id (fun done piece => .ok (piece :: done)) []
  return (pieces.reverse.flatten, r)

/-- Go to the next delimiter, past the data of a part that was not read. -/
def advance (r : FormReader) : Except FormFault FormReader :=
  match r.stage with
  | .opening => do (← r.receive).seek
  | .data    => do return (← r.foldData id (fun _ _ => .ok ()) ()).2
  | _        => r.receive

/-- Read the header of a part. -/
def header (r : FormReader) : Except FormFault (Part × FormReader) := do
  let (_, r) ← r.await fun text =>
    match text.dropWhile isBlankByte with
    | []   => none
    | rest => some ((), rest)
  let (ending, r) ← r.await (takeExactly 2)
  if ending ≠ lineEnd then throw .malformed
  let (block, r) ← r.await fun text =>
    (cutAt (lineEnd ++ lineEnd) [] text).map fun (before, rest) =>
      (before ++ lineEnd ++ lineEnd, rest.drop 4)
  match headerFields? block with
  | none        => throw .malformed
  | some fields => return (Part.ofFields fields, { r with stage := .data })

/-- Go to the next part and read its header; after the last there is none. -/
def nextPart (r : FormReader) : Except FormFault (Option Part × FormReader) := do
  if r.stage = .closed then return (none, r)
  let r ← r.advance
  let (found, r) ← r.await (takeExactly r.delimiter.length)
  if found ≠ r.delimiter then throw .malformed
  let (next, r) ← r.await fun text => (takeExactly 2 text).map fun (next, _) => (next, text)
  if next = [45, 45] then return (none, { r with stage := .closed })
  let (part, r) ← r.header
  return (some part, r)

end FormReader

end GraphServe.Http
