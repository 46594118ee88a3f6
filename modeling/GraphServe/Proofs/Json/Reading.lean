import GraphServe.Proofs.Json.RoundTrip

/-!
# Reading JSON — what is read can be written

Whatever bytes are read, the scalars of the tree are words of sixty-four bits, finite doubles, texts
and literals (`Json.Node.IsSound`), and a key that comes again replaces what it had.  So what is made
of the tree is a value that a text can hold (`Json.isWritable_of_parse?`), and the values that are
read from their own texts are these and no others, as long as they are not nested too deep
(`Json.parse?_text_iff`).
-/

namespace GraphServe.Json

/-! ### Scalars -/

/-- What a scan ends with has a property. -/
def Scan.Gives {α : Type} (P : α → Prop) : Scan α → Prop
  | .done value _ => P value
  | _             => True

/-- A scalar that a text can hold. -/
def IsLeaf (v : Json) : Prop := v.IsScalar ∧ v.IsWritable

theorem scanWord_gives {v : Json} (h : v.IsLeaf) (word : List UInt8) (c : Cursor) :
    (scanWord v word c).Gives IsLeaf := by
  induction word generalizing c with
  | nil => exact h
  | cons expected more ih =>
      rw [scanWord]
      split
      · trivial
      · split
        · exact ih c.next
        · trivial

theorem scanFloat_gives (negative : Bool) (digits : List UInt8) (exponent : Int) (c : Cursor) :
    (scanFloat negative digits exponent c).Gives IsLeaf := by
  rw [scanFloat]
  split
  · rename_i h
    exact ⟨trivial, .float h⟩
  · trivial

theorem scanExponent_gives (negative : Bool) (digits : List UInt8) (exponent : Int) (c : Cursor) :
    (scanExponent negative digits exponent c).Gives IsLeaf := by
  unfold scanExponent
  dsimp only
  split
  · trivial
  · split
    · split
      · trivial
      · exact scanFloat_gives _ _ _ _
    · trivial

/-- An integer is a word, of which a minus sign is the sign. -/
theorem scanFraction_gives (negative : Bool) (digits : List UInt8) (c : Cursor) :
    (scanFraction negative digits c).Gives IsLeaf := by
  unfold scanFraction
  dsimp only
  split
  · split
    · trivial
    · split
      · exact scanExponent_gives _ _ _ _
      · exact scanFloat_gives _ _ _ _
  · split
    · exact scanExponent_gives _ _ _ _
    · split
      · rename_i h
        rw [Bool.and_eq_true, isUnsigned_iff] at h
        exact ⟨trivial, .int (by omega) h.2.2⟩
      · split
        · rename_i h
          rw [Bool.and_eq_true, isSigned_iff] at h
          exact ⟨trivial, .int h.2.1 (by omega)⟩
        · exact scanFloat_gives _ _ _ _

theorem scanNumber_gives (negative : Bool) (c : Cursor) :
    (scanNumber negative c).Gives IsLeaf := by
  unfold scanNumber
  split
  · trivial
  · split
    · split
      · trivial
      · exact scanFraction_gives _ _ _
    · split
      · exact scanFraction_gives _ _ _
      · trivial

theorem scanScalar_gives (fuel : Nat) (c : Cursor) : (scanScalar fuel c).Gives IsLeaf := by
  unfold scanScalar
  split
  · trivial
  · repeat' split
    · exact scanWord_gives (v := .null) ⟨trivial, .null⟩ _ _
    · exact scanWord_gives (v := .bool true) ⟨trivial, .bool true⟩ _ _
    · exact scanWord_gives (v := .bool false) ⟨trivial, .bool false⟩ _ _
    · exact scanNumber_gives _ _
    · exact scanNumber_gives _ _
    · cases scanString none [] fuel c.next with
      | done s rest => exact ⟨trivial, .string s⟩
      | unreadable f rest => trivial
      | broken reading skipping => trivial
    · trivial

/-! ### Trees -/

mutual

/-- The scalars of a tree are ones that a text can hold. -/
inductive Node.IsSound : Node → Prop where
  | scalar {v : Json} (h : v.IsLeaf) (finish : Position) : Node.IsSound (.scalar (.ok v) finish)
  | unreadable (f : Fault) (finish : Position) : Node.IsSound (.scalar (.error f) finish)
  | broken (reading skipping : Fault) : Node.IsSound (.broken reading skipping)
  | list {items : Node.Items} (start : Position) (h : ItemsSound items) :
      Node.IsSound (.list start items)
  | object {entries : Node.Entries} (start : Position) (h : EntriesSound entries) :
      Node.IsSound (.object start entries)

inductive ItemsSound : Node.Items → Prop where
  | close (after : Position) : ItemsSound (.close after)
  | broken (reading skipping : Fault) : ItemsSound (.broken reading skipping)
  | item {node : Node} {rest : Node.Items} (resume : Position) (first : Node.IsSound node)
      (h : ItemsSound rest) : ItemsSound (.item node resume rest)

inductive EntriesSound : Node.Entries → Prop where
  | close (after : Position) : EntriesSound (.close after)
  | broken (reading skipping : Fault) : EntriesSound (.broken reading skipping)
  | entry {node : Node} {rest : Node.Entries} (key : Except Fault String)
      (keyResume resume : Position) (first : Node.IsSound node) (h : EntriesSound rest) :
      EntriesSound (.entry key keyResume node resume rest)

end

theorem Scan.Gives.toNode {scan : Scan Json} (h : scan.Gives IsLeaf) : scan.toNode.1.IsSound := by
  cases scan with
  | done v rest => exact .scalar h rest.position
  | unreadable f rest => exact .unreadable f rest.position
  | broken reading skipping => exact .broken reading skipping

mutual

/-- A tree that is read has no other scalars. -/
theorem readNode_isSound : ∀ (fuel : Nat) (c : Cursor), (readNode fuel c).1.IsSound
  | 0,        _ => .broken _ _
  | fuel + 1, c => by
      rw [readNode]
      dsimp only
      split
      · exact .list _ (readItems_sound fuel true _)
      · split
        · exact .object _ (readEntries_sound fuel true _)
        · exact (scanScalar_gives _ _).toNode

theorem readItems_sound : ∀ (fuel : Nat) (first : Bool) (c : Cursor),
    ItemsSound (readItems fuel first c).1
  | 0,        _,     _ => .broken _ _
  | fuel + 1, first, c => by
      rw [readItems]
      dsimp only
      repeat' split
      all_goals first
        | exact .broken _ _
        | exact .close _
        | exact readItem_sound fuel _

theorem readItem_sound : ∀ (fuel : Nat) (c : Cursor), ItemsSound (readItem fuel c).1
  | 0,        _ => .broken _ _
  | fuel + 1, c => by
      have hnode := readNode_isSound fuel c
      rw [readItem]
      split
      · rename_i node heq
        rw [heq] at hnode
        exact .item _ hnode (.close _)
      · rename_i node d heq
        rw [heq] at hnode
        exact .item _ hnode (readItems_sound fuel false d)

theorem readEntries_sound : ∀ (fuel : Nat) (first : Bool) (c : Cursor),
    EntriesSound (readEntries fuel first c).1
  | 0,        _,     _ => .broken _ _
  | fuel + 1, first, c => by
      rw [readEntries]
      dsimp only
      repeat' split
      all_goals first
        | exact .broken _ _
        | exact .close _
        | exact readEntry_sound fuel _

theorem readEntry_sound : ∀ (fuel : Nat) (c : Cursor), EntriesSound (readEntry fuel c).1
  | 0,        _ => .broken _ _
  | fuel + 1, c => by
      have hvalue (key : Except Fault String) (d : Cursor) (resume : Position) :
          EntriesSound (match readNode fuel d with
            | (node, none)   => (Node.Entries.entry key resume node resume (.close resume), none)
            | (node, some e) =>
                (.entry key resume node (resumeInObject e) (readEntries fuel false e).1,
                  (readEntries fuel false e).2)).1 := by
        have hnode := readNode_isSound fuel d
        split
        · rename_i node heq
          rw [heq] at hnode
          exact .entry key _ _ hnode (.close _)
        · rename_i node e heq
          rw [heq] at hnode
          exact .entry key _ _ hnode (readEntries_sound fuel false e)
      have hstop (key : Except Fault String) (f : Fault) (resume : Position) :
          EntriesSound (.entry key resume (.broken f f) resume (.close resume)) :=
        .entry key _ _ (.broken f f) (.close _)
      rw [readEntry]
      dsimp only
      split
      · split
        · exact hstop _ _ _
        · split
          · exact hvalue _ _ _
          · exact hstop _ _ _
      · split
        · exact hstop _ _ _
        · split
          · exact hvalue _ _ _
          · exact hstop _ _ _
      · exact .broken _ _

end

/-! ### Values -/

namespace Decoder

theorem placed_eq_ok {α : Type} {position : Position} {r : Except Mismatch α} {a : α}
    (h : placed position r = .ok a) : r = .ok a := by
  cases r with
  | error m => cases h
  | ok b => exact h

mutual

/-- What is read from such a tree can be written, and is not nested deeper than is allowed. -/
theorem value_sound {node : Node} {v : Json} {depth : Nat} (hnode : node.IsSound)
    (h : value depth node = .ok v) : v.IsWritable ∧ v.NestsWithin depth := by
  cases hnode with
  | unreadable f finish => rw [value] at h; cases h
  | broken reading skipping => rw [value] at h; cases h
  | scalar hleaf finish =>
      rw [value, Except.ok.injEq] at h
      subst h
      exact ⟨hleaf.2, .scalar hleaf.1⟩
  | @list items start hitems =>
      cases depth with
      | zero => rw [value, enter] at h; cases h
      | succ depth =>
          rw [value, enter] at h
          cases hvalues : valueItems depth items with
          | error m => rw [hvalues] at h; cases h
          | ok values =>
              rw [hvalues] at h
              cases h
              have hbelow := valueItems_sound hitems hvalues
              exact ⟨.list fun v hv => (hbelow v hv).1, .list fun v hv => (hbelow v hv).2⟩
  | @object entries start hentries =>
      cases depth with
      | zero => rw [value, enter] at h; cases h
      | succ depth =>
          rw [value, enter] at h
          cases hmembers : valueEntries depth [] entries with
          | error m => rw [hmembers] at h; cases h
          | ok members =>
              rw [hmembers] at h
              cases h
              obtain ⟨distinct, hbelow⟩ := valueEntries_sound [] hentries hmembers List.nodup_nil
                fun m hm => absurd hm List.not_mem_nil
              exact ⟨.object distinct fun m hm => (hbelow m hm).1,
                .object fun m hm => (hbelow m hm).2⟩

theorem valueItems_sound {items : Node.Items} {values : List Json} {depth : Nat}
    (hitems : ItemsSound items) (h : valueItems depth items = .ok values) :
    ∀ v ∈ values, v.IsWritable ∧ v.NestsWithin depth := by
  cases hitems with
  | broken reading skipping => rw [valueItems] at h; cases h
  | close after =>
      rw [valueItems, Except.ok.injEq] at h
      subst h
      exact fun v hv => absurd hv List.not_mem_nil
  | @item node rest resume hfirst hrest =>
      rw [valueItems] at h
      cases hv : placed resume (value depth node) with
      | error m => rw [hv] at h; cases h
      | ok v =>
          cases hvalues : valueItems depth rest with
          | error m => rw [hv, hvalues] at h; cases h
          | ok values =>
              rw [hv, hvalues] at h
              cases h
              exact List.forall_mem_cons.mpr
                ⟨value_sound hfirst (placed_eq_ok hv), valueItems_sound hrest hvalues⟩

/-- Each key is there once, as a key that comes again replaces what it had. -/
theorem valueEntries_sound {entries : Node.Entries} {members : Members} {depth : Nat}
    (done : Members) (hentries : EntriesSound entries)
    (h : valueEntries depth done entries = .ok members) (distinct : (done.map Prod.fst).Nodup)
    (hdone : ∀ m ∈ done, m.2.IsWritable ∧ m.2.NestsWithin depth) :
    (members.map Prod.fst).Nodup ∧ ∀ m ∈ members, m.2.IsWritable ∧ m.2.NestsWithin depth := by
  cases hentries with
  | broken reading skipping => rw [valueEntries] at h; cases h
  | close after =>
      rw [valueEntries, Except.ok.injEq] at h
      subst h
      exact ⟨distinct, hdone⟩
  | @entry node rest key keyResume resume hfirst hrest =>
      cases key with
      | error f => rw [valueEntries] at h; cases h
      | ok key =>
          rw [valueEntries] at h
          cases hv : placed resume (value depth node) with
          | error m => rw [hv] at h; cases h
          | ok v =>
              rw [hv] at h
              refine valueEntries_sound (done.insert key v) hrest h (Members.nodup_insert distinct key v) ?_
              intro m hm
              rcases Members.mem_insert hm with hm | hm
              · exact hdone m hm
              · rw [hm]
                exact value_sound hfirst (placed_eq_ok hv)

end

end Decoder

theorem Document.read_isSound (bytes : List UInt8) : (Document.read bytes).root.IsSound := by
  have h := readNode_isSound (4 * bytes.length + 4) (.start bytes)
  rw [Document.read]
  split
  · rename_i root heq
    rw [heq] at h
    exact h
  · rename_i root c heq
    rw [heq] at h
    exact h

/-- **What is read can be written**, whatever the bytes are. -/
theorem isWritable_of_parse? {bytes : List UInt8} {v : Json} (h : parse? bytes = .ok v) :
    v.IsWritable ∧ v.NestsWithin depthLimit := by
  rw [parse?, Decoder.run] at h
  cases hvalue : Decoder.value depthLimit (Document.read bytes).root with
  | error m =>
      simp only [hvalue] at h
      cases h
  | ok w =>
      have hsound := Decoder.value_sound (Document.read_isSound bytes) hvalue
      cases htrailing : (Document.read bytes).trailing with
      | some f =>
          simp only [hvalue, htrailing] at h
          cases h
      | none =>
          simp only [hvalue, htrailing] at h
          cases h
          exact hsound

/-- **The values that are read from their texts** are those that can be written and are not nested
too deep. -/
theorem parse?_text_iff {v : Json} :
    parse? v.text = .ok v ↔ v.IsWritable ∧ v.NestsWithin depthLimit := by
  constructor
  · exact isWritable_of_parse?
  · rintro ⟨h, nests⟩
    exact parse?_text h nests

/-- What was written as a value that is read from its text is restored. -/
theorem Decoder.Restores.run {α : Type} {decoder : Decoder α} {v : Json} {a : α}
    (h : Restores decoder v a) (hv : parse? v.text = .ok v) : Decoder.run decoder v.text = .ok a := by
  obtain ⟨hwritable, nests⟩ := parse?_text_iff.mp hv
  refine run_of_spells (spells_text hwritable) ?_
  intro node hnode
  exact h depthLimit node hnode nests

end GraphServe.Json
