import GraphServe.Proofs.Http.Form

/-!
# Forms with files — data as it arrives

The data of a part comes in chunks: a reader hands on what has arrived, but for what may be the
beginning of the next delimiter (`FormReader.Yields`).  Going over the data of a part is a fold over
its chunks (`Yields.foldData`), and where it succeeds there are chunks that it went over
(`exists_yields_of_foldData`).

**Data does not depend on how it arrives** (`Brings.exists_yields`).  If all of a part and of the
delimiter after it is in the reader or arrives in it, in whichever pieces, the chunks put together
are the data of the part.  A chunk may be empty or a single byte, and the delimiter may be torn
apart: what is held back of a chunk is handed on with a later one.
-/

namespace GraphServe.Http

/-! ### Cutting what has arrived -/

section

variable {pattern before text : List UInt8} {cut : List UInt8 × List UInt8}

theorem cutAt_nil (h : ¬ pattern <+: []) : cutAt pattern before [] = none := by
  rw [cutAt.eq_def]
  exact if_neg fun h' => h (List.isPrefixOf_iff_prefix.mp h')

/-- What was passed over before stands before the cut. -/
theorem cutAt_eq_map (pattern before text : List UInt8) :
    cutAt pattern before text =
      (cutAt pattern [] text).map fun cut => (before.reverse ++ cut.1, cut.2) := by
  induction text generalizing before with
  | nil =>
      by_cases h : pattern <+: []
      · simp [ cutAt_of_prefix _ h]
      · simp [cutAt_nil h]
  | cons b text ih =>
      by_cases h : pattern <+: b :: text
      · simp [ cutAt_of_prefix _ h]
      · rw [cutAt_cons _ h, cutAt_cons _ h, ih, ih [b], Option.map_map]
        simp [Function.comp_def]

/-- The pattern stands at the cut, and nothing is lost. -/
theorem prefix_of_cutAt (h : cutAt pattern before text = some cut) :
    pattern <+: cut.2 ∧ cut.2 <:+ text := by
  induction text generalizing before with
  | nil =>
      by_cases hp : pattern <+: []
      · rw [ cutAt_of_prefix _ hp] at h
        cases h
        exact ⟨hp, List.suffix_rfl⟩
      · rw [cutAt_nil hp] at h
        cases h
  | cons b text ih =>
      by_cases hp : pattern <+: b :: text
      · rw [ cutAt_of_prefix _ hp] at h
        cases h
        exact ⟨hp, List.suffix_rfl⟩
      · rw [cutAt_cons _ hp] at h
        obtain ⟨hcut, hsuffix⟩ := ih h
        exact ⟨hcut, hsuffix.trans (List.suffix_cons b text)⟩

/-- A pattern that was found is found in the same place when more arrives. -/
theorem cutAt_append_of_some (h : cutAt pattern before text = some cut) (more : List UInt8) :
    cutAt pattern before (text ++ more) = some (cut.1, cut.2 ++ more) := by
  induction text generalizing before with
  | nil =>
      by_cases hp : pattern <+: []
      · rw [ cutAt_of_prefix _ hp] at h
        cases h
        exact cutAt_of_prefix _ (hp.trans List.nil_prefix)
      · rw [cutAt_nil hp] at h
        cases h
  | cons b text ih =>
      by_cases hp : pattern <+: b :: text
      · rw [ cutAt_of_prefix _ hp] at h
        cases h
        exact cutAt_of_prefix _ (hp.trans (List.prefix_append _ _))
      · rw [cutAt_cons _ hp] at h
        -- the pattern is no longer than what it was found in, so it would stand here already
        have hpass : ¬ pattern <+: b :: (text ++ more) := by
          intro hmore
          obtain ⟨hcut, hsuffix⟩ := prefix_of_cutAt h
          refine hp (List.prefix_of_prefix_length_le hmore (List.prefix_append (b :: text) more) ?_)
          exact Nat.le_succ_of_le (Nat.le_trans hcut.length_le hsuffix.length_le)
        rw [List.cons_append, cutAt_cons _ hpass]
        exact ih h

/-- A pattern that was not found does not begin in what is handed on, whatever arrives. -/
theorem cutAt_append_of_none (h : cutAt pattern before text = none) (more : List UInt8) :
    cutAt pattern before (text ++ more) =
      cutAt pattern (cutHeld pattern before text).1.reverse
        ((cutHeld pattern before text).2 ++ more) := by
  induction text generalizing before with
  | nil => simp [cutHeld]
  | cons b text ih =>
      have hp : ¬ pattern <+: b :: text := by
        intro hp
        rw [ cutAt_of_prefix _ hp] at h
        cases h
      rw [cutAt_cons _ hp] at h
      rw [cutHeld]
      split
      · simp
      · rename_i hheld
        -- the text is too short for the pattern, or it would be held back
        have hpass : ¬ pattern <+: b :: (text ++ more) := by
          intro hmore
          rcases List.prefix_or_prefix_of_prefix hmore (List.prefix_append (b :: text) more)
            with hmore | hmore
          · exact hp hmore
          · exact hheld (List.isPrefixOf_iff_prefix.mpr hmore)
        rw [List.cons_append, cutAt_cons _ hpass]
        exact ih h

theorem cutHeld_append (pattern before text : List UInt8) :
    (cutHeld pattern before text).1 ++ (cutHeld pattern before text).2 = before.reverse ++ text := by
  induction text generalizing before with
  | nil => simp [cutHeld]
  | cons b text ih =>
      rw [cutHeld]
      split
      · rfl
      · simp [ih]

end

namespace FormReader

/-! ### Chunks -/

section

variable {ε σ : Type} {fault : FormFault → ε} {step : σ → List UInt8 → Except ε σ}
  {r s after : FormReader} {piece rest held : List UInt8}

theorem foldData_of_cut (hreceive : r.receive = .ok s)
    (hcut : cutAt (lineEnd ++ s.delimiter) [] s.buffer = some (piece, rest)) (state : σ) :
    r.foldData fault step state = (step state piece).map
      (·, { s with stage := .delimiter, buffer := rest.drop lineEnd.length }) := by
  rw [foldData]
  split
  · rename_i h
    cases hreceive.symm.trans h
  · rename_i h
    cases hreceive.symm.trans h
    simp only [hcut]
    rfl

theorem foldData_of_held (hreceive : r.receive = .ok s)
    (hcut : cutAt (lineEnd ++ s.delimiter) [] s.buffer = none) (hended : ¬ s.ended = true)
    (hheld : cutHeld (lineEnd ++ s.delimiter) [] s.buffer = (piece, held)) (state : σ) :
    r.foldData fault step state = (step state piece).bind
      fun state => foldData fault step state { s with buffer := held } := by
  rw [foldData]
  split
  · rename_i h
    cases hreceive.symm.trans h
  · rename_i h
    cases hreceive.symm.trans h
    simp only [hcut, dif_neg hended, hheld]
    rfl

/-- The chunks that a reader hands on of the data of a part, and the reader after the last. -/
inductive Yields : FormReader → List (List UInt8) → FormReader → Prop where
  | last {r s : FormReader} {piece rest : List UInt8} (receive : r.receive = .ok s)
      (cut : cutAt (lineEnd ++ s.delimiter) [] s.buffer = some (piece, rest)) :
      Yields r [piece] { s with stage := .delimiter, buffer := rest.drop lineEnd.length }
  | more {r s after : FormReader} {piece held : List UInt8} {chunks : List (List UInt8)}
      (receive : r.receive = .ok s) (cut : cutAt (lineEnd ++ s.delimiter) [] s.buffer = none)
      (open_ : ¬ s.ended = true)
      (hold : cutHeld (lineEnd ++ s.delimiter) [] s.buffer = (piece, held))
      (next : Yields { s with buffer := held } chunks after) : Yields r (piece :: chunks) after

/-- Going over the data of a part is a fold over its chunks. -/
theorem Yields.foldData {chunks : List (List UInt8)} (h : r.Yields chunks after) (state : σ) :
    r.foldData fault step state = (chunks.foldlM step state).map (·, after) := by
  induction h generalizing state with
  | last receive cut =>
      rw [foldData_of_cut receive cut]
      simp
  | more receive cut open_ hold _ ih =>
      rw [foldData_of_held receive cut open_ hold, List.foldlM_cons]
      cases step state _ with
      | error e => rfl
      | ok next => exact ih next

/-- What succeeds in going over the data of a part goes over its chunks. -/
theorem exists_yields_of_foldData {state done : σ}
    (h : r.foldData fault step state = .ok (done, after)) : ∃ chunks, r.Yields chunks after := by
  induction state, r using foldData.induct with
  | case1 state r f receive =>
      rw [FormReader.foldData] at h
      split at h
      · cases h
      · rename_i hother
        cases receive.symm.trans hother
  | case2 state r s receive piece rest cut =>
      rw [foldData_of_cut receive cut] at h
      cases hpiece : step state piece with
      | error e => rw [hpiece] at h; cases h
      | ok next =>
          rw [hpiece] at h
          cases h
          exact ⟨_, .last receive cut⟩
  | case3 state r s receive cut ended =>
      rw [FormReader.foldData] at h
      split at h
      · cases h
      · rename_i hother
        cases receive.symm.trans hother
        simp only [cut, dif_pos ended] at h
        cases h
  | case4 state r s receive cut open_ piece held hold ih =>
      rw [foldData_of_held receive cut open_ hold] at h
      cases hpiece : step state piece with
      | error e => rw [hpiece] at h; cases h
      | ok next =>
          rw [hpiece] at h
          obtain ⟨chunks, hnext⟩ := ih next h
          exact ⟨_, .more receive cut open_ hold hnext⟩

theorem Yields.data {chunks : List (List UInt8)} (h : r.Yields chunks after) :
    r.data = .ok (chunks.flatten, after) := by
  have hfold : ∀ done : List (List UInt8),
      chunks.foldlM (fun done piece => (.ok (piece :: done) : Except FormFault _)) done =
        .ok (chunks.reverse ++ done) := by
    clear h
    induction chunks with
    | nil => exact fun done => rfl
    | cons piece chunks ih =>
        intro done
        rw [List.foldlM_cons]
        exact (ih _).trans (by simp)
  rw [FormReader.data, h.foldData, hfold]
  simp [Except.map, bind, Except.bind, pure, Except.pure]

end

/-! ### Arrival -/

/-- All of a text is there or arrives, in whichever pieces. -/
structure Brings (r : FormReader) (text : List UInt8) : Prop where
  arrives : ∃ bytes, Body.collectChunks r.coming = .ok bytes ∧ r.buffer ++ bytes = text ∧
    r.received + bytes.length ≤ r.limit
  closed  : r.ended = true → r.coming = []

section

variable {r s : FormReader} {text content rest : List UInt8}

/-- Receiving neither loses nor changes what is read. -/
theorem Brings.receive (h : r.Brings text) :
    ∃ s, r.receive = .ok s ∧ s.Brings text ∧ s.boundary = r.boundary := by
  obtain ⟨⟨bytes, hbytes, htext, hlimit⟩, hclosed⟩ := h
  rw [FormReader.receive]
  split
  · exact ⟨r, rfl, ⟨⟨bytes, hbytes, htext, hlimit⟩, hclosed⟩, rfl⟩
  · rename_i hopen
    split
    · rename_i hcoming
      exact ⟨_, rfl, ⟨⟨bytes, hbytes, htext, hlimit⟩, fun _ => hcoming⟩, rfl⟩
    · rename_i chunk later hcoming
      split
      · refine ⟨_, rfl, ⟨⟨bytes, hbytes, htext, hlimit⟩, fun hended => ?_⟩, rfl⟩
        exact absurd hended hopen
      · rw [hcoming] at hbytes
        cases chunk with
        | failure message => cases hbytes
        | bytes piece =>
            rw [Body.collectChunks] at hbytes
            cases hlater : Body.collectChunks later with
            | error message => rw [hlater] at hbytes; cases hbytes
            | ok others =>
                rw [hlater] at hbytes
                cases hbytes
                rw [List.length_append, ← Nat.add_assoc] at hlimit
                have hfits : ¬ r.limit < r.received + piece.length := by omega
                dsimp only
                rw [if_neg hfits]
                refine ⟨_, rfl, ⟨⟨others, hlater, ?_, hlimit⟩, List.isEmpty_iff.mp⟩, rfl⟩
                rw [← htext, List.append_assoc]

/-- What is cut off all that is read is the chunks handed on. -/
theorem Brings.exists_yields_of_cut (h : r.Brings text)
    (hcut : cutAt (lineEnd ++ r.delimiter) [] text = some (content, rest)) :
    ∃ chunks after, r.Yields chunks after ∧ chunks.flatten = content ∧
      after.stage = .delimiter ∧ after.Brings (rest.drop lineEnd.length) := by
  -- by how many times something can still arrive
  induction hn : r.pending using Nat.strong_induction_on generalizing r text content with
  | _ n ih =>
  subst hn
  obtain ⟨s, hreceive, hs, hboundary⟩ := h.receive
  have hdelimiter : s.delimiter = r.delimiter := by rw [delimiter, delimiter, hboundary]
  obtain ⟨⟨bytes, hbytes, rfl, hlimit⟩, hclosed⟩ := hs
  rw [← hdelimiter] at hcut
  cases hfound : cutAt (lineEnd ++ s.delimiter) [] s.buffer with
  | some cut =>
      obtain ⟨piece, behind⟩ := cut
      -- the delimiter is there
      obtain ⟨rfl, rfl⟩ : content = piece ∧ rest = behind ++ bytes := by
        rw [cutAt_append_of_some hfound] at hcut
        cases hcut
        exact ⟨rfl, rfl⟩
      have hlong : lineEnd.length ≤ behind.length :=
        ((List.prefix_append _ _).trans (prefix_of_cutAt hfound).1).length_le
      refine ⟨_, _, .last hreceive hfound, List.flatten_singleton, rfl, ⟨bytes, hbytes, ?_, hlimit⟩,
        hclosed⟩
      exact (List.drop_append_of_le_length hlong).symm
  | none =>
      -- it is not, so there is more to come
      have hopen : ¬ s.ended = true := by
        intro hended
        rw [hclosed hended] at hbytes
        cases hbytes
        rw [List.append_nil, hfound] at hcut
        cases hcut
      have hr : r.ended = false := by
        refine Bool.eq_false_iff.mpr fun hended => hopen ?_
        rw [receive_ended hended] at hreceive
        cases hreceive
        exact hended
      have happend := cutHeld_append (lineEnd ++ s.delimiter) [] s.buffer
      have hlater := cutAt_append_of_none hfound bytes
      generalize hhold : cutHeld (lineEnd ++ s.delimiter) [] s.buffer = cut at happend hlater
      obtain ⟨piece, held⟩ := cut
      rw [hlater, cutAt_eq_map] at hcut
      obtain ⟨⟨next, behind⟩, hnext, heq⟩ := Option.map_eq_some_iff.mp hcut
      cases heq
      have hrest : { s with buffer := held }.Brings (held ++ bytes) :=
        ⟨⟨bytes, hbytes, rfl, hlimit⟩, hclosed⟩
      obtain ⟨chunks, after, hyields, rfl, hstage, hafter⟩ :=
        ih _ (pending_receive hreceive hr) hrest hnext rfl
      refine ⟨piece :: chunks, after, .more hreceive hfound hopen hhold hyields, ?_, hstage, hafter⟩
      simp

/-- **Data does not depend on how it arrives**: the chunks put together are what comes before the
next delimiter, and the reader stands before it then. -/
theorem Brings.exists_yields (hboundary : (13 : UInt8) ∉ r.boundary)
    (hcontent : ¬ lineEnd ++ r.delimiter <:+: content)
    (h : r.Brings (content ++ (lineEnd ++ (r.delimiter ++ rest)))) :
    ∃ chunks after, r.Yields chunks after ∧ chunks.flatten = content ∧
      after.stage = .delimiter ∧ after.Brings (r.delimiter ++ rest) := by
  have hcut := cutAt_append [] (by simpa [delimiter] using hboundary) hcontent rest
  exact h.exists_yields_of_cut hcut

end

end FormReader

end GraphServe.Http
