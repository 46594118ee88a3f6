import GraphServe.Proofs.Http.Arrival
import GraphServe.Transport.Form

/-!
# Forms with files — files in memory and on disk

A file is held in memory until a piece of it does not fit any more, and is on disk from then on.
What was taken in of it is never lost, repeated or put out of order on the way: a receipt `Holds`
the bytes that came, in memory exactly if there is room for all of them, and each piece keeps it so
(`Receipt.Holds.take_cases`).

**A file does not depend on its chunks** (`UploadForm.readFile_of_chunks`).  Whichever chunks the
data of a part comes in, the file that is read has their bytes one after the other, is as long as
they are together, and is in memory exactly if that is not more than the memory for a file; and
however the data of a part arrives, the chunks it comes in are the data when put together.
-/

namespace GraphServe.UploadForm

open Http

variable {settings : UploadSettings} {r done : Receipt} {content : List UInt8}

/-! ### Receipts -/

/-- A file as far as it was read has the bytes that came: in memory if there is room for them, else
on disk. -/
inductive Receipt.Holds (settings : UploadSettings) : Receipt → List UInt8 → Prop where
  | memory {bytes : Array UInt8} (room : bytes.size ≤ settings.maxMemory) :
      Holds settings { size := bytes.size, buffer := bytes } bytes.toList
  | disk {bytes : Array UInt8} (outgrown : settings.maxMemory < bytes.size) :
      Holds settings { size := bytes.size, disk? := some bytes } bytes.toList

namespace Receipt

theorem size_append (bytes : Array UInt8) (piece : List UInt8) :
    (bytes ++ piece).size = bytes.size + piece.length := by
  rw [← Array.length_toList, Array.toList_appendList, List.length_append, Array.length_toList]

/-- Nothing was read yet. -/
theorem holds_nil : Holds settings {} [] := @Holds.memory settings #[] (Nat.zero_le _)

namespace Holds

/-- A piece is put behind what came before it, wherever that is kept.  It is refused only if the
file has to be put on disk and cannot. -/
theorem take_cases (h : r.Holds settings content) (key : String) (piece : List UInt8) :
    (∃ next, r.take settings key piece = .ok next ∧ next.Holds settings (content ++ piece)) ∨
      r.take settings key piece = .error (.disk key) ∧ settings.hasDisk = false ∧
        settings.maxMemory < (content ++ piece).length := by
  cases h with
  | @memory bytes room =>
      rw [take, ← Array.toList_appendList]
      dsimp only
      by_cases hroom : bytes.size + piece.length ≤ settings.maxMemory
      · rw [if_pos hroom, ← size_append]
        exact .inl ⟨_, rfl, .memory (size_append bytes piece ▸ hroom)⟩
      rw [if_neg hroom, ← size_append]
      have houtgrown : settings.maxMemory < (bytes ++ piece).size := by
        rw [size_append]
        exact Nat.lt_of_not_le hroom
      by_cases hdisk : settings.hasDisk = true
      · -- what was held in memory is written to disk before the piece
        exact .inl ⟨_, if_pos hdisk, .disk houtgrown⟩
      · exact .inr ⟨if_neg hdisk, Bool.eq_false_iff.mpr hdisk, houtgrown⟩
  | @disk bytes outgrown =>
      rw [take, ← Array.toList_appendList]
      dsimp only
      rw [← size_append]
      exact .inl ⟨_, rfl, .disk (size_append bytes piece ▸ Nat.lt_add_right _ outgrown)⟩

/-- What is read chunk by chunk is the chunks put together. -/
theorem foldlM {key : String} {chunks : List (List UInt8)} (h : r.Holds settings content)
    (hfold : chunks.foldlM (take settings key) r = .ok done) :
    done.Holds settings (content ++ chunks.flatten) := by
  induction chunks generalizing r content with
  | nil =>
      cases hfold
      rwa [List.flatten_nil, List.append_nil]
  | cons piece chunks ih =>
      rw [List.foldlM_cons] at hfold
      rcases h.take_cases key piece with ⟨next, htake, hnext⟩ | ⟨htake, -⟩
      · rw [htake] at hfold
        rw [List.flatten_cons, ← List.append_assoc]
        exact ih hnext hfold
      · rw [htake] at hfold
        cases hfold

/-- All chunks are taken in if a file can be put on disk, or need not be. -/
theorem exists_foldlM (key : String) {chunks : List (List UInt8)} (h : r.Holds settings content)
    (hstored : settings.hasDisk = true ∨
      (content ++ chunks.flatten).length ≤ settings.maxMemory) :
    ∃ done, chunks.foldlM (take settings key) r = .ok done := by
  induction chunks generalizing r content with
  | nil => exact ⟨r, rfl⟩
  | cons piece chunks ih =>
      rw [List.flatten_cons, ← List.append_assoc] at hstored
      rw [List.foldlM_cons]
      rcases h.take_cases key piece with ⟨next, htake, hnext⟩ | ⟨-, hdisk, houtgrown⟩
      · rw [htake]
        exact ih hnext hstored
      · rcases hstored with hstored | hroom
        · exact absurd (hdisk.symm.trans hstored) Bool.false_ne_true
        · rw [List.length_append] at hroom
          exact absurd houtgrown (Nat.not_lt.mpr (Nat.le_trans (Nat.le_add_right _ _) hroom))

/-- The file has the bytes that came and their number. -/
theorem upload_eq (h : r.Holds settings content) (part : Part) :
    r.upload part =
      { filename := part.filename?.getD "", contentType := part.contentType?.map (·.text), content
        inMemory := !decide (settings.maxMemory < content.length) } := by
  cases h with
  | memory room => simp [upload, room]
  | disk outgrown => simp [upload, outgrown]

end Holds

end Receipt

/-! ### Files -/

/-- A file that is read has come in chunks. -/
theorem exists_yields_of_readFile {part : Part} {reader after : FormReader} {file : Upload}
    (h : readFile settings part reader = .ok (file, after)) :
    ∃ (chunks : List (List UInt8)) (receipt : Receipt), reader.Yields chunks after ∧
      receipt.Holds settings chunks.flatten ∧ file = receipt.upload part := by
  rw [readFile] at h
  cases hfold : reader.foldData UploadFault.form (Receipt.take settings part.name) {} with
  | error fault => rw [hfold] at h; cases h
  | ok read =>
      obtain ⟨receipt, after⟩ := read
      rw [hfold] at h
      cases h
      obtain ⟨chunks, hyields⟩ := FormReader.exists_yields_of_foldData hfold
      rw [hyields.foldData] at hfold
      cases htaken : chunks.foldlM (Receipt.take settings part.name) {} with
      | error fault => rw [htaken] at hfold; cases hfold
      | ok taken =>
          rw [htaken] at hfold
          cases hfold
          exact ⟨chunks, receipt, hyields, Receipt.holds_nil.foldlM htaken, rfl⟩

/-- **A file does not depend on its chunks.**  If it can be put on disk or need not be, what is read
of chunks in any division has their bytes in order and is as long as they are together, and it is in
memory exactly if that is not more than the memory for a file; this is the file that a part is read
as whose data comes in these chunks.  And if nothing fails on the way, data that is a part's arrives
in chunks that are the data when put together, whichever pieces the form arrives in. -/
theorem readFile_of_chunks (settings : UploadSettings) (part : Part) :
    (∀ chunks : List (List UInt8),
      settings.hasDisk = true ∨ chunks.flatten.length ≤ settings.maxMemory →
      ∃ receipt, chunks.foldlM (Receipt.take settings part.name) {} = .ok receipt ∧
        (receipt.upload part).content = chunks.flatten ∧
        (receipt.upload part).size = chunks.flatten.length ∧
        ((receipt.upload part).inMemory = true ↔ chunks.flatten.length ≤ settings.maxMemory) ∧
        ∀ reader after, reader.Yields chunks after →
          readFile settings part reader = .ok (receipt.upload part, after)) ∧
    ∀ (reader : FormReader) (content rest : List UInt8), (13 : UInt8) ∉ reader.boundary →
      ¬ lineEnd ++ reader.delimiter <:+: content →
      reader.Brings (content ++ (lineEnd ++ (reader.delimiter ++ rest))) →
      ∃ chunks after, reader.Yields chunks after ∧ chunks.flatten = content ∧
        after.stage = .delimiter ∧ after.Brings (reader.delimiter ++ rest) := by
  refine ⟨fun chunks hstored => ?_, fun reader content rest hboundary hcontent hbrings =>
    hbrings.exists_yields hboundary hcontent⟩
  obtain ⟨receipt, hfold⟩ := Receipt.holds_nil.exists_foldlM part.name hstored
  have hholds : receipt.Holds settings chunks.flatten := Receipt.holds_nil.foldlM hfold
  refine ⟨receipt, hfold, ?_, ?_, ?_, fun reader after hyields => ?_⟩
  · rw [hholds.upload_eq]
  · rw [hholds.upload_eq]
  · rw [hholds.upload_eq]
    simp
  · rw [readFile, hyields.foldData, hfold]
    rfl

/-- Three bytes arrive one by one, with nothing in between and with the delimiter torn apart, and
outgrow a memory of two. -/
theorem readFile_of_torn_chunks :
    let reader : FormReader :=
      { boundary := [98], limit := 64, stage := .data, ready := false
        coming := [.bytes [120], .bytes [], .bytes [121], .bytes [13], .bytes [13, 10, 45],
          .bytes [45, 98, 45, 45]] }
    ∃ file after, readFile { maxMemory := 2 } { name := "0" } reader = .ok (file, after) ∧
      file.content = [120, 121, 13] ∧ file.size = 3 ∧ file.inMemory = false := by
  intro reader
  have hread := readFile_of_chunks { maxMemory := 2 } { name := "0" }
  obtain ⟨chunks, after, hyields, hcontent, -⟩ :=
    hread.2 reader [120, 121, 13] [45, 45] (by decide) (by decide) ⟨⟨_, rfl, rfl, by decide⟩, nofun⟩
  obtain ⟨receipt, -, hbytes, hsize, hmemory, hfile⟩ := hread.1 chunks (.inl rfl)
  rw [hcontent] at hsize hmemory
  refine ⟨_, after, hfile reader after hyields, hbytes.trans hcontent, hsize, ?_⟩
  exact Bool.eq_false_iff.mpr fun hheld => absurd (hmemory.mp hheld) (by decide)

end GraphServe.UploadForm
