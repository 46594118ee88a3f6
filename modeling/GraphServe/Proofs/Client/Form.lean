import GraphServe.Proofs.Client.Grouping
import GraphServe.Proofs.Http.Form
import GraphServe.Proofs.Json.RoundTrip

/-!
# Forms that clients send — the parts

A part that a client writes is read for what it is: the operation and the map are parts of these
names without a file (`ofFields_text`), and a file is a part under its number, with a filename
(`ofFields_file`).  The filename stands between quotes as it is, so it is read up to the first quote
in it (`nameRead`).  It is read back if it has no quote, does not end in a backslash and has no
control characters (`IsPlainName.nameRead_eq`).
-/

namespace GraphServe

open Http Text

/-- A filename that is read back: it contains no quote and does not end in a backslash. -/
structure IsPlainName (name : String) : Prop where
  noQuote : '"' ∉ name.toList
  noSlash : name.toList.getLast? ≠ some '\\'

/-- What a filename between quotes is read as. -/
def nameRead (filename : String) : String :=
  ((quotedValue? [] (bytes filename ++ [34])).bind decode?).getD ""

/-- A filename that a header can carry: without control characters, and with an end where it is
read. -/
structure IsFilename (filename : String) : Prop where
  sendable : ClientOption.isSendable filename = true
  ends     : quotedValue? [] (bytes filename ++ [34]) = some (bytes (nameRead filename))

/-- A text that can separate parts: hexadecimal digits. -/
structure IsBoundary (boundary : String) : Prop where
  nonempty : boundary ≠ ""
  digits   : ∀ c ∈ boundary.toList, c.isDigit = true ∨ 'a' ≤ c ∧ c ≤ 'f'

/-! ### Bytes of texts -/

theorem isValueByte_of_isSendable {s : String} (h : ClientOption.isSendable s = true) :
    ∀ b ∈ bytes s, IsValueByte b := by
  intro b hb
  rcases mem_bytes hb with ⟨c, hc, hascii, rfl⟩ | hb
  · have := List.all_eq_true.mp h c hc
    simp only [Bool.or_eq_true, decide_eq_true_eq, Bool.and_eq_true] at this
    rcases this with rfl | ⟨hlow, hdel⟩
    · rfl
    · simp only [IsValueByte, Bool.or_eq_true, Bool.and_eq_true, decide_eq_true_eq, bne_iff_ne,
        UInt8.le_iff_toNat_le, ne_eq, ← UInt8.toNat_inj, toNat_ofNat_of_lt (Nat.lt_trans hascii
          (show 128 < 256 by decide))]
      exact .inr ⟨hlow, hdel⟩
  · simp only [IsValueByte, Bool.or_eq_true, Bool.and_eq_true, decide_eq_true_eq, bne_iff_ne,
      UInt8.le_iff_toNat_le, ne_eq, ← UInt8.toNat_inj]
    exact .inr ⟨Nat.le_trans (by decide) hb, fun h => absurd (h ▸ hb) (by decide)⟩

theorem IsPlainName.quote_not_mem {name : String} (h : IsPlainName name) :
    (34 : UInt8) ∉ bytes name := by
  intro hb
  rcases mem_bytes hb with ⟨c, hc, hascii, hquote⟩ | hb
  · have : c.toNat = 34 := by
      rw [← toNat_ofNat_of_lt (Nat.lt_trans hascii (show 128 < 256 by decide)), ← hquote]
      rfl
    exact h.noQuote (Char.toNat_inj.mp (this.trans (show '"'.toNat = 34 from rfl).symm) ▸ hc)
  · exact absurd hb (by decide)

theorem IsPlainName.getLast?_ne {name : String} (h : IsPlainName name) :
    (bytes name).getLast? ≠ some 92 := by
  intro hlast
  rw [bytes_eq] at hlast
  rcases List.eq_nil_or_concat name.toList with hnil | ⟨first, c, hname⟩
  · rw [hnil] at hlast
    cases hlast
  · rw [hname, List.concat_eq_append, List.flatMap_append, List.flatMap_singleton,
      List.getLast?_append] at hlast
    obtain ⟨b, hb⟩ : ∃ b, (String.utf8EncodeChar c).getLast? = some b := by
      cases hc : (String.utf8EncodeChar c).getLast? with
      | none =>
          have := decodeChars_encodeChar c []
          rw [List.getLast?_eq_none_iff.mp hc, List.nil_append, decodeChars] at this
          cases this
      | some b => exact ⟨b, rfl⟩
    rw [hb, Option.some_or] at hlast
    cases hlast
    rcases mem_encodeChar (List.mem_of_getLast? hb) with ⟨hascii, hslash⟩ | hge
    · have : c.toNat = 92 := by
        rw [← toNat_ofNat_of_lt (Nat.lt_trans hascii (show 128 < 256 by decide)), ← hslash]
        rfl
      refine h.noSlash ?_
      rw [hname, List.concat_eq_append, List.getLast?_concat,
        Char.toNat_inj.mp (this.trans (show '\\'.toNat = 92 from rfl).symm)]
    · exact absurd hge (by decide)

theorem IsPlainName.quotedValue?_eq {name : String} (h : IsPlainName name) :
    quotedValue? [] (bytes name ++ [34]) = some (bytes name) :=
  Http.quotedValue?_eq h.quote_not_mem h.getLast?_ne [] []

/-- A plain filename is read back. -/
theorem IsPlainName.nameRead_eq {name : String} (h : IsPlainName name) : nameRead name = name := by
  rw [nameRead, h.quotedValue?_eq, Option.bind_some, decode?_bytes, Option.getD_some]

/-! ### Parts -/

namespace ClientForm

/-- The lines of the header of a part. -/
def headerOf (disposition : String) (type? : Option String) : List (List UInt8) :=
  bytes ("Content-Disposition: form-data; " ++ disposition)
    :: type?.toList.map fun type => bytes ("Content-Type: " ++ type)

/-- The fields of the header of a part. -/
def fieldsOf (disposition : String) (type? : Option String) : List (String × List UInt8) :=
  ("content-disposition", bytes ("form-data; " ++ disposition))
    :: type?.toList.map fun type => ("content-type", bytes type)

theorem line_eq (text : String) : line text = bytes text ++ lineEnd := by
  rw [line, bytes_append]
  exact congrArg (bytes text ++ ·) (bytes_ofList ['\r', '\n'])

theorem part_append (boundary disposition : String) (type? : Option String)
    (content rest : List UInt8) :
    part boundary disposition type? content ++ rest =
      [45, 45] ++ bytes boundary ++ (lineEnd ++ (linesText (headerOf disposition type?)
        ++ (lineEnd ++ (content ++ (lineEnd ++ rest))))) := by
  have hlines : linesText (headerOf disposition type?) =
      line ("Content-Disposition: form-data; " ++ disposition)
        ++ type?.toList.flatMap fun type => line ("Content-Type: " ++ type) := by
    simp only [linesText, headerOf, List.flatMap_cons, List.flatMap_map, line_eq]
  have hempty : line "" = lineEnd := by
    rw [line_eq, Json.bytes_empty, List.nil_append]
  rw [part, hempty, hlines, line_eq ("--" ++ boundary), bytes_append,
    show bytes "--" = [45, 45] from bytes_ofList ['-', '-']]
  simp only [List.append_assoc]

/-- A disposition that can be written: its last byte is no blank. -/
structure IsDisposition (disposition : String) : Prop where
  sendable : ClientOption.isSendable disposition = true
  last     : ∃ b, (bytes disposition).getLast? = some b ∧ isBlankByte b = false

theorem IsDisposition.isFieldValue {disposition : String} (h : IsDisposition disposition) :
    IsFieldValue (bytes ("form-data; " ++ disposition)) := by
  obtain ⟨b, hb, hblank⟩ := h.last
  rw [bytes_append]
  refine ⟨fun b hb => ?_, fun b hb => ?_, fun c hc => ?_⟩
  · rcases List.mem_append.mp hb with hb | hb
    · exact isValueByte_of_isSendable (s := "form-data; ") (by decide) b hb
    · exact isValueByte_of_isSendable h.sendable b hb
  · have : bytes "form-data; " = 102 :: (bytes "form-data; ").tail := by
      rw [bytes_eq]
      decide
    rw [this] at hb
    cases hb
    rfl
  · rw [List.getLast?_append, hb] at hc
    cases hc
    exact hblank

/-- The content type of a file. -/
def fileType : String := "text/plain; charset=utf-8"

theorem isFieldValue_fileType : IsFieldValue (bytes fileType) := by
  have hends : (bytes fileType).head? = some 116 ∧ (bytes fileType).getLast? = some 56 := by
    rw [bytes_eq]
    decide
  refine ⟨isValueByte_of_isSendable (by decide), fun b hb => ?_, fun b hb => ?_⟩
  · cases hends.1.symm.trans hb
    rfl
  · cases hends.2.symm.trans hb
    rfl

/-- A line of a header is its field. -/
theorem bytes_field (name opening value : String) :
    bytes (name ++ ": " ++ opening ++ value) = bytes name ++ 58 :: 32 :: bytes (opening ++ value) := by
  rw [String.append_assoc, bytes_append, bytes_append name,
    show bytes ": " = [58, 32] from bytes_ofList [':', ' '], List.append_assoc]
  rfl

variable {disposition : String} {type? : Option String}

theorem disposition_spec (h : IsDisposition disposition) :
    IsLine (bytes ("Content-Disposition: form-data; " ++ disposition)) ∧
      headerField? (bytes ("Content-Disposition: form-data; " ++ disposition))
        = some ("content-disposition", bytes ("form-data; " ++ disposition)) := by
  have hname : ∀ b ∈ bytes "Content-Disposition", IsNameByte b := by
    rw [bytes_eq]
    exact List.all_eq_true.mp (by decide)
  have hline := bytes_field "Content-Disposition" "form-data; " disposition
  rw [show "Content-Disposition" ++ ": " ++ "form-data; " = "Content-Disposition: form-data; "
    from rfl] at hline
  rw [hline, headerField?_eq (by decide) hname h.isFieldValue]
  exact ⟨isLine_field hname h.isFieldValue, rfl⟩

theorem fileType_spec :
    IsLine (bytes ("Content-Type: " ++ fileType)) ∧
      headerField? (bytes ("Content-Type: " ++ fileType)) = some ("content-type", bytes fileType) := by
  have hname : ∀ b ∈ bytes "Content-Type", IsNameByte b := by
    rw [bytes_eq]
    exact List.all_eq_true.mp (by decide)
  have hline := bytes_field "Content-Type" "" fileType
  rw [show "Content-Type" ++ ": " ++ "" = "Content-Type: " from rfl,
    show "" ++ fileType = fileType from rfl] at hline
  rw [hline, headerField?_eq (by decide) hname isFieldValue_fileType]
  exact ⟨isLine_field hname isFieldValue_fileType, rfl⟩

/-- The fields of a header are as they were written. -/
theorem header_spec (h : IsDisposition disposition) (htype : ∀ type ∈ type?, type = fileType) :
    (∀ line ∈ headerOf disposition type?, IsLine line) ∧
      (headerOf disposition type?).mapM headerField? = some (fieldsOf disposition type?) := by
  obtain ⟨hline, hfield⟩ := disposition_spec h
  obtain ⟨hline', hfield'⟩ := fileType_spec
  cases type? with
  | none =>
      refine ⟨List.forall_mem_cons.mpr ⟨hline, fun _ h => nomatch h⟩, ?_⟩
      rw [headerOf, List.mapM_cons, hfield]
      rfl
  | some type =>
      cases htype type rfl
      refine ⟨List.forall_mem_cons.mpr ⟨hline, List.forall_mem_cons.mpr
        ⟨hline', fun _ h => nomatch h⟩⟩, ?_⟩
      rw [headerOf, List.mapM_cons, hfield, Option.toList_some, List.map_singleton, List.mapM_cons,
        hfield']
      rfl

/-- A part is read where it stands. -/
theorem nextPart_part {boundary : String} (type? : Option String) (h : IsDisposition disposition)
    (htype : ∀ type ∈ type?, type = fileType) {r : FormReader} (hended : r.ended = true)
    (hstage : r.stage = .delimiter) (hboundary : r.boundary = bytes boundary)
    {content rest : List UInt8} (hbuffer : r.buffer = part boundary disposition type? content ++ rest) :
    r.nextPart = .ok (some (Part.ofFields (fieldsOf disposition type?)),
      { r with stage := .data, buffer := content ++ (lineEnd ++ rest) }) := by
  obtain ⟨hlines, hfields⟩ := header_spec h htype
  refine FormReader.nextPart_part hended hstage hlines (List.cons_ne_nil _ _) hfields ?_ ?_
  · cases type? <;> exact Nat.le_of_ble_eq_true rfl
  · rw [hbuffer, part_append, FormReader.delimiter, hboundary]

/-! ### The three kinds of parts -/

theorem lookup_disposition (disposition : String) (type? : Option String) :
    (fieldsOf disposition type?).reverse.lookup "content-disposition"
      = some (bytes ("form-data; " ++ disposition)) := by
  cases type? with
  | none => rfl
  | some type => rfl

/-- The disposition of a part that is no file. -/
def textDisposition (name : String) : String := "name=\"" ++ name ++ "\""

/-- The disposition of the file with a number. -/
def fileDisposition (number : Nat) (filename : String) : String :=
  "name=\"" ++ toString number ++ "\"; filename=\"" ++ filename ++ "\""

theorem textDisposition_spec {name : String} (h : name = "operations" ∨ name = "map") :
    IsDisposition (textDisposition name) ∧
      attribute? (bytes "name") 0 none (bytes ("form-data; " ++ textDisposition name))
        = some (bytes name) ∧
      attribute? (bytes "filename") 0 none (bytes ("form-data; " ++ textDisposition name)) = none := by
  rcases h with rfl | rfl
  all_goals
    refine ⟨⟨by decide, 34, ?_, rfl⟩, ?_, ?_⟩
    all_goals
      simp only [bytes_eq]
      decide

/-- A text of the form is a part under its name that is no file. -/
theorem ofFields_text {name : String} (h : name = "operations" ∨ name = "map") :
    (Part.ofFields (fieldsOf (textDisposition name) none)).name = name ∧
      (Part.ofFields (fieldsOf (textDisposition name) none)).filename? = none ∧
      (Part.ofFields (fieldsOf (textDisposition name) none)).contentType? = none := by
  obtain ⟨-, hname, hfilename⟩ := textDisposition_spec h
  have hfield := lookup_disposition (textDisposition name) none
  exact ⟨ofFields_name hfield hname, ofFields_filename? hfield hfilename,
    ofFields_contentType? none rfl fun _ h => nomatch h⟩

theorem bytes_fileDisposition (number : Nat) (filename : String) :
    bytes ("form-data; " ++ fileDisposition number filename) =
      bytes "form-data; name=\"" ++ (Json.digitBytes number
        ++ (bytes "\"; filename=\"" ++ (bytes filename ++ [34]))) := by
  rw [fileDisposition, bytes_append, bytes_append, bytes_append, bytes_append, bytes_append,
    Json.bytes_toString, show bytes "\"" = [34] from bytes_ofList ['"'],
    show "form-data; name=\"" = "form-data; " ++ "name=\"" from rfl, bytes_append]
  simp only [List.append_assoc]

theorem not_mem_digitBytes {b : UInt8} (h : Json.Cursor.isDigit b = false) (number : Nat) :
    b ∉ Json.digitBytes number := fun hb => by
  rw [Json.isDigit_digitBytes number b hb] at h
  cases h

theorem isSendable_append (s t : String) : ClientOption.isSendable (s ++ t)
    = (ClientOption.isSendable s && ClientOption.isSendable t) := by
  rw [ClientOption.isSendable, String.toList_append, List.all_append]
  rfl

theorem isSendable_toString (number : Nat) : ClientOption.isSendable (toString number) = true := by
  rw [ClientOption.isSendable, Nat.toString_eq_ofList_toDigits, String.toList_ofList]
  refine List.all_eq_true.mpr fun c hc => ?_
  have hdigit := Json.isDigit_of_mem_toDigits c hc
  simp only [Char.isDigit, Bool.and_eq_true, decide_eq_true_eq, UInt32.le_iff_toNat_le] at hdigit
  obtain ⟨hlow, hhigh⟩ : 48 ≤ c.toNat ∧ c.toNat ≤ 57 := hdigit
  simp only [Bool.or_eq_true, Bool.and_eq_true, decide_eq_true_eq]
  exact .inr ⟨by omega, by omega⟩

/-- A file is looked up under its number, whatever its filename is. -/
theorem attribute?_number (number : Nat) (filename : String) :
    attribute? (bytes "name") 0 none (bytes ("form-data; " ++ fileDisposition number filename))
      = some (bytes (toString number)) := by
  have hlast : (Json.digitBytes number).getLast? ≠ some 92 := fun hlast =>
    not_mem_digitBytes (by decide) number (List.mem_of_getLast? hlast)
  rw [bytes_fileDisposition, Json.bytes_toString, bytes_eq "name", bytes_eq "form-data; name=\"",
    bytes_eq "\"; filename=\""]
  exact quotedValue?_eq (not_mem_digitBytes (by decide) number) hlast [] _

theorem name_ofFields_file (number : Nat) (filename : String) :
    (Part.ofFields (fieldsOf (fileDisposition number filename) (some fileType))).name
      = toString number :=
  ofFields_name (lookup_disposition (fileDisposition number filename) (some fileType))
    (attribute?_number number filename)

theorem fileDisposition_spec (number : Nat) {filename : String} (h : IsFilename filename) :
    IsDisposition (fileDisposition number filename) ∧
      attribute? (bytes "filename") 0 none
          (bytes ("form-data; " ++ fileDisposition number filename))
        = some (bytes (nameRead filename)) := by
  refine ⟨⟨?_, 34, ?_, rfl⟩, ?_⟩
  · rw [fileDisposition, isSendable_append, isSendable_append, isSendable_append, isSendable_append,
      h.sendable, isSendable_toString]
    decide
  · rw [fileDisposition, bytes_append, List.getLast?_append, bytes_eq "\""]
    rfl
  · obtain ⟨previous, hskip⟩ := attribute?_append (b := 102) [105, 108, 101, 110, 97, 109, 101]
      (not_mem_digitBytes (by decide) number) (some 34)
      (bytes "\"; filename=\"" ++ (bytes filename ++ [34]))
    rw [bytes_fileDisposition, bytes_eq "filename", bytes_eq "form-data; name=\""]
    refine (hskip.trans ?_ :)
    rw [bytes_eq "\"; filename=\""]
    exact h.ends

/-- A file is a part under its number, with its filename as it is read. -/
theorem ofFields_file (number : Nat) {filename : String} (h : IsFilename filename) :
    (Part.ofFields (fieldsOf (fileDisposition number filename) (some fileType))).name
        = toString number ∧
      (Part.ofFields (fieldsOf (fileDisposition number filename) (some fileType))).filename?
        = some (nameRead filename) ∧
      (Part.ofFields (fieldsOf (fileDisposition number filename) (some fileType))).contentType?.map
        (·.text) = some fileType := by
  obtain ⟨-, hfilename⟩ := fileDisposition_spec number h
  have hfield := lookup_disposition (fileDisposition number filename) (some fileType)
  refine ⟨name_ofFields_file number filename, ofFields_filename? hfield hfilename, ?_⟩
  rw [ofFields_contentType? (some fileType) rfl fun type htype => ?_]
  · rfl
  · cases htype
    have hvisible : (bytes fileType).all (fun b => b == 9 || (32 ≤ b && b < 127)) = true := by
      rw [bytes_eq]
      decide
    rw [visibleText?, if_pos hvisible, decodeLossy_bytes]

end ClientForm

end GraphServe
