import GraphServe.Proofs.Client.Form
import GraphServe.Proofs.Json.Printing
import GraphServe.Proofs.Transport.Spilling
import Mathlib.Data.Bool.AllAny

/-!
# Forms with files — reading the parts

A form that a client wrote is read part by part: the operation, the map, and each file under its
number, with its filename and its bytes (`UploadForm.readParts_encode`).  The contents can be any
bytes that do not contain the delimiter.  The boundary is found where the client names it
(`UploadForm.boundary?_contentType`).
-/

namespace GraphServe.UploadForm

open Http Text ClientForm

/-- A reader before a delimiter, to which all has arrived. -/
structure StandsAt (r : FormReader) (boundary : String) (text : List UInt8) : Prop where
  ended    : r.ended = true
  stage    : r.stage = .delimiter
  boundary : r.boundary = bytes boundary
  buffer   : r.buffer = text

/-- What separates parts. -/
def delimiterOf (boundary : String) : List UInt8 := [45, 45] ++ bytes boundary

/-- Bytes that can be the data of a part. -/
def IsContent (boundary : String) (content : List UInt8) : Prop :=
  ¬ lineEnd ++ delimiterOf boundary <:+: content

/-- The file that is received for one that was sent. -/
def received (settings : UploadSettings) (file : ClientFile) : Upload where
  filename := nameRead file.filename
  contentType := some fileType
  content := file.content
  inMemory := !decide (settings.maxMemory < file.content.length)

/-- A file that can be sent and received. -/
structure IsSendable (settings : UploadSettings) (boundary : String) (file : ClientFile) : Prop where
  name    : IsFilename file.filename
  content : IsContent boundary file.content
  stored  : settings.hasDisk = true ∨ file.content.length ≤ settings.maxMemory

theorem return_not_mem {boundary : String} (h : IsBoundary boundary) :
    (13 : UInt8) ∉ bytes boundary := by
  intro hb
  rcases mem_bytes hb with ⟨c, hc, hascii, hreturn⟩ | hb
  · have hnat : c.toNat = 13 := by
      rw [← toNat_ofNat_of_lt (Nat.lt_trans hascii (show 128 < 256 by decide)), ← hreturn]
      rfl
    obtain rfl : c = '\r' := Char.toNat_inj.mp hnat
    exact absurd (h.digits '\r' hc) (by decide)
  · exact absurd hb (by decide)

variable {settings : UploadSettings} {boundary : String} {r : FormReader} {content rest : List UInt8}

/-- The data of a part that was written. -/
theorem foldData_part {ε σ : Type} {fault : FormFault → ε} {step : σ → List UInt8 → Except ε σ}
    {state done : σ} (hboundary : IsBoundary boundary) (hended : r.ended = true)
    (hr : r.boundary = bytes boundary) (hcontent : IsContent boundary content)
    (hrest : delimiterOf boundary <+: rest) (hbuffer : r.buffer = content ++ (lineEnd ++ rest))
    (hstep : step state content = .ok done) :
    r.foldData fault step state = .ok (done, { r with stage := .delimiter, buffer := rest }) := by
  obtain ⟨after, rfl⟩ := hrest
  have hdelimiter : r.delimiter = delimiterOf boundary := by
    rw [FormReader.delimiter, hr]
    rfl
  rw [← hdelimiter] at hbuffer ⊢
  exact FormReader.foldData_eq hended (hr ▸ return_not_mem hboundary)
    (hdelimiter ▸ hcontent) hbuffer hstep

/-! ### Texts -/

/-- Parts with one more text. -/
def Parts.withText (parts : Parts) (name text : String) : Parts :=
  if name = "map" then { parts with maps := parts.maps ++ [text] }
  else { parts with operations := parts.operations ++ [text] }

/-- A text that begins with an ASCII character is decoded from its bytes. -/
theorem decode_bytes {text : String} {b : UInt8} {more : List UInt8} (h : bytes text = b :: more)
    (hascii : b.toNat < 128) : Charset.utf8.decode (bytes text) = text := by
  have hmark : Charset.ofMark? (bytes text) = none := by
    rw [h]
    unfold Charset.ofMark?
    split
    all_goals first
      | rfl
      | rename_i hb
        rw [(List.cons_eq_cons.mp hb).1] at hascii
        exact absurd hascii (by decide)
  rw [Charset.decode, hmark]
  exact decodeLossy_bytes text

theorem take_text (settings : UploadSettings) {name text : String} (hname : name = "operations" ∨ name = "map")
    (hboundary : IsBoundary boundary) (htext : Charset.utf8.decode (bytes text) = text)
    (hcontent : IsContent boundary (bytes text)) (hrest : delimiterOf boundary <+: rest)
    (hended : r.ended = true) (hr : r.boundary = bytes boundary)
    (hbuffer : r.buffer = bytes text ++ (lineEnd ++ rest)) (parts : Parts) :
    parts.take settings (Part.ofFields (fieldsOf (textDisposition name) none)) r
      = .ok (parts.withText name text, { r with stage := .delimiter, buffer := rest }) := by
  obtain ⟨hpart, hfilename, htype⟩ := ofFields_text hname
  have hdata : r.data = .ok (bytes text, { r with stage := .delimiter, buffer := rest }) := by
    rw [FormReader.data, foldData_part hboundary hended hr hcontent hrest hbuffer rfl]
    exact congrArg (fun b => Except.ok (b, _)) (List.append_nil _)
  rw [Parts.take]
  simp only [hfilename, hpart, if_pos hname, hdata, textOf, htype]
  rw [Parts.withText]
  simp only [Except.mapError, bind, Except.bind, Option.bind_none, Option.map_none,
    Option.getD_none, htext]
  rfl

/-- **A text of a form is read.** -/
theorem readParts_text (settings : UploadSettings) {name text : String} (hname : name = "operations" ∨ name = "map")
    (hboundary : IsBoundary boundary) (htext : Charset.utf8.decode (bytes text) = text)
    (hcontent : IsContent boundary (bytes text)) (hrest : delimiterOf boundary <+: rest)
    (hr : StandsAt r boundary (part boundary (textDisposition name) none (bytes text) ++ rest))
    (fuel : Nat) (parts : Parts) :
    ∃ r', StandsAt r' boundary rest ∧
      readParts settings (fuel + 1) parts r
        = readParts settings fuel (parts.withText name text) r' := by
  obtain ⟨hended, hstage, hr, hbuffer⟩ := hr
  have hnext := nextPart_part none (textDisposition_spec hname).1 (fun _ h => by cases h)
    hended hstage hr hbuffer
  have htake := take_text settings hname hboundary htext hcontent hrest
    (r := { r with stage := .data, buffer := bytes text ++ (lineEnd ++ rest) }) hended hr rfl parts
  refine ⟨{ r with stage := .delimiter, buffer := rest }, ⟨hended, rfl, hr, rfl⟩, ?_⟩
  rw [readParts, hnext]
  simp only [Except.mapError, bind, Except.bind, htake]

/-! ### Files -/

theorem take_file {file : ClientFile} (number : Nat) (hboundary : IsBoundary boundary)
    (hfile : IsSendable settings boundary file) (hrest : delimiterOf boundary <+: rest)
    (hended : r.ended = true) (hr : r.boundary = bytes boundary)
    (hbuffer : r.buffer = file.content ++ (lineEnd ++ rest)) (parts : Parts) :
    ∃ events, parts.take settings
        (Part.ofFields (fieldsOf (fileDisposition number file.filename) (some fileType))) r
      = .ok ({ parts with
          files := parts.files ++ [(toString number, received settings file)], events },
          { r with stage := .delimiter, buffer := rest }) := by
  obtain ⟨hname, hfilename, htype⟩ := ofFields_file number hfile.name
  generalize Part.ofFields (fieldsOf (fileDisposition number file.filename) (some fileType)) = part
    at *
  obtain ⟨receipt, htake, hholds⟩ : ∃ receipt,
      Receipt.take settings part.name {} file.content = .ok receipt ∧
        Receipt.Holds settings receipt file.content := by
    rcases Receipt.holds_nil.take_cases part.name file.content with htake | ⟨-, hdisk, hlarge⟩
    · exact htake
    · rcases hfile.stored with hstored | hroom
      · exact absurd (hdisk.symm.trans hstored) Bool.false_ne_true
      · exact absurd hlarge (Nat.not_lt.mpr hroom)
  have hread : readFile settings part r
      = .ok (received settings file, { r with stage := .delimiter, buffer := rest }) := by
    rw [readFile, foldData_part hboundary hended hr hfile.content hrest hbuffer htake]
    simp only [bind, Except.bind, hholds.upload_eq, hfilename, htype, received,
      Option.getD_some]
    rfl
  rw [Parts.take]
  simp only [hfilename, hread, hname, Except.mapError, bind, Except.bind]
  exact ⟨_, rfl⟩

/-- **A file of a form is read.** -/
theorem readParts_file {file : ClientFile} (number : Nat) (hboundary : IsBoundary boundary)
    (hfile : IsSendable settings boundary file) (hrest : delimiterOf boundary <+: rest)
    (hr : StandsAt r boundary (filePart boundary number file ++ rest)) (fuel : Nat)
    (parts : Parts) :
    ∃ r' events, StandsAt r' boundary rest ∧
      readParts settings (fuel + 1) parts r = readParts settings fuel
        { parts with files := parts.files ++ [(toString number, received settings file)], events }
        r' := by
  obtain ⟨hended, hstage, hr, hbuffer⟩ := hr
  have hnext := nextPart_part (some fileType) (fileDisposition_spec number hfile.name).1
    (fun _ h => by cases h; rfl) hended hstage hr hbuffer
  obtain ⟨events, htake⟩ := take_file number hboundary hfile hrest
    (r := { r with stage := .data, buffer := file.content ++ (lineEnd ++ rest) }) hended hr rfl parts
  refine ⟨{ r with stage := .delimiter, buffer := rest }, events, ⟨hended, rfl, hr, rfl⟩, ?_⟩
  rw [readParts, hnext]
  simp only [Except.mapError, bind, Except.bind, htake]

/-! ### Forms -/

/-- The end of a form. -/
def ending (boundary : String) : List UInt8 := line ("--" ++ boundary ++ "--")

theorem ending_eq (boundary : String) :
    ending boundary = delimiterOf boundary ++ 45 :: 45 :: lineEnd := by
  rw [ending, line_eq, bytes_append, bytes_append, show bytes "--" = [45, 45] from
    bytes_ofList ['-', '-'], delimiterOf, List.append_assoc]
  rfl

theorem delimiter_prefix_part (boundary disposition : String) (type? : Option String)
    (content rest : List UInt8) :
    delimiterOf boundary <+: part boundary disposition type? content ++ rest := by
  rw [part_append]
  exact List.prefix_append _ _

/-- The files of a form, by their numbers, and its end. -/
def filesText (boundary : String) (files : List (ClientFile × Nat)) : List UInt8 :=
  files.flatMap (fun (file, number) => filePart boundary number file) ++ ending boundary

theorem delimiter_prefix_files (boundary : String) (files : List (ClientFile × Nat)) :
    delimiterOf boundary <+: filesText boundary files := by
  cases files with
  | nil =>
      rw [filesText, List.flatMap_nil, List.nil_append, ending_eq]
      exact List.prefix_append _ _
  | cons head files =>
      rw [filesText, List.flatMap_cons, List.append_assoc]
      exact delimiter_prefix_part _ _ _ _ _

/-- **The files of a form are read** under their numbers, up to the end of the form. -/
theorem readParts_files (hboundary : IsBoundary boundary) {files : List (ClientFile × Nat)}
    (hfiles : ∀ f ∈ files, IsSendable settings boundary f.1) {fuel : Nat}
    (hfuel : files.length < fuel) (hr : StandsAt r boundary (filesText boundary files))
    (parts : Parts) :
    ∃ events, readParts settings fuel parts r = .ok { parts with
      files := parts.files ++ files.map fun f => (toString f.2, received settings f.1), events } := by
  induction files generalizing r fuel parts with
  | nil =>
      obtain ⟨fuel, rfl⟩ := Nat.exists_eq_succ_of_ne_zero (Nat.ne_zero_of_lt hfuel)
      obtain ⟨hended, hstage, hr, hbuffer⟩ := hr
      have hlast : r.buffer = r.delimiter ++ 45 :: 45 :: lineEnd := by
        rw [hbuffer, filesText, List.flatMap_nil, List.nil_append, ending_eq, FormReader.delimiter,
          hr]
        rfl
      obtain ⟨closed, hnext⟩ := FormReader.nextPart_last hended hstage hlast
      refine ⟨parts.events, ?_⟩
      rw [readParts, hnext, List.map_nil, List.append_nil]
      rfl
  | cons head files ih =>
      obtain ⟨file, number⟩ := head
      obtain ⟨hfile, hothers⟩ := List.forall_mem_cons.mp hfiles
      obtain ⟨fuel, rfl⟩ := Nat.exists_eq_succ_of_ne_zero (Nat.ne_zero_of_lt hfuel)
      rw [filesText, List.flatMap_cons, List.append_assoc] at hr
      obtain ⟨r', events, hr', hread⟩ := readParts_file number hboundary hfile
        (delimiter_prefix_files boundary files) hr fuel parts
      obtain ⟨events', hrest⟩ := ih hothers (Nat.lt_of_succ_lt_succ hfuel) hr'
        { parts with files := parts.files ++ [(toString number, received settings file)], events }
      refine ⟨events', ?_⟩
      rw [List.map_cons, List.append_cons]
      exact hread.trans hrest

/-- The text of an object can be a text of a form. -/
theorem isContent_render (boundary : String) (v : Json) :
    IsContent boundary (bytes v.render) := by
  intro hwithin
  have hreturn : (13 : UInt8) ∈ bytes v.render := hwithin.subset List.mem_cons_self
  exact absurd ((Json.isClear_render v).bytes 13 hreturn) (by decide)

theorem decode_render (members : Json.Members) :
    Charset.utf8.decode (bytes (Json.object members).render) = (Json.object members).render :=
  decode_bytes (Json.text_object members) (by decide)

/-- The files of a request by their numbers. -/
def numbered (r : Outgoing) : List (ClientFile × Nat) :=
  (group r.files).zipIdx.map fun g => (g.1.1, g.2)

/-- The files of groups, as they are received under their numbers. -/
def receivedFiles (settings : UploadSettings) (groups : List (ClientFile × List String)) :
    List (String × Upload) :=
  groups.zipIdx.map fun g => (toString g.2, received settings g.1.1)

theorem encode_eq (boundary : String) (r : Outgoing) :
    encode boundary r =
      part boundary (textDisposition "operations") none
          (bytes (withPlaces r (group r.files)).toRequest.toJson.render)
        ++ (part boundary (textDisposition "map") none (bytes (mapJson (group r.files)).render)
          ++ filesText boundary (numbered r)) := by
  have hfiles : (group r.files).zipIdx.flatMap (fun x => filePart boundary x.2 x.1.1)
      = (numbered r).flatMap fun x => filePart boundary x.2 x.1 := by
    rw [numbered, List.flatMap_map]
  rw [encode, filesText, ← hfiles, ending]
  simp only [List.append_assoc]
  rfl

theorem length_filesText (boundary : String) (files : List (ClientFile × Nat)) :
    files.length ≤ (filesText boundary files).length := by
  rw [filesText, List.length_append]
  refine Nat.le_trans ?_ (Nat.le_add_right _ _)
  induction files with
  | nil => exact Nat.zero_le _
  | cons head files ih =>
      have hprefix := (delimiter_prefix_part boundary (fileDisposition head.2 head.1.filename)
        (some fileType) head.1.content []).length_le
      rw [List.append_nil, delimiterOf, List.length_append] at hprefix
      rw [List.flatMap_cons, List.length_append, List.length_cons]
      exact Nat.add_comm _ 1 ▸ Nat.add_le_add (Nat.le_trans (by simp; omega) hprefix) ih

/-- **The form of a request is read** as it was written: its operation, its map, and its files under
their numbers. -/
theorem readParts_encode {request : Outgoing} (hboundary : IsBoundary boundary)
    (hfiles : ∀ f ∈ request.files, IsSendable settings boundary f.2)
    (hgrouped : Grouped request.files (group request.files))
    (hsize : (encode boundary request).length ≤ settings.maxUploadSize) :
    ∃ parts, readParts settings ((encode boundary request).length + 1) {}
        (FormReader.ofBody boundary settings.maxUploadSize (.whole (encode boundary request)))
          = .ok parts ∧
      parts.operations = [(withPlaces request (group request.files)).toRequest.toJson.render] ∧
      parts.maps = [(mapJson (group request.files)).render] ∧
      parts.files = receivedFiles settings (group request.files) := by
  have hoperations := isContent_render boundary
    (withPlaces request (group request.files)).toRequest.toJson
  have hmap := isContent_render boundary (mapJson (group request.files))
  have hnumbered : ∀ f ∈ numbered request, IsSendable settings boundary f.1 := by
    intro f hf
    obtain ⟨g, hg, rfl⟩ := List.mem_map.mp hf
    obtain ⟨path, hpath⟩ := hgrouped.exists_mem (List.fst_mem_of_mem_zipIdx hg)
    exact hfiles _ hpath
  have hlength := length_filesText boundary (numbered request)
  rw [encode_eq] at hsize ⊢
  generalize htail : part boundary (textDisposition "map") none
    (bytes (mapJson (group request.files)).render) ++ filesText boundary (numbered request) = tail
  generalize hbody : part boundary (textDisposition "operations") none
    (bytes (withPlaces request (group request.files)).toRequest.toJson.render) ++ tail = body
  rw [htail, hbody] at hsize
  have hfuel : (numbered request).length + 2 ≤ body.length := by
    rw [← hbody, ← htail]
    have hprefix := (delimiter_prefix_part boundary (textDisposition "operations") none
      (bytes (withPlaces request (group request.files)).toRequest.toJson.render) []).length_le
    rw [List.append_nil, delimiterOf] at hprefix
    simp only [List.length_append, List.length_cons, List.length_nil] at hprefix ⊢
    omega
  obtain ⟨fuel, hsucc⟩ : ∃ fuel, body.length + 1 = fuel + 1 + 1 := ⟨body.length - 1, by omega⟩
  have hstart : readParts settings (body.length + 1) {}
        (FormReader.ofBody boundary settings.maxUploadSize (.whole body))
      = readParts settings (fuel + 1 + 1) {}
        (FormReader.arrived (bytes boundary) settings.maxUploadSize body) := by
    rw [hsucc, readParts, readParts, FormReader.nextPart_ofBody hsize]
    rw [← hbody]
    exact delimiter_prefix_part _ _ _ _ _
  obtain ⟨r, hr, hread⟩ := readParts_text settings (.inl rfl) hboundary
    (decode_render _) hoperations (htail ▸ delimiter_prefix_part _ _ _ _ _)
    (r := FormReader.arrived (bytes boundary) settings.maxUploadSize body) ⟨rfl, rfl, rfl, hbody.symm⟩
    (fuel + 1) {}
  obtain ⟨r', hr', hread'⟩ := readParts_text settings (.inr rfl) hboundary (decode_render _) hmap
    (delimiter_prefix_files boundary (numbered request)) (htail ▸ hr) fuel
    (Parts.withText {} "operations" _)
  obtain ⟨events, hrest⟩ := readParts_files hboundary hnumbered
    (show (numbered request).length < fuel by omega) hr' _
  refine ⟨_, hstart.trans (hread.trans (hread'.trans hrest)), rfl, rfl, ?_⟩
  rw [numbered, List.map_map]
  rfl

/-! ### The boundary -/

theorem token_of_isBoundary {boundary : String} (h : IsBoundary boundary) :
    ∀ c ∈ boundary.toList, MediaType.isTokenChar c = true ∧ c ≠ '"' ∧ c ≠ ';' := by
  intro c hc
  have halnum : ((c.isUpper || c.isLower) || c.isDigit) = true := by
    rcases h.digits c hc with hdigit | ⟨hlow, hhigh⟩
    · rw [hdigit, Bool.or_true]
    · have hlower : (decide (c ≥ 'a') && decide (c ≤ 'z')) = true :=
        Bool.and_eq_true_iff.mpr ⟨decide_eq_true hlow, decide_eq_true (Nat.le_trans hhigh (by decide))⟩
      rw [show c.isLower = true from hlower, Bool.or_true, Bool.true_or]
  refine ⟨?_, ?_, ?_⟩
  · rw [MediaType.isTokenChar, show c.isAlphanum = true from halnum, Bool.true_or]
  · rintro rfl
    exact absurd halnum (by decide)
  · rintro rfl
    exact absurd halnum (by decide)

/-- A server finds the boundary that a client names. -/
theorem boundary?_contentType {boundary : String} (h : IsBoundary boundary) (headers : Headers) :
    boundary? (headers.insert "content-type" (contentType boundary)) = some boundary := by
  have hopening : "multipart/form-data; boundary=".toList
      = "multipart/form-data".toList ++ ';' :: ' ' :: ("boundary".toList ++ ['=']) := by
    decide +kernel
  have happend : (contentType boundary).toList
      = "multipart/form-data; boundary=".toList ++ boundary.toList := String.toList_append
  have htext : (contentType boundary).toList = "multipart/form-data".toList
      ++ ';' :: ' ' :: ("boundary".toList ++ '=' :: boundary.toList) := by
    rw [happend, hopening, List.append_assoc, List.cons_append, List.cons_append, List.append_assoc,
      List.singleton_append]
  have hpieces : ContentType.pieces false [] (contentType boundary).toList
      = ["multipart/form-data".toList, ' ' :: ("boundary".toList ++ '=' :: boundary.toList)] := by
    have hplain : ∀ c ∈ ' ' :: ("boundary".toList ++ '=' :: boundary.toList),
        c ≠ '"' ∧ c ≠ ';' := by
      refine List.forall_mem_cons.mpr ⟨by decide, List.forall_mem_append.mpr
        ⟨List.all_iff_forall_prop.mp (by decide), ?_⟩⟩
      exact List.forall_mem_cons.mpr ⟨by decide, fun c hc => (token_of_isBoundary h c hc).2⟩
    have hlast := ContentType.pieces_append hplain [] []
    rw [List.append_nil, List.append_nil] at hlast
    rw [htext, ContentType.pieces_append (List.all_iff_forall_prop.mp (by decide)),
      ContentType.pieces, hlast, ContentType.pieces, List.reverse_reverse, List.append_nil,
      List.reverse_reverse]
  have hparameter := ContentType.parameter_eq "boundary".toList (by decide)
    (List.all_eq_true.mp (by decide)) (by decide) (by decide)
    fun c hc => ⟨(token_of_isBoundary h c hc).1, (token_of_isBoundary h c hc).2.1⟩
  rw [String.ofList_toList, String.ofList_toList] at hparameter
  have hany : contentType boundary ≠ "*/*" := fun hany => by
    have := congrArg String.toList hany
    rw [htext] at this
    cases this
  rw [boundary?, Headers.get?_insert]
  simp only [Option.bind_eq_bind, Option.bind_some]
  rw [ContentType.read?, if_neg hany]
  have htype : "multipart/form-data".toList.takeWhile MediaType.isTokenChar = "multipart".toList := by
    decide
  have hdrop : "multipart/form-data".toList.drop "multipart".toList.length
      = '/' :: "form-data".toList := by
    decide
  have hsubtype : "form-data".toList.all MediaType.isTokenChar = true := by decide
  have hblank : (' ' :: ("boundary".toList ++ '=' :: boundary.toList)).all (· = ' ') = false := by
    rw [List.all_eq_false]
    exact ⟨'b', List.mem_cons_of_mem _ (List.mem_append_left _ (by decide)), by decide⟩
  simp only [hpieces, htype, hdrop, hsubtype, guard, ContentType.readParameters, hblank, hparameter]
  rfl

/-- A form whose boundary and parts are read is read as what its parts hold. -/
theorem read_eq_paramsOf {form : Http.Request} {parts : Parts}
    (hboundary : boundary? form.headers = some boundary)
    (hread : readParts settings (form.body.size + 1) {}
      (FormReader.ofBody boundary settings.maxUploadSize form.body) = .ok parts) :
    read settings form = (paramsOf parts form.headers, parts.events) := by
  rw [read, hboundary]
  dsimp only
  rw [hread]

end GraphServe.UploadForm
