import GraphServe.Proofs.Transport.Spilling

/-!
# Forms with files — the sections of a form

A form holds sections: parts with their data.  A reader lists those that are files, the operation or
the map, and passes over the others (`UploadForm.Lists`); it does so in one way
(`UploadForm.Lists.unique`).

**Reading the parts** (`UploadForm.lists_of_readParts`).  What is read from a form are the texts of
its sections `operations` and `map` and the files of the others, in order.  The bytes of a file are
the data of its section, whether they were held in memory or put on disk.
-/

namespace GraphServe

namespace UploadForm

open Http

variable {settings : UploadSettings}

/-! ### Files -/

/-- A part of a form with its data. -/
structure Section where
  part    : Part
  content : List UInt8

namespace Section

/-- Whether a section is a file. -/
def isFile (s : Section) : Bool := s.part.filename?.isSome

/-- Whether a section is a text of a name. -/
def isText (name : String) (s : Section) : Bool := !s.isFile && s.part.name == name

/-- The text of a section, in the encoding that its content type names. -/
def text (s : Section) : String := textOf s.part s.content

/-- The file of a section. -/
def upload (settings : UploadSettings) (s : Section) : Upload where
  filename := s.part.filename?.getD ""
  contentType := s.part.contentType?.map (·.text)
  content := s.content
  inMemory := !decide (settings.maxMemory < s.content.length)

end Section

/-- A file is read as the data of its part. -/
theorem data_of_readFile {part : Part} {r after : FormReader} {file : Upload}
    (h : readFile settings part r = .ok (file, after)) :
    ∃ content, r.data = .ok (content, after) ∧ file = Section.upload settings ⟨part, content⟩ := by
  obtain ⟨chunks, receipt, hyields, hholds, rfl⟩ := exists_yields_of_readFile h
  exact ⟨chunks.flatten, hyields.data, hholds.upload_eq part⟩

/-! ### Sections -/

/-- Whether a part is read: a file, the operation or the map. -/
def IsRead (part : Part) : Prop :=
  part.filename?.isSome ∨ part.name = "operations" ∨ part.name = "map"

/-- A reader comes by sections that are read, in this order, and then to the end of the form. -/
inductive Lists : FormReader → List Section → Prop where
  | last {r after : FormReader} (next : r.nextPart = .ok (none, after)) : Lists r []
  | read {r s after : FormReader} {part : Part} {content : List UInt8} {rest : List Section}
      (next : r.nextPart = .ok (some part, s)) (wanted : IsRead part)
      (data : s.data = .ok (content, after)) (more : Lists after rest) :
      Lists r (⟨part, content⟩ :: rest)
  | passed {r s : FormReader} {part : Part} {rest : List Section}
      (next : r.nextPart = .ok (some part, s)) (unwanted : ¬ IsRead part) (more : Lists s rest) :
      Lists r rest

/-- A form has the sections that it has. -/
theorem Lists.unique {r : FormReader} {sections others : List Section} (h : Lists r sections)
    (h' : Lists r others) : sections = others := by
  induction h generalizing others with
  | last next =>
      cases h' with
      | last _ => rfl
      | read next' _ _ _ => cases next.symm.trans next'
      | passed next' _ _ => cases next.symm.trans next'
  | read next wanted data _ ih =>
      cases h' with
      | last next' => cases next.symm.trans next'
      | read next' _ data' more' =>
          cases next.symm.trans next'
          cases data.symm.trans data'
          rw [ih more']
      | passed next' unwanted' _ =>
          cases next.symm.trans next'
          exact absurd wanted unwanted'
  | passed next unwanted _ ih =>
      cases h' with
      | last next' => cases next.symm.trans next'
      | read next' wanted' _ _ =>
          cases next.symm.trans next'
          exact absurd wanted' unwanted
      | passed next' _ more' =>
          cases next.symm.trans next'
          exact ih more'

/-- The texts of some sections that have a name. -/
def textsOf (name : String) (sections : List Section) : List String :=
  (sections.filter (·.isText name)).map Section.text

/-- The files of some sections, by the names of their parts. -/
def filesOf (settings : UploadSettings) (sections : List Section) : List (String × Upload) :=
  (sections.filter Section.isFile).map fun s => (s.part.name, s.upload settings)

/-- Parts hold what some others hold, and the texts and files of some sections. -/
structure Parts.Extends (settings : UploadSettings) (parts : Parts) (sections : List Section)
    (last : Parts) : Prop where
  operations : last.operations = parts.operations ++ textsOf "operations" sections
  maps       : last.maps = parts.maps ++ textsOf "map" sections
  files      : last.files = parts.files ++ filesOf settings sections

theorem Parts.Extends.refl (parts : Parts) : parts.Extends settings [] parts where
  operations := (List.append_nil _).symm
  maps := (List.append_nil _).symm
  files := (List.append_nil _).symm

theorem Parts.Extends.trans {parts next last : Parts} {sections more : List Section}
    (h : parts.Extends settings sections next) (h' : next.Extends settings more last) :
    parts.Extends settings (sections ++ more) last where
  operations := by
    rw [h'.operations, h.operations, List.append_assoc, textsOf, textsOf, textsOf,
      List.filter_append, List.map_append]
  maps := by
    rw [h'.maps, h.maps, List.append_assoc, textsOf, textsOf, textsOf, List.filter_append,
      List.map_append]
  files := by
    rw [h'.files, h.files, List.append_assoc, filesOf, filesOf, filesOf, List.filter_append,
      List.map_append]

/-- **One part is taken in.**  It is a section with the data of the part, or is passed over. -/
theorem Parts.take_extends {parts next : Parts} {part : Part} {r after : FormReader}
    (h : parts.take settings part r = .ok (next, after)) :
    (∃ content, IsRead part ∧ r.data = .ok (content, after) ∧
        parts.Extends settings [⟨part, content⟩] next) ∨
      ¬ IsRead part ∧ after = r ∧ next = parts := by
  rw [Parts.take] at h
  cases hfilename : part.filename? with
  | some filename =>
      rw [hfilename] at h
      dsimp only at h
      cases hread : readFile settings part r with
      | error fault => rw [hread] at h; cases h
      | ok done =>
          obtain ⟨file, after⟩ := done
          rw [hread] at h
          cases h
          obtain ⟨content, hdata, rfl⟩ := data_of_readFile hread
          refine .inl ⟨content, .inl (by rw [hfilename]; rfl), hdata, ?_, ?_, ?_⟩
          · simp [textsOf, Section.isText, Section.isFile, hfilename]
          · simp [textsOf, Section.isText, Section.isFile, hfilename]
          · simp [filesOf, Section.isFile, hfilename]
  | none =>
      rw [hfilename] at h
      dsimp only at h
      split at h
      · rename_i hname
        cases hdata : r.data with
        | error fault => rw [hdata] at h; cases h
        | ok done =>
            obtain ⟨content, after⟩ := done
            rw [hdata] at h
            cases h
            refine .inl ⟨content, .inr hname, rfl, ?_⟩
            rcases hname with hname | hname
            · constructor <;>
                simp [textsOf, filesOf, Section.isText, Section.isFile, Section.text, hfilename, hname]
            · constructor <;>
                simp [textsOf, filesOf, Section.isText, Section.isFile, Section.text, hfilename, hname]
      · rename_i hname
        cases h
        refine .inr ⟨fun hread => ?_, rfl, rfl⟩
        rcases hread with hread | hread
        · rw [hfilename] at hread
          cases hread
        · exact hname hread

/-- **The parts of a form are read**: the texts and the files of its sections. -/
theorem lists_of_readParts {fuel : Nat} {parts last : Parts} {r : FormReader}
    (h : readParts settings fuel parts r = .ok last) :
    ∃ sections, Lists r sections ∧ parts.Extends settings sections last := by
  induction fuel generalizing parts r with
  | zero => cases h
  | succ fuel ih =>
      rw [readParts] at h
      cases hnext : r.nextPart with
      | error fault => rw [hnext] at h; cases h
      | ok next =>
          obtain ⟨next, s⟩ := next
          rw [hnext] at h
          cases next with
          | none =>
              cases h
              exact ⟨[], .last hnext, .refl _⟩
          | some part =>
              cases htake : parts.take settings part s with
              | error fault =>
                  dsimp only [Except.mapError, bind, Except.bind] at h
                  rw [htake] at h
                  cases h
              | ok taken =>
                  obtain ⟨taken, after⟩ := taken
                  dsimp only [Except.mapError, bind, Except.bind] at h
                  rw [htake] at h
                  obtain ⟨rest, hrest, hlast⟩ := ih h
                  rcases Parts.take_extends htake with ⟨content, hread, hdata, hfirst⟩ | ⟨hread, rfl, rfl⟩
                  · exact ⟨_, .read hnext hread hdata hrest, hfirst.trans hlast⟩
                  · exact ⟨rest, .passed hnext hread hrest, hlast⟩

end UploadForm

end GraphServe
