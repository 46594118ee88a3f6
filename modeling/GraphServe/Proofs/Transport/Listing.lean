import GraphServe.Proofs.Transport.Upload

/-!
# Uploads — files under their keys

A form tells of each file in two places: the map lists under a key where the file goes, and the file
is a part that has the key as its name.  A client writes the two one after the other, each from the
places of the groups of its files, and they are in step (`ClientForm.encode_gathers`): each file of
the request is sent once, in the order in which the files first come, and under its key the map has
the paths that it came with, in order and as often as they came.

The keys are the numbers of the groups (`ClientForm.numberedFiles`), so no two files have one.  The
name of a part is what a reader of forms takes from its header; it stands before the filename, and
does not depend on it (`ClientForm.name_ofFields_file`).
-/

namespace GraphServe.ClientForm

open Http

/-- A file of a form: its key, and the paths it goes to. -/
structure FormFile where
  key   : String
  file  : ClientFile
  paths : List String

namespace FormFile

/-- The file with its paths. -/
def asGroup (f : FormFile) : ClientFile × List String := (f.file, f.paths)

/-- What the part of a file says of it. -/
def disposition (f : FormFile) : String :=
  "name=\"" ++ f.key ++ "\"; filename=\"" ++ f.file.filename ++ "\""

/-- The key of a file with its paths, all of them into the variables. -/
def entry (f : FormFile) : String × List String := (f.key, f.paths.map ("variables." ++ ·))

/-- The member of the map for a file. -/
def member (f : FormFile) : String × Json := (f.key, .list (f.entry.2.map .string))

end FormFile

/-- The map of files. -/
def mapOf (sent : List FormFile) : Json := .object (sent.map FormFile.member)

/-- A form sends files: each is a part, and an entry of the map under the name of the part. -/
structure Sends (boundary : String) (form : List UInt8) (sent : List FormFile) : Prop where
  /-- No two files have one key. -/
  keys  : (sent.map FormFile.key).Nodup
  parts : ∃ operations : Json, form =
    part boundary "name=\"operations\"" none (Text.bytes operations.render)
      ++ part boundary "name=\"map\"" none (Text.bytes (mapOf sent).render)
      ++ sent.flatMap (fun f => part boundary f.disposition (some fileType) f.file.content)
      ++ line ("--" ++ boundary ++ "--")
  /-- A reader of the map finds the paths of each file under its key. -/
  map   : UploadForm.decodeOnly? UploadForm.mapDecoder [(mapOf sent).render]
    = some (sent.map FormFile.entry)
  /-- A reader of the parts finds each file under its key. -/
  names : ∀ f ∈ sent, (Part.ofFields (fieldsOf f.disposition (some fileType))).name = f.key

/-- Groups under their numbers. -/
def numberedFiles (groups : List (ClientFile × List String)) : List FormFile :=
  groups.zipIdx.map fun (group, number) => ⟨toString number, group.1, group.2⟩

theorem asGroup_numberedFiles (groups : List (ClientFile × List String)) :
    (numberedFiles groups).map FormFile.asGroup = groups := by
  rw [numberedFiles, List.map_map]
  exact List.zipIdx_map_fst 0 groups

theorem nodup_keys (groups : List (ClientFile × List String)) :
    ((numberedFiles groups).map FormFile.key).Nodup := by
  rw [numberedFiles, List.map_map]
  exact UploadForm.nodup_numbers groups

theorem entries_numberedFiles (groups : List (ClientFile × List String)) :
    (numberedFiles groups).map FormFile.entry =
      (UploadForm.entriesOf groups).map fun e => (e.1, e.2.map (UploadForm.variablesOpening ++ ·)) := by
  rw [numberedFiles, UploadForm.entriesOf, List.map_map, List.map_map]
  rfl

/-- The map that is written is the one of the files under their numbers. -/
theorem mapJson_eq_mapOf (groups : List (ClientFile × List String)) :
    mapJson groups = mapOf (numberedFiles groups) := by
  rw [UploadForm.mapJson_eq, ← entries_numberedFiles, List.map_map]
  rfl

/-- **A form sends the files of a request** under the numbers of their groups. -/
theorem sends_encode (boundary : String) (r : Outgoing) :
    Sends boundary (encode boundary r) (numberedFiles (group r.files)) where
  keys := nodup_keys (group r.files)
  parts := by
    refine ⟨(withPlaces r (group r.files)).toRequest.toJson, ?_⟩
    rw [encode, mapJson_eq_mapOf, numberedFiles, List.flatMap_map]
    rfl
  map := by
    rw [← mapJson_eq_mapOf, entries_numberedFiles]
    exact UploadForm.decodeOnly?_map (group r.files)
  names := by
    intro f hf
    obtain ⟨⟨group, number⟩, -, rfl⟩ := List.mem_map.mp hf
    exact name_ofFields_file number group.1.filename

/-- **Files are sent without loss.**  The groups of a request, and no others, gather its files, and the
form of the request sends what was gathered. -/
theorem encode_gathers (boundary : String) (r : Outgoing) :
    (∀ groups, Gathers r.files groups ↔ groups = group r.files) ∧
      ∃ sent : List FormFile, sent.map FormFile.asGroup = group r.files ∧
        Sends boundary (encode boundary r) sent := by
  constructor
  · intro groups
    exact gathers_iff
  · exact ⟨numberedFiles (group r.files), asGroup_numberedFiles (group r.files),
      sends_encode boundary r⟩

end GraphServe.ClientForm
