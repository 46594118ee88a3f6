import GraphServe.Proofs.Json.Replacing
import GraphServe.Proofs.Transport.Sections
import GraphServe.Proofs.Transport.Upload

/-!
# Forms with files — the map is followed

The map of a form lists, for each key, the paths of the variables that the file of the key goes to.

**The map is followed** (`UploadForm.read_follows`).  Let the parameters of a form be read, and let
any two of the paths of its map part.  Then at each path stands the placeholder of its key, and the
placeholder leads to the one file of the form with that name, with its filename, its content type
and its bytes.  There is a file for each key of the map and no other, and what stands at a path that
parts from those of the map is what the operation has there.

* `UploadForm.placeAll_ok`, `UploadForm.place_ok`: placing files is a sequence of replacements.
-/

namespace GraphServe

namespace UploadForm

open Http

variable {settings : UploadSettings} {files : List (String × Upload)} {uploads uploads' : Uploads}
  {sections : List Section} {r : GraphServe.Request} {entries : List (String × List String)}
  {v w : Json} {key : String}

/-! ### Placing -/

/-- The replacements that an entry of a map asks for. -/
def replacementsOf (entry : String × List String) : List (Path × Json) :=
  (entry.2.filterMap variablePath?).map (·, Uploads.placeholder entry.1)

/-- The paths of a map. -/
def mappedPaths (entries : List (String × List String)) : List Path :=
  entries.flatMap fun entry => entry.2.filterMap variablePath?

theorem map_fst_replacements (entries : List (String × List String)) :
    (entries.flatMap replacementsOf).map Prod.fst = mappedPaths entries := by
  simp only [mappedPaths, replacementsOf, List.map_flatMap, List.map_map, Function.comp_def,
    List.map_id']

/-- A path that leads into the variables leads below them. -/
theorem variablePath?_ne_nil {text : String} {path : Path} (h : variablePath? text = some path) :
    path ≠ [] := by
  rw [variablePath?] at h
  split at h
  · cases h
    exact Path.parseDotted_ne_nil _
  · cases h

/-- The file of one key is put at each of its paths. -/
theorem placeAll_ok {paths : List String} (h : placeAll key v paths = .ok w) :
    (∀ text ∈ paths, ∃ path, variablePath? text = some path) ∧
      Json.setAll (replacementsOf (key, paths)) v = some w := by
  induction paths generalizing v with
  | nil =>
      cases h
      exact ⟨fun _ htext => (nomatch htext), rfl⟩
  | cons text paths ih =>
      rw [placeAll] at h
      cases hpath : variablePath? text with
      | none => rw [hpath] at h; cases h
      | some path =>
          rw [hpath] at h
          dsimp only at h
          cases hset : Json.setAt (Uploads.placeholder key) path v with
          | none => rw [hset] at h; cases h
          | some u =>
              rw [hset] at h
              obtain ⟨hpaths, hall⟩ := ih h
              refine ⟨List.forall_mem_cons.mpr ⟨⟨path, hpath⟩, hpaths⟩, ?_⟩
              rw [replacementsOf, List.filterMap_cons_some hpath, List.map_cons, Json.setAll, hset]
              exact hall

/-- What stands alone under a key is found under it. -/
theorem lookup_of_filter {found : String} {file : Upload}
    (h : files.filter (·.1 = key) = [(found, file)]) : files.lookup key = some file := by
  induction files with
  | nil => cases h
  | cons head files ih =>
      obtain ⟨k, f⟩ := head
      by_cases hk : k = key
      · rw [List.filter_cons, if_pos (by simpa using hk)] at h
        cases (List.cons_eq_cons.mp h).1
        rw [List.lookup_cons, hk, beq_self_eq_true]
      · rw [List.filter_cons, if_neg (by simpa using hk)] at h
        rw [List.lookup_cons, beq_false_of_ne (Ne.symm hk)]
        exact ih h

/-- An entry of a map that can be followed: its paths lead into the variables, and one file has its
key. -/
structure IsFollowed (files : List (String × Upload)) (entry : String × List String) : Prop where
  paths : ∀ text ∈ entry.2, ∃ path, variablePath? text = some path
  file  : ∃ found file, files.filter (·.1 = entry.1) = [(found, file)]

/-- **Files are placed** entry by entry: each at its paths, and each under its key. -/
theorem place_ok (h : place files entries (v, uploads) = .ok (w, uploads')) :
    (∀ entry ∈ entries, IsFollowed files entry) ∧
      Json.setAll (entries.flatMap replacementsOf) v = some w ∧
      ∀ key, uploads'.lookup key =
        if key ∈ entries.map Prod.fst then files.lookup key else uploads.lookup key := by
  induction entries generalizing v uploads with
  | nil =>
      cases h
      exact ⟨fun _ hentry => (nomatch hentry), rfl, fun key => rfl⟩
  | cons entry entries ih =>
      obtain ⟨key, paths⟩ := entry
      rw [place] at h
      split at h
      · cases h
      · dsimp only [bind, Except.bind] at h
        split at h
        · rename_i found file hfile
          cases hplaced : placeAll key v paths with
          | error fault => rw [hplaced] at h; cases h
          | ok u =>
              rw [hplaced] at h
              obtain ⟨hpaths, hset⟩ := placeAll_ok hplaced
              obtain ⟨hothers, hall, hlookup⟩ := ih h
              refine ⟨List.forall_mem_cons.mpr ⟨⟨hpaths, found, file, hfile⟩, hothers⟩, ?_,
                fun other => ?_⟩
              · rw [List.flatMap_cons, Json.setAll_append, hset, Option.bind_some, hall]
              · rw [hlookup, Uploads.lookup_insert, List.map_cons]
                by_cases hother : other = key
                · simp only [hother, List.mem_cons, true_or, if_true, lookup_of_filter hfile, ite_self]
                · simp only [hother, List.mem_cons, false_or, if_false]
        · cases h

/-! ### Forms -/

/-- Whether a section is a file of a name. -/
def Section.isFileOf (key : String) (s : Section) : Bool := s.isFile && s.part.name == key

/-- The file of a section, wherever its bytes are held. -/
structure Section.Gives (s : Section) (upload : Upload) : Prop where
  filename    : s.part.filename? = some upload.filename
  contentType : upload.contentType = s.part.contentType?.map (·.text)
  content     : upload.content = s.content

/-- The sections of a form hold one operation and one map. -/
structure Says (sections : List Section) (r : GraphServe.Request)
    (entries : List (String × List String)) : Prop where
  operations : ∃ s, sections.filter (·.isText "operations") = [s] ∧
    Json.Decoder.run Request.decoder (Text.bytes s.text) = .ok r
  map        : ∃ s, sections.filter (·.isText "map") = [s] ∧
    Json.Decoder.run mapDecoder (Text.bytes s.text) = .ok entries

/-- Parameters are what the sections of a form, their operation and their map ask for. -/
structure Follows (sections : List Section) (r : GraphServe.Request)
    (entries : List (String × List String)) (params : Params) : Prop where
  /-- At each path of the map stands a placeholder that leads to the one file of its key. -/
  placed : ∀ entry ∈ entries, ∀ text ∈ entry.2, ∃ path s upload, variablePath? text = some path ∧
    (Json.object params.variableValues).getAt path = some (Uploads.placeholder entry.1) ∧
    params.uploads.find? (Uploads.placeholder entry.1) = some upload ∧
    sections.filter (·.isFileOf entry.1) = [s] ∧ s.Gives upload
  /-- The files are those of the map. -/
  keys   : ∀ key, (∃ upload, params.uploads.lookup key = some upload) ↔ key ∈ entries.map Prod.fst
  /-- Apart from the paths of the map, the variables are those of the operation. -/
  kept   : ∀ path, (∀ mapped ∈ mappedPaths entries, mapped.Diverges path) →
    (Json.object params.variableValues).getAt path = (Json.object r.variableValues).getAt path
  /-- All else is that of the operation. -/
  others : { params with variableValues := r.variableValues, uploads := [] }
    = Params.ofRequest r params.headers

/-- The one file of a name is that of the one section. -/
theorem filter_isFileOf {found : String} {file : Upload}
    (h : (filesOf settings sections).filter (·.1 = key) = [(found, file)]) :
    ∃ s, sections.filter (·.isFileOf key) = [s] ∧ s.Gives file := by
  rw [filesOf, List.filter_map, List.filter_filter] at h
  obtain ⟨s, rest, hfilter, hs, hrest⟩ := List.map_eq_cons_iff.mp h
  obtain rfl := List.map_eq_nil_iff.mp hrest
  have hfilter : sections.filter (·.isFileOf key) = [s] := by
    rw [← hfilter]
    exact List.filter_congr fun s _ => by
      simp [Section.isFileOf, Bool.and_comm, Bool.beq_eq_decide_eq]
  have hfile : s.isFile = true := by
    have hmem := List.mem_filter.mp (hfilter ▸ List.mem_singleton_self s)
    exact (Bool.and_eq_true_iff.mp hmem.2).1
  obtain ⟨filename, hfilename⟩ := Option.isSome_iff_exists.mp hfile
  cases hs
  refine ⟨s, hfilter, ?_, rfl, rfl⟩
  rw [Section.upload, hfilename]
  rfl

/-- What is decoded is the one text that there is. -/
theorem decodeOnly?_eq {α : Type} {decoder : Json.Decoder α} {name : String} {a : α}
    (h : decodeOnly? decoder (textsOf name sections) = some a) :
    ∃ s, sections.filter (·.isText name) = [s] ∧
      Json.Decoder.run decoder (Text.bytes s.text) = .ok a := by
  rw [textsOf] at h
  rcases hsections : sections.filter (·.isText name) with _ | ⟨s, _ | ⟨t, more⟩⟩
  · rw [hsections] at h
    cases h
  · rw [hsections, List.map_singleton, decodeOnly?] at h
    refine ⟨s, hsections, ?_⟩
    cases hrun : Json.Decoder.run decoder (Text.bytes s.text) with
    | error fault => rw [hrun] at h; cases h
    | ok b => rw [hrun] at h; cases h; rfl
  · rw [hsections] at h
    cases h

/-- What the parts of a form hold are an operation and a map that can be followed. -/
theorem paramsOf_ok {parts : Parts} {headers : Headers} {params : Params}
    (h : paramsOf parts headers = .ok params) :
    ∃ r entries w, decodeOnly? Request.decoder parts.operations = some r ∧
      decodeOnly? mapDecoder parts.maps = some entries ∧
      place parts.files entries (.object r.variableValues, []) = .ok (w, params.uploads) ∧
      params = { Params.ofRequest r headers with
        variableValues := w.object?.getD [], uploads := params.uploads } := by
  rw [paramsOf] at h
  cases hrequest : decodeOnly? Request.decoder parts.operations with
  | none => rw [hrequest] at h; cases h
  | some r =>
      cases hentries : decodeOnly? mapDecoder parts.maps with
      | none => rw [hrequest, hentries] at h; cases h
      | some entries =>
          rw [hrequest, hentries] at h
          dsimp only [bind, Except.bind] at h
          cases hplace : place parts.files entries
              (.object (Params.ofRequest r headers).variableValues, []) with
          | error fault => rw [hplace] at h; cases h
          | ok placed =>
              obtain ⟨w, uploads⟩ := placed
              rw [hplace] at h
              cases h
              exact ⟨r, entries, w, rfl, rfl, hplace, rfl⟩

/-- **The map of a form is followed**, if any two of its paths part. -/
theorem read_follows {form : Http.Request} {params : Params} {events : List Event}
    (h : read settings form = (.ok params, events)) :
    ∃ boundary sections r entries, boundary? form.headers = some boundary ∧
      Lists (FormReader.ofBody boundary settings.maxUploadSize form.body) sections ∧
      Says sections r entries ∧
      ((mappedPaths entries).Pairwise Path.Diverges → Follows sections r entries params) := by
  rw [read] at h
  cases hboundary : boundary? form.headers with
  | none => rw [hboundary] at h; cases h
  | some boundary =>
      rw [hboundary] at h
      dsimp only at h
      split at h
      · cases h
      · rename_i parts hread
        obtain ⟨hparams, -⟩ := Prod.mk.inj h
        obtain ⟨sections, hlists, hparts⟩ := lists_of_readParts hread
        obtain ⟨r, entries, w, hrequest, hmap, hplace, heq⟩ := paramsOf_ok hparams
        rw [hparts.operations] at hrequest
        rw [hparts.maps] at hmap
        rw [hparts.files] at hplace
        refine ⟨boundary, sections, r, entries, rfl, hlists,
          ⟨decodeOnly?_eq hrequest, decodeOnly?_eq hmap⟩, fun hpart => ?_⟩
        obtain ⟨hfollowed, hset, hlookup⟩ := place_ok hplace
        have hpaths : ∀ write ∈ entries.flatMap replacementsOf, write.1 ≠ [] := by
          intro write hwrite
          obtain ⟨entry, -, hwrite⟩ := List.mem_flatMap.mp hwrite
          obtain ⟨path, hpath, rfl⟩ := List.mem_map.mp hwrite
          obtain ⟨text, -, htext⟩ := List.mem_filterMap.mp hpath
          exact variablePath?_ne_nil htext
        obtain ⟨members, rfl⟩ := Json.setAll_isObject hpaths hset
        have hvalues : params.variableValues = members := by rw [heq]; rfl
        refine ⟨fun entry hentry text htext => ?_, fun key => ?_, fun path hpath => ?_, ?_⟩
        · obtain ⟨hleads, found, file, hfile⟩ := hfollowed entry hentry
          obtain ⟨path, hpath⟩ := hleads text htext
          obtain ⟨s, hs, hgives⟩ := filter_isFileOf hfile
          refine ⟨path, s, file, hpath, ?_, ?_, hs, hgives⟩
          · rw [hvalues]
            refine Json.getAt_setAll (map_fst_replacements entries ▸ hpart) hset ?_
            exact List.mem_flatMap.mpr ⟨entry, hentry,
              List.mem_map.mpr ⟨path, List.mem_filterMap.mpr ⟨text, htext, hpath⟩, rfl⟩⟩
          · rw [Uploads.find?_placeholder, hlookup, if_pos (List.mem_map_of_mem hentry)]
            exact lookup_of_filter hfile
        · rw [hlookup]
          split
          · rename_i hkey
            obtain ⟨entry, hentry, rfl⟩ := List.mem_map.mp hkey
            obtain ⟨-, found, file, hfile⟩ := hfollowed entry hentry
            exact iff_of_true ⟨file, lookup_of_filter hfile⟩ hkey
          · rename_i hkey
            refine iff_of_false (fun hfound => ?_) hkey
            obtain ⟨file, hnone⟩ := hfound
            cases hnone
        · rw [hvalues]
          refine Json.getAt_setAll_of_diverges (fun write hwrite => hpath _ ?_) hset
          exact map_fst_replacements entries ▸ List.mem_map_of_mem hwrite
        · rw [heq]
          rfl

/-- A form says what its one operation and its one map say. -/
theorem Says.unique {r' : GraphServe.Request} {entries' : List (String × List String)}
    (h : Says sections r entries) (h' : Says sections r' entries') : r = r' ∧ entries = entries' := by
  obtain ⟨⟨s, hs, hr⟩, t, ht, hentries⟩ := h
  obtain ⟨⟨s', hs', hr'⟩, t', ht', hentries'⟩ := h'
  cases hs.symm.trans hs'
  cases ht.symm.trans ht'
  exact ⟨Except.ok.inj (hr.symm.trans hr'), Except.ok.inj (hentries.symm.trans hentries')⟩

open Client ClientForm in
/-- The map of a form with two files for three variables is followed. -/
theorem read_follows_album :
    ∃ form params events sections r entries,
      form.body = .whole (encode "0123456789abcdef" (visitor.outgoing "{ a }" album)) ∧
        read {} form = (.ok params, events) ∧
        Lists (FormReader.ofBody "0123456789abcdef" 33554432 form.body) sections ∧
        Says sections r entries ∧
        mappedPaths entries
          = [[.key "input", .key "photo"], [.key "more", .index 0], [.key "more", .index 1]] ∧
        Follows sections r entries params := by
  obtain ⟨parts, hread, hoperations, hmaps, hfiles⟩ := readParts_encode isBoundary_visit
    uploadable_album.sendable uploadable_album.grouped uploadable_album.size
  have hboundary := boundary?_contentType isBoundary_visit {}
  obtain ⟨params, hparams, -⟩ := uploadable_album.arrives hoperations hmaps hfiles
    (({} : Headers).insert "content-type" (contentType "0123456789abcdef"))
  let form : Http.Request :=
    { headers := ({} : Headers).insert "content-type" (contentType "0123456789abcdef")
      body := .whole (encode "0123456789abcdef" (visitor.outgoing "{ a }" album)) }
  have hform : read {} form = (.ok params, parts.events) := by
    rw [read_eq_paramsOf hboundary hread, hparams]
  obtain ⟨boundary, sections, r, entries, hsame, hlists, hsaid, hfollows⟩ := read_follows hform
  obtain rfl : "0123456789abcdef" = boundary := Option.some_inj.mp (hboundary.symm.trans hsame)
  -- the sections that were read hold the map that was written
  obtain ⟨sections', hlists', hparts⟩ := lists_of_readParts hread
  obtain rfl := hlists.unique hlists'
  have hpaths : mappedPaths entries
      = [[.key "input", .key "photo"], [.key "more", .index 0], [.key "more", .index 1]] := by
    have hmap := decodeOnly?_map (group (visitor.outgoing "{ a }" album).files)
    rw [← hmaps, hparts.maps] at hmap
    obtain ⟨s, hs, hdecoded⟩ := decodeOnly?_eq hmap
    rw [(hsaid.unique ⟨hsaid.operations, s, hs, hdecoded⟩).2, outgoing_album]
    decide
  exact ⟨form, params, parts.events, sections, r, entries, rfl, hform, hlists, hsaid, hpaths,
    hfollows (by rw [hpaths]; decide)⟩

end UploadForm

end GraphServe
