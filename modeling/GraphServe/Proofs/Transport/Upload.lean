import GraphServe.Client
import GraphServe.Proofs.Client.Placing
import GraphServe.Proofs.Request
import GraphServe.Proofs.Transport.Form
import GraphServe.Proofs.Transport.Placing
import Mathlib.Data.List.Nodup

/-!
# Uploads — from the client to the server

A client sends a request with files, and a server reads it.  The document, the name of the operation
and the extensions arrive as they were, and so do the variables, but for the paths of the files:
there stand placeholders, each of which leads to the file with its name and its bytes
(`Client.newRequest_arrives`).  A file that goes to several variables is sent once.

Not every request can be sent so (`Uploadable`).  The name of a file has to be one that can stand
between quotes as it is, and the path of a file must not lead through a value that it does not fit:
the client puts a list or an object in the place of such a value.
-/

namespace GraphServe

open Http ClientForm
open Request (valueLevels)

/-- A request with files that can be sent and received. -/
structure Uploadable (settings : UploadSettings) (boundary : String) (r : Outgoing) : Prop where
  /-- There are files; of one handle there is one. -/
  files      : r.files ≠ []
  handles    : HandlesTell r.files
  sendable   : ∀ f ∈ r.files, UploadForm.IsSendable settings boundary f.2
  /-- No path of a file leads to or into another. -/
  parts      : (r.files.map fun f => Path.parseDotted f.1).Pairwise Path.Parts
  room       : ∀ f ∈ r.files, (Json.object r.variableValues).HasRoom (Path.parseDotted f.1)
  /-- The values can be written, and the server reads as deep as they are nested. -/
  variableValues : (Json.object r.variableValues).IsWritable
  extensions : (Json.object r.extensions).IsWritable
  nests      : (Json.object r.variableValues).NestsWithin valueLevels
  nests'     : (Json.object r.extensions).NestsWithin valueLevels
  short      : ∀ f ∈ r.files, (Path.parseDotted f.1).length < valueLevels
  size       : (encode boundary r).length ≤ settings.maxUploadSize

namespace Uploadable

variable {settings : UploadSettings} {boundary : String} {r : Outgoing}

theorem grouped (h : Uploadable settings boundary r) : Grouped r.files (group r.files) :=
  grouped_group h.handles

theorem pairwise_pathsOf (h : Uploadable settings boundary r) :
    (pathsOf (group r.files)).Pairwise Path.Parts :=
  ((perm_pathsOf r.files).pairwise_iff Path.Parts.symm).mpr h.parts

theorem pairwise_places (h : Uploadable settings boundary r) :
    ((places (group r.files)).map Prod.fst).Pairwise Path.Parts :=
  (map_fst_places (group r.files)).symm ▸ h.pairwise_pathsOf

theorem room_places (h : Uploadable settings boundary r) :
    ∀ write ∈ places (group r.files), (Json.object r.variableValues).HasRoom write.1 := by
  intro write hwrite
  obtain ⟨f, hf, hpath⟩ := exists_of_mem_pathsOf (mem_places hwrite).1
  exact hpath ▸ h.room f hf

/-- The variables with the places of the files. -/
theorem withPlaces_spec (h : Uploadable settings boundary r) :
    ∃ members, Json.writeAll (places (group r.files)) (.object r.variableValues) = .object members ∧
      withPlaces r (group r.files) = { r with variableValues := members } ∧
      (Json.object members).IsWritable ∧ (Json.object members).NestsWithin valueLevels := by
  have hbelow : ∀ write ∈ places (group r.files), write.1 ≠ [] := by
    intro write hwrite
    obtain ⟨f, hf, hpath⟩ := exists_of_mem_pathsOf (mem_places hwrite).1
    exact hpath ▸ Path.parseDotted_ne_nil f.1
  obtain ⟨members, hmembers⟩ := Json.writeAll_object h.pairwise_places h.room_places hbelow
  refine ⟨members, hmembers, ?_, ?_, ?_⟩
  · rw [withPlaces, writePlaces_eq, hmembers]
    rfl
  · rw [← hmembers]
    refine Json.isWritable_writeAll h.variableValues fun write hwrite => ?_
    rw [(mem_places hwrite).2]
    exact .object List.nodup_nil fun _ h => absurd h List.not_mem_nil
  · rw [← hmembers]
    refine Json.nestsWithin_writeAll h.nests (fun write hwrite => ?_) fun write hwrite => ?_
    all_goals
      obtain ⟨f, hf, hpath⟩ := exists_of_mem_pathsOf (mem_places hwrite).1
      have hshort := hpath ▸ h.short f hf
    · exact Nat.le_of_lt hshort
    · rw [(mem_places hwrite).2]
      obtain ⟨n, hn⟩ : ∃ n, valueLevels - write.1.length = n + 1 :=
        ⟨valueLevels - write.1.length - 1, by omega⟩
      rw [hn]
      exact .object fun _ h => absurd h List.not_mem_nil

end Uploadable

/-! ### Operations and maps -/

namespace UploadForm

/-- A request is read from its text. -/
theorem decodeOnly?_request {r : Request} (hvariables : (Json.object r.variableValues).IsWritable)
    (hextensions : (Json.object r.extensions).IsWritable)
    (hnests : (Json.object r.variableValues).NestsWithin valueLevels)
    (hnests' : (Json.object r.extensions).NestsWithin valueLevels) :
    decodeOnly? Request.decoder [r.toJson.render] = some r := by
  have hread : Json.Decoder.run Request.decoder (Text.bytes r.toJson.render) = .ok r :=
    Request.run_decoder (Request.inJson_toJson hvariables hextensions hnests hnests')
  rw [decodeOnly?, hread]
  rfl

/-- The entries of the map of a form. -/
def entriesOf (groups : List (ClientFile × List String)) : List (String × List String) :=
  groups.zipIdx.map fun g => (toString g.2, g.1.2)

theorem nodup_numbers {α : Type} (l : List α) :
    (l.zipIdx.map fun x => toString x.2).Nodup := by
  have hnumbers : (l.zipIdx.map fun x => toString x.2) = (List.range' 0 l.length).map toString := by
    rw [← List.zipIdx_map_snd 0 l, List.map_map]
    rfl
  rw [hnumbers]
  exact List.Nodup.map Json.toString_injective List.nodup_range'

/-- The paths of a list of texts, as they stand in the map of a form. -/
def pathsJson (paths : List String) : Json := .list (paths.map .string)

theorem mapJson_eq (groups : List (ClientFile × List String)) :
    mapJson groups = .object (((entriesOf groups).map fun e =>
      (e.1, e.2.map (variablesOpening ++ ·))).map fun e => (e.1, pathsJson e.2)) := by
  rw [mapJson, entriesOf, List.map_map, List.map_map]
  refine congrArg Json.object (List.map_congr_left fun g _ => ?_)
  obtain ⟨⟨file, paths⟩, number⟩ := g
  simp only [Function.comp_def, pathsJson, List.map_map]
  rfl

/-- The map of a form is read from its text. -/
theorem decodeOnly?_map (groups : List (ClientFile × List String)) :
    decodeOnly? mapDecoder [(mapJson groups).render] =
      some ((entriesOf groups).map fun e => (e.1, e.2.map (variablesOpening ++ ·))) := by
  have hwritable : (mapJson groups).IsWritable := by
    refine .object ?_ fun m hm => ?_
    · rw [List.map_map]
      exact nodup_numbers groups
    · obtain ⟨g, -, rfl⟩ := List.mem_map.mp hm
      refine .list fun v hv => ?_
      obtain ⟨path, -, rfl⟩ := List.mem_map.mp hv
      exact .string _
  have hread : Json.Decoder.run mapDecoder (Text.bytes (mapJson groups).render)
      = .ok ((entriesOf groups).map fun e => (e.1, e.2.map (variablesOpening ++ ·))) := by
    refine Json.Decoder.run_of_spells (Json.spells_text hwritable) fun node hnode => ?_
    rw [mapJson_eq] at hnode
    exact Json.Decoder.dictionary_of_holds hnode fun e _ node hnode =>
      Json.Decoder.list_of_holds hnode fun text _ node hnode =>
        Json.Decoder.string_of_holds hnode _
  rw [decodeOnly?, hread]
  rfl

/-! ### Parameters -/

theorem nodup_receivedFiles (settings : UploadSettings)
    (groups : List (ClientFile × List String)) :
    ((receivedFiles settings groups).map Prod.fst).Nodup := by
  rw [receivedFiles, List.map_map]
  exact nodup_numbers groups

/-- The placeholders of the files at the paths they go to. -/
def placeholders (groups : List (ClientFile × List String)) : List (Path × Json) :=
  (entriesOf groups).flatMap fun e => writesOf e.1 e.2

theorem map_fst_placeholders (groups : List (ClientFile × List String)) :
    (placeholders groups).map Prod.fst = pathsOf groups := by
  have hgroups : groups = groups.zipIdx.map Prod.fst := (List.zipIdx_map_fst 0 groups).symm
  conv => rhs; rw [hgroups]
  rw [placeholders, entriesOf, pathsOf, List.flatMap_map, List.flatMap_map, List.map_flatMap]
  simp only [writesOf, List.map_map, Function.comp_def]

theorem flatMap_entriesOf (groups : List (ClientFile × List String)) :
    ((entriesOf groups).flatMap fun e => e.2.map Path.parseDotted) = pathsOf groups := by
  rw [← map_fst_placeholders, placeholders, List.map_flatMap]
  simp only [writesOf, List.map_map, Function.comp_def]

/-- What the parts of the form of a request hold: the request, with placeholders at the paths of its
files. -/
theorem paramsOf_spec {settings : UploadSettings} {boundary : String} {r : Outgoing}
    (h : Uploadable settings boundary r) {parts : Parts}
    (hoperations : parts.operations = [(withPlaces r (group r.files)).toRequest.toJson.render])
    (hmaps : parts.maps = [(mapJson (group r.files)).render])
    (hfiles : parts.files = receivedFiles settings (group r.files)) (headers : Headers) :
    ∃ params members, paramsOf parts headers = .ok params ∧
      params.query = Request.nonempty r.query ∧
      params.operationName = r.operationName.bind Request.nonempty ∧
      params.extensions = r.extensions ∧
      Json.writeAll (places (group r.files)) (.object r.variableValues) = .object members ∧
      .object params.variableValues
        = Json.writeAll (placeholders (group r.files)) (.object members) ∧
      ∀ key ∈ (receivedFiles settings (group r.files)).map Prod.fst,
        params.uploads.lookup key = (receivedFiles settings (group r.files)).lookup key := by
  obtain ⟨members, hmembers, hplaces, hwritable, hnests⟩ := h.withPlaces_spec
  have hawaits : (Json.object members).Awaits (pathsOf (group r.files)) := by
    rw [← hmembers, ← map_fst_places]
    exact Json.awaits_writeAll h.pairwise_places h.room_places
  have hkeys : ∀ e ∈ entriesOf (group r.files),
      e.1 ∈ (receivedFiles settings (group r.files)).map Prod.fst := by
    intro e he
    obtain ⟨g, hg, rfl⟩ := List.mem_map.mp he
    rw [receivedFiles, List.map_map]
    exact List.mem_map.mpr ⟨g, hg, rfl⟩
  have hnonempty : ∀ e ∈ entriesOf (group r.files), e.2 ≠ [] := by
    intro e he
    obtain ⟨g, hg, rfl⟩ := List.mem_map.mp he
    exact h.grouped.nonempty g.1 (List.fst_mem_of_mem_zipIdx hg)
  obtain ⟨uploads, hplace, huploads⟩ := place_eq (nodup_receivedFiles settings (group r.files))
    hkeys hnonempty [] (flatMap_entriesOf (group r.files) ▸ hawaits)
  obtain ⟨values, hvalues⟩ : ∃ values,
      Json.writeAll (placeholders (group r.files)) (.object members) = .object values := by
    have hpaths := map_fst_placeholders (group r.files)
    refine Json.writeAll_object (hpaths ▸ hawaits.parts) (fun write hwrite => ?_)
      fun write hwrite => ?_
    · exact hawaits.room _ (hpaths ▸ List.mem_map_of_mem hwrite)
    · obtain ⟨f, hf, hpath⟩ := exists_of_mem_pathsOf (hpaths ▸ List.mem_map_of_mem hwrite)
      exact hpath ▸ Path.parseDotted_ne_nil f.1
  have hrequest := decodeOnly?_request (r := (withPlaces r (group r.files)).toRequest)
    (hplaces ▸ hwritable) (hplaces ▸ h.extensions) (hplaces ▸ hnests) (hplaces ▸ h.nests')
  refine ⟨{ Params.ofRequest (withPlaces r (group r.files)).toRequest headers with
    variableValues := values, uploads }, members, ?_, ?_, ?_, ?_, hmembers, hvalues.symm, ?_⟩
  · have hvariables : (Params.ofRequest (withPlaces r (group r.files)).toRequest
        headers).variableValues = members := by
      rw [hplaces]
      rfl
    rw [paramsOf, hoperations, hmaps, hfiles, hrequest, decodeOnly?_map]
    simp only [hvariables, hplace, bind, Except.bind]
    rw [← placeholders, hvalues]
    rfl
  · rw [hplaces]
    exact Request.nonempty_bind r.query
  · rw [hplaces]
    rfl
  · rw [hplaces]
    rfl
  · intro key hkey
    have hentry : key ∈ (entriesOf (group r.files)).map Prod.fst := by
      rw [receivedFiles, List.map_map] at hkey
      rw [entriesOf, List.map_map]
      exact hkey
    exact (huploads key).trans (if_pos hentry)

end UploadForm

/-! ### Arrival -/

/-- A file that was received is one that was sent: it has its name and its bytes. -/
def Upload.Matches (u : Upload) (file : ClientFile) : Prop :=
  u.filename = file.filename ∧ u.content = file.content

/-- The parameters of a request with files are those that were sent. -/
structure Arrives (r : Outgoing) (params : Params) : Prop where
  query          : params.query = Request.nonempty r.query
  operationName  : params.operationName = r.operationName.bind Request.nonempty
  extensions     : params.extensions = r.extensions
  /-- At the path of each file stands a placeholder that leads to it. -/
  files          : ∀ f ∈ r.files, ∃ key upload,
    (Json.object params.variableValues).getAt (Path.parseDotted f.1)
        = some (Uploads.placeholder key) ∧
      params.uploads.find? (Uploads.placeholder key) = some upload ∧ upload.Matches f.2
  /-- Apart from these paths the variables are the same. -/
  variableValues : ∀ path, (∀ f ∈ r.files, Path.Apart (Path.parseDotted f.1) path) →
    Json.SameAt path (.object r.variableValues) (.object params.variableValues)

/-- The parts of a form that are files are the files of a request, each once. -/
def SentOnce (r : Outgoing) (parts : UploadForm.Parts) : Prop :=
  ∃ files : List ClientFile, (files.map (·.handle)).Nodup ∧
    (∀ file, file ∈ files ↔ ∃ path, (path, file) ∈ r.files) ∧
    List.Forall₂ (fun part file => part.2.Matches file) parts.files files

/-- A file under the name it is read with. -/
def ClientFile.asRead (file : ClientFile) : ClientFile :=
  { file with filename := nameRead file.filename }

/-- A request with the names that its files are read with. -/
def Outgoing.asRead (r : Outgoing) : Outgoing :=
  { r with files := r.files.map fun f => (f.1, f.2.asRead) }

theorem Outgoing.asRead_eq {r : Outgoing} (h : ∀ f ∈ r.files, IsPlainName f.2.filename) :
    r.asRead = r := by
  have hfiles : (r.files.map fun f => (f.1, f.2.asRead)) = r.files := by
    refine (List.map_congr_left fun f hf => ?_).trans (List.map_id r.files)
    rw [ClientFile.asRead, (h f hf).nameRead_eq]
    rfl
  rw [asRead, hfiles]

open UploadForm in
theorem Uploadable.sentOnce {settings : UploadSettings} {boundary : String} {r : Outgoing}
    (h : Uploadable settings boundary r) {parts : Parts}
    (hfiles : parts.files = receivedFiles settings (group r.files)) :
    SentOnce r.asRead parts := by
  refine ⟨(group r.files).map (·.1.asRead), ?_,
    fun file => ⟨fun hfile => ?_, fun ⟨path, hfile⟩ => ?_⟩, ?_⟩
  · rw [List.map_map]
    exact h.grouped.nodup
  · obtain ⟨g, hg, rfl⟩ := List.mem_map.mp hfile
    obtain ⟨path, hpath⟩ := h.grouped.exists_mem hg
    exact ⟨path, List.mem_map.mpr ⟨(path, g.1), hpath, rfl⟩⟩
  · obtain ⟨f, hf, heq⟩ := List.mem_map.mp hfile
    cases heq
    obtain ⟨g, hg, hfile, -⟩ := mem_spread.mp (h.grouped.spread.mem_iff.mpr hf)
    exact List.mem_map.mpr ⟨g, hg, congrArg ClientFile.asRead hfile.symm⟩
  · have hgroups : group r.files = (group r.files).zipIdx.map Prod.fst :=
      (List.zipIdx_map_fst 0 _).symm
    conv => rhs; rw [hgroups]
    rw [hfiles, receivedFiles, List.map_map, List.forall₂_map_left_iff, List.forall₂_map_right_iff]
    exact List.forall₂_same.mpr fun g _ => ⟨rfl, rfl⟩

open UploadForm in
theorem Uploadable.arrives {settings : UploadSettings} {boundary : String} {r : Outgoing}
    (h : Uploadable settings boundary r) {parts : Parts}
    (hoperations : parts.operations = [(withPlaces r (group r.files)).toRequest.toJson.render])
    (hmaps : parts.maps = [(mapJson (group r.files)).render])
    (hfiles : parts.files = receivedFiles settings (group r.files)) (headers : Headers) :
    ∃ params, paramsOf parts headers = .ok params ∧ Arrives r.asRead params := by
  obtain ⟨params, members, hparams, hquery, hname, hextensions, hplaces, hvalues, huploads⟩ :=
    paramsOf_spec h hoperations hmaps hfiles headers
  have hpaths := map_fst_placeholders (group r.files)
  have hawaits : (Json.object members).Awaits ((placeholders (group r.files)).map Prod.fst) := by
    rw [hpaths, ← hplaces, ← map_fst_places]
    exact Json.awaits_writeAll h.pairwise_places h.room_places
  have hroom : ∀ write ∈ placeholders (group r.files), (Json.object members).HasRoom write.1 :=
    fun write hwrite => hawaits.room _ (List.mem_map_of_mem hwrite)
  refine ⟨params, hparams, hquery, hname, hextensions, fun f hf => ?_, fun path hpath => ?_⟩
  · obtain ⟨f, hsent, rfl⟩ := List.mem_map.mp hf
    obtain ⟨g, hg, hfile, hpath⟩ := mem_spread.mp (h.grouped.spread.mem_iff.mpr hsent)
    obtain ⟨⟨g, number⟩, hnumber, rfl⟩ : ∃ x ∈ (group r.files).zipIdx, x.1 = g :=
      List.mem_map.mp ((List.zipIdx_map_fst 0 (group r.files)).symm ▸ hg)
    have hreceived : (toString number, received settings g.1)
        ∈ receivedFiles settings (group r.files) := List.mem_map.mpr ⟨(g, number), hnumber, rfl⟩
    have hlookup := (filter_of_mem (nodup_receivedFiles settings _) hreceived).2
    have hwrite : (Path.parseDotted f.1, Uploads.placeholder (toString number))
        ∈ placeholders (group r.files) :=
      List.mem_flatMap.mpr ⟨(toString number, g.2), List.mem_map.mpr ⟨(g, number), hnumber, rfl⟩,
        List.mem_map.mpr ⟨f.1, hpath, rfl⟩⟩
    refine ⟨toString number, received settings g.1, ?_, ?_, ?_⟩
    · rw [hvalues]
      exact Json.getAt_writeAll hawaits.parts hroom hwrite
    · rw [Uploads.find?_placeholder, huploads _ (List.mem_map_of_mem hreceived), hlookup]
    · rw [hfile]
      exact ⟨rfl, rfl⟩
  · have hapart : ∀ p ∈ pathsOf (group r.files), Path.Apart p path := by
      intro p hp
      obtain ⟨f, hf, rfl⟩ := exists_of_mem_pathsOf hp
      exact hpath (f.1, f.2.asRead) (List.mem_map.mpr ⟨f, hf, rfl⟩)
    have hfirst := Json.sameAt_writeAll h.pairwise_places h.room_places fun write hwrite =>
      hapart _ (mem_places hwrite).1
    have hsecond := Json.sameAt_writeAll hawaits.parts hroom fun write hwrite =>
      hapart _ (hpaths ▸ List.mem_map_of_mem hwrite)
    rw [hplaces] at hfirst
    rw [hvalues]
    exact hfirst.trans hsecond

/-! ### Requests -/

namespace Client

/-- The request that a client makes ready. -/
def outgoing (c : Client) (query : String) (options : List ClientOption) : Outgoing :=
  (c.options ++ options).foldl ClientOption.apply { query }

/-- A request with files arrives, with the names that its files are read with. -/
theorem newRequest_spec {settings : UploadSettings} {c : Client} {target : Target}
    {boundary query : String} {options : List ClientOption}
    (htarget : Target.read c.target = .ok target) (hboundary : IsBoundary boundary)
    (h : Uploadable settings boundary (c.outgoing query options)) :
    ∃ request parts params, c.newRequest boundary query options = .ok request ∧
      UploadForm.readParts settings (request.body.size + 1) {}
        (FormReader.ofBody boundary settings.maxUploadSize request.body) = .ok parts ∧
      SentOnce (c.outgoing query options).asRead parts ∧
      (UploadForm.read settings request).1 = .ok params ∧
      Arrives (c.outgoing query options).asRead params := by
  have hnew : c.newRequest boundary query options = .ok
      { method := "POST", target
        headers := (c.outgoing query options).headers.insert "content-type" (contentType boundary)
        body := .whole (encode boundary (c.outgoing query options)) } := by
    have hsome : (c.outgoing query options).files.isEmpty = false := by
      simpa using h.files
    rw [outgoing] at hsome ⊢
    unfold newRequest
    simp only [hsome, htarget]
    rfl
  obtain ⟨parts, hparts, hoperations, hmaps, hfiles⟩ :=
    UploadForm.readParts_encode hboundary h.sendable h.grouped h.size
  obtain ⟨params, hparams, harrives⟩ := h.arrives hoperations hmaps hfiles
    ((c.outgoing query options).headers.insert "content-type" (contentType boundary))
  refine ⟨_, parts, params, hnew, hparts, h.sentOnce hfiles, ?_, harrives⟩
  simp only [UploadForm.read, UploadForm.boundary?_contentType hboundary, Body.size, hparts]
  exact hparams

/-- **A request with files arrives.**  A client writes it as a form, and what the server reads of the
form is the request, with each file once. -/
theorem newRequest_arrives {settings : UploadSettings} {c : Client} {target : Target}
    {boundary query : String} {options : List ClientOption}
    (htarget : Target.read c.target = .ok target) (hboundary : IsBoundary boundary)
    (h : Uploadable settings boundary (c.outgoing query options))
    (hnames : ∀ f ∈ (c.outgoing query options).files, IsPlainName f.2.filename) :
    ∃ request parts params, c.newRequest boundary query options = .ok request ∧
      UploadForm.readParts settings (request.body.size + 1) {}
        (FormReader.ofBody boundary settings.maxUploadSize request.body) = .ok parts ∧
      SentOnce (c.outgoing query options) parts ∧
      (UploadForm.read settings request).1 = .ok params ∧
      Arrives (c.outgoing query options) params := by
  obtain ⟨request, parts, params, hnew, hparts, honce, hparams, harrives⟩ :=
    newRequest_spec htarget hboundary h
  rw [Outgoing.asRead_eq hnames] at honce harrives
  exact ⟨request, parts, params, hnew, hparts, honce, hparams, harrives⟩

/-- A file that is sent for two variables. -/
def photo : ClientFile := { handle := "a", filename := "photo.png", content := [104, 105] }

/-- A file whose bytes begin like a delimiter. -/
def note : ClientFile := { handle := "b", filename := "dir\\ä.txt", content := [13, 10, 45, 45, 97] }

/-- A client of a server. -/
def visitor : Client := { target := "/graphql" }

/-- Options that send two files for three variables. -/
def album : List ClientOption :=
  [.setVariable "title" "album", .file "input.photo" photo, .files "more" [photo, note]]

/-- What is made ready of the options. -/
theorem outgoing_album : visitor.outgoing "{ a }" album =
    { query := "{ a }"
      variableValues := [("title", .string "album"), ("more", .list [.null, .null])]
      files := [("input.photo", photo), ("more.0", photo), ("more.1", note)] } := rfl

theorem isPlainName_album :
    ∀ f ∈ (visitor.outgoing "{ a }" album).files, IsPlainName f.2.filename := by
  have hphoto : IsPlainName photo.filename := ⟨by decide, by decide⟩
  have hnote : IsPlainName note.filename := ⟨by decide, by decide⟩
  rw [outgoing_album]
  simp only [List.forall_mem_cons]
  exact ⟨hphoto, hphoto, hnote, fun _ h => nomatch h⟩

theorem isBoundary_visit : IsBoundary "0123456789abcdef" :=
  ⟨by decide, List.all_iff_forall_prop.mp (by decide)⟩

/-- What is shorter than the delimiter does not contain it. -/
theorem isContent_visit {content : List UInt8} (hshort : content.length < 20) :
    UploadForm.IsContent "0123456789abcdef" content := by
  intro hwithin
  have hlength : (lineEnd ++ UploadForm.delimiterOf "0123456789abcdef").length = 20 := by
    rw [UploadForm.delimiterOf, Text.bytes_eq]
    decide
  exact absurd (hlength ▸ hwithin.length_le) (Nat.not_le.mpr hshort)

theorem isSendable_album : ∀ f ∈ (visitor.outgoing "{ a }" album).files,
    UploadForm.IsSendable {} "0123456789abcdef" f.2 := by
  have hsmall : ∀ f ∈ (visitor.outgoing "{ a }" album).files,
      ClientOption.isSendable f.2.filename = true ∧ f.2.content.length < 20 := by
    rw [outgoing_album]
    decide
  intro f hf
  obtain ⟨hname, hshort⟩ := hsmall f hf
  have hplain := isPlainName_album f hf
  exact ⟨⟨hname, hplain.nameRead_eq.symm ▸ hplain.quotedValue?_eq⟩, isContent_visit hshort, .inl rfl⟩

theorem uploadable_album :
    Uploadable {} "0123456789abcdef" (visitor.outgoing "{ a }" album) where
  files := List.cons_ne_nil _ _
  handles := by
    unfold HandlesTell
    decide
  sendable := isSendable_album
  parts := by
    have hpaths : ((visitor.outgoing "{ a }" album).files.map fun f => Path.parseDotted f.1)
        = [[.key "input", .key "photo"], [.key "more", .index 0], [.key "more", .index 1]] := by
      decide
    have hkeys (p q : Path) : Path.Parts (.key "input" :: p) (.key "more" :: q) :=
      .here (e := .key "input") (f := .key "more") rfl (by decide) p q
    have hindexes : Path.Parts [.index 0] [.index 1] :=
      .here (e := .index 0) (f := .index 1) rfl (by decide) [] []
    rw [hpaths]
    refine .cons ?_ (.cons ?_ (.cons (fun _ h => nomatch h) .nil))
    · simp only [List.forall_mem_cons]
      exact ⟨hkeys _ _, hkeys _ _, fun _ h => nomatch h⟩
    · simp only [List.forall_mem_cons]
      exact ⟨.beyond _ hindexes, fun _ h => nomatch h⟩
  room := by
    rw [outgoing_album]
    simp only [List.forall_mem_cons]
    refine ⟨?_, ?_, ?_, fun _ h => nomatch h⟩
    · rw [show Path.parseDotted "input.photo" = [.key "input", .key "photo"] by decide]
      exact ⟨.object _ _, Json.hasRoom_null _⟩
    · rw [show Path.parseDotted "more.0" = [.key "more", .index 0] by decide]
      exact ⟨.object _ _, .list _ _, trivial⟩
    · rw [show Path.parseDotted "more.1" = [.key "more", .index 1] by decide]
      exact ⟨.object _ _, .list _ _, trivial⟩
  variableValues := by
    have hnulls : (Json.list [.null, .null]).IsWritable := .list fun v hv => by
      rw [List.eq_of_mem_replicate (show v ∈ List.replicate 2 Json.null from hv)]
      exact .null
    rw [outgoing_album]
    refine .object (by decide) ?_
    simp only [List.forall_mem_cons]
    exact ⟨.string _, hnulls, fun _ h => nomatch h⟩
  extensions := .object List.nodup_nil fun _ h => nomatch h
  nests := by
    have hnulls : (Json.list [.null, .null]).NestsWithin 125 := .list fun v hv => by
      rw [List.eq_of_mem_replicate (show v ∈ List.replicate 2 Json.null from hv)]
      exact .scalar trivial
    rw [outgoing_album]
    refine .object ?_
    simp only [List.forall_mem_cons]
    exact ⟨.scalar trivial, hnulls, fun _ h => nomatch h⟩
  nests' := .object fun _ h => nomatch h
  short := by decide
  size := by
    simp only [encode, part, line, filePart, Text.bytes_eq]
    decide +kernel

/-- Two files that are sent for three variables arrive. -/
theorem newRequest_arrives_album :
    ∃ request parts params,
      visitor.newRequest "0123456789abcdef" "{ a }" album = .ok request ∧
        UploadForm.readParts {} (request.body.size + 1) {}
          (FormReader.ofBody "0123456789abcdef" 33554432 request.body) = .ok parts ∧
        SentOnce (visitor.outgoing "{ a }" album) parts ∧
        (UploadForm.read {} request).1 = .ok params ∧
        Arrives (visitor.outgoing "{ a }" album) params :=
  have htarget : Target.read visitor.target = .ok { path := "/graphql" } := rfl
  newRequest_arrives htarget isBoundary_visit uploadable_album isPlainName_album

/-! ### A name with a quote -/

/-- A file with a quote in its name. -/
def quoted : ClientFile := { handle := "a", filename := "a\"b.txt", content := [104, 105] }

/-- What is made ready of the file. -/
theorem outgoing_quoted : visitor.outgoing "{ a }" [.file "f" quoted] =
    { query := "{ a }", files := [("f", quoted)] } := rfl

theorem quotedValue?_quoted :
    Http.quotedValue? [] (Text.bytes quoted.filename ++ [34]) = some (Text.bytes "a") := by
  rw [Text.bytes_eq, Text.bytes_eq]
  decide

theorem nameRead_quoted : nameRead quoted.filename = "a" := by
  rw [nameRead, quotedValue?_quoted, Option.bind_some, Text.decode?_bytes, Option.getD_some]

theorem uploadable_quoted :
    Uploadable {} "0123456789abcdef" (visitor.outgoing "{ a }" [.file "f" quoted]) where
  files := List.cons_ne_nil _ _
  handles := by
    unfold HandlesTell
    decide
  sendable f hf := by
    obtain rfl : f = ("f", quoted) := List.mem_singleton.mp hf
    exact ⟨⟨by decide, nameRead_quoted.symm ▸ quotedValue?_quoted⟩, isContent_visit (by decide),
      .inl rfl⟩
  parts := List.pairwise_singleton _ _
  room f hf := by
    obtain rfl : f = ("f", quoted) := List.mem_singleton.mp hf
    rw [outgoing_quoted, show Path.parseDotted "f" = [.key "f"] by decide]
    exact ⟨.object _ _, trivial⟩
  variableValues := .object List.nodup_nil fun _ h => nomatch h
  extensions := .object List.nodup_nil fun _ h => nomatch h
  nests := .object fun _ h => nomatch h
  nests' := .object fun _ h => nomatch h
  short := by decide
  size := by
    simp only [encode, part, line, filePart, Text.bytes_eq]
    decide +kernel

/-- A file with a quote in its name arrives under another. -/
theorem newRequest_not_arrives :
    ∃ request params,
      visitor.newRequest "0123456789abcdef" "{ a }" [.file "f" quoted] = .ok request ∧
        (UploadForm.read {} request).1 = .ok params ∧
        ¬ Arrives (visitor.outgoing "{ a }" [.file "f" quoted]) params := by
  have htarget : Target.read visitor.target = .ok { path := "/graphql" } := rfl
  obtain ⟨request, parts, params, hnew, -, -, hparams, harrives⟩ :=
    newRequest_spec htarget isBoundary_visit uploadable_quoted
  refine ⟨request, params, hnew, hparams, fun h => ?_⟩
  -- one placeholder stands at the path of the file, and leads to one file.
  obtain ⟨key, upload, hat, hfound, hname, -⟩ :=
    harrives.files ("f", quoted.asRead) List.mem_cons_self
  obtain ⟨key', upload', hat', hfound', hname', -⟩ := h.files ("f", quoted) List.mem_cons_self
  have hplaceholder := Option.some_inj.mp (hat.symm.trans hat')
  rw [hplaceholder] at hfound
  obtain rfl := Option.some_inj.mp (hfound.symm.trans hfound')
  have hread : upload.filename = "a" := hname.trans nameRead_quoted
  exact absurd (hread.symm.trans hname') (by decide)

end Client

end GraphServe
