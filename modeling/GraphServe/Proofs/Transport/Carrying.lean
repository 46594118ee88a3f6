import GraphServe.Proofs.Request
import GraphServe.Proofs.Transport.Form
import GraphServe.Transport

/-!
# Requests — three ways to carry one

A request comes in the query of a URL, as a JSON body, or as a form with the JSON and an empty map
(`Request.InQuery`, `Request.InBody`, `Request.InForm`).  What is missing in one may be empty or
`null` in another: an empty text is no document and no name, and no object is an empty one.  The
same parameters are read from all of them (`Request.ofQueryString_of_inQuery`,
`Request.readJson_of_inBody`, `UploadForm.read_of_inForm`).
-/

namespace GraphServe

open Http

namespace Request

variable {r : Request}

/-! ### Requests with nothing in them -/

theorem normalize_normalize (r : Request) : r.normalize.normalize = r.normalize := by
  have hbind (text? : Option String) : (text?.bind nonempty).bind nonempty = text?.bind nonempty := by
    cases text? with
    | none => rfl
    | some text => exact nonempty_bind text
  unfold normalize
  dsimp only
  rw [hbind, hbind]

theorem ofRequest_normalize (r : Request) (headers : Headers) :
    Params.ofRequest r.normalize headers = Params.ofRequest r headers := by
  unfold Params.ofRequest
  rw [normalize_normalize]

/-- A text that is missing is as good as an empty one. -/
theorem nonempty_getD (text? : Option String) : nonempty (text?.getD "") = text?.bind nonempty := by
  cases text? <;> rfl

/-! ### Query strings -/

/-- The text of an object in a query string: empty or `null` for an empty one, or the object as
JSON. -/
inductive IsMembersText (text : String) (values : Json.Members) : Prop where
  | empty (h : text = "") (hvalues : values = [])
  | null (h : Json.Spells (Text.bytes text) .null) (hvalues : values = [])
  | object (h : Json.Spells (Text.bytes text) (.object values))
      (nests : (Json.object values).NestsWithin Json.depthLimit)

/-- The members of a query string that a request has, in order. -/
def known (pairs : List (String × String)) : List String :=
  (pairs.map Prod.fst).filter (· ∈ queryStringMembers)

/-- The text of a member of a query string, empty if it is missing. -/
def memberText (string name : String) : String := ((Text.formPairs string).lookup name).getD ""

/-- A query string carries a request: it decodes to members, each of which comes at most once. -/
structure InQuery (string : String) (r : Request) : Prop where
  once           : (known (Text.formPairs string)).Nodup
  query          : memberText string "query" = r.query.getD ""
  operationName  : memberText string "operationName" = r.operationName.getD ""
  variableValues : IsMembersText (memberText string "variables") r.variableValues
  extensions     : IsMembersText (memberText string "extensions") r.extensions

theorem repeated?_eq_none {pairs : List (String × String)} {seen : List String}
    (once : (known pairs).Nodup) (unseen : ∀ name ∈ known pairs, name ∉ seen) :
    repeated? seen pairs = none := by
  induction pairs generalizing seen with
  | nil => rfl
  | cons pair pairs ih =>
      obtain ⟨name, text⟩ := pair
      rw [repeated?]
      by_cases hknown : name ∈ queryStringMembers
      · have hcons : known ((name, text) :: pairs) = name :: known pairs :=
          List.filter_cons_of_pos (decide_eq_true hknown)
        rw [hcons] at once unseen
        obtain ⟨hnew, honce⟩ := List.nodup_cons.mp once
        obtain ⟨hname, hothers⟩ := List.forall_mem_cons.mp unseen
        rw [if_pos hknown, if_neg hname]
        refine ih honce fun other hother hseen => ?_
        rcases List.mem_cons.mp hseen with rfl | hseen
        · exact hnew hother
        · exact hothers other hother hseen
      · have hskip : known ((name, text) :: pairs) = known pairs :=
          List.filter_cons_of_neg (by simpa using hknown)
        rw [if_neg hknown]
        exact ih (hskip ▸ once) (hskip ▸ unseen)

theorem not_spells_empty (v : Json) : ¬ Json.Spells [] v := by
  rintro ⟨node, hread, hholds⟩
  have hbroken : ∃ reading skipping, (Json.Document.read []).root = .broken reading skipping :=
    ⟨_, _, rfl⟩
  obtain ⟨reading, skipping, hroot⟩ := hbroken
  rw [hread] at hroot
  dsimp only at hroot
  subst hroot
  cases hholds

theorem membersOfText_eq {text : String} {values : Json.Members} (h : IsMembersText text values) :
    membersOfText text = .ok values := by
  have hsome {v : Json} (h : Json.Spells (Text.bytes text) v) : text.isEmpty = false := by
    refine Bool.eq_false_iff.mpr fun hempty => not_spells_empty v ?_
    rw [String.isEmpty_iff.mp hempty, Json.bytes_empty] at h
    exact h
  unfold membersOfText
  cases h with
  | empty h hvalues => rw [h, hvalues]; rfl
  | null h hvalues =>
      rw [hsome h, if_neg Bool.false_ne_true, hvalues]
      exact Json.Decoder.run_of_spells h fun node hnode => optionalMembers_of_null hnode
  | object h nests =>
      rw [hsome h, if_neg Bool.false_ne_true]
      exact Json.Decoder.run_of_spells h fun node hnode => optionalMembers_of_holds hnode nests

/-- What is read from a query string that carries a request. -/
theorem ofQueryString_of_inQuery {string : String} (h : InQuery string r) :
    ofQueryString string = .ok r.normalize := by
  obtain ⟨honce, hquery, hname, hvariables, hextensions⟩ := h
  unfold memberText at hquery hname hvariables hextensions
  unfold ofQueryString
  dsimp only
  rw [repeated?_eq_none honce fun _ _ => List.not_mem_nil]
  dsimp only
  rw [membersOfText_eq hvariables, membersOfText_eq hextensions, hquery, hname, nonempty_getD,
    nonempty_getD]
  rfl

/-! ### Bodies -/

/-- A body carries a request: its bytes are JSON that does. -/
def InBody (body : Body) (r : Request) : Prop := ∃ bytes, body.collect = .ok bytes ∧ InJson bytes r

theorem readJson_of_inBody {body : Body} (h : InBody body r) : Transport.readJson body = .ok r := by
  obtain ⟨bytes, hcollect, hbytes⟩ := h
  unfold Transport.readJson
  rw [hcollect]
  dsimp only [bind, Except.bind]
  rw [Request.run_decoder hbytes]
  rfl

/-! ### Forms -/

/-- A form carries a request: it has one part that is JSON that does, one with an empty map, and no
files. -/
inductive InForm (settings : UploadSettings) (form : Http.Request) (r : Request) : Prop where
  | of {boundary operations map : String} {parts : UploadForm.Parts}
      (separates : UploadForm.boundary? form.headers = some boundary)
      (reads : UploadForm.readParts settings (form.body.size + 1) {}
        (FormReader.ofBody boundary settings.maxUploadSize form.body) = .ok parts)
      (operation : parts.operations = [operations]) (carries : InJson (Text.bytes operations) r)
      (maps : parts.maps = [map]) (empty : Json.Spells (Text.bytes map) (.object []))
      (noFiles : parts.files = [])

end Request

namespace UploadForm

variable {settings : UploadSettings}

/-- Parts that log nothing if there are no files. -/
def Parts.Tells (parts : Parts) : Prop := parts.files = [] → parts.events = []

theorem tells_take {parts parts' : Parts} {part : Part} {reader reader' : FormReader}
    (h : parts.Tells) (htake : parts.take settings part reader = .ok (parts', reader')) :
    parts'.Tells := by
  unfold Parts.take at htake
  cases hfilename : part.filename? with
  | some filename =>
      rw [hfilename] at htake
      dsimp only at htake
      cases hread : readFile settings part reader with
      | error fault => rw [hread] at htake; cases htake
      | ok read =>
          rw [hread] at htake
          cases htake
          exact fun hfiles => absurd hfiles (List.append_ne_nil_of_right_ne_nil _ (List.cons_ne_nil _ _))
  | none =>
      rw [hfilename] at htake
      dsimp only at htake
      split at htake
      · cases hdata : reader.data with
        | error fault => rw [hdata] at htake; cases htake
        | ok read =>
            rw [hdata] at htake
            cases htake
            split
            · exact h
            · exact h
      · cases htake
        exact h

/-- Without files nothing is logged while a form is read. -/
theorem tells_readParts {fuel : Nat} {parts last : Parts} {reader : FormReader} (h : parts.Tells)
    (hread : readParts settings fuel parts reader = .ok last) : last.Tells := by
  induction fuel generalizing parts reader with
  | zero => cases hread
  | succ fuel ih =>
      rw [readParts] at hread
      cases hnext : reader.nextPart with
      | error fault => rw [hnext] at hread; cases hread
      | ok next =>
          obtain ⟨next, reader'⟩ := next
          rw [hnext] at hread
          cases next with
          | none => cases hread; exact h
          | some part =>
              cases htake : parts.take settings part reader' with
              | error fault =>
                  dsimp only [Except.mapError, bind, Except.bind] at hread
                  rw [htake] at hread
                  cases hread
              | ok taken =>
                  dsimp only [Except.mapError, bind, Except.bind] at hread
                  rw [htake] at hread
                  exact ih (tells_take h htake) hread

/-- What is read from a form that carries a request. -/
theorem read_of_inForm {form : Http.Request} {r : GraphServe.Request}
    (h : r.InForm settings form) :
    read settings form = (.ok (Params.ofRequest r form.headers), []) := by
  cases h with
  | @of boundary operations map parts separates reads operation carries maps empty noFiles =>
      have hevents : parts.events = [] := tells_readParts (fun _ => rfl) reads noFiles
      have hmap : Json.Decoder.run mapDecoder (Text.bytes map) = .ok [] :=
        Json.Decoder.run_of_spells empty fun node hnode =>
          @Json.Decoder.dictionary_of_holds _ _ (fun paths => .list (paths.map .string)) node _ []
            hnode fun _ h => absurd h List.not_mem_nil
      have hparams : paramsOf parts form.headers = .ok (Params.ofRequest r form.headers) := by
        rw [paramsOf, operation, maps, decodeOnly?, decodeOnly?, Request.run_decoder carries, hmap]
        rfl
      unfold read
      rw [separates]
      dsimp only
      rw [reads]
      dsimp only
      rw [hparams, hevents]

end UploadForm

/-! ### What clients write -/

/-- The form that a client writes for a request without files carries the request. -/
theorem ClientForm.inForm_encode {o : Outgoing} (hnone : o.files = [])
    (hvariables : (Json.object o.variableValues).IsWritable)
    (hextensions : (Json.object o.extensions).IsWritable)
    (nests : (Json.object o.variableValues).NestsWithin Request.valueLevels)
    (nests' : (Json.object o.extensions).NestsWithin Request.valueLevels)
    {settings : UploadSettings} {boundary : String} (hboundary : IsBoundary boundary)
    (hsize : (encode boundary o).length ≤ settings.maxUploadSize) (headers : Headers) :
    o.toRequest.InForm settings
      { headers := headers.insert "content-type" (contentType boundary)
        body := .whole (encode boundary o) } := by
  have hgroup : group o.files = [] := by
    rw [hnone]
    rfl
  have hsendable : ∀ f ∈ o.files, UploadForm.IsSendable settings boundary f.2 := by
    rw [hnone]
    exact fun _ h => absurd h List.not_mem_nil
  have hgrouped : Grouped o.files (group o.files) := grouped_group <| by
    rw [hnone]
    exact fun _ h => absurd h List.not_mem_nil
  obtain ⟨parts, hread, hoperations, hmaps, hfiles⟩ :=
    UploadForm.readParts_encode hboundary hsendable hgrouped hsize
  rw [hgroup] at hoperations hmaps hfiles
  refine .of (UploadForm.boundary?_contentType hboundary headers) hread hoperations ?_ hmaps ?_ hfiles
  · exact Request.inJson_toJson (r := o.toRequest) hvariables hextensions nests nests'
  · exact Json.spells_text (.object List.nodup_nil fun _ h => absurd h List.not_mem_nil)

end GraphServe
