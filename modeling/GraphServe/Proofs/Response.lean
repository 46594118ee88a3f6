import GraphServe.Client
import GraphServe.Proofs.Json.Reading

/-!
# Wire types — what is written is read

Requests, responses, their errors and paths are written as JSON and read from it.  A member that
would say what a record has by itself is left out, and each decoder begins with such a record: so it
restores what was written (`Path.restores`, `Error.restores`, `Response.restores`,
`Request.restores`).  What a server writes is what a client reads (`decoders_restore`).
-/

namespace GraphServe

open Json
open Json.Decoder (Restores)

/-! ### Paths -/

/-- An index of sixty-four bits is read as an index, and a key as a key, whatever its text. -/
theorem PathElement.ofJson?_toJson {e : PathElement} (h : e.toJson.IsWritable) :
    ofJson? e.toJson = some e := by
  cases e with
  | key k => rfl
  | index i =>
      obtain ⟨-, high⟩ := isWritable_int_iff.mp h
      have hword : Word.isUnsigned 64 (i : Int) = true :=
        (isUnsigned_iff _).mpr ⟨Int.natCast_nonneg i, high⟩
      rw [toJson, ofJson?, if_pos hword, Int.toNat_natCast]

theorem PathElement.restores {e : PathElement} (h : e.toJson.IsWritable) :
    Restores decoder e.toJson e := by
  intro depth node hnode nests
  rw [decoder, Decoder.value_of_holds hnode nests]
  simp only [bind, Except.bind, ofJson?_toJson h]

theorem Path.restores {p : Path} (h : p.toJson.IsWritable) : Restores decoder p.toJson p := by
  have hbelow := isWritable_list_iff.mp h
  refine .list ?_
  intro e he
  exact e.restores (hbelow _ (List.mem_map_of_mem he))

/-! ### Errors -/

/-- The numbers of a location are held in thirty-two bits. -/
structure Location.IsHeld (l : Location) : Prop where
  line   : l.line ≤ maximum
  column : l.column ≤ maximum

namespace Location

theorem isHeld_new (line column : Nat) : (new line column).IsHeld where
  line := Nat.min_le_right line maximum
  column := Nat.min_le_right column maximum

theorem isUnsigned_of_le {n : Nat} (h : n ≤ maximum) : Word.isUnsigned 32 (n : Int) = true := by
  have hcount : Word.count 32 = maximum + 1 := by decide
  rw [Word.isUnsigned, Bool.and_eq_true, decide_eq_true_iff, decide_eq_true_iff, hcount]
  omega

/-- Both members are there, and both must be. -/
theorem restores {l : Location} (h : l.IsHeld) : Restores decoder l.toJson l := by
  have hline : Restores.Part recordReader default [("line", .int l.line)] ⟨l.line, 0⟩ :=
    .member (fun (l : Location) line => { l with line }) rfl
      (.unsigned "u32" (isUnsigned_of_le h.line)) default
  have hcolumn : Restores.Part recordReader ⟨l.line, 0⟩ [("column", .int l.column)] l :=
    .member (fun (l : Location) column => { l with column }) rfl
      (.unsigned "u32" (isUnsigned_of_le h.column)) _
  refine .record (hline.append hcolumn) ?_
  intro name hname
  exact hname

end Location

/-- The locations of an error are held. -/
def Error.IsHeld (e : Error) : Prop := ∀ l ∈ e.locations, l.IsHeld

/-- The path of an error that can be written can be written. -/
theorem Error.isWritable_path {e : Error} (h : e.toJson.IsWritable) {p : Path}
    (hp : e.path = some p) : p.toJson.IsWritable := by
  obtain ⟨-, hbelow⟩ := isWritable_object_iff.mp h
  refine hbelow ("path", p.toJson) ?_
  simp [hp]

theorem Error.restores {e : Error} (held : e.IsHeld) (h : e.toJson.IsWritable) :
    Restores decoder e.toJson e := by
  refine .record
    (.append (b := { message := e.message, locations := e.locations, path := e.path })
      (.append (b := { message := e.message, locations := e.locations })
        (.append (b := { message := e.message }) ?message ?locations) ?path) ?extensions)
    (List.forall_mem_nil _)
  case message =>
    exact .member (fun (e : Error) message => { e with message }) rfl (.string e.message) _
  case locations =>
    refine .omitted (fun (e : Error) locations => { e with locations }) rfl
      (.list fun l hl => Location.restores (held l hl)) _ ?_
    intro hempty
    rw [List.isEmpty_iff.mp hempty]
  case path =>
    cases hp : e.path with
    | none => exact .none _ _
    | some p =>
        have hrestores : Restores (Decoder.option Path.decoder) p.toJson (some p) :=
          .option (fun hnull => Json.noConfusion hnull)
            (Path.restores (Error.isWritable_path h hp))
        exact .member (fun (e : Error) path => { e with path }) rfl hrestores _
  case extensions =>
    refine .omitted (fun (e : Error) extensions => { e with extensions }) rfl
      (.members e.extensions) _ ?_
    intro hempty
    rw [List.isEmpty_iff.mp hempty]

/-! ### Responses -/

/-- The errors of a response are held. -/
def Response.IsHeld (r : Response) : Prop := ∀ e ∈ r.errors, e.IsHeld

/-- The errors of a response that can be written can be written. -/
theorem Response.isWritable_errors {r : Response} (h : r.toJson.IsWritable) :
    ∀ e ∈ r.errors, e.toJson.IsWritable := by
  intro e he
  obtain ⟨-, hbelow⟩ := isWritable_object_iff.mp h
  have hnonempty : r.errors.isEmpty = false := by
    rw [List.isEmpty_eq_false_iff]
    exact List.ne_nil_of_mem he
  have hlist := hbelow ("errors", .list (r.errors.map (·.toJson))) (by simp [hnonempty])
  exact isWritable_list_iff.mp hlist _ (List.mem_map_of_mem he)

theorem Response.restores {r : Response} (held : r.IsHeld) (h : r.toJson.IsWritable) :
    Restores decoder r.toJson r := by
  have hwritable := Response.isWritable_errors h
  refine .record
    (.append (b := { errors := r.errors, data := r.data })
      (.append (b := { errors := r.errors }) ?errors ?data) ?extensions)
    (List.forall_mem_nil _)
  case errors =>
    refine .omitted (fun (r : Response) errors => { r with errors }) rfl
      (.list fun e he => Error.restores (held e he) (hwritable e he)) _ ?_
    intro hempty
    rw [List.isEmpty_iff.mp hempty]
  case data =>
    exact .member (fun (r : Response) data => { r with data }) rfl (.value r.data) _
  case extensions =>
    refine .omitted (fun (r : Response) extensions => { r with extensions }) rfl
      (.members r.extensions) _ ?_
    intro hempty
    rw [List.isEmpty_iff.mp hempty]

/-! ### Requests -/

theorem Request.restores_optionalMembers (members : Members) :
    Restores optionalMembers (.object members) members := by
  have hsome : Restores (Decoder.option Decoder.members) (.object members) (some members) :=
    .option (fun hnull => Json.noConfusion hnull) (.members members)
  exact hsome.map (·.getD [])

theorem Request.restores (r : Request) : Restores decoder r.toJson r := by
  have htext (text : String) :
      Restores (Decoder.option Decoder.string) (.string text) (some text) :=
    .option (fun hnull => Json.noConfusion hnull) (.string text)
  refine .record
    (.append (b := { query := r.query, operationName := r.operationName,
                     variableValues := r.variableValues })
      (.append (b := { query := r.query, operationName := r.operationName })
        (.append (b := { query := r.query }) ?query ?operationName) ?variableValues) ?extensions)
    (List.forall_mem_nil _)
  case query =>
    cases r.query with
    | none => exact .none _ _
    | some q => exact .member (fun (r : Request) query => { r with query }) rfl (htext q) _
  case operationName =>
    cases r.operationName with
    | none => exact .none _ _
    | some n =>
        exact .member (fun (r : Request) operationName => { r with operationName }) rfl (htext n) _
  case variableValues =>
    refine .omitted (fun (r : Request) variableValues => { r with variableValues }) rfl
      (restores_optionalMembers r.variableValues) _ ?_
    intro hempty
    rw [List.isEmpty_iff.mp hempty]
  case extensions =>
    refine .omitted (fun (r : Request) extensions => { r with extensions }) rfl
      (restores_optionalMembers r.extensions) _ ?_
    intro hempty
    rw [List.isEmpty_iff.mp hempty]

/-! ### What is sent -/

/-- What carries a response is read as the response, unless the status says that the request failed:
then the text is kept as it is. -/
theorem Client.readResponse_json {r : Response} (held : r.IsHeld)
    (h : parse? r.toJson.text = .ok r.toJson) (status : Nat) :
    Client.readResponse (.json status r) =
      if Http.Status.isFailure status then .error (.http status r.render) else .ok r := by
  have hread : Decoder.run Response.decoder (Text.bytes r.render) = .ok r :=
    (Response.restores held (isWritable_of_parse? h).1).run h
  rw [Client.readResponse, Http.Response.json]
  by_cases hfailure : Http.Status.isFailure status = true
  · rw [if_pos hfailure, if_pos hfailure]
  · rw [if_neg hfailure, if_neg hfailure, hread]
    rfl

/-- **What was written is read.**  Let values that are written as JSON be read as they were.  Then a
response, an error, a request and a path are restored from what they are written as, and a client
reads the response that a server has written. -/
theorem decoders_restore :
    (∀ r : Response, r.IsHeld → parse? r.toJson.text = .ok r.toJson →
      Decoder.run Response.decoder r.toJson.text = .ok r ∧
        ∀ status, Client.readResponse (.json status r) =
          if Http.Status.isFailure status then .error (.http status r.render) else .ok r) ∧
    (∀ e : Error, e.IsHeld → parse? e.toJson.text = .ok e.toJson →
      Decoder.run Error.decoder e.toJson.text = .ok e) ∧
    (∀ r : Request, parse? r.toJson.text = .ok r.toJson →
      Decoder.run Request.decoder r.toJson.text = .ok r) ∧
    ∀ p : Path, parse? p.toJson.text = .ok p.toJson →
      Decoder.run Path.decoder p.toJson.text = .ok p := by
  refine ⟨?response, ?error, ?request, ?path⟩
  case response =>
    intro r held h
    exact ⟨(Response.restores held (isWritable_of_parse? h).1).run h,
      Client.readResponse_json held h⟩
  case error =>
    intro e held h
    exact (Error.restores held (isWritable_of_parse? h).1).run h
  case request =>
    intro r h
    exact (Request.restores r).run h
  case path =>
    intro p h
    exact (Path.restores (isWritable_of_parse? h).1).run h

namespace Wire

/-- A path of a key and an index. -/
def path : Path := [.key "a", .index 0]

/-- An error with a location and a path, and no extensions. -/
def error : Error := { message := "no", locations := [⟨1, 2⟩], path := some path }

/-- A response with the error, and with one that has an empty path and no message. -/
def response : Response :=
  { errors := [error, { path := some [] }], data := .object [("a", .list [.null])] }

/-- A request with a name that is empty and a variable, and without a document. -/
def request : Request := { operationName := some "", variableValues := [("v", .int (-1))] }

theorem reads_path : parse? path.toJson.text = .ok path.toJson := by
  refine parse?_text_iff.mpr ⟨?_, ?_⟩
  · simp [path, Path.toJson, PathElement.toJson, isWritable_list_iff, isWritable_int_iff,
      IsWritable.string]
  · simp [path, Path.toJson, PathElement.toJson, depthLimit, nestsWithin_list_iff, nestsWithin_int,
      nestsWithin_string]

theorem reads_request : parse? request.toJson.text = .ok request.toJson := by
  refine parse?_text_iff.mpr ⟨?_, ?_⟩
  · simp [request, Request.toJson, isWritable_object_iff, isWritable_int_iff, IsWritable.string]
  · simp [request, Request.toJson, depthLimit, nestsWithin_object_iff, nestsWithin_int,
      nestsWithin_string]

theorem reads_error : parse? error.toJson.text = .ok error.toJson := by
  refine parse?_text_iff.mpr ⟨?_, ?_⟩
  · simp [error, path, Error.toJson, Location.toJson, Path.toJson, PathElement.toJson,
      isWritable_object_iff, isWritable_list_iff, isWritable_int_iff, IsWritable.string]
  · simp [error, path, Error.toJson, Location.toJson, Path.toJson, PathElement.toJson, depthLimit,
      nestsWithin_object_iff, nestsWithin_list_iff, nestsWithin_int, nestsWithin_string]

theorem reads_response : parse? response.toJson.text = .ok response.toJson := by
  refine parse?_text_iff.mpr ⟨?_, ?_⟩
  · simp [response, error, path, Response.toJson, Error.toJson, Location.toJson, Path.toJson,
      PathElement.toJson, isWritable_object_iff, isWritable_list_iff, isWritable_int_iff,
      IsWritable.string, IsWritable.null]
  · simp [response, error, path, Response.toJson, Error.toJson, Location.toJson, Path.toJson,
      PathElement.toJson, depthLimit, nestsWithin_object_iff, nestsWithin_list_iff, nestsWithin_int,
      nestsWithin_string, nestsWithin_null]

theorem isHeld_error : error.IsHeld := by
  intro l hl
  rw [List.mem_singleton.mp hl]
  exact Location.isHeld_new 1 2

theorem isHeld_response : response.IsHeld := by
  intro e he
  rcases List.mem_cons.mp he with rfl | he
  · exact isHeld_error
  · rw [List.mem_singleton.mp he]
    exact fun l hl => absurd hl List.not_mem_nil

/-- What is there, what is empty and what is missing stay apart. -/
theorem decoders_restore_wire :
    (response.IsHeld ∧ parse? response.toJson.text = .ok response.toJson ∧
      Decoder.run Response.decoder response.toJson.text = .ok response ∧
      Client.readResponse (.json 200 response) = .ok response) ∧
    (error.IsHeld ∧ parse? error.toJson.text = .ok error.toJson ∧
      Decoder.run Error.decoder error.toJson.text = .ok error) ∧
    (parse? request.toJson.text = .ok request.toJson ∧
      Decoder.run Request.decoder request.toJson.text = .ok request) ∧
    parse? path.toJson.text = .ok path.toJson ∧
      Decoder.run Path.decoder path.toJson.text = .ok path := by
  obtain ⟨hresponses, herrors, hrequests, hpaths⟩ := decoders_restore
  obtain ⟨hread, hclient⟩ := hresponses response isHeld_response reads_response
  exact ⟨⟨isHeld_response, reads_response, hread, hclient 200⟩,
    ⟨isHeld_error, reads_error, herrors error isHeld_error reads_error⟩,
    ⟨reads_request, hrequests request reads_request⟩, reads_path, hpaths path reads_path⟩

end Wire

end GraphServe
