import GraphServe.Proofs.Executor.Blindness
import GraphServe.Proofs.Transport.Carrying
import GraphServe.Proofs.Transport.Parameters

/-!
# Transports — the same answer whichever way a request comes

Three transports read a request: from a query string, from a JSON body and from a form.  What they
read differs in the headers only, so an executor that does not see headers gives them the same
answer, and remembers the same after each (`Transport.handle_agree`).  The one exception is that an
operation in a query string has to be a query (`Transport.Declines`).
-/

namespace GraphServe

open Document

namespace Serving

variable {s : State} {c c' : OperationContext} {p p' : Params}

/-! ### Serving twins -/

/-- Work on twins that agrees gives the same and writes the same. -/
theorem work_twin {α : Type} {stage stage' : Executor → Work α} {x : Executor}
    {journal : List Entry} (hc : c.Twin c') (h : Work.Agree Eq (stage x) (stage' x)) :
    work c' stage' ⟨x, journal⟩ = work c stage ⟨x, journal⟩ := by
  have hcontext : c'.context = c.context := by
    obtain ⟨headers, rfl⟩ := hc
    rfl
  obtain ⟨houtcome, dispatched, -, hafter⟩ :=
    h { context := c.context, journal } _ ⟨none, .none, rfl⟩
  rw [work_apply, work_apply, hcontext]
  refine Prod.ext houtcome.eq.symm ?_
  dsimp only
  rw [hafter]

theorem respond_twin (h : s.executor.Blind) (hc : c.Twin c') : respond c' s = respond c s := by
  obtain ⟨x, journal⟩ := s
  have hwork : work c' (fun x => do (← x.dispatch c').produce) ⟨x, journal⟩ =
      work c (fun x => do (← x.dispatch c).produce) ⟨x, journal⟩ :=
    work_twin hc (Executor.produce_agree h hc)
  unfold respond
  rw [bind_apply, bind_apply, hwork]

theorem refuse_twin (h : s.executor.Blind) {r r' : Refusal} (hr : r.Twin r') :
    refuse r' s = refuse r s := by
  obtain ⟨x, journal⟩ := s
  have hwork : work r'.context (fun x => x.refuse r') ⟨x, journal⟩ =
      work r.context (fun x => x.refuse r) ⟨x, journal⟩ :=
    work_twin hr.context (Executor.refuse_agree h hr)
  unfold refuse
  rw [bind_apply, bind_apply, hwork, hr.errors]

/-- **Twins are served alike**, and leave the same behind. -/
theorem execute_twin (h : s.executor.Blind) (hp : p.Twin p') : execute p' s = execute p s := by
  obtain ⟨houtcome, hremembered⟩ := Executor.prepare_twin h.extensions hp
  have hblind : (⟨(s.executor.prepare p).2.1, s.journal ++ (s.executor.prepare p).2.2⟩ :
      State).executor.Blind := Executor.prepare_blind h p
  unfold execute
  rw [bind_ok (prepare_apply p s), bind_ok (prepare_apply p' s), hremembered]
  generalize (s.executor.prepare p).1 = outcome, (s.executor.prepare p').1 = outcome' at houtcome ⊢
  cases houtcome with
  | ok hc => exact respond_twin hblind hc
  | error hr => exact refuse_twin hblind hr

end Serving

namespace Transport

open Serving

variable {s : State} {r : Request} {p p' : Params}

/-! ### Queries -/

/-- A request is declined in a query string if its operation is not a query, by its text or once it
is built. -/
def Declines (x : Executor) (r : Request) : Prop :=
  asksForMore r.normalize = true ∨
    ∃ c, (x.prepare (Params.ofRequest r)).1 = .ok c ∧ c.type? ≠ some .query

/-- A query is answered as any operation is. -/
theorem answerQuery_eq (h : ∀ c, (s.executor.prepare p).1 = .ok c → c.type? = some .query) :
    answerQuery p s = execute p s := by
  unfold answerQuery execute
  rw [bind_ok (prepare_apply p s), bind_ok (prepare_apply p s)]
  cases hprepare : (s.executor.prepare p).1 with
  | error refusal => rfl
  | ok c => exact congrFun (if_pos (h c hprepare)) _

/-- What was built and is not a query is not run. -/
theorem answerQuery_of_other {c : OperationContext} (hc : (s.executor.prepare p).1 = .ok c)
    (htype : c.type? ≠ some .query) : (answerQuery p s).1 = .ok queriesOnly := by
  unfold answerQuery
  rw [bind_ok (prepare_apply p s), hc]
  dsimp only
  rw [if_neg htype]
  rfl

/-- Of twins, operations of one type are built, or of none. -/
theorem exists_built (hs : s.executor.Blind) (hp : p.Twin p') {c : OperationContext}
    (hc : (s.executor.prepare p).1 = .ok c) :
    ∃ c', (s.executor.prepare p').1 = .ok c' ∧ c'.type? = c.type? := by
  have houtcome := (Executor.prepare_twin hs.extensions hp).1
  rw [hc] at houtcome
  generalize (s.executor.prepare p').1 = outcome at houtcome ⊢
  cases houtcome with
  | ok h =>
      obtain ⟨headers, rfl⟩ := h
      exact ⟨_, rfl, rfl⟩

theorem handleGet_of_asksFor {get : Http.Request}
    (hread : Request.ofQueryString (get.target.query?.getD "") = .ok r)
    (hasks : asksForMore r = true) : handleGet get = pure queriesOnly := by
  unfold handleGet
  rw [hread]
  unfold asksForMore at hasks
  dsimp only
  rw [if_pos hasks]

/-! ### Agreement -/

variable {get post form : Http.Request} {settings : UploadSettings}

theorem queryParams?_of_inQuery (h : r.InQuery (get.target.query?.getD "")) :
    queryParams? get = if asksForMore r.normalize then none
      else some (Params.ofRequest r get.headers) := by
  unfold queryParams?
  rw [Request.ofQueryString_of_inQuery h]
  dsimp only
  rw [Request.ofRequest_normalize]

/-- **The transports agree.**  From a query string, a JSON body and a form that carry a request the
same parameters are read, but for the headers.  So on an executor that does not see headers the
answers to the three are the same, and so is what they leave behind; but if the operation is not a
query, the answer to the query string says so. -/
theorem handle_agree (hs : s.executor.Blind) (hget : r.InQuery (get.target.query?.getD ""))
    (hpost : r.InBody post.body) (hform : r.InForm settings form) :
    ((Request.ofQueryString (get.target.query?.getD "")).map (Params.ofRequest · get.headers)
        = .ok (Params.ofRequest r get.headers) ∧
      (readJson post.body).map (Params.ofRequest · post.headers)
        = .ok (Params.ofRequest r post.headers) ∧
      (UploadForm.read settings form).1 = .ok (Params.ofRequest r form.headers)) ∧
    (Transport.form settings).handle form s = Transport.post.handle post s ∧
    (¬ Declines s.executor r → Transport.get.handle get s = Transport.post.handle post s) ∧
    (Declines s.executor r →
      (Transport.get.handle get s).1 = .ok queriesOnly ∧ queriesOnly.status = 406) := by
  have hreadGet := Request.ofQueryString_of_inQuery hget
  have hreadPost := Request.readJson_of_inBody hpost
  have hreadForm := UploadForm.read_of_inForm hform
  have htwin (headers headers' : Headers) :
      (Params.ofRequest r headers).Twin (Params.ofRequest r headers') := ⟨headers', rfl⟩
  have hhandlePost : Transport.post.handle post s = execute (Params.ofRequest r post.headers) s := by
    unfold handle handlePost
    rw [hreadPost]
  have hparams := queryParams?_of_inQuery hget
  refine ⟨⟨?_, ?_, ?_⟩, ?_, fun hqueries => ?_, fun hother => ⟨?_, rfl⟩⟩
  · rw [hreadGet]
    exact congrArg Except.ok (Request.ofRequest_normalize r _)
  · rw [hreadPost]
    rfl
  · rw [hreadForm]
  · rw [hhandlePost, ← execute_twin hs (htwin post.headers form.headers)]
    show handleForm settings form s = _
    unfold handleForm
    rw [hreadForm]
    dsimp only
    rw [bind_ok (log_apply [] s), List.map_nil, List.append_nil]
  · obtain ⟨hasks, hbuilt⟩ := not_or.mp hqueries
    rw [if_neg hasks] at hparams
    rw [hhandlePost, handle, handleGet_of_some hparams,
      ← execute_twin hs (htwin post.headers get.headers)]
    refine answerQuery_eq fun c hc => ?_
    obtain ⟨c', hc', htype⟩ := exists_built hs (htwin get.headers {}) hc
    exact htype ▸ not_not.mp fun hother => hbuilt ⟨c', hc', hother⟩
  · by_cases hasks : asksForMore r.normalize = true
    · rw [handle, handleGet_of_asksFor hreadGet hasks]
      rfl
    · obtain ⟨c', hc', htype'⟩ := hother.resolve_left hasks
      obtain ⟨c, hc, htype⟩ := exists_built hs (htwin {} get.headers) hc'
      rw [if_neg hasks] at hparams
      rw [handle, handleGet_of_some hparams]
      exact answerQuery_of_other hc (htype ▸ htype')

end Transport

/-! ### A request with a variable -/

namespace Agreement

/-- A resolver that gives the argument of its field. -/
def root : ObjectValue Resolved where
  typeName := "Query"
  isMethod := fun _ => false
  isResolver := fun _ => false
  resolve := fun c x => (.ok (.ok (.leaf ((c.argument? "n").getD .null))), x)

/-- A service with one field. -/
def service : Service where
  schema :=
    { types :=
        [⟨"Int", none, [], .scalar⟩,
         ⟨"Query", none, [], .object [] [{
            name := "echo", arguments := [{ name := "n", type := .named "Int" false }]
            type := .named "Int" false }]⟩]
      directives := []
      query := some "Query" }
  query := root

/-- An executor with the extensions of the library. -/
def executor : Executor where
  service
  extensions :=
    [.introspection, .tracing, .persistedQueries .unbounded, .complexityLimit fun _ => 10]
  responses := [Extension.traceResponses]
  fields := [Extension.traceFields]
  documents := .unbounded

theorem blind_executor : executor.Blind where
  extensions e he := by
    simp only [executor, List.mem_cons, List.not_mem_nil, or_false] at he
    rcases he with rfl | rfl | rfl | rfl
    · trivial
    · trivial
    · trivial
    · exact fun _ _ _ => rfl
  operations _ h := absurd h List.not_mem_nil
  responses mw hmw := List.mem_singleton.mp hmw ▸ blind_traceResponses
  fields mw hmw := List.mem_singleton.mp hmw ▸ blind_traceFields
  query := .object rfl rfl rfl
    (fun c c' x x' hc _ => by
      obtain ⟨response, -, rfl⟩ := hc
      exact .ok (.ok (.leaf _)))
    fun _ _ _ _ _ hx => hx
  mutation _ h := absurd h.symm (Option.some_ne_none _)
  presentation := Presentation.blind_standard

/-- A query with a variable and an empty name. -/
def echo : Request where
  query := some "query($n:Int){echo(n:$n)}"
  operationName := some ""
  variableValues := [("n", .int 7)]

/-- The query in a query string, without the name and with a member that is of no request. -/
def get : Http.Request where
  method := "GET"
  target :=
    { query? := "query=query(%24n%3AInt)%7Becho(n%3A%24n)%7D&v=1&variables=%7B%22n%22%3A7%7D" }

/-- The query as members of an object. -/
def members : Json.Members :=
  [("operationName", .string ""), ("extensions", .null), ("variables", .object [("n", .int 7)]),
   ("query", .string "query($n:Int){echo(n:$n)}")]

/-- The query as JSON. -/
def post : Http.Request where
  headers := Headers.ofList [("content-type", "application/json"), ("authorization", "Basic YTpi")]
  body := .whole (Json.object members).text

/-- The query as a client sends it with files, of which there are none. -/
def outgoing : Outgoing where
  query := "query($n:Int){echo(n:$n)}"
  operationName := some ""
  variableValues := [("n", .int 7)]

/-- The query as a form. -/
def form : Http.Request where
  headers := ({} : Headers).insert "content-type" (ClientForm.contentType "0123456789abcdef")
  body := .whole (ClientForm.encode "0123456789abcdef" outgoing)

theorem isWritable_variables : (Json.object [("n", .int 7)]).IsWritable := by
  refine .object (by decide) ?_
  simp only [List.forall_mem_cons]
  exact ⟨.int (by decide) (by decide), fun _ h => absurd h List.not_mem_nil⟩

theorem nestsWithin_variables (depth : Nat) :
    (Json.object [("n", .int 7)]).NestsWithin (depth + 1) := by
  refine .object ?_
  simp only [List.forall_mem_cons]
  exact ⟨.scalar trivial, fun _ h => absurd h List.not_mem_nil⟩

theorem inQuery_get : echo.InQuery (get.target.query?.getD "") where
  once := by decide +kernel
  query := by decide +kernel
  operationName := by decide +kernel
  variableValues := by
    have htext : Request.memberText (get.target.query?.getD "") "variables"
        = (Json.object [("n", .int 7)]).render := by
      decide +kernel
    rw [htext]
    exact .object (Json.spells_text isWritable_variables) (nestsWithin_variables _)
  extensions := .empty (by decide +kernel) rfl

theorem inBody_post : echo.InBody post.body := by
  have hempty : (Json.object []).NestsWithin Request.valueLevels :=
    .object fun _ h => absurd h List.not_mem_nil
  refine ⟨_, rfl, members, Json.spells_text (.object (by decide) ?_), ?_, rfl, rfl, rfl, rfl⟩
  · simp only [members, List.forall_mem_cons]
    exact ⟨.string _, .null, isWritable_variables, .string _, fun _ h => absurd h List.not_mem_nil⟩
  · simp only [members, List.forall_mem_cons]
    exact ⟨.operationName (some _), .noExtensions, .variableValues (nestsWithin_variables _),
      .query (some _), fun _ h => absurd h List.not_mem_nil⟩

theorem inForm_form : echo.InForm {} form :=
  ClientForm.inForm_encode (o := outgoing) rfl isWritable_variables
    (.object List.nodup_nil fun _ h => absurd h List.not_mem_nil) (nestsWithin_variables _)
    (.object fun _ h => absurd h List.not_mem_nil) ⟨by decide, List.all_iff_forall_prop.mp (by decide)⟩
    (by
      simp only [ClientForm.encode, ClientForm.part, ClientForm.line, ClientForm.filePart,
        Text.bytes_eq]
      decide +kernel) {}

theorem not_declines : ¬ Transport.Declines executor echo := by
  rintro (hasks | ⟨c, hc, hother⟩)
  · revert hasks
    decide +kernel
  · have htype : (executor.prepare (Params.ofRequest echo)).1.toOption.map (·.type?)
        = some (some .query) := by
      decide +kernel
    rw [hc] at htype
    exact hother (Option.some_inj.mp htype)

/-- The query is answered the same whichever way it comes. -/
theorem handle_agree_echo :
    executor.Blind ∧
    Transport.get.handle get ⟨executor, []⟩ = Transport.post.handle post ⟨executor, []⟩ ∧
    (Transport.form {}).handle form ⟨executor, []⟩ = Transport.post.handle post ⟨executor, []⟩ := by
  have hblind : (⟨executor, []⟩ : Serving.State).executor.Blind := blind_executor
  obtain ⟨-, hform, hget, -⟩ := Transport.handle_agree hblind inQuery_get inBody_post inForm_form
  exact ⟨blind_executor, hget not_declines, hform⟩

end Agreement

end GraphServe
