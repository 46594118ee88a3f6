import GraphServe.Proofs.Document.Selecting
import GraphServe.Proofs.Executor.Forwarding
import GraphServe.Proofs.Resolved
import GraphServe.Proofs.Transport.Parameters

/-!
# Transports — requests that change nothing

An operation that comes in the query of a request has to be a query itself.  Its type is told
twice: from the text, before anything is prepared, and from the operation that was built, since a
text may come from a store and the document of a text from a cache.

* What the text asks for is refused at once if it is no query, and nothing remembers it
  (`handleGet_of_asksForMore`).
* What was built is run only if it is a query (`answerQuery_journal`).

**Together** (`handleGet_safe`) they leave no gap, in whatever state a history of requests has left
the executor: if a resolver is called, it is by executing a query on the root object for queries.
-/

namespace GraphServe

open Document Executable

/-! ### Executors after a history of requests -/

namespace Executor

/-- An executor with extensions of the library that remembers what was read and validated, and
middleware that passes operations on. -/
structure Guarded (x : Executor) : Prop where
  builtIn   : x.BuiltIn
  remembers : x.Remembers
  forwards  : x.Forwards

/-- The executors that remember what some history of requests has left, where each request may have
come to any of its steps.  The extensions are of the library, and the middleware passes operations
on. -/
inductive Reachable : Executor → Prop where
  | after {x : Executor} (builtIn : x.BuiltIn) (forwards : x.Forwards)
      (documents : x.documents.entries = []) (requests : List Params) (schedule : List Nat) :
      Reachable ((Interleaving.start x requests).run schedule).executor

variable {x x' : Executor}

theorem Guarded.of_continues (h : x.Guarded) (hc : x.Continues x') : x'.Guarded where
  builtIn := hc.builtIn
  remembers := hc.remembers
  forwards := ⟨hc.operations ▸ h.forwards.operations, hc.responses ▸ h.forwards.responses⟩

theorem Reachable.guarded (h : x.Reachable) : x.Guarded := by
  obtain ⟨hbuiltIn, hforwards, hdocuments, requests, schedule⟩ := h
  have hremembers := remembers_of_entries_nil hdocuments
  exact Guarded.of_continues ⟨hbuiltIn, hremembers, hforwards⟩
    (Interleaving.continues_run hbuiltIn hremembers requests schedule)

end Executor

namespace Serving

variable {s : State} {c : OperationContext}

/-- What comes after some work does not change anything. -/
theorem work_map_state {α : Type} (c : OperationContext) (stage : Executor → Work α)
    (f : α → Http.Response) (s : State) :
    ((do return f (← work c stage) : Serving Http.Response) s).2 = (work c stage s).2 := by
  rw [bind_apply]
  rcases work c stage s with ⟨p | a, s'⟩ <;> rfl

/-- An operation that was built is run once, or not at all. -/
theorem respond_journal {d : Executable} {o : Operation FieldDefinition}
    (h : s.executor.Forwards) (hd : c.document = some d) (ho : c.operation = some o) :
    Extends s.journal (respond c s).2.journal ∨
      s.executor.Ran c d o s.journal (respond c s).2.journal := by
  rw [respond, work_map_state, work_apply]
  exact Executor.produce_forwards h hd ho _

/-- A refusal calls no resolver. -/
theorem refuse_journal (h : s.executor.Forwards) (refusal : Refusal) :
    Extends s.journal (refuse refusal s).2.journal := by
  rw [refuse, work_map_state, work_apply]
  exact Executor.refuse_forwards h refusal _

end Serving

namespace Transport

open Serving

variable {r : Http.Request} {s : State} {params : Params} {x : Executor}

/-! ### Both gates -/

/-- A text that asks for more than a query is refused, and is not remembered. -/
theorem handleGet_of_asksForMore {request : Request} {text : String}
    {definitions : List Definition} {o : Operation Unit}
    (hrequest : Request.ofQueryString (r.target.query?.getD "") = .ok request)
    (htext : request.query = some text) (hread : Document.read text = .ok definitions)
    (ho : pick? (operationsOf definitions) request.operationName = some o)
    (htype : o.type ≠ .query) (s : State) : handleGet r s = (.ok queriesOnly, s) := by
  have hasks : (request.query.bind fun text =>
      requestedType? text request.operationName).any (· ≠ .query) = true := by
    rw [htext, Option.bind_some, requestedType?_of_read hread, ho, Option.map_some, Option.any_some]
    exact decide_eq_true htype
  unfold handleGet
  rw [hrequest]
  dsimp only
  rw [if_pos hasks]
  rfl

/-- What was built is run if it is a query, and only then. -/
theorem answerQuery_journal (h : s.executor.Guarded) (params : Params) :
    (Extends s.journal (answerQuery params s).2.journal ∨
      ∃ c d o, (s.executor.prepare params).1 = .ok c ∧ s.executor.Admits params c d o ∧
        o.type = .query ∧ s.executor.Ran c d o s.journal (answerQuery params s).2.journal) ∧
    ∀ c, (s.executor.prepare params).1 = .ok c → c.type? ≠ some .query →
      (answerQuery params s).1 = .ok queriesOnly ∧
        Extends s.journal (answerQuery params s).2.journal := by
  have hcontinues := Executor.prepare_continues h.builtIn h.remembers params
  have hsilent := Executor.silent_prepare h.builtIn params
  have hforwards := (h.of_continues hcontinues).forwards
  have hextends : Extends s.journal (s.journal ++ (s.executor.prepare params).2.2) :=
    .add s.journal hsilent
  unfold answerQuery
  rw [bind_ok (prepare_apply params s)]
  cases hprepare : (s.executor.prepare params).1 with
  | error refusal =>
      refine ⟨.inl (hextends.trans (refuse_journal ?_ refusal)), fun c hc => by cases hc⟩
      exact hforwards
  | ok c =>
      obtain ⟨d, o, hadmits⟩ := Executor.prepare_ok h.builtIn h.remembers hprepare
      dsimp only
      by_cases hquery : c.type? = some .query
      · rw [if_pos hquery]
        have htype : o.type = .query := by
          rw [OperationContext.type?, hadmits.operation] at hquery
          exact Option.some.inj hquery
        refine ⟨?_, fun c' hc hne => ?_⟩
        · rcases @respond_journal ⟨(s.executor.prepare params).2.1, s.journal ++
              (s.executor.prepare params).2.2⟩ c d o hforwards hadmits.document hadmits.operation
            with hresponded | ⟨root, y, hroot, hbefore, hafter⟩
          · exact .inl (hextends.trans hresponded)
          · exact .inr ⟨c, d, o, rfl, hadmits, htype,
              hcontinues.ran ⟨root, y, hroot, hextends.trans hbefore, hafter⟩⟩
        · cases hc
          exact absurd hquery hne
      · rw [if_neg hquery]
        exact ⟨.inl hextends, fun c' _ _ => ⟨rfl, hextends⟩⟩

/-- **Requests of this kind change nothing.**  In every state that a history of requests leads to:

* if a resolver is called, the operation that was built is a query, and what was called is what
  executing it on the root object for queries calls;
* an operation of another type that was built, from a text or by a hash, is not run, and the answer
  says so;
* a text that asks for an operation of another type gets this answer with nothing remembered,
  whether or not it is valid;
* of a valid text, what it asks for is the type of the operation that is selected. -/
theorem handleGet_safe (hx : x.Reachable) (r : Http.Request) :
    ((∃ e ∈ (get.handle r ⟨x, []⟩).2.journal, e.IsCall) →
      ∃ params c d o y, queryParams? r = some params ∧ (x.prepare params).1 = .ok c ∧
        x.Admits params c d o ∧ o.type = .query ∧ Silent y.journal ∧
        Extends (Execution.executeOperation x.service x.fields ⟨c, x.presentation⟩ d o
          x.service.query y).2.journal (get.handle r ⟨x, []⟩).2.journal) ∧
    (∀ params c, queryParams? r = some params → (x.prepare params).1 = .ok c →
      c.type? ≠ some .query →
        (get.handle r ⟨x, []⟩).1 = .ok queriesOnly ∧ Silent (get.handle r ⟨x, []⟩).2.journal) ∧
    (∀ request text definitions o,
      Request.ofQueryString (r.target.query?.getD "") = .ok request →
      request.query = some text → Document.read text = .ok definitions →
      pick? (operationsOf definitions) request.operationName = some o → o.type ≠ .query →
        get.handle r ⟨x, []⟩ = (.ok queriesOnly, ⟨x, []⟩) ∧ queriesOnly.status = 406) ∧
    ∀ text definitions d name, Document.read text = .ok definitions →
      Validation.validate x.service.schema definitions = .ok d →
        requestedType? text name = (d.select name).toOption.map (·.type) := by
  have hguarded : ({ executor := x } : State).executor.Guarded := hx.guarded
  refine ⟨?_, fun params c hparams hprepare htype => ?_, fun request text definitions o hrequest htext
    hread ho htype => ⟨handleGet_of_asksForMore hrequest htext hread ho htype _, rfl⟩,
    fun text definitions d name hread hvalid => requestedType?_eq_select hread hvalid name⟩
  · rintro ⟨e, he, hcall⟩
    cases hparams : queryParams? r with
    | none =>
        obtain ⟨response, hpure⟩ := handleGet_of_none hparams
        rw [handle, hpure] at he
        exact absurd he List.not_mem_nil
    | some params =>
        rw [handle, handleGet_of_some hparams] at he ⊢
        rcases (answerQuery_journal hguarded params).1 with
          hsilent | ⟨c, d, o, hprepare, hadmits, htype, root, y, hroot, hbefore, hafter⟩
        · exact absurd hcall (hsilent.silent silent_nil e he)
        · rw [htype] at hroot
          cases hroot
          exact ⟨params, c, d, o, y, rfl, hprepare, hadmits, htype, hbefore.silent silent_nil,
            hafter⟩
  · rw [handle, handleGet_of_some hparams]
    obtain ⟨hanswer, hsilent⟩ := (answerQuery_journal hguarded params).2 c hprepare htype
    exact ⟨hanswer, hsilent.silent silent_nil⟩

end Transport

namespace Safety

/-- A resolver of a field with a number. -/
def root (type : String) : ObjectValue Resolved :=
  .uniform type (.leaf (.int 1))

/-- A service with a query and a mutation. -/
def service : Service where
  schema :=
    { types :=
        [⟨"Int", none, [], .scalar⟩,
         ⟨"Query", none, [], .object [] [{ name := "a", type := .named "Int" false }]⟩,
         ⟨"Mutation", none, [], .object [] [{ name := "m", type := .named "Int" false }]⟩]
      directives := []
      query := some "Query"
      mutation := some "Mutation" }
  query := root "Query"
  mutation := some (root "Mutation")

/-- An executor that keeps a trace and remembers documents and texts. -/
def executor : Executor where
  service
  extensions := [.tracing, .persistedQueries .unbounded]
  responses := [Extension.traceResponses]
  fields := [Extension.traceFields]
  documents := .unbounded

/-- A mutation that came with its hash. -/
def sent : Params where
  query := some "mutation{m}"
  extensions := [(Extension.PersistedQuery.key, .object [("version", .int 1),
    ("sha256Hash",
      .string "439d0d3e2c4afa7648c6e5d6dc03f5690b65b9121296244cd5fbeb98f63648dc")])]

/-- The executor once it remembers the mutation. -/
def later : Executor := ((Interleaving.start executor [sent]).run (List.replicate 7 0)).executor

theorem reachable : later.Reachable := by
  refine .after (fun e he => ?_) ⟨fun _ h => absurd h List.not_mem_nil, fun mw hmw => ?_⟩ rfl
    [sent] (List.replicate 7 0)
  · simp only [executor, List.mem_cons, List.not_mem_nil, or_false] at he
    rcases he with rfl | rfl <;> trivial
  · rw [List.mem_singleton.mp hmw]
    exact passes_traceResponses.forwards fun _ _ _ => trivial

/-- A request for some members in its query. -/
def request (query : String) : Http.Request := { method := "GET", target := { query? := some query } }

/-- A request for the mutation by its hash. -/
def named : Http.Request :=
  request ("extensions=\x7b\"persistedQuery\":\x7b\"version\":1,\"sha256Hash\":"
    ++ "\"439d0d3e2c4afa7648c6e5d6dc03f5690b65b9121296244cd5fbeb98f63648dc\"\x7d\x7d")

/-- A request for a query by its text. -/
def query : Http.Request := request "query={a}"

/-- A request for the mutation by its text, with a query beside it. -/
def mutation : Http.Request := request "query=query+Q{a}mutation+M{m}&operationName=M"

/-- The query runs on its root object; the mutation is refused by its hash and by its text. -/
theorem handleGet_safe_later :
    later.Reachable ∧
    (∃ params c d o y, Transport.queryParams? query = some params ∧
      (later.prepare params).1 = .ok c ∧ later.Admits params c d o ∧ o.type = .query ∧
      Silent y.journal ∧
      Extends (Execution.executeOperation later.service later.fields ⟨c, later.presentation⟩ d o
        later.service.query y).2.journal (Transport.get.handle query ⟨later, []⟩).2.journal) ∧
    ((Transport.get.handle named ⟨later, []⟩).1 = .ok Transport.queriesOnly ∧
      Silent (Transport.get.handle named ⟨later, []⟩).2.journal) ∧
    Transport.get.handle mutation ⟨later, []⟩ = (.ok Transport.queriesOnly, ⟨later, []⟩) := by
  obtain ⟨hcalled, -⟩ := Transport.handleGet_safe reachable query
  obtain ⟨-, hbuilt, -⟩ := Transport.handleGet_safe reachable named
  obtain ⟨-, -, htext, -⟩ := Transport.handleGet_safe reachable mutation
  have hcall : ∃ e ∈ (Transport.get.handle query ⟨later, []⟩).2.journal, e.IsCall := by
    decide +kernel
  have hmutation : ((Transport.queryParams? named).bind fun params =>
      ((later.prepare params).1.toOption.map (·.type?))) = some (some .mutation) := by
    decide +kernel
  refine ⟨reachable, hcalled hcall, ?_, ?_⟩
  · obtain ⟨params, hparams, hbind⟩ := Option.bind_eq_some_iff.mp hmutation
    obtain ⟨c, hc, htype⟩ := Option.map_eq_some_iff.mp hbind
    cases hprepare : (later.prepare params).1 with
    | error refusal => rw [hprepare] at hc; cases hc
    | ok c' =>
        rw [hprepare] at hc
        cases hc
        exact hbuilt params c hparams hprepare (by rw [htype]; decide)
  · have hread : ((Request.ofQueryString (mutation.target.query?.getD "")).toOption.bind fun r =>
        r.query.bind fun text => (Document.read text).toOption.bind fun definitions =>
          (pick? (operationsOf definitions) r.operationName).map (·.type)) = some .mutation := by
      decide +kernel
    obtain ⟨r, hr, hbind⟩ := Option.bind_eq_some_iff.mp hread
    obtain ⟨text, ht, hbind⟩ := Option.bind_eq_some_iff.mp hbind
    obtain ⟨definitions, hd, hbind⟩ := Option.bind_eq_some_iff.mp hbind
    obtain ⟨o, ho, htype⟩ := Option.map_eq_some_iff.mp hbind
    have hok {ε α : Type} {e : Except ε α} {a : α} (h : e.toOption = some a) : e = .ok a := by
      cases e with
      | error e => cases h
      | ok b => cases h; rfl
    exact (htext r text definitions o (hok hr) ht (hok hd) ho (by rw [htype]; decide)).1

end Safety

end GraphServe
