import GraphServe.Proofs.Executor.Admitting
import GraphServe.Proofs.Executor.Running
import GraphServe.Transport

/-!
# Transports — the parameters of a request, and the answer to them

The executors are those with extensions of the library that remember what was read, and middleware
that passes through (`Executor.Gated`).  Serving keeps an executor so.

The answer to some parameters is to a refusal, or to an operation that was built (`Answers`): only
then resolvers are called, and the answer has the status of success.

A transport of the library reads the parameters of an operation from a request, or none
(`Transport.params?`).  Without parameters it answers by itself, and nothing is prepared
(`Transport.handle_of_none`).  Otherwise its answer is one to the parameters
(`Transport.handle_of_some`).
-/

namespace GraphServe

open Document Serving

/-! ### Executors that serve -/

namespace Executor

/-- An executor with extensions of the library, that remembers what was read and validated, and
middleware that passes through. -/
structure Gated (x : Executor) : Prop where
  builtIn     : x.BuiltIn
  remembers   : x.Remembers
  transparent : x.Transparent

variable {x x' : Executor}

theorem Gated.of_continues (h : x.Gated) (hc : x.Continues x') : x'.Gated where
  builtIn := hc.builtIn
  remembers := hc.remembers
  transparent :=
    ⟨hc.operations ▸ h.transparent.operations, hc.responses ▸ h.transparent.responses,
      hc.presentation ▸ h.transparent.present⟩

theorem Continues.root?_eq (h : x.Continues x') (type : OperationType) :
    x'.root? type = x.root? type := by
  cases type with
  | query => simp only [root?, h.service]
  | mutation => simp only [root?, h.service]
  | subscription => rfl

/-- An operation runs on an executor as on one that continues it. -/
theorem Continues.ran {c : OperationContext} {d : Executable} {o : Operation FieldDefinition}
    {before after : List Entry} (h : x.Continues x') (hran : x'.Ran c d o before after) :
    x.Ran c d o before after := by
  obtain ⟨root, y, hroot, hbefore, hafter⟩ := hran
  refine ⟨root, y, (h.root?_eq o.type).symm.trans hroot, hbefore, ?_⟩
  rw [h.service, h.fields, h.presentation] at hafter
  exact hafter

end Executor

namespace Serving

variable {s : State} {d : Executable} {o : Operation FieldDefinition}

/-! ### Laws of stages -/

theorem bind_apply {α β : Type} (w : Serving α) (f : α → Serving β) (s : State) :
    (w >>= f) s = match w s with
      | (.ok a, s')    => f a s'
      | (.error p, s') => (.error p, s') := by
  show (ExceptT.bindCont f (w s).1) (w s).2 = _
  rcases w s with ⟨_ | _, _⟩ <;> rfl

theorem bind_ok {α β : Type} {w : Serving α} {f : α → Serving β} {s s' : State} {a : α}
    (h : w s = (.ok a, s')) : (w >>= f) s = f a s' := by
  rw [bind_apply, h]

theorem log_apply (events : List Event) (s : State) :
    log events s = (.ok (), { s with journal := s.journal ++ events.map .event }) := rfl

theorem prepare_apply (params : Params) (s : State) :
    prepare params s = (.ok (s.executor.prepare params).1,
      ⟨(s.executor.prepare params).2.1, s.journal ++ (s.executor.prepare params).2.2⟩) := rfl

/-- Work is done on an exchange of its own, and only writes the journal. -/
theorem work_apply {α : Type} (c : OperationContext) (stage : Executor → Work α) (s : State) :
    work c stage s =
      ((stage s.executor { context := c.context, journal := s.journal }).1,
        { s with journal :=
            (stage s.executor { context := c.context, journal := s.journal }).2.journal }) := by
  unfold work
  rw [bind_ok (rfl : (get : Serving State) s = (.ok s, s))]
  rcases hstage : stage s.executor { context := c.context, journal := s.journal } with ⟨p | a, z⟩
  all_goals
    have hrun : (stage s.executor).run { context := c.context, journal := s.journal } = _ := hstage
    rw [hrun]
    rfl

theorem work_ok {α : Type} {c : OperationContext} {stage : Executor → Work α} {a : α} {z : Exchange}
    (h : stage s.executor { context := c.context, journal := s.journal } = (.ok a, z)) :
    work c stage s = (.ok a, { s with journal := z.journal }) := by
  rw [work_apply, h]

/-! ### Running and refusing -/

/-- An operation that was built is answered with the status of success. -/
theorem respond_passes {c : OperationContext} (h : s.executor.Transparent)
    (hd : c.document = some d) (ho : c.operation = some o) :
    ∃ r after, respond c s = (.ok (.json 200 r), { s with journal := after }) ∧
      (Extends s.journal after ∨ s.executor.Ran c d o s.journal after) := by
  obtain ⟨r, z, hproduce, hjournal⟩ :=
    Executor.produce_passes h hd ho { context := c.context, journal := s.journal }
  refine ⟨r, z.journal, ?_, hjournal⟩
  rw [respond, bind_ok (work_ok hproduce)]
  rfl

/-- A request for which no operation was built is answered with the errors met. -/
theorem refuse_passes (h : s.executor.Transparent) (refusal : Refusal) :
    ∃ r after, refuse refusal s =
        (.ok (.json (Error.status refusal.errors) r), { s with journal := after }) ∧
      r.data = .null ∧ r.errors = refusal.errors ∧ Extends s.journal after := by
  obtain ⟨r, z, hrefuse, hdata, herrors, hjournal⟩ :=
    Executor.refuse_passes h refusal { context := refusal.context.context, journal := s.journal }
  refine ⟨r, z.journal, ?_, hdata, herrors, hjournal⟩
  rw [refuse, bind_ok (work_ok hrefuse)]
  rfl

/-! ### Answers -/

/-- A response to some parameters, with the journal before and after. -/
inductive Answers (x : Executor) (params : Params) (before after : List Entry) :
    Http.Response → Prop where
  /-- No operation was built.  The response has the errors met, and no data. -/
  | refused {refusal : Refusal} {r : Response}
      (outcome : (x.prepare params).1 = .error refusal)
      (data : r.data = .null) (errors : r.errors = refusal.errors)
      (silent : Extends before after) :
      Answers x params before after (.json (Error.status refusal.errors) r)
  /-- The operation that was built was run. -/
  | responded {c : OperationContext} {d : Executable} {o : Operation FieldDefinition} {r : Response}
      (outcome : (x.prepare params).1 = .ok c) (admits : x.Admits params c d o)
      (ran : Extends before after ∨ x.Ran c d o before after) :
      Answers x params before after (.json 200 r)
  /-- An operation was built that may not come in this way. -/
  | declined {c : OperationContext} {response : Http.Response}
      (outcome : (x.prepare params).1 = .ok c) (silent : Extends before after) :
      Answers x params before after response

variable {params : Params}

/-- What is logged before an answer does not count. -/
theorem Answers.of_extends {x : Executor} {before before' after : List Entry}
    {response : Http.Response} (h : Answers x params before' after response)
    (hextends : Extends before before') : Answers x params before after response := by
  cases h with
  | refused outcome data errors silent =>
      exact .refused outcome data errors (hextends.trans silent)
  | declined outcome silent => exact .declined outcome (hextends.trans silent)
  | responded outcome admits ran =>
      refine .responded outcome admits ?_
      rcases ran with hsilent | ⟨root, y, hroot, hbefore, hend⟩
      · exact .inl (hextends.trans hsilent)
      · exact .inr ⟨root, y, hroot, hextends.trans hbefore, hend⟩

/-- What was prepared is silent in the journal, and leaves an executor that serves. -/
theorem prepare_gated (h : s.executor.Gated) (params : Params) :
    ∃ s', prepare params s = (.ok (s.executor.prepare params).1, s') ∧
      s.executor.Continues s'.executor ∧ Extends s.journal s'.journal :=
  ⟨_, prepare_apply params s, Executor.prepare_continues h.builtIn h.remembers params,
    .add s.journal (Executor.silent_prepare h.builtIn params)⟩

theorem refuse_answers {s' : State} {refusal : Refusal} (h : s.executor.Gated)
    (hprepare : (s.executor.prepare params).1 = .error refusal)
    (hcontinues : s.executor.Continues s'.executor) (hsilent : Extends s.journal s'.journal) :
    ∃ response s'', refuse refusal s' = (.ok response, s'') ∧
      s.executor.Continues s''.executor ∧
      Answers s.executor params s.journal s''.journal response := by
  obtain ⟨r, after, hrefuse, hdata, herrors, hafter⟩ :=
    refuse_passes (h.of_continues hcontinues).transparent refusal
  exact ⟨_, _, hrefuse, hcontinues, .refused hprepare hdata herrors (hsilent.trans hafter)⟩

theorem respond_answers {s' : State} {c : OperationContext} (h : s.executor.Gated)
    (hprepare : (s.executor.prepare params).1 = .ok c)
    (hcontinues : s.executor.Continues s'.executor) (hsilent : Extends s.journal s'.journal) :
    ∃ response s'', respond c s' = (.ok response, s'') ∧
      s.executor.Continues s''.executor ∧
      Answers s.executor params s.journal s''.journal response := by
  obtain ⟨d, o, hadmits⟩ := Executor.prepare_ok h.builtIn h.remembers hprepare
  obtain ⟨r, after, hrespond, hafter⟩ :=
    respond_passes (h.of_continues hcontinues).transparent hadmits.document hadmits.operation
  have hanswers : Answers s.executor params s'.journal after (.json 200 r) :=
    .responded hprepare hadmits (hafter.imp_right hcontinues.ran)
  exact ⟨_, _, hrespond, hcontinues, hanswers.of_extends hsilent⟩

theorem execute_answers (h : s.executor.Gated) (params : Params) :
    ∃ response s', execute params s = (.ok response, s') ∧ s.executor.Continues s'.executor ∧
      Answers s.executor params s.journal s'.journal response := by
  obtain ⟨s', hprepared, hcontinues, hsilent⟩ := prepare_gated h params
  unfold execute
  rw [bind_ok hprepared]
  cases hprepare : (s.executor.prepare params).1 with
  | error refusal => exact refuse_answers h hprepare hcontinues hsilent
  | ok c => exact respond_answers h hprepare hcontinues hsilent

end Serving

/-! ### Reading parameters -/

namespace Transport

/-- A transport that comes with the library. -/
def BuiltIn : Transport → Prop
  | custom _ _ => False
  | _          => True

/-- Whether the text of a request asks for an operation other than a query. -/
def asksForMore (request : Request) : Bool :=
  (request.query.bind fun text => requestedType? text request.operationName).any (· ≠ .query)

/-- The parameters in the query of a request.  What asks for more than a query is not read. -/
def queryParams? (r : Http.Request) : Option Params :=
  match Request.ofQueryString (r.target.query?.getD "") with
  | .error _     => none
  | .ok request  => if asksForMore request then none else some (Params.ofRequest request r.headers)

/-- The parameters that a transport reads from a request. -/
def params? (r : Http.Request) : Transport → Option Params
  | get           => queryParams? r
  | post          => (readJson r.body).toOption.map fun request => Params.ofRequest request r.headers
  | form settings => (UploadForm.read settings r).1.toOption
  | options       => none
  | custom _ _    => none

/-- Build an operation, and run it if it is a query. -/
def answerQuery (params : Params) : Serving Http.Response := do
  match ← Serving.prepare params with
  | .error refusal => Serving.refuse refusal
  | .ok c          => if c.type? = some .query then Serving.respond c else return queriesOnly

variable {r : Http.Request} {s : State} {params : Params}

/-! ### Queries -/

theorem handleGet_of_none (h : queryParams? r = none) :
    ∃ response, handleGet r = pure response := by
  unfold queryParams? at h
  unfold handleGet
  cases hread : Request.ofQueryString (r.target.query?.getD "") with
  | error fault => exact ⟨_, rfl⟩
  | ok request =>
      rw [hread] at h
      dsimp only at h ⊢
      cases htype : asksForMore request with
      | false => rw [htype, if_neg Bool.false_ne_true] at h; cases h
      | true =>
          refine ⟨queriesOnly, ?_⟩
          unfold asksForMore at htype
          rw [if_pos htype]

theorem handleGet_of_some (h : queryParams? r = some params) :
    handleGet r = answerQuery params := by
  unfold queryParams? at h
  unfold handleGet
  cases hread : Request.ofQueryString (r.target.query?.getD "") with
  | error fault => rw [hread] at h; cases h
  | ok request =>
      rw [hread] at h
      dsimp only at h ⊢
      cases htype : asksForMore request with
      | true => rw [htype, if_pos rfl] at h; cases h
      | false =>
          rw [htype, if_neg Bool.false_ne_true] at h
          cases h
          unfold asksForMore at htype
          rw [if_neg (by rw [htype]; exact Bool.false_ne_true)]
          rfl

theorem answerQuery_answers (h : s.executor.Gated) (params : Params) :
    ∃ response s', answerQuery params s = (.ok response, s') ∧ s.executor.Continues s'.executor ∧
      Answers s.executor params s.journal s'.journal response := by
  obtain ⟨s', hprepared, hcontinues, hsilent⟩ := prepare_gated h params
  unfold answerQuery
  rw [bind_ok hprepared]
  cases hprepare : (s.executor.prepare params).1 with
  | error refusal => exact refuse_answers h hprepare hcontinues hsilent
  | ok c =>
      dsimp only
      by_cases hquery : c.type? = some .query
      · rw [if_pos hquery]
        exact respond_answers h hprepare hcontinues hsilent
      · rw [if_neg hquery]
        exact ⟨_, s', rfl, hcontinues, .declined hprepare hsilent⟩

/-! ### Requests -/

variable {t : Transport}

/-- A request without parameters is answered with nothing prepared. -/
theorem handle_of_none (ht : t.BuiltIn) (h : t.params? r = none) (s : State) :
    ∃ response after, t.handle r s = (.ok response, { s with journal := after }) ∧
      Extends s.journal after := by
  cases t with
  | options => exact ⟨_, s.journal, rfl, .refl _⟩
  | custom supports handle => exact absurd ht id
  | get =>
      obtain ⟨response, hpure⟩ := handleGet_of_none h
      refine ⟨response, s.journal, ?_, .refl _⟩
      rw [handle, hpure]
      rfl
  | post =>
      dsimp only [params?] at h
      unfold handle handlePost
      cases hread : readJson r.body with
      | error cause => exact ⟨_, s.journal, rfl, .refl _⟩
      | ok request => rw [hread] at h; cases h
  | form settings =>
      dsimp only [params?] at h
      unfold handle handleForm
      dsimp only
      generalize UploadForm.read settings r = read at *
      cases hread : read.1 with
      | ok params => rw [hread] at h; cases h
      | error fault =>
          rw [bind_ok (log_apply read.2 s)]
          exact ⟨_, _, rfl, (Extends.add s.journal (silent_events read.2)).trans
            (.add _ (silent_events _))⟩

/-- A request with parameters is answered by what they ask for. -/
theorem handle_of_some (ht : t.BuiltIn) (hs : s.executor.Gated) (h : t.params? r = some params) :
    ∃ response s', t.handle r s = (.ok response, s') ∧ s.executor.Continues s'.executor ∧
      Answers s.executor params s.journal s'.journal response := by
  cases t with
  | options => cases h
  | custom supports handle => exact absurd ht id
  | get =>
      rw [handle, handleGet_of_some h]
      exact answerQuery_answers hs params
  | post =>
      dsimp only [params?] at h
      unfold handle handlePost
      cases hread : readJson r.body with
      | error cause => rw [hread] at h; cases h
      | ok request =>
          rw [hread] at h
          cases h
          exact execute_answers hs _
  | form settings =>
      dsimp only [params?] at h
      unfold handle handleForm
      dsimp only
      generalize UploadForm.read settings r = read at *
      cases hread : read.1 with
      | error fault => rw [hread] at h; cases h
      | ok params' =>
          rw [hread] at h
          cases h
          rw [bind_ok (log_apply read.2 s)]
          -- what is logged while the form is read comes before the answer.
          let logged : State := { s with journal := s.journal ++ read.2.map .event }
          have hlogged : logged.executor.Gated := hs
          obtain ⟨response, s', hexecute, hcontinues, hanswers⟩ := execute_answers hlogged params
          exact ⟨response, s', hexecute, hcontinues,
            hanswers.of_extends (.add s.journal (silent_events read.2))⟩

end Transport

end GraphServe
