import GraphServe.Proofs.Execution.Blindness
import GraphServe.Proofs.Executor.Passing
import GraphServe.Proofs.Extension

/-!
# Executors that do not see headers

An executor is blind if nothing that was put into it looks at the headers of requests: its
extensions, the middleware, the resolvers and the presentation of errors (`Executor.Blind`).

A blind executor prepares twins from twins, and remembers the same after both
(`Executor.prepare_twin`).  The responses that it makes for twins are the same
(`Executor.produce_agree`, `Executor.refuse_agree`).
-/

namespace GraphServe

open Document

/-! ### Hooks -/

/-- What hooks on the parameters leave behind of twins. -/
structure ParamsOutcome.Twin (o o' : ParamsOutcome) : Prop where
  params  : o.params.Twin o'.params
  stats   : o'.stats = o.stats
  error   : o'.error = o.error
  entries : o'.entries = o.entries

/-- What hooks on an operation leave behind of twins. -/
structure ContextOutcome.Twin (o o' : ContextOutcome) : Prop where
  context : o.context.Twin o'.context
  error   : o'.error = o.error
  entries : o'.entries = o.entries

namespace Extension

variable {e : Extension} {p p' : Params} {c c' : OperationContext}

/-- An extension whose hooks do not see headers. -/
def Blind : Extension → Prop
  | complexityLimit limit => ∀ c c', OperationContext.Twin c c' → limit c' = limit c
  | custom hooks          =>
      (∀ p p' stats, Params.Twin p p' →
        (hooks.onParams p stats).Twin (hooks.onParams p' stats)) ∧
      ∀ c c', OperationContext.Twin c c' → (hooks.onContext c).Twin (hooks.onContext c')
  | _                     => True

theorem persistParams_twin (store : Cache String) (h : p.Twin p') (stats : Stats) :
    (persistParams store p stats).1.Twin (persistParams store p' stats).1 ∧
      (persistParams store p' stats).2 = (persistParams store p stats).2 := by
  obtain ⟨headers, rfl⟩ := h
  obtain ⟨query, operationName, variableValues, extensions, headers', uploads, context⟩ := p
  have hsame (query : Option String) : Params.Twin
      ⟨query, operationName, variableValues, extensions, headers', uploads, context⟩
      ⟨query, operationName, variableValues, extensions, headers, uploads, context⟩ :=
    ⟨headers, rfl⟩
  unfold persistParams
  dsimp only
  cases extensions.get? PersistedQuery.key with
  | none => exact ⟨⟨hsame query, rfl, rfl, rfl⟩, rfl⟩
  | some value =>
      dsimp only
      cases PersistedQuery.ofJson? value with
      | none => exact ⟨⟨hsame query, rfl, rfl, rfl⟩, rfl⟩
      | some q =>
          dsimp only
          split
          · exact ⟨⟨hsame query, rfl, rfl, rfl⟩, rfl⟩
          cases query with
          | some text =>
              dsimp only
              split
              · exact ⟨⟨hsame (some text), rfl, rfl, rfl⟩, rfl⟩
              · exact ⟨⟨hsame (some text), rfl, rfl, rfl⟩, rfl⟩
          | none =>
              dsimp only
              generalize store.get q.hash = found
              obtain ⟨_ | text, store⟩ := found
              · exact ⟨⟨hsame none, rfl, rfl, rfl⟩, rfl⟩
              · exact ⟨⟨hsame (some text), rfl, rfl, rfl⟩, rfl⟩

theorem persistContext_twin (store : Cache String) (h : c.Twin c') :
    (persistContext store c).1.Twin (persistContext store c').1 ∧
      (persistContext store c').2 = (persistContext store c).2 := by
  obtain ⟨headers, rfl⟩ := h
  unfold persistContext
  dsimp only
  split
  · exact ⟨⟨⟨headers, rfl⟩, rfl, rfl⟩, rfl⟩
  · exact ⟨⟨⟨headers, rfl⟩, rfl, rfl⟩, rfl⟩

theorem limitComplexity_twin {limit : OperationContext → Nat}
    (hlimit : ∀ c c', OperationContext.Twin c c' → limit c' = limit c) (service : Service)
    (h : c.Twin c') :
    (limitComplexity limit service c).Twin (limitComplexity limit service c') := by
  have hbound := hlimit c c' h
  obtain ⟨headers, rfl⟩ := h
  unfold limitComplexity
  dsimp only
  rw [hbound]
  split
  · exact ⟨⟨headers, rfl⟩, rfl, rfl⟩
  · exact ⟨⟨headers, rfl⟩, rfl, rfl⟩

/-- The hook on the parameters of twins, and the extension after it. -/
theorem onParams_twin (he : e.Blind) (h : p.Twin p') (stats : Stats) :
    (e.onParams p stats).1.Twin (e.onParams p' stats).1 ∧
      (e.onParams p' stats).2 = (e.onParams p stats).2 := by
  cases e with
  | persistedQueries store =>
      obtain ⟨houtcome, hstore⟩ := persistParams_twin store h stats
      exact ⟨houtcome, congrArg persistedQueries hstore⟩
  | custom hooks => exact ⟨he.1 p p' stats h, rfl⟩
  | introspection | tracing | complexityLimit => exact ⟨⟨h, rfl, rfl, rfl⟩, rfl⟩

/-- The hook on twins, and the extension after it. -/
theorem onContext_twin (he : e.Blind) (service : Service) (h : c.Twin c') :
    (e.onContext service c).1.Twin (e.onContext service c').1 ∧
      (e.onContext service c').2 = (e.onContext service c).2 := by
  cases e with
  | persistedQueries store =>
      obtain ⟨houtcome, hstore⟩ := persistContext_twin store h
      exact ⟨houtcome, congrArg persistedQueries hstore⟩
  | custom hooks => exact ⟨he.2 c c' h, rfl⟩
  | complexityLimit limit => exact ⟨limitComplexity_twin he service h, rfl⟩
  | tracing => exact ⟨⟨h, rfl, rfl⟩, rfl⟩
  | introspection =>
      obtain ⟨headers, rfl⟩ := h
      exact ⟨⟨⟨headers, rfl⟩, rfl, rfl⟩, rfl⟩

/-- What a hook changes of an extension does not make it see headers. -/
theorem Blind.onParams (he : e.Blind) (p : Params) (stats : Stats) :
    (e.onParams p stats).2.Blind := by
  cases e <;> exact he

theorem Blind.onContext (he : e.Blind) (service : Service) (c : OperationContext) :
    (e.onContext service c).2.Blind := by
  cases e <;> exact he

end Extension

/-! ### Preparing -/

/-- Refusals of twins, for the same errors. -/
structure Refusal.Twin (r r' : Refusal) : Prop where
  context : r.context.Twin r'.context
  errors  : r'.errors = r.errors

namespace Executor

variable {x : Executor} {p p' : Params} {c c' : OperationContext}

theorem runParamsHooks_twin {extensions : List Extension} (he : ∀ e ∈ extensions, e.Blind)
    (h : p.Twin p') (stats : Stats) :
    (runParamsHooks extensions p stats).1.Twin (runParamsHooks extensions p' stats).1 ∧
      (runParamsHooks extensions p' stats).2 = (runParamsHooks extensions p stats).2 := by
  induction extensions generalizing p p' stats with
  | nil => exact ⟨⟨h, rfl, rfl, rfl⟩, rfl⟩
  | cons e rest ih =>
      obtain ⟨hfirst, hrest⟩ := List.forall_mem_cons.mp he
      obtain ⟨houtcome, hextension⟩ := Extension.onParams_twin hfirst h stats
      rw [runParamsHooks, runParamsHooks]
      generalize e.onParams p stats = left, e.onParams p' stats = right at *
      obtain ⟨outcome, e₁⟩ := left
      obtain ⟨outcome', e₁'⟩ := right
      dsimp only at houtcome hextension ⊢
      obtain ⟨hparams, hstats, herror, hentries⟩ := houtcome
      subst hextension
      rw [herror]
      cases hfailed : outcome.error with
      | some error => exact ⟨⟨hparams, hstats, herror, hentries⟩, rfl⟩
      | none =>
          obtain ⟨hlast, hextensions⟩ := ih hrest hparams outcome.stats
          dsimp only
          rw [hstats, hentries, hextensions]
          refine ⟨⟨hlast.params, hlast.stats, hlast.error, ?_⟩, rfl⟩
          exact congrArg (outcome.entries ++ ·) hlast.entries

theorem runContextHooks_twin {extensions : List Extension} (he : ∀ e ∈ extensions, e.Blind)
    (service : Service) (h : c.Twin c') :
    (runContextHooks service extensions c).1.Twin (runContextHooks service extensions c').1 ∧
      (runContextHooks service extensions c').2 = (runContextHooks service extensions c).2 := by
  induction extensions generalizing c c' with
  | nil => exact ⟨⟨h, rfl, rfl⟩, rfl⟩
  | cons e rest ih =>
      obtain ⟨hfirst, hrest⟩ := List.forall_mem_cons.mp he
      obtain ⟨houtcome, hextension⟩ := Extension.onContext_twin hfirst service h
      rw [runContextHooks, runContextHooks]
      generalize e.onContext service c = left, e.onContext service c' = right at *
      obtain ⟨outcome, e₁⟩ := left
      obtain ⟨outcome', e₁'⟩ := right
      dsimp only at houtcome hextension ⊢
      obtain ⟨hcontext, herror, hentries⟩ := houtcome
      subst hextension
      rw [herror]
      cases hfailed : outcome.error with
      | some error => exact ⟨⟨hcontext, herror, hentries⟩, rfl⟩
      | none =>
          obtain ⟨hlast, hextensions⟩ := ih hrest hcontext
          dsimp only
          rw [hentries, hextensions]
          refine ⟨⟨hlast.context, hlast.error, ?_⟩, rfl⟩
          exact congrArg (outcome.entries ++ ·) hlast.entries

theorem blind_runParamsHooks {extensions : List Extension} (he : ∀ e ∈ extensions, e.Blind)
    (p : Params) (stats : Stats) : ∀ e ∈ (runParamsHooks extensions p stats).2, e.Blind := by
  induction extensions generalizing p stats with
  | nil => exact he
  | cons e rest ih =>
      obtain ⟨hfirst, hrest⟩ := List.forall_mem_cons.mp he
      rw [runParamsHooks]
      dsimp only
      split
      · exact List.forall_mem_cons.mpr ⟨hfirst.onParams p stats, hrest⟩
      · exact List.forall_mem_cons.mpr ⟨hfirst.onParams p stats, ih hrest _ _⟩

theorem blind_runContextHooks {extensions : List Extension} (he : ∀ e ∈ extensions, e.Blind)
    (service : Service) (c : OperationContext) :
    ∀ e ∈ (runContextHooks service extensions c).2, e.Blind := by
  induction extensions generalizing c with
  | nil => exact he
  | cons e rest ih =>
      obtain ⟨hfirst, hrest⟩ := List.forall_mem_cons.mp he
      rw [runContextHooks]
      dsimp only
      split
      · exact List.forall_mem_cons.mpr ⟨hfirst.onContext service c, hrest⟩
      · exact List.forall_mem_cons.mpr ⟨hfirst.onContext service c, ih hrest _⟩

theorem selectOperation_twin (s : Schema) (hp : p.Twin p') (d : Executable) (hc : c.Twin c') :
    Outcome.Rel Refusal.Twin OperationContext.Twin (selectOperation s p d c)
      (selectOperation s p' d c') := by
  obtain ⟨headers, rfl⟩ := hp
  obtain ⟨headers', rfl⟩ := hc
  unfold selectOperation
  dsimp only
  cases d.select p.operationName with
  | error e => exact .error ⟨⟨headers', rfl⟩, rfl⟩
  | ok operation =>
      dsimp only
      cases Variables.ofRequest s operation p.variableValues with
      | error e => exact .error ⟨⟨headers', rfl⟩, rfl⟩
      | ok values => exact .ok ⟨headers', rfl⟩

/-- **Twins are prepared alike**, and what is remembered is the same. -/
theorem prepare_twin (hx : ∀ e ∈ x.extensions, e.Blind) (h : p.Twin p') :
    Outcome.Rel Refusal.Twin OperationContext.Twin (x.prepare p).1 (x.prepare p').1 ∧
      (x.prepare p').2 = (x.prepare p).2 := by
  obtain ⟨houtcome, hextensions⟩ := runParamsHooks_twin hx h {}
  have hblind := blind_runParamsHooks hx p {}
  have hcontext : (OperationContext.ofParams p).Twin (OperationContext.ofParams p') := by
    obtain ⟨headers, rfl⟩ := h
    exact ⟨headers, rfl⟩
  unfold prepare
  generalize runParamsHooks x.extensions p {} = left, runParamsHooks x.extensions p' {} = right at *
  obtain ⟨hooked, extensions⟩ := left
  obtain ⟨hooked', extensions'⟩ := right
  dsimp only at houtcome hextensions hblind ⊢
  obtain ⟨hparams, hstats, herror, hentries⟩ := houtcome
  obtain ⟨headers, hcontext⟩ := hcontext
  obtain ⟨hquery, hname, hmembers⟩ : hooked'.params.query = hooked.params.query ∧
      hooked'.params.operationName = hooked.params.operationName ∧
      hooked'.params.extensions = hooked.params.extensions := by
    obtain ⟨headers', hparams⟩ := hparams
    rw [hparams]
    exact ⟨rfl, rfl, rfl⟩
  subst hextensions
  rw [herror, hentries, hstats, hcontext, hquery, hname, hmembers]
  cases hooked.error with
  | some e => exact ⟨.error ⟨⟨headers, rfl⟩, rfl⟩, rfl⟩
  | none =>
      dsimp only
      cases hooked.params.query with
      | none => exact ⟨.error ⟨⟨headers, rfl⟩, rfl⟩, rfl⟩
      | some text =>
          dsimp only
          generalize findDocument { x with extensions := extensions' }
            (documentKey hooked.stats text) text = sought
          obtain ⟨found, documents, entries⟩ := sought
          cases found with
          | error errors => exact ⟨.error ⟨⟨headers, rfl⟩, rfl⟩, rfl⟩
          | ok d =>
              dsimp only
              have hselected := selectOperation_twin x.service.schema hparams d
                (c := { OperationContext.ofParams p with
                  stats := hooked.stats, rawQuery := (some text).getD ""
                  operationName := hooked.params.operationName }) ⟨headers, rfl⟩
              generalize selectOperation x.service.schema hooked.params d _ = chosen,
                selectOperation x.service.schema hooked'.params d _ = chosen' at hselected ⊢
              cases hselected with
              | error hrefusal => exact ⟨.error hrefusal, rfl⟩
              | ok hchosen =>
                  obtain ⟨hlast, hextensions⟩ := runContextHooks_twin hblind x.service hchosen
                  dsimp only
                  rw [hlast.error, hlast.entries, hextensions]
                  cases (runContextHooks x.service extensions' _).1.error with
                  | some e => exact ⟨.error ⟨hlast.context, rfl⟩, rfl⟩
                  | none => exact ⟨.ok hlast.context, rfl⟩

end Executor

/-! ### Responses -/

/-- Handlers that make the same response for twins. -/
def ResponseHandler.Agree (handler handler' : ResponseHandler) : Prop :=
  ∀ c c', ResponseContext.Twin c c' → Work.Agree Eq (handler c) (handler' c')

/-- Middleware around operations that does not see headers. -/
abbrev OperationMiddleware.Blind (mw : OperationMiddleware) : Prop :=
  Middleware.Blind OperationContext.Twin ResponseHandler.Agree mw

/-- Middleware around responses that does not see headers. -/
abbrev ResponseMiddleware.Blind (mw : ResponseMiddleware) : Prop :=
  Middleware.Blind ResponseContext.Twin Eq mw

/-- A trace says nothing of headers. -/
theorem blind_traceResponses : ResponseMiddleware.Blind Extension.traceResponses := by
  have hstart : Work.Agree Eq (modify fun x => { x with trace? := some [] } : Work Unit)
      (modify fun x => { x with trace? := some [] }) :=
    Work.agree_modify fun _ _ h =>
      h.map (f := fun x => { x with trace? := some [] }) (fun _ _ => rfl) fun _ => rfl
  refine fun c c' hc => hstart.bind fun _ _ _ => .pure (.callOn hc fun r _ hr => hr ▸ ?_)
  refine Work.agree_get fun x x' hx => ?_
  obtain ⟨dispatched, -, rfl⟩ := hx
  exact hstart.bind fun _ _ _ => .pure rfl

/-- A field is traced without a look at headers. -/
theorem blind_traceFields : FieldMiddleware.Blind Extension.traceFields := by
  refine fun c c' hc => Work.agree_get fun x x' hx => ?_
  obtain ⟨dispatched, -, rfl⟩ := hx
  dsimp only
  cases x.trace? with
  | none => exact .pure (.callOn hc fun r r' hr => .pure hr)
  | some resolvers =>
      refine .pure (.callOn hc fun r r' hr => ?_)
      obtain ⟨response, -, rfl⟩ := hc
      let entry : ResolverTrace := ⟨c.path, c.object, c.name, c.returnType.render⟩
      exact (Work.agree_modify fun _ _ h =>
        h.map (f := fun x => { x with trace? := x.trace?.map (· ++ [entry]) }) (fun _ _ => rfl)
          fun _ => rfl).bind fun _ _ _ => .pure hr

namespace Executor

/-- An executor into which nothing was put that sees headers. -/
structure Blind (x : Executor) : Prop where
  extensions   : ∀ e ∈ x.extensions, e.Blind
  operations   : ∀ mw ∈ x.operations, OperationMiddleware.Blind mw
  responses    : ∀ mw ∈ x.responses, ResponseMiddleware.Blind mw
  fields       : ∀ mw ∈ x.fields, FieldMiddleware.Blind mw
  query        : x.service.query.Blind
  mutation     : ∀ root ∈ x.service.mutation, root.Blind
  presentation : x.presentation.Blind

variable {x : Executor} {c c' : OperationContext}

/-- **A blind executor stays blind** while it prepares operations. -/
theorem prepare_blind (h : x.Blind) (p : Params) : (x.prepare p).2.1.Blind := by
  have hset {extensions : List Extension} (he : ∀ e ∈ extensions, e.Blind)
      (documents : Cache Executable) : Blind { x with extensions, documents } :=
    ⟨he, h.operations, h.responses, h.fields, h.query, h.mutation, h.presentation⟩
  have hhooked := blind_runParamsHooks h.extensions p {}
  unfold prepare
  dsimp only
  split
  · exact hset hhooked _
  split
  · exact hset hhooked _
  split
  · exact hset hhooked _
  split
  · exact hset hhooked _
  split
  · exact hset (blind_runContextHooks hhooked _ _) _
  · exact hset (blind_runContextHooks hhooked _ _) _

theorem agree_flush (r : Response) :
    Work.Agree Eq (modifyGet (·.flush r)) (modifyGet (·.flush r)) := fun x x' hx => by
  obtain ⟨dispatched, hrel, rfl⟩ := hx
  exact ⟨.ok rfl, dispatched, hrel, rfl⟩

theorem agree_flushRest (r : Response) : Work.Agree Eq (flushRest r) (flushRest r) :=
  Work.agree_get fun x x' hx => by
    obtain ⟨dispatched, -, rfl⟩ := hx
    dsimp only
    split
    · exact agree_flush r
    · exact .pure rfl

theorem agree_reach {handler handler' : ResponseHandler} (h : handler.Agree handler')
    (c c' : ResponseContext) (hc : c.Twin c') :
    Work.Agree Eq (reach handler c) (reach handler' c') := by
  refine (Work.agree_modify fun _ _ hx => hx.map (f := fun x => { x with reached := true })
    (fun _ _ => rfl) fun _ => rfl).bind fun _ _ _ => ?_
  exact (h c c' hc).bind fun r _ hr => hr ▸ agree_flush r

/-- Responses to twins are the same. -/
theorem respond_agree {chain : Chain Work ResponseContext Response}
    (hchain : ∀ mw ∈ chain, ResponseMiddleware.Blind mw) {c c' : ResponseContext} (hc : c.Twin c')
    {handler handler' : ResponseHandler} (h : handler.Agree handler') :
    Work.Agree Eq (respond chain c handler) (respond chain c' handler') := fun y y' hy => by
  have hstart : { y with reached := false }.Twin { y' with reached := false } :=
    hy.map (f := fun y => { y with reached := false }) (fun _ _ => rfl) fun _ => rfl
  obtain ⟨houtcome, hz⟩ := Chain.agree_run hchain (agree_reach h) hc _ _ hstart
  rcases hleft : chain.run (reach handler) c { y with reached := false } with ⟨outcome, z⟩
  rcases hright : chain.run (reach handler') c' { y' with reached := false } with ⟨outcome', z'⟩
  rw [hleft, hright] at houtcome hz
  cases houtcome with
  | ok hr =>
      rw [respond_of_ok hleft, respond_of_ok hright, hr]
      exact agree_flushRest _ z z' hz
  | error hp =>
      rw [respond_of_error hleft, respond_of_error hright, hp]
      exact ((hc.recover none _).bind fun e _ he => he ▸ agree_flushRest _) z z' hz

/-- An operation is executed without a look at headers. -/
theorem execute_agree (h : x.Blind) : ResponseHandler.Agree x.execute x.execute := by
  intro c c' hc
  have hrun (d : Executable) (o : Operation FieldDefinition) {root : ObjectValue Resolved}
      (hroot : root.Blind) :
      Work.Agree Eq
        (do return { data := ← Execution.executeOperation x.service x.fields c d o root })
        (do return { data := ← Execution.executeOperation x.service x.fields c' d o root } :
          Work Response) :=
    (Execution.executeOperation_agree hc h.fields d o hroot).map fun _ _ hdata => hdata ▸ rfl
  obtain ⟨headers, hoperation⟩ := hc.operation
  have hdocument : c'.operation.document = c.operation.document := by rw [hoperation]
  have hselected : c'.operation.operation = c.operation.operation := by rw [hoperation]
  unfold execute
  rw [hdocument, hselected]
  cases c.operation.document with
  | none => exact .pure rfl
  | some d =>
      cases c.operation.operation with
      | none => exact .pure rfl
      | some o =>
          dsimp only
          cases o.type with
          | query => exact hrun d o h.query
          | subscription => exact .pure rfl
          | mutation =>
              cases hmutation : x.service.mutation with
              | none => exact .pure rfl
              | some root => exact hrun d o (h.mutation root hmutation)

end Executor

/-- Operations that were dispatched, with handlers that agree. -/
structure Producer.Agree (p p' : Producer) : Prop where
  operation    : p.operation.Twin p'.operation
  handler      : p.handler.Agree p'.handler
  responses    : p'.responses = p.responses
  presentation : p'.presentation = p.presentation

/-- An exchange before any error was reported. -/
theorem agree_reopen : Work.Agree Eq (modify Exchange.reopen) (modify Exchange.reopen) :=
  Work.agree_modify fun _ _ h => h.map (f := Exchange.reopen) (fun _ _ => rfl) fun _ => rfl

namespace Executor

variable {x : Executor} {c c' : OperationContext}

theorem dispatch_agree (h : x.Blind) (hc : c.Twin c') :
    Work.Agree (fun p p' => p.Agree p' ∧ p.presentation = x.presentation ∧ p.responses = x.responses)
      (x.dispatch c) (x.dispatch c') := by
  have hset {dispatched dispatched' : Option OperationContext}
      (hrel : Option.Rel OperationContext.Twin dispatched dispatched') :
      Work.Agree Eq (modify fun e => { e with dispatched } : Work Unit)
        (modify fun e => { e with dispatched := dispatched' }) :=
    Work.agree_modify fun y y' hy => by
      obtain ⟨-, -, rfl⟩ := hy
      exact ⟨dispatched', hrel, rfl⟩
  refine (hset .none).bind fun _ _ _ => ?_
  refine (Chain.agree_run h.operations (fun c c' hc => ?_) hc).bind fun handler handler' hhandler => ?_
  · exact (hset (.some hc)).bind fun _ _ _ => .pure (execute_agree h)
  · refine Work.agree_get fun y y' hy => .pure ⟨⟨?_, hhandler, rfl, rfl⟩, rfl, rfl⟩
    obtain ⟨dispatched, hrel, rfl⟩ := hy
    cases hd : y.dispatched with
    | none =>
        rw [hd] at hrel
        cases hrel
        exact hc
    | some operation =>
        rw [hd] at hrel
        cases hrel with
        | some hoperation => exact hoperation

/-- **Twins get the same response.** -/
theorem produce_agree (h : x.Blind) (hc : c.Twin c') :
    Work.Agree Eq (do (← x.dispatch c).produce) (do (← x.dispatch c').produce) := by
  refine (dispatch_agree h hc).bind fun p p' hdispatched => ?_
  obtain ⟨hp, hpresentation, hresponses⟩ := hdispatched
  have hresponse : ResponseContext.Twin ⟨p.operation, p.presentation⟩
      ⟨p'.operation, p'.presentation⟩ :=
    ⟨hp.operation, hp.presentation, hpresentation ▸ h.presentation⟩
  refine agree_reopen.bind fun _ _ _ => ?_
  rw [hp.responses]
  exact respond_agree (hresponses ▸ h.responses) hresponse hp.handler

/-- **Twins are refused with the same response.** -/
theorem refuse_agree (h : x.Blind) {r r' : Refusal} (hr : r.Twin r') :
    Work.Agree Eq (x.refuse r) (x.refuse r') := by
  have hc : ResponseContext.Twin ⟨r.context, x.presentation⟩ ⟨r'.context, x.presentation⟩ :=
    ⟨hr.context, rfl, h.presentation⟩
  refine agree_reopen.bind fun _ _ _ => ?_
  dsimp only
  rw [hr.errors]
  refine (Work.Agree.forM (fun e => hc.addError none (.error e)) r.errors).bind fun _ _ _ => ?_
  exact respond_agree h.responses hc fun _ _ _ => .pure rfl

end Executor

end GraphServe
