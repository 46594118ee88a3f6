import GraphServe.Proofs.Execution.Confinement
import GraphServe.Proofs.Executor.Passing
import GraphServe.Proofs.Resolved

/-!
# Executors — errors are delivered once

What is reported while a response is made is moved into it twice: behind the handler, and behind the
chain of middleware around it.  The second move takes what the first left.

**Errors are delivered exactly once** (`Executor.delivers`).  Where middleware around responses hands
back the response that it gets, or answers by itself, and nothing panics, the errors of a response
whose handler was reached are those of the handler and then all that were reported, in their order
(`Delivered.handled`); a response whose handler was not reached is the one that the middleware
answered with (`Delivered.answered`).  So it is for operations that are dispatched and for requests
that are refused, whose errors come before all others that are reported.

* `Chain.Reaches` follows a chain up to its endpoint.
* `Chain.run_ends` says what a chain comes to, from what each middleware of it does;
  `Chain.run_returns` is the case of middleware that hands responses back.
* `Executor.respond_handled` says what becomes of the errors of an exchange whose handler was reached.
-/

namespace GraphServe

/-! ### Reporting errors -/

/-- Errors may have been reported, and none was moved into a response. -/
structure Exchange.Reported (x y : Exchange) : Prop where
  errors  : x.errors <+: y.errors
  flushed : y.flushed = x.flushed
  reached : y.reached = x.reached

namespace Exchange

theorem Reported.refl (x : Exchange) : x.Reported x := ⟨List.prefix_rfl, rfl, rfl⟩

theorem Reported.trans {x y z : Exchange} (h : x.Reported y) (h' : y.Reported z) : x.Reported z :=
  ⟨h.errors.trans h'.errors, h'.flushed.trans h.flushed, h'.reached.trans h.reached⟩

/-- Where all errors were moved, those that are left to move have been reported since. -/
theorem Reported.eq_append_drop {y z : Exchange}
    (h : Reported { y with flushed := y.errors.length } z) :
    z.errors = y.errors ++ z.errors.drop z.flushed := by
  obtain ⟨after, hafter⟩ := h.errors
  have hafter : y.errors ++ after = z.errors := hafter
  rw [h.flushed, ← hafter, List.drop_left]

theorem permits_reported : Permits Reported where
  refl := .refl
  trans := .trans
  push x e := ⟨List.prefix_append x.errors [e], rfl, rfl⟩
  journal _ _ := ⟨List.prefix_rfl, rfl, rfl⟩

end Exchange

/-- Middleware around responses that hands back the response that it gets, if it calls on, and only
reports errors. -/
def ResponseMiddleware.Returns (mw : ResponseMiddleware) : Prop :=
  ∀ c, Work.Leads Exchange.Reported (mw c) fun step => ∀ c' after, step = .callOn c' after →
    ∀ r, Work.Leads Exchange.Reported (after r) (· = r)

/-- A handler that always makes a response, and only reports errors. -/
def ResponseHandler.Responds (handler : ResponseHandler) : Prop :=
  ∀ c, Work.Leads Exchange.Reported (handler c) fun _ => True

/-- Middleware around operations that always leads to a handler that responds. -/
def OperationMiddleware.Provides (mw : OperationMiddleware) : Prop :=
  ∀ c, (mw c).Gives fun
    | .answer handler => ResponseHandler.Responds handler
    | .callOn _ after => ∀ handler, ResponseHandler.Responds handler →
        (after handler).Gives ResponseHandler.Responds

/-! ### Chains -/

section

variable {C A : Type}

/-- From a context and an exchange a chain comes to its endpoint with others. -/
inductive Chain.Reaches : Chain Work C A → C → Exchange → C → Exchange → Prop where
  | here (c : C) (x : Exchange) : Reaches [] c x c x
  | on {mw : Middleware Work C A} {rest : Chain Work C A} {c c' d : C} {x x' y : Exchange}
      {after : A → Work A} (calls : mw c x = (.ok (.callOn c' after), x'))
      (reaches : Reaches rest c' x' d y) : Reaches (mw :: rest) c x d y

namespace Chain

variable {mw : Middleware Work C A} {rest : Chain Work C A} {c c' : C} {x x' : Exchange}

/-- The endpoint is not reached if a middleware does not call on. -/
theorem not_reaches_of_stops (stops : ∀ c' after, (mw c x).1 ≠ .ok (.callOn c' after)) (d : C)
    (y : Exchange) : ¬ Chain.Reaches (mw :: rest) c x d y := by
  rintro (_ | ⟨calls, -⟩)
  exact stops _ _ (congrArg Prod.fst calls)

/-- Nor is it reached if the rest of the chain does not come to it. -/
theorem not_reaches_of_callOn {after : A → Work A} (h : mw c x = (.ok (.callOn c' after), x'))
    (unreached : ∀ d y, ¬ rest.Reaches c' x' d y) (d : C) (y : Exchange) :
    ¬ Chain.Reaches (mw :: rest) c x d y := by
  rintro (_ | ⟨calls, reaches⟩)
  rw [h] at calls
  cases calls
  exact unreached d y reaches

/-- What the rest of a chain gives goes back through the middleware that called on. -/
theorem run_callOn {after : A → Work A} (h : mw c x = (.ok (.callOn c' after), x'))
    (endpoint : C → Work A) :
    Chain.run (mw :: rest) endpoint c x = (Chain.run rest endpoint c' >>= after) x' := by
  rw [Chain.run, Work.bind_ok h]

end Chain

end

variable {chain : Chain Work ResponseContext Response}

/-- Middleware around responses that only reports errors, with what it ends in if it does not call on
in `U`, and what it ends in with a response that it gets related to that by `K`. -/
def ResponseMiddleware.Ends (U : Except Panic Response → Prop)
    (K : Response → Except Panic Response → Prop) (mw : ResponseMiddleware) : Prop :=
  ∀ c x, x.Reported (mw c x).2 ∧ match (mw c x).1 with
    | .error p               => U (.error p)
    | .ok (.answer r)        => U (.ok r)
    | .ok (.callOn _ after)  => ∀ r z, z.Reported (after r z).2 ∧ K r (after r z).1

/-- A chain comes to its endpoint, and goes on from what this gives, or it ends in something that
does not depend on the endpoint. -/
theorem Chain.run_ends {U : Except Panic Response → Prop}
    {K : Response → Except Panic Response → Prop} (refl : ∀ r, K r (.ok r))
    (trans : ∀ {r r' outcome}, K r (.ok r') → K r' outcome → K r outcome)
    (keeps : ∀ {r outcome}, U (.ok r) → K r outcome → U outcome)
    (h : ∀ mw ∈ chain, ResponseMiddleware.Ends U K mw) (c : ResponseContext) (x : Exchange) :
    (∃ d y, chain.Reaches c x d y ∧ x.Reported y ∧
      ∀ endpoint r y', endpoint d y = (.ok r, y') →
        ∃ outcome z, chain.run endpoint c x = (outcome, z) ∧ y'.Reported z ∧ K r outcome) ∨
    ((∀ d y, ¬ chain.Reaches c x d y) ∧ ∃ outcome z, x.Reported z ∧ U outcome ∧
      ∀ endpoint, chain.run endpoint c x = (outcome, z)) := by
  induction chain generalizing c x with
  | nil => exact .inl ⟨c, x, .here c x, .refl x, fun _ r y' hy => ⟨_, y', hy, .refl y', refl r⟩⟩
  | cons mw rest ih =>
      obtain ⟨hreported, hends⟩ := h mw List.mem_cons_self c x
      rcases hstep : mw c x with ⟨p | r | ⟨c', after⟩, x'⟩ <;> rw [hstep] at hreported hends
      · exact .inr ⟨not_reaches_of_stops (by simp [hstep]), .error p, x', hreported, hends,
          fun endpoint => by rw [Chain.run, Work.bind_error hstep]⟩
      · refine .inr ⟨not_reaches_of_stops (by simp [hstep]), .ok r, x', hreported, hends,
          fun endpoint => ?_⟩
        rw [Chain.run, Work.bind_ok hstep]
        rfl
      · have hrun : ∀ endpoint, Chain.run (mw :: rest) endpoint c x = _ := run_callOn hstep
        rcases ih (fun mw' hmw => h mw' (List.mem_cons_of_mem mw hmw)) c' x' with
          ⟨d, y, hreaches, hreported', hend⟩ | ⟨hunreached, outcome, z, hz, hu, hrest⟩
        · refine .inl ⟨d, y, .on hstep hreaches, hreported.trans hreported',
            fun endpoint r y' hy => ?_⟩
          obtain ⟨outcome, z, hrest, hz, hk⟩ := hend endpoint r y' hy
          rw [hrun, Work.bind_apply, hrest]
          cases outcome with
          | error p => exact ⟨_, z, rfl, hz, hk⟩
          | ok r' => exact ⟨_, _, rfl, hz.trans (hends r' z).1, trans hk (hends r' z).2⟩
        · have hnot := not_reaches_of_callOn hstep hunreached
          cases outcome with
          | error p =>
              exact .inr ⟨hnot, _, z, hreported.trans hz, hu, fun endpoint =>
                (hrun endpoint).trans (Work.bind_error (hrest endpoint))⟩
          | ok r =>
              exact .inr ⟨hnot, _, _, hreported.trans (hz.trans (hends r z).1),
                keeps hu (hends r z).2, fun endpoint =>
                  (hrun endpoint).trans (Work.bind_ok (hrest endpoint))⟩

/-- A chain of middleware that hands responses back gives the response of its endpoint, or one that
does not depend on the endpoint. -/
theorem Chain.run_returns (h : ∀ mw ∈ chain, ResponseMiddleware.Returns mw) (c : ResponseContext)
    (x : Exchange) :
    (∃ d y, chain.Reaches c x d y ∧ x.Reported y ∧
      ∀ endpoint r y', endpoint d y = (.ok r, y') →
        ∃ z, chain.run endpoint c x = (.ok r, z) ∧ y'.Reported z) ∨
    ((∀ d y, ¬ chain.Reaches c x d y) ∧
      ∃ r z, x.Reported z ∧ ∀ endpoint, chain.run endpoint c x = (.ok r, z)) := by
  have hends : ∀ mw ∈ chain, ResponseMiddleware.Ends (fun outcome => ∃ r, outcome = .ok r)
      (fun r outcome => outcome = .ok r) mw := by
    intro mw hmw c x
    obtain ⟨step, x', hstep, hreported, hafter⟩ := h mw hmw c x
    rw [hstep]
    refine ⟨hreported, ?_⟩
    cases step with
    | answer r => exact ⟨r, rfl⟩
    | callOn c' after =>
        intro r z
        obtain ⟨r', z', hz, hreported', rfl⟩ := hafter c' after rfl r z
        rw [hz]
        exact ⟨hreported', rfl⟩
  rcases Chain.run_ends (K := fun r outcome => outcome = .ok r) (fun _ => rfl)
    (fun h h' => by cases h; exact h') (fun _ h' => ⟨_, h'⟩) hends c x with
    ⟨d, y, hreaches, hreported, hend⟩ | ⟨hunreached, _, z, hz, ⟨r, rfl⟩, hrun⟩
  · refine .inl ⟨d, y, hreaches, hreported, fun endpoint r y' hy => ?_⟩
    obtain ⟨_, z, hrun, hz, rfl⟩ := hend endpoint r y' hy
    exact ⟨z, hrun, hz⟩
  · exact .inr ⟨hunreached, r, z, hz, hrun⟩

/-! ### Delivering -/

/-- What is made of a request around whose handler a chain runs, from an exchange with the errors
that were reported before, none of them moved. -/
inductive Delivered (chain : Chain Work ResponseContext Response) (handler : ResponseHandler)
    (c : ResponseContext) (x : Exchange) : Response → Exchange → Prop where
  /-- The handler was reached.  Its own errors come first, and then those that were reported before
  it, by it and after it. -/
  | handled {d : ResponseContext} {y y' z : Exchange} {own r : Response}
      {before during after : List Error} (reaches : chain.Reaches c x d y)
      (reportedBefore : y.errors = x.errors ++ before)
      (handles : handler d { y with reached := true } = (.ok own, y'))
      (reportedDuring : y'.errors = y.errors ++ during)
      (reportedAfter : z.errors = y'.errors ++ after)
      (data : r.data = own.data)
      (errors : r.errors = own.errors ++ (x.errors ++ before ++ during ++ after)) :
      Delivered chain handler c x r z
  /-- The handler was not reached, and the response is the one that the chain gives. -/
  | answered {r : Response} {z : Exchange} (unreached : ∀ d y, ¬ chain.Reaches c x d y)
      (answers : ∀ endpoint, chain.run endpoint c x = (.ok r, z)) : Delivered chain handler c x r z

namespace Executor

theorem flushRest_reached {r : Response} {z : Exchange} (h : z.reached = true) :
    flushRest r z = (.ok (z.flush r).1, (z.flush r).2) := by
  show (if z.reached then (modifyGet (·.flush r) : Work Response) else return r) z = _
  rw [if_pos h]
  rfl

theorem flushRest_unreached {r : Response} {z : Exchange} (h : z.reached = false) :
    flushRest r z = (.ok r, z) := by
  show (if z.reached then (modifyGet (·.flush r) : Work Response) else return r) z = _
  rw [h]
  rfl

section

variable {handler : ResponseHandler} {c d : ResponseContext} {y y₁ y₂ z : Exchange}
  {own r : Response}

theorem reach_of_handles (hflushed : y₁.flushed = 0)
    (hhandles : handler d { y₁ with reached := true } = (.ok own, y₂))
    (hduring : { y₁ with reached := true }.Reported y₂) :
    ∃ r, reach handler d y₁ = (.ok r, { y₂ with flushed := y₂.errors.length }) ∧
      r.data = own.data ∧ r.errors = own.errors ++ y₂.errors := by
  refine ⟨(y₂.flush own).1, ?_, rfl, ?_⟩
  · rw [reach, Work.bind_ok (Work.modify_apply _ y₁), Work.bind_ok hhandles]
    rfl
  · -- the handler's move takes all that was reported up to there
    show own.errors ++ y₂.errors.drop y₂.flushed = _
    rw [hduring.flushed, show ({ y₁ with reached := true } : Exchange).flushed = 0 from hflushed,
      List.drop_zero]

/-- Where a chain gives the response of a handler that was reached, each error is delivered once. -/
theorem respond_handled (hreaches : chain.Reaches c { y with reached := false } d y₁)
    (hbefore : { y with reached := false }.Reported y₁)
    (hhandles : handler d { y₁ with reached := true } = (.ok own, y₂))
    (hduring : { y₁ with reached := true }.Reported y₂)
    (hrun : chain.run (reach handler) c { y with reached := false } = (.ok r, z))
    (hafter : { y₂ with flushed := y₂.errors.length }.Reported z) (hdata : r.data = own.data)
    (herrors : r.errors = own.errors ++ y₂.errors) :
    ∃ r' z', respond chain c handler y = (.ok r', z') ∧
      Delivered chain handler c { y with reached := false } r' z' := by
  have hreached : z.reached = true := hafter.reached.trans hduring.reached
  obtain ⟨before, hbefore'⟩ := hbefore.errors
  obtain ⟨during, hduring'⟩ := hduring.errors
  -- the last move takes the rest
  refine ⟨(z.flush r).1, (z.flush r).2, (respond_of_ok hrun).trans (flushRest_reached hreached),
    .handled hreaches hbefore'.symm hhandles hduring'.symm hafter.eq_append_drop hdata ?_⟩
  show r.errors ++ z.errors.drop z.flushed = _
  rw [herrors, ← hduring', show y₁.errors = y.errors ++ before from hbefore'.symm]
  simp only [List.append_assoc]

end

/-- Making a response delivers each error once. -/
theorem respond_delivers (h : ∀ mw ∈ chain, ResponseMiddleware.Returns mw)
    {handler : ResponseHandler} (hhandler : handler.Responds) (c : ResponseContext) {y : Exchange}
    (hy : y.flushed = 0) :
    ∃ r z, respond chain c handler y = (.ok r, z) ∧
      Delivered chain handler c { y with reached := false } r z := by
  rcases Chain.run_returns h c { y with reached := false } with
    ⟨d, y₁, hreaches, hbefore, hend⟩ | ⟨hunreached, r, z, hz, hrun⟩
  · obtain ⟨own, y₂, hhandles, hduring, -⟩ := hhandler d { y₁ with reached := true }
    obtain ⟨r, hreach, hdata, herrors⟩ :=
      reach_of_handles (hbefore.flushed.trans hy) hhandles hduring
    obtain ⟨z, hrun, hafter⟩ := hend _ _ _ hreach
    exact respond_handled hreaches hbefore hhandles hduring hrun hafter hdata herrors
  · exact ⟨r, z, (respond_of_ok (hrun _)).trans (flushRest_unreached hz.reached),
      .answered hunreached hrun⟩

/-! ### Dispatching -/

/-- What runs around the operations of an executor gives handlers that respond; resolvers and the
middleware around them only report errors, or panic. -/
structure Steady (x : Executor) : Prop where
  operations : ∀ mw ∈ x.operations, OperationMiddleware.Provides mw
  fields     : ∀ mw ∈ x.fields, FieldMiddleware.Stays Exchange.Reported mw
  query      : (Resolved.object x.service.query).Stays Exchange.Reported
  mutation   : ∀ root, x.service.mutation = some root →
    (Resolved.object root).Stays Exchange.Reported

/-- A steady executor whose middleware around responses hands them back as they come. -/
structure Courteous (x : Executor) : Prop extends Steady x where
  responses : ∀ mw ∈ x.responses, ResponseMiddleware.Returns mw

variable {x : Executor}

/-- To execute an operation keeps to what resolvers and the middleware around fields keep to, and
writes no extension into the response. -/
theorem execute_leads {R : Exchange → Exchange → Prop} (hR : Exchange.Permits R)
    (hfields : ∀ mw ∈ x.fields, FieldMiddleware.Stays R mw)
    (hquery : (Resolved.object x.service.query).Stays R)
    (hmutation : ∀ root, x.service.mutation = some root → (Resolved.object root).Stays R)
    (c : ResponseContext) : Work.Leads R (x.execute c) fun r => r.extensions = [] := by
  have hpure {r : Response} (hr : r.extensions = []) :
      Work.Leads R (pure r) fun r : Response => r.extensions = [] := Work.leads_pure hR hr
  have hrun {root : ObjectValue Resolved} (hroot : (Resolved.object root).Stays R)
      (d : Document.Executable) (o : Document.Operation Document.FieldDefinition) :
      Work.Leads R (do
        return { data := ← Execution.executeOperation x.service x.fields c d o root })
        fun r : Response => r.extensions = [] :=
    (Execution.executeOperation_leads hR hfields c d o hroot).bind hR.trans fun _ _ => hpure rfl
  unfold execute
  split
  · rename_i d o _ _
    dsimp only
    split
    · exact hrun hquery d o
    · rename_i root _ hroot
      exact hrun (hmutation root hroot) d o
    · exact hpure rfl
    · exact hpure rfl
  · exact hpure rfl

/-- The handler of an executor responds. -/
theorem execute_responds (h : x.Steady) : ResponseHandler.Responds x.execute := fun c =>
  (execute_leads Exchange.permits_reported h.fields h.query h.mutation c).mono fun _ _ => trivial

theorem run_provides {chain : Chain Work OperationContext ResponseHandler}
    (h : ∀ mw ∈ chain, OperationMiddleware.Provides mw)
    {endpoint : OperationContext → Work ResponseHandler}
    (he : ∀ c, (endpoint c).Gives ResponseHandler.Responds) (c : OperationContext) :
    (chain.run endpoint c).Gives ResponseHandler.Responds := by
  induction chain generalizing c with
  | nil => exact he c
  | cons mw rest ih =>
      refine (h mw List.mem_cons_self c).bind fun step hstep => ?_
      cases step with
      | answer handler => exact Work.Gives.pure hstep
      | callOn c' after =>
          exact (ih (fun mw hmw => h mw (List.mem_cons_of_mem _ hmw)) c').bind hstep

/-- What is dispatched has a handler that responds. -/
theorem dispatch_gives (h : x.Steady) (context : OperationContext) :
    (x.dispatch context).Gives fun p => p.handler.Responds ∧ p.responses = x.responses ∧
      p.presentation = x.presentation := by
  have hend (c : OperationContext) : Work.Gives (do
      modify fun e : Exchange => { e with dispatched := some c }
      return x.execute) ResponseHandler.Responds :=
    (Work.gives_modify _).bind fun _ _ => .pure (execute_responds h)
  refine (Work.gives_modify _).bind fun _ _ => ?_
  refine (run_provides h.operations hend context).bind fun handler hhandler y => ?_
  exact ⟨_, y, rfl, hhandler, rfl, rfl⟩

theorem responds_empty : ResponseHandler.Responds fun _ => return {} := fun _ =>
  Work.leads_pure Exchange.permits_reported trivial

/-- **Errors are delivered exactly once**: of an operation that is dispatched, and of a request that
is refused, whose errors are reported first. -/
theorem delivers (h : x.Courteous) :
    (∀ context y, ∃ p y₁ r z, x.dispatch context y = (.ok p, y₁) ∧
      p.produce y₁ = (.ok r, z) ∧
      Delivered x.responses p.handler ⟨p.operation, x.presentation⟩
        { y₁.reopen with reached := false } r z) ∧
    ∀ refusal y, ∃ r z, x.refuse refusal y = (.ok r, z) ∧
      Delivered x.responses (fun _ => return {}) ⟨refusal.context, x.presentation⟩
        { y.reopen with errors := x.presented refusal, reached := false } r z := by
  constructor
  · intro context y
    obtain ⟨⟨operation, handler, responses, presentation⟩, y₁, hdispatch, hhandler, rfl, rfl⟩ :=
      dispatch_gives h.toSteady context y
    obtain ⟨r, z, hrespond, hdelivered⟩ :=
      respond_delivers h.responses hhandler ⟨operation, x.presentation⟩ (y := y₁.reopen) rfl
    exact ⟨_, y₁, r, z, hdispatch, (produce_eq _ y₁).trans hrespond, hdelivered⟩
  · intro refusal y
    obtain ⟨r, z, hrespond, hdelivered⟩ := respond_delivers h.responses responds_empty
      ⟨refusal.context, x.presentation⟩ (y := { y.reopen with errors := x.presented refusal }) rfl
    exact ⟨r, z, (refuse_eq refusal y).trans hrespond, hdelivered⟩

namespace Around

/-- Middleware that reports an error before it calls on, and one after. -/
def reporter (before after : String) : ResponseMiddleware := fun c => do
  c.addError none (.message before)
  return .callOn c fun r => do
    c.addError none (.message after)
    return r

theorem returns_reporter (before after : String) :
    ResponseMiddleware.Returns (reporter before after) := fun c => by
  refine (c.leads_addError Exchange.permits_reported none (.message before)).bind .trans
    fun _ _ => Work.leads_pure Exchange.permits_reported fun c' after' hstep r => ?_
  cases hstep
  exact (c.leads_addError Exchange.permits_reported none (.message after)).bind .trans
    fun _ _ => Work.leads_pure Exchange.permits_reported rfl

/-- An executor with two of them. -/
def executor : Executor where
  service := { schema := { types := [], directives := [] }, query := .uniform "Query" (.leaf .null) }
  responses := [reporter "a" "d", reporter "b" "c"]

theorem courteous : executor.Courteous where
  operations _ hmw := absurd hmw List.not_mem_nil
  responses mw hmw := by
    rcases List.mem_cons.mp hmw with rfl | hmw
    · exact returns_reporter "a" "d"
    · rw [List.mem_singleton.mp hmw]
      exact returns_reporter "b" "c"
  fields _ hmw := absurd hmw List.not_mem_nil
  query := .object (fun _ x => .refl x) fun _ _ r hr => by cases hr; exact .leaf _
  mutation _ hroot := by cases hroot

/-- A request that is refused. -/
def refusal : Refusal := ⟨{}, [{ message := "refused" }]⟩

end Around

/-- What the theorem says of an executor with middleware that reports errors on both ways: those of
a refused request are in the order in which they were reported. -/
theorem delivers_around : Around.executor.Courteous ∧
    (∃ p y₁ r z, Around.executor.dispatch {} {} = (.ok p, y₁) ∧ p.produce y₁ = (.ok r, z) ∧
      Delivered Around.executor.responses p.handler ⟨p.operation, Around.executor.presentation⟩
        { y₁.reopen with reached := false } r z) ∧
    (∃ r z, Around.executor.refuse Around.refusal {} = (.ok r, z) ∧
      Delivered Around.executor.responses (fun _ => return {})
        ⟨Around.refusal.context, Around.executor.presentation⟩
        { ({} : Exchange).reopen with
          errors := Around.executor.presented Around.refusal, reached := false } r z) ∧
    (Around.executor.refuse Around.refusal {}).1.map (·.errors.map (·.message)) =
      .ok ["refused", "a", "b", "c", "d"] :=
  ⟨Around.courteous, (delivers Around.courteous).1 {} {},
    (delivers Around.courteous).2 Around.refusal {}, rfl⟩

end Executor

end GraphServe
