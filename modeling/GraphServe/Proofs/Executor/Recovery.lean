import GraphServe.Proofs.Executor.Delivery

/-!
# Executors — panics of middleware around responses

Middleware around responses that passes through may panic on the way in, or with the response that
comes back (`ResponseMiddleware.Attempts`).  Then the response is made anew, of the error that the
panic is recovered as.  If the handler was not reached, that is all: what was reported goes into a
response only behind a handler.  If it was, what was reported since the handler comes last, after
that error.  Nothing is said of what had been moved into the response of the handler.

* `Chain.run_attempts` says what a chain of such middleware does.
* `Executor.recovers` says what becomes of the errors of operations that are dispatched and of
  requests that are refused.
-/

namespace GraphServe

/-- Middleware around responses that only reports errors, and calls on and gives back the response
that comes, if it does not panic. -/
def ResponseMiddleware.Attempts (mw : ResponseMiddleware) : Prop :=
  ∀ c, Work.Stays Exchange.Reported (mw c) fun step => ∃ c' after, step = .callOn c' after ∧
    ∀ r, Work.Stays Exchange.Reported (after r) r.Keeps

/-- The error that a panic on the way to a response is recovered as. -/
def ResponseContext.recovered (c : ResponseContext) (p : Panic) : Error :=
  (c.presentation.presentPanic (some c.operation) none p).1

variable {chain : Chain Work ResponseContext Response}

/-- A chain of such middleware gives the response of its endpoint or panics, and it panics if it
does not come to its endpoint. -/
theorem Chain.run_attempts (h : ∀ mw ∈ chain, ResponseMiddleware.Attempts mw) (c : ResponseContext)
    (x : Exchange) :
    (∃ d y, chain.Reaches c x d y ∧ x.Reported y ∧
      ∀ endpoint r y', endpoint d y = (.ok r, y') →
        ∃ outcome z, chain.run endpoint c x = (outcome, z) ∧ y'.Reported z ∧
          ∀ r', outcome = .ok r' → r.Keeps r') ∨
    ((∀ d y, ¬ chain.Reaches c x d y) ∧
      ∃ p z, x.Reported z ∧ ∀ endpoint, chain.run endpoint c x = (.error p, z)) := by
  have hends : ∀ mw ∈ chain, ResponseMiddleware.Ends (fun outcome => ∃ p, outcome = .error p)
      (fun r outcome => ∀ r', outcome = .ok r' → r.Keeps r') mw := by
    intro mw hmw c x
    obtain ⟨hreported, hstep⟩ := h mw hmw c x
    refine ⟨hreported, ?_⟩
    rcases hrun : mw c x with ⟨p | step, x'⟩ <;> rw [hrun] at hstep
    · exact ⟨p, rfl⟩
    · obtain ⟨c', after, rfl, hafter⟩ := hstep step rfl
      exact hafter
  rcases Chain.run_ends (K := fun r outcome => ∀ r', outcome = .ok r' → r.Keeps r')
    (fun r r' h => by cases h; exact .refl r) (fun h h' r' hr' => (h _ rfl).trans (h' r' hr'))
    (fun h _ => nomatch h) hends c x with
    hreached | ⟨hunreached, _, z, hz, ⟨p, rfl⟩, hrun⟩
  · exact .inl hreached
  · exact .inr ⟨hunreached, p, z, hz, hrun⟩

/-! ### Recovering -/

open Executor in
/-- The response to a request around whose handler a chain runs that may panic, from an exchange
with the errors that were reported before, none of them moved. -/
inductive Recovered (chain : Chain Work ResponseContext Response) (handler : ResponseHandler)
    (c : ResponseContext) (x : Exchange) (r : Response) : Prop where
  /-- Nothing panics: each error is delivered once. -/
  | calm {d : ResponseContext} {y z z' : Exchange} {r' : Response}
      (reaches : chain.Reaches c x d y) (runs : chain.run (reach handler) c x = (.ok r', z'))
      (delivered : Delivered chain handler c x r z)
  /-- A panic before the handler is reached: the response has the error that it is recovered as, and
  no other. -/
  | early {p : Panic} {z : Exchange} (unreached : ∀ d y, ¬ chain.Reaches c x d y)
      (panics : ∀ endpoint, chain.run endpoint c x = (.error p, z))
      (data : r.data = .null) (errors : r.errors = [c.recovered p])
  /-- A panic after the handler: first comes the error that it is recovered as, and last come those
  that were reported after the handler.  Those that had been moved into the response of the handler
  are kept or not. -/
  | late {d : ResponseContext} {y y' z : Exchange} {own : Response} {p : Panic}
      {before during after kept : List Error} (reaches : chain.Reaches c x d y)
      (reportedBefore : y.errors = x.errors ++ before)
      (handles : handler d { y with reached := true } = (.ok own, y'))
      (reportedDuring : y'.errors = y.errors ++ during)
      (panics : chain.run (reach handler) c x = (.error p, z))
      (reportedAfter : z.errors = y'.errors ++ after)
      (moved : kept.Sublist (own.errors ++ (x.errors ++ before ++ during)))
      (errors : r.errors = c.recovered p :: (kept ++ after))

namespace Executor

/-- A response after a panic: the error that it is recovered as, and what was not moved before if
the handler was reached. -/
theorem respond_panicked {handler : ResponseHandler} {c : ResponseContext} {y z : Exchange}
    {p : Panic} (h : chain.run (reach handler) c { y with reached := false } = (.error p, z)) :
    ∃ r z', respond chain c handler y = (.ok r, z') ∧ r.data = .null ∧
      r.errors = c.recovered p :: if z.reached then z.errors.drop z.flushed else [] := by
  have hrespond := respond_recovered h
  cases hreached : z.reached with
  | true =>
      rw [flushRest_reached (by exact hreached)] at hrespond
      exact ⟨_, _, hrespond, rfl, rfl⟩
  | false =>
      rw [flushRest_unreached (by exact hreached)] at hrespond
      exact ⟨_, _, hrespond, rfl, rfl⟩

/-- Making a response recovers from a panic of the middleware around it. -/
theorem respond_recovers (h : ∀ mw ∈ chain, ResponseMiddleware.Attempts mw)
    {handler : ResponseHandler} (hhandler : handler.Responds) (c : ResponseContext) {y : Exchange}
    (hy : y.flushed = 0) :
    ∃ r z, respond chain c handler y = (.ok r, z) ∧
      Recovered chain handler c { y with reached := false } r := by
  rcases Chain.run_attempts h c { y with reached := false } with
    ⟨d, y₁, hreaches, hbefore, hend⟩ | ⟨hunreached, p, z, hz, hrun⟩
  · obtain ⟨own, y₂, hhandles, hduring, -⟩ := hhandler d { y₁ with reached := true }
    obtain ⟨r, hreach, hdata, herrors⟩ :=
      reach_of_handles (hbefore.flushed.trans hy) hhandles hduring
    obtain ⟨outcome, z, hrun, hafter, hkeeps⟩ := hend _ _ _ hreach
    cases outcome with
    | ok r' =>
        obtain ⟨hdata', herrors'⟩ := hkeeps r' rfl
        obtain ⟨r'', z', hrespond, hdelivered⟩ := respond_handled hreaches hbefore hhandles hduring
          hrun hafter (hdata'.trans hdata) (herrors'.trans herrors)
        exact ⟨r'', z', hrespond, .calm hreaches hrun hdelivered⟩
    | error p =>
        obtain ⟨r', z', hrespond, -, hrecovered⟩ := respond_panicked hrun
        have hreached : z.reached = true := hafter.reached.trans hduring.reached
        obtain ⟨before, hbefore'⟩ := hbefore.errors
        obtain ⟨during, hduring'⟩ := hduring.errors
        rw [if_pos hreached] at hrecovered
        -- nothing is left of the response of the handler
        exact ⟨r', z', hrespond, .late hreaches hbefore'.symm hhandles hduring'.symm hrun
          hafter.eq_append_drop (List.nil_sublist _) hrecovered⟩
  · obtain ⟨r, z', hrespond, hdata, hrecovered⟩ := respond_panicked (hrun (reach handler))
    rw [if_neg (Bool.eq_false_iff.mp hz.reached)] at hrecovered
    exact ⟨r, z', hrespond, .early hunreached hrun hdata hrecovered⟩

variable {x : Executor}

/-- **What a panic leaves of errors**, of an operation that is dispatched and of a request that is
refused, whose errors are reported first. -/
theorem recovers (h : x.Steady) (hresponses : ∀ mw ∈ x.responses, ResponseMiddleware.Attempts mw) :
    (∀ context y, ∃ p y₁ r z, x.dispatch context y = (.ok p, y₁) ∧
      p.produce y₁ = (.ok r, z) ∧
      Recovered x.responses p.handler ⟨p.operation, x.presentation⟩
        { y₁.reopen with reached := false } r) ∧
    ∀ refusal y, ∃ r z, x.refuse refusal y = (.ok r, z) ∧
      Recovered x.responses (fun _ => return {}) ⟨refusal.context, x.presentation⟩
        { y.reopen with errors := x.presented refusal, reached := false } r := by
  constructor
  · intro context y
    obtain ⟨⟨operation, handler, responses, presentation⟩, y₁, hdispatch, hhandler, rfl, rfl⟩ :=
      dispatch_gives h context y
    obtain ⟨r, z, hrespond, hrecovered⟩ :=
      respond_recovers hresponses hhandler ⟨operation, x.presentation⟩ (y := y₁.reopen) rfl
    exact ⟨_, y₁, r, z, hdispatch, (produce_eq _ y₁).trans hrespond, hrecovered⟩
  · intro refusal y
    obtain ⟨r, z, hrespond, hrecovered⟩ := respond_recovers hresponses responds_empty
      ⟨refusal.context, x.presentation⟩ (y := { y.reopen with errors := x.presented refusal }) rfl
    exact ⟨r, z, (refuse_eq refusal y).trans hrespond, hrecovered⟩

namespace Interrupted

/-- Middleware that panics before it calls on. -/
def early : ResponseMiddleware := fun _ => Work.panic .other

/-- Middleware that reports an error when the response comes back, and panics then. -/
def late (text : String) : ResponseMiddleware := fun c =>
  return .callOn c fun _ => do
    c.addError none (.message text)
    Work.panic .other

theorem stays_panic {α : Type} (p : Panic) (Q : α → Prop) :
    Work.Stays Exchange.Reported (Work.panic p) Q := fun x => ⟨.refl x, fun _ h => nomatch h⟩

theorem attempts_early : ResponseMiddleware.Attempts early := fun _ => stays_panic _ _

theorem attempts_late (text : String) : ResponseMiddleware.Attempts (late text) := fun c => by
  refine (Work.leads_pure Exchange.permits_reported ⟨c, _, rfl, fun r => ?_⟩).stays
  exact (c.leads_addError Exchange.permits_reported none (.message text)).stays.bind .trans
    fun _ _ => stays_panic _ _

theorem attempts_reporter (before after : String) :
    ResponseMiddleware.Attempts (Around.reporter before after) := fun c => by
  refine (c.leads_addError Exchange.permits_reported none (.message before)).stays.bind .trans
    fun _ _ => (Work.leads_pure Exchange.permits_reported ⟨c, _, rfl, fun r => ?_⟩).stays
  exact ((c.leads_addError Exchange.permits_reported none (.message after)).bind .trans
    fun _ _ => Work.leads_pure Exchange.permits_reported (.refl r)).stays

/-- An executor with middleware that reports errors around another one. -/
def executor (inner : ResponseMiddleware) : Executor :=
  { Around.executor with responses := [Around.reporter "a" "d", inner] }

theorem steady (inner : ResponseMiddleware) : (executor inner).Steady :=
  { Around.courteous.toSteady with }

theorem attempts {inner : ResponseMiddleware} (h : ResponseMiddleware.Attempts inner) :
    ∀ mw ∈ (executor inner).responses, ResponseMiddleware.Attempts mw := by
  intro mw hmw
  rcases List.mem_cons.mp hmw with rfl | hmw
  · exact attempts_reporter "a" "d"
  · rw [List.mem_singleton.mp hmw]
    exact h

end Interrupted

open Interrupted in
/-- What the theorem says of a refused request with a panic after the handler: what was reported
then comes last. -/
theorem recovers_interrupted : (executor (late "b")).Steady ∧
    (∀ mw ∈ (executor (late "b")).responses, ResponseMiddleware.Attempts mw) ∧
    (∃ r z, (executor (late "b")).refuse Around.refusal {} = (.ok r, z) ∧
      Recovered (executor (late "b")).responses (fun _ => return {})
        ⟨Around.refusal.context, (executor (late "b")).presentation⟩
        { ({} : Exchange).reopen with
          errors := (executor (late "b")).presented Around.refusal, reached := false } r) ∧
    ((executor (late "b")).refuse Around.refusal {}).1.map (·.errors.getLast?.map (·.message)) =
      .ok (some "b") :=
  ⟨steady _, attempts (attempts_late "b"),
    (recovers (steady _) (attempts (attempts_late "b"))).2 Around.refusal {}, rfl⟩

open Interrupted in
/-- Not every error that was reported before a panic is in the response: it has none of them if the
handler was not reached. -/
theorem refuse_interrupted : ¬ ∀ (x : Executor), x.Steady →
    (∀ mw ∈ x.responses, ResponseMiddleware.Attempts mw) →
    ∀ refusal y r z, x.refuse refusal y = (.ok r, z) → ∀ e ∈ x.presented refusal, e ∈ r.errors := by
  intro h
  have hrun : ((executor early).refuse Around.refusal {}).1 =
      .ok (.ofErrors [{ message := "internal system error" }]) := rfl
  have hlost := h (executor early) (steady _) (attempts attempts_early) Around.refusal {} _ _
    (Prod.ext hrun rfl) { message := "refused" } List.mem_cons_self
  exact absurd (congrArg Error.message (List.mem_singleton.mp hlost)) (by decide)

end Executor

end GraphServe
