import GraphServe.Executor
import GraphServe.Proofs.Journal
import GraphServe.Proofs.Work

/-!
# Executors — middleware that passes through

Middleware that passes through calls on with the context it was given and gives back the answer
that comes, but for what it may add to it; it reports no error and calls no resolver
(`Middleware.Passes`).  A chain of such middleware is its endpoint, between notes in the journal
(`Chain.run_passes`).

So the dispatch of an operation gives its own handler (`Executor.dispatch_passes`), and making a
response is running the handler (`Executor.respond_passes`).  To produce what was dispatched is to
make its response (`Executor.produce_eq`), and so is to refuse a request, of the errors that it is
refused with (`Executor.refuse_eq`).
-/

namespace GraphServe

/-! ### Quiet stages -/

/-- What a stage leaves alone, but for entries in the journal that are of no resolver. -/
structure Exchange.Quiet (x y : Exchange) : Prop where
  errors     : y.errors = x.errors
  flushed    : y.flushed = x.flushed
  reached    : y.reached = x.reached
  dispatched : y.dispatched = x.dispatched
  journal    : Extends x.journal y.journal

namespace Exchange.Quiet

theorem refl (x : Exchange) : x.Quiet x := ⟨rfl, rfl, rfl, rfl, .refl _⟩

theorem trans {x y z : Exchange} (h : x.Quiet y) (h' : y.Quiet z) : x.Quiet z :=
  ⟨h'.errors.trans h.errors, h'.flushed.trans h.flushed, h'.reached.trans h.reached,
    h'.dispatched.trans h.dispatched, h.journal.trans h'.journal⟩

end Exchange.Quiet

/-- A stage that always gives something, and is quiet. -/
def Work.Quietly {α : Type} (w : Work α) (Q : α → Prop) : Prop :=
  ∀ x, ∃ a y, w x = (.ok a, y) ∧ x.Quiet y ∧ Q a

/-! ### Middleware -/

variable {C A : Type}

/-- A middleware that calls on with its context, quietly.  Its answer is related to the one that
comes back. -/
def Middleware.Passes (Q : A → A → Prop) (mw : Middleware Work C A) : Prop :=
  ∀ c, (mw c).Quietly fun step =>
    ∃ after, step = .callOn c after ∧ ∀ a, (after a).Quietly (Q a)

/-- A chain of middleware that passes through is its endpoint between quiet stages; a panic of the
endpoint goes out as it is. -/
theorem Chain.run_passes {Q : A → A → Prop} (hrefl : ∀ a, Q a a)
    (htrans : ∀ a b c, Q a b → Q b c → Q a c) {chain : Chain Work C A}
    (h : ∀ mw ∈ chain, mw.Passes Q) (endpoint : C → Work A) (c : C) (x : Exchange) :
    ∃ x', x.Quiet x' ∧
      (∀ p y, endpoint c x' = (.error p, y) → chain.run endpoint c x = (.error p, y)) ∧
      ∀ a y, endpoint c x' = (.ok a, y) →
        ∃ b z, chain.run endpoint c x = (.ok b, z) ∧ y.Quiet z ∧ Q a b := by
  induction chain generalizing x with
  | nil => exact ⟨x, .refl x, fun p y hy => hy, fun a y hy => ⟨a, y, hy, .refl y, hrefl a⟩⟩
  | cons mw rest ih =>
      -- the outermost calls on, the others run around the endpoint, and the answer goes back through it
      obtain ⟨step, x₁, hstep, hquiet, after, rfl, hafter⟩ := h mw List.mem_cons_self c x
      obtain ⟨x', hquiet', herror, hok⟩ := ih (fun mw' hmw => h mw' (List.mem_cons_of_mem mw hmw)) x₁
      have hrun : Chain.run (mw :: rest) endpoint c x = (Chain.run rest endpoint c >>= after) x₁ := by
        rw [Chain.run, Work.bind_ok hstep]
      refine ⟨x', hquiet.trans hquiet', fun p y hy => ?_, fun a y hy => ?_⟩
      · rw [hrun, Work.bind_error (herror p y hy)]
      · obtain ⟨b, z, hz, hquiet₂, hq⟩ := hok a y hy
        obtain ⟨b', z', hz', hquiet₃, hq'⟩ := hafter b z
        refine ⟨b', z', ?_, hquiet₂.trans hquiet₃, htrans a b b' hq hq'⟩
        rw [hrun, Work.bind_ok hz, hz']

/-! ### Middleware around operations and responses -/

/-- A handler is given back as it came. -/
abbrev OperationMiddleware.Passes (mw : OperationMiddleware) : Prop :=
  Middleware.Passes (fun handler handler' => handler' = handler) mw

/-- A response keeps its data and its errors. -/
def Response.Keeps (r r' : Response) : Prop := r'.data = r.data ∧ r'.errors = r.errors

theorem Response.Keeps.refl (r : Response) : r.Keeps r := ⟨rfl, rfl⟩

theorem Response.Keeps.trans {r r' r'' : Response} (h : r.Keeps r') (h' : r'.Keeps r'') :
    r.Keeps r'' := ⟨h'.1.trans h.1, h'.2.trans h.2⟩

/-- A response is given back with its data and its errors; extensions may be added. -/
abbrev ResponseMiddleware.Passes (mw : ResponseMiddleware) : Prop :=
  Middleware.Passes Response.Keeps mw

/-- A trace is kept beside the response. -/
theorem passes_traceResponses : ResponseMiddleware.Passes Extension.traceResponses := fun _ x =>
  ⟨_, { x with trace? := some [] }, rfl, ⟨rfl, rfl, rfl, rfl, .refl _⟩, _, rfl,
    fun _ y => ⟨_, { y with trace? := some [] }, rfl, ⟨rfl, rfl, rfl, rfl, .refl _⟩, rfl, rfl⟩⟩

namespace Executor

variable {x : Executor}

/-- What is dispatched is the operation that was given, with the handler of the executor. -/
theorem dispatch_passes (h : ∀ mw ∈ x.operations, OperationMiddleware.Passes mw)
    (c : OperationContext) (y : Exchange) :
    ∃ z, x.dispatch c y = (.ok ⟨c, x.execute, x.responses, x.presentation⟩, z) ∧
      Extends y.journal z.journal := by
  let endpoint : OperationContext → Work ResponseHandler := fun context => do
    modify fun e => { e with dispatched := some context }
    return x.execute
  obtain ⟨x', hquiet, -, hok⟩ :=
    Chain.run_passes (Q := fun handler handler' : ResponseHandler => handler' = handler)
      (fun _ => rfl) (fun _ _ _ h h' => h'.trans h) h endpoint c { y with dispatched := none }
  obtain ⟨handler, z, hrun, hquiet', rfl⟩ := hok x.execute { x' with dispatched := some c } rfl
  refine ⟨z, ?_, hquiet.journal.trans hquiet'.journal⟩
  rw [dispatch, Work.bind_ok (Work.modify_apply _ y), Work.bind_ok hrun]
  show (Except.ok (⟨z.dispatched.getD c, x.execute, x.responses, x.presentation⟩ : Producer), z) = _
  rw [hquiet'.dispatched]
  rfl

/-- Within the chain: the handler, and what was reported up to then. -/
def reach (handler : ResponseHandler) : ResponseContext → Work Response := fun c => do
  modify fun x => { x with reached := true }
  let response ← handler c
  modifyGet (·.flush response)

/-- Outside of the chain: what was reported since the handler. -/
def flushRest (r : Response) : Work Response := do
  if (← get).reached then modifyGet (·.flush r) else return r

variable {chain : Chain Work ResponseContext Response} {c : ResponseContext}
  {handler : ResponseHandler} {y z : Exchange} {r : Response} {p : Panic}

theorem respond_of_ok (h : chain.run (reach handler) c { y with reached := false } = (.ok r, z)) :
    respond chain c handler y = flushRest r z := by
  have hhold : Work.hold (chain.run (reach handler) c) { y with reached := false } =
      (.ok (.ok r), z) := by
    rw [Work.hold_apply, h]
  rw [respond, Work.bind_ok (Work.modify_apply _ y)]
  exact Work.bind_ok hhold

theorem respond_of_error
    (h : chain.run (reach handler) c { y with reached := false } = (.error p, z)) :
    respond chain c handler y = (c.recover none p >>= fun e => flushRest (.ofErrors [e])) z := by
  have hhold : Work.hold (chain.run (reach handler) c) { y with reached := false } =
      (.ok (.error p), z) := by
    rw [Work.hold_apply, h]
  rw [respond, Work.bind_ok (Work.modify_apply _ y)]
  exact Work.bind_ok hhold

/-- A response after a panic starts from the error that it is recovered as. -/
theorem respond_recovered
    (h : chain.run (reach handler) c { y with reached := false } = (.error p, z)) :
    respond chain c handler y =
      flushRest (.ofErrors [(c.presentation.presentPanic (some c.operation) none p).1])
        { z with journal := z.journal ++
            (c.presentation.presentPanic (some c.operation) none p).2.map .event } :=
  respond_of_error h

/-- What is moved into a response is what was reported and not yet moved. -/
theorem flushRest_apply (r : Response) (z : Exchange) :
    ∃ r' z', flushRest r z = (.ok r', z') ∧ z'.journal = z.journal ∧ r'.data = r.data ∧
      (z.errors.drop z.flushed = [] → r'.errors = r.errors) := by
  cases hreached : z.reached with
  | true =>
      refine ⟨(z.flush r).1, (z.flush r).2, ?_, rfl, rfl, fun hnil => ?_⟩
      · show (if z.reached then (modifyGet (·.flush r) : Work Response) else return r) z = _
        rw [if_pos hreached]
        rfl
      · show r.errors ++ z.errors.drop z.flushed = r.errors
        rw [hnil, List.append_nil]
  | false =>
      refine ⟨r, z, ?_, rfl, rfl, fun _ => rfl⟩
      show (if z.reached then (modifyGet (·.flush r) : Work Response) else return r) z = _
      rw [hreached]
      rfl

/-- Making a response is running its handler, in an exchange with the errors reported before.  These
go into the response with those of the handler, and no more. -/
theorem respond_passes (h : ∀ mw ∈ chain, ResponseMiddleware.Passes mw) (c : ResponseContext)
    (handler : ResponseHandler) (y : Exchange) :
    ∃ y' r z, respond chain c handler y = (.ok r, z) ∧
      y'.errors = y.errors ∧ y'.flushed = y.flushed ∧ Extends y.journal y'.journal ∧
      Extends (handler c y').2.journal z.journal ∧
      ∀ r₀ z₀, handler c y' = (.ok r₀, z₀) →
        r.data = r₀.data ∧ r.errors = r₀.errors ++ z₀.errors.drop z₀.flushed := by
  obtain ⟨y₁, hquiet, herror, hok⟩ := Chain.run_passes (Q := Response.Keeps) .refl
    (fun _ _ _ => .trans) h (reach handler) c { y with reached := false }
  refine ⟨{ y₁ with reached := true }, ?_⟩
  rcases hhandler : handler c { y₁ with reached := true } with ⟨p | r₀, z₀⟩
  · -- A panic of the handler is recovered from outside of the chain.
    have hrun := herror p z₀ (by rw [reach, Work.bind_ok (Work.modify_apply _ y₁),
      Work.bind_error hhandler])
    obtain ⟨r, z, hflush, hjournal, -, -⟩ := flushRest_apply
      (.ofErrors [(c.presentation.presentPanic (some c.operation) none p).1])
      { z₀ with journal := z₀.journal ++
          (c.presentation.presentPanic (some c.operation) none p).2.map .event }
    refine ⟨r, z, (respond_recovered hrun).trans hflush, hquiet.errors, hquiet.flushed,
      hquiet.journal, ?_, fun r₀ z₀ h₀ => by cases h₀⟩
    rw [hjournal]
    exact .add z₀.journal (silent_events _)
  · have hreach : reach handler c y₁ =
        (.ok (z₀.flush r₀).1, (z₀.flush r₀).2) := by
      rw [reach, Work.bind_ok (Work.modify_apply _ y₁), Work.bind_ok hhandler]
      rfl
    obtain ⟨r₁, z₁, hrun, hquiet', hdata, herrors⟩ := hok _ _ hreach
    obtain ⟨r, z, hflush, hjournal, hdata', herrors'⟩ := flushRest_apply r₁ z₁
    -- all that was reported is in the response already, and the middleware reports nothing
    have hnone : z₁.errors.drop z₁.flushed = [] := by
      rw [hquiet'.errors, hquiet'.flushed]
      exact List.drop_length
    refine ⟨r, z, (respond_of_ok hrun).trans hflush, hquiet.errors, hquiet.flushed, hquiet.journal,
      hjournal ▸ hquiet'.journal, fun r' z' h' => ?_⟩
    cases h'
    exact ⟨hdata'.trans hdata, (herrors' hnone).trans herrors⟩

theorem produce_eq (p : Producer) (y : Exchange) :
    p.produce y = respond p.responses ⟨p.operation, p.presentation⟩ p.handler y.reopen := by
  rw [Producer.produce, Work.bind_ok (Work.modify_apply _ y)]

/-! ### Refusing -/

/-- Errors are reported in their order, as they are presented. -/
theorem addErrors_reports (c : ResponseContext) (errors : List Error) (y : Exchange) :
    (errors.forM fun e => c.addError none (.error e)) y =
      (.ok (), { y with errors := y.errors ++
        (errors.map fun e => c.presentation.present (some c.operation) none (.error e)) }) := by
  induction errors generalizing y with
  | nil =>
      rw [List.map_nil, List.append_nil]
      rfl
  | cons e rest ih =>
      have hpush : c.addError none (.error e) y =
        (.ok (), y.push (c.presentation.present (some c.operation) none (.error e))) := rfl
      rw [List.forM_eq_forM, List.forM_cons, Work.bind_ok hpush, ← List.forM_eq_forM, ih]
      simp only [Exchange.push, List.map_cons, List.append_assoc, List.singleton_append]

/-- The errors that a request is refused with, as they are presented. -/
def presented (x : Executor) (r : Refusal) : List Error :=
  r.errors.map fun e => x.presentation.present (some r.context) none (.error e)

/-- To refuse a request is to make a response of the errors it is refused with. -/
theorem refuse_eq (refusal : Refusal) (y : Exchange) :
    x.refuse refusal y = respond x.responses ⟨refusal.context, x.presentation⟩ (fun _ => return {})
      { y.reopen with errors := x.presented refusal } := by
  rw [refuse, Work.bind_ok (Work.modify_apply _ y)]
  exact Work.bind_ok (addErrors_reports ⟨refusal.context, x.presentation⟩ refusal.errors y.reopen)

end Executor

end GraphServe
