import GraphServe.Proofs.Executor.Delivery
import GraphServe.Proofs.Json.Value

/-!
# Executors — registered extensions

Extensions that are registered while a response is made are moved into it twice: behind the handler,
and behind the chain of middleware around it.  Either move keeps what the response has under a key
already.

So under a key that no stage writes into the response itself there is the value that was registered
last before the handler returned, and only if there was none the one that was registered last
(`Executor.registers`).  That is the value registered last of all exactly if nothing was registered
on one of the two sides, or the same at the end of both.  A panic of the handler, or of middleware
behind it, drops the response with what was moved into it, and then the last value of all is there.

* `Chain.run_stays` says what a chain comes to of middleware that may panic.
* `Executor.respond_registers` says it of making a response.
-/

namespace GraphServe

open Json.Members (last? last?_append get?_insertAll insertAll_append get?_foldl_insertNew)

/-- Extensions may have been registered, and the handler was reached or not as before. -/
structure Exchange.Registered (x y : Exchange) : Prop where
  extensions : ∃ calls, y.extensions = x.extensions.insertAll calls
  reached    : y.reached = x.reached

namespace Exchange

theorem Registered.refl (x : Exchange) : x.Registered x := ⟨⟨[], rfl⟩, rfl⟩

theorem Registered.trans {x y z : Exchange} (h : x.Registered y) (h' : y.Registered z) :
    x.Registered z := by
  obtain ⟨calls, hcalls⟩ := h.extensions
  obtain ⟨more, hmore⟩ := h'.extensions
  exact ⟨⟨calls ++ more, by rw [hmore, hcalls, insertAll_append]⟩, h'.reached.trans h.reached⟩

theorem permits_registered : Permits Registered where
  refl := .refl
  trans := .trans
  push _ _ := ⟨⟨[], rfl⟩, rfl⟩
  journal _ _ := ⟨⟨[], rfl⟩, rfl⟩

end Exchange

theorem ResponseContext.leads_register (c : ResponseContext) (key : String) (value : Json) :
    Work.Leads Exchange.Registered (c.register key value) fun _ => True := fun x =>
  ⟨(), { x with extensions := x.extensions.insert key value }, rfl, ⟨⟨[(key, value)], rfl⟩, rfl⟩,
    trivial⟩

/-! ### Stages that do not write a key -/

/-- Middleware around responses that only registers extensions, and gives back a response with what
it gets under a key, if it calls on; it may panic. -/
def ResponseMiddleware.Leaves (key : String) (mw : ResponseMiddleware) : Prop :=
  ∀ c, Work.Stays Exchange.Registered (mw c) fun step => ∀ c' after, step = .callOn c' after →
    ∀ r : Response, Work.Stays Exchange.Registered (after r) fun r' =>
      r'.extensions.get? key = r.extensions.get? key

/-- A handler that only registers extensions, and makes responses without a key; it may panic. -/
def ResponseHandler.Leaves (key : String) (handler : ResponseHandler) : Prop :=
  ∀ c, Work.Stays Exchange.Registered (handler c) fun r => r.extensions.get? key = none

/-- Middleware around operations that leads to such handlers, if it leads to one. -/
def OperationMiddleware.Leaves (key : String) (mw : OperationMiddleware) : Prop :=
  ∀ c, Work.Stays (fun _ _ => True) (mw c) fun
    | .answer handler => ResponseHandler.Leaves key handler
    | .callOn _ after => ∀ handler, ResponseHandler.Leaves key handler →
        Work.Stays (fun _ _ => True) (after handler) (ResponseHandler.Leaves key)

/-! ### Chains -/

/-- A chain of middleware that keeps to a relation comes to its endpoint, and gives something that
is related to what this gives, or it does not come to it. -/
theorem Chain.run_stays {C A : Type} {R : Exchange → Exchange → Prop} {K : A → A → Prop}
    (refl : ∀ x, R x x) (trans : ∀ {x y z}, R x y → R y z → R x z) (same : ∀ a, K a a)
    (chained : ∀ {a b c}, K a b → K b c → K a c) {chain : Chain Work C A}
    (h : ∀ mw ∈ chain, ∀ c, Work.Stays R (mw c) fun step => ∀ c' after, step = .callOn c' after →
      ∀ a, Work.Stays R (after a) (K a)) (c : C) (x : Exchange) :
    (∃ d y, chain.Reaches c x d y ∧ R x y ∧ ∀ endpoint : C → Work A,
      R (endpoint d y).2 (chain.run endpoint c x).2 ∧
      ∀ b, (chain.run endpoint c x).1 = .ok b → ∃ a, (endpoint d y).1 = .ok a ∧ K a b) ∨
    ((∀ d y, ¬ chain.Reaches c x d y) ∧
      ∀ endpoint : C → Work A, R x (chain.run endpoint c x).2) := by
  induction chain generalizing c x with
  | nil => exact .inl ⟨c, x, .here c x, refl x, fun _ => ⟨refl _, fun b hb => ⟨b, hb, same b⟩⟩⟩
  | cons mw rest ih =>
      obtain ⟨hmw, hstep⟩ := h mw List.mem_cons_self c x
      rcases hrun : mw c x with ⟨p | a | ⟨c', after⟩, x'⟩ <;> rw [hrun] at hmw hstep
      · refine .inr ⟨not_reaches_of_stops (by simp [hrun]), fun endpoint => ?_⟩
        rw [Chain.run, Work.bind_error hrun]
        exact hmw
      · refine .inr ⟨not_reaches_of_stops (by simp [hrun]), fun endpoint => ?_⟩
        rw [Chain.run, Work.bind_ok hrun]
        exact hmw
      · have hafter := hstep _ rfl c' after rfl
        have hback (endpoint : C → Work A) :
            R (Chain.run rest endpoint c' x').2 (Chain.run (mw :: rest) endpoint c x).2 ∧
              ∀ b, (Chain.run (mw :: rest) endpoint c x).1 = .ok b →
                ∃ a, (Chain.run rest endpoint c' x').1 = .ok a ∧ K a b := by
          rw [Chain.run_callOn hrun, Work.bind_apply]
          rcases Chain.run rest endpoint c' x' with ⟨p | a, z⟩
          · exact ⟨refl z, fun b hb => by cases hb⟩
          · exact ⟨(hafter a z).1, fun b hb => ⟨a, rfl, (hafter a z).2 b hb⟩⟩
        rcases ih (fun mw' hmw' => h mw' (List.mem_cons_of_mem mw hmw')) c' x' with
          ⟨d, y, hreaches, hbefore, hend⟩ | ⟨hunreached, hrest⟩
        · refine .inl ⟨d, y, .on hrun hreaches, trans hmw hbefore, fun endpoint => ?_⟩
          refine ⟨trans (hend endpoint).1 (hback endpoint).1, fun b hb => ?_⟩
          obtain ⟨a', ha', hk'⟩ := (hback endpoint).2 b hb
          obtain ⟨a, ha, hk⟩ := (hend endpoint).2 a' ha'
          exact ⟨a, ha, chained hk hk'⟩
        · exact .inr ⟨not_reaches_of_callOn hrun hunreached, fun endpoint =>
            trans hmw (trans (hrest endpoint) (hback endpoint).1)⟩

/-! ### Responding -/

namespace Executor

variable {chain : Chain Work ResponseContext Response} {handler : ResponseHandler}
  {c : ResponseContext} {key : String}

/-- What is registered in an exchange in which the handler is reached: early, before it returns, and
late, after that.  If a panic drops the response, all of it is late. -/
inductive Registers (chain : Chain Work ResponseContext Response) (handler : ResponseHandler)
    (c : ResponseContext) (x : Exchange) : List (String × Json) → List (String × Json) → Prop where
  | returned {d : ResponseContext} {y y' z : Exchange} {own r : Response}
      {early late : List (String × Json)} (reaches : chain.Reaches c x d y)
      (handles : handler d { y with reached := true } = (.ok own, y'))
      (registeredEarly : y'.extensions = x.extensions.insertAll early)
      (runs : chain.run (reach handler) c x = (.ok r, z))
      (registeredLate : z.extensions = y'.extensions.insertAll late) :
      Registers chain handler c x early late
  | dropped {d : ResponseContext} {y z : Exchange} {p : Panic} {all : List (String × Json)}
      (reaches : chain.Reaches c x d y) (runs : chain.run (reach handler) c x = (.error p, z))
      (registered : z.extensions = x.extensions.insertAll all) :
      Registers chain handler c x [] all

/-- If the handler is reached in an exchange, the response has under a key the value that was
registered last early, or if there is none the one that was registered last late.  That is the value
that was registered last of all exactly unless other ones were registered last early and late. -/
def Receives (chain : Chain Work ResponseContext Response) (handler : ResponseHandler)
    (c : ResponseContext) (x : Exchange) (key : String) (r : Response) : Prop :=
  (∃ d y, chain.Reaches c x d y) → ∃ early late, Registers chain handler c x early late ∧
    r.extensions.get? key = (last? early key).or (last? late key) ∧
    (r.extensions.get? key = last? (early ++ late) key ↔
      last? early key = none ∨ last? late key = none ∨ last? early key = last? late key)

/-- What two lists of calls come to in the order in which they were made, and what they come to if
the first are kept. -/
theorem or_eq_last?_append_iff (early late : List (String × Json)) (key : String) :
    (last? early key).or (last? late key) = last? (early ++ late) key ↔
      last? early key = none ∨ last? late key = none ∨ last? early key = last? late key := by
  rw [last?_append]
  cases last? early key <;> cases last? late key <;> simp

theorem Registers.receives {x : Exchange} {early late : List (String × Json)}
    (h : Registers chain handler c x early late) {r : Response}
    (value : r.extensions.get? key = (last? early key).or (last? late key)) :
    Receives chain handler c x key r := fun _ =>
  ⟨early, late, h, value, value ▸ or_eq_last?_append_iff early late key⟩

/-- A key that is not written into a response has the value that was registered last early, or else
late. -/
theorem registers_returned {y : Exchange} {d : ResponseContext} {y₁ y₂ z : Exchange}
    {own r : Response} (empty : y.extensions = [])
    (reaches : chain.Reaches c { y with reached := false } d y₁)
    (before : Exchange.Registered { y with reached := false } y₁)
    (handles : handler d { y₁ with reached := true } = (.ok own, y₂))
    (during : Exchange.Registered { y₁ with reached := true } y₂)
    (lacks : own.extensions.get? key = none)
    (runs : chain.run (reach handler) c { y with reached := false } = (.ok r, z))
    (after : Exchange.Registered y₂ z)
    (keeps : r.extensions.get? key = (y₂.flush own).1.extensions.get? key) :
    ∃ r' z', respond chain c handler y = (.ok r', z') ∧
      Receives chain handler c { y with reached := false } key r' := by
  obtain ⟨calls, hcalls⟩ := before.extensions
  obtain ⟨more, hmore⟩ := during.extensions
  obtain ⟨late, hlate⟩ := after.extensions
  have hearly : y₂.extensions = y.extensions.insertAll (calls ++ more) := by
    rw [insertAll_append]
    exact hmore.trans (congrArg (·.insertAll more) hcalls)
  refine ⟨_, _, (respond_of_ok runs).trans
    (flushRest_reached (after.reached.trans during.reached)),
    (Registers.returned reaches handles hearly runs hlate).receives ?_⟩
  -- the first move put in what was registered early, and the second keeps it
  have hfirst : r.extensions.get? key = y₂.extensions.get? key := by
    rw [keeps]
    show (y₂.extensions.foldl _ own.extensions).get? key = _
    rw [get?_foldl_insertNew, lacks, Option.none_or]
  have hvalue : y₂.extensions.get? key = last? (calls ++ more) key := by
    rw [hearly, empty, get?_insertAll, Json.Members.get?_nil, Option.or_none]
  show (z.extensions.foldl _ r.extensions).get? key = _
  rw [get?_foldl_insertNew, hfirst, hlate, get?_insertAll, hvalue]
  cases last? (calls ++ more) key with
  | none   => rw [Option.none_or, Option.none_or, Option.or_none]
  | some v => rfl

/-- Where a panic dropped the response, there is the value that was registered last. -/
theorem registers_dropped {y : Exchange} {d : ResponseContext} {y₁ z : Exchange} {p : Panic}
    (empty : y.extensions = []) (reaches : chain.Reaches c { y with reached := false } d y₁)
    (runs : chain.run (reach handler) c { y with reached := false } = (.error p, z))
    (registered : ∃ calls, z.extensions = y.extensions.insertAll calls)
    (reached : z.reached = true) :
    ∃ r' z', respond chain c handler y = (.ok r', z') ∧
      Receives chain handler c { y with reached := false } key r' := by
  obtain ⟨all, hall⟩ := registered
  refine ⟨_, _, (respond_recovered runs).trans (flushRest_reached (by exact reached)),
    (Registers.dropped reaches runs hall).receives ?_⟩
  show Json.Members.get? (z.extensions.foldl _ []) key = _
  rw [get?_foldl_insertNew, hall, empty, get?_insertAll, Json.Members.get?_nil, Option.or_none]
  rfl

/-- Within the chain: a handler that returned has what was registered moved into its response. -/
theorem reach_ok {d : ResponseContext} {y z : Exchange} {r : Response}
    (h : reach handler d y = (.ok r, z)) :
    ∃ own y', handler d { y with reached := true } = (.ok own, y') ∧ r = (y'.flush own).1 ∧
      z = (y'.flush own).2 := by
  rw [reach, Work.bind_ok (Work.modify_apply _ y)] at h
  rcases hhandles : handler d { y with reached := true } with ⟨p | own, y'⟩
  · rw [Work.bind_error hhandles] at h
    cases h
  · rw [Work.bind_ok hhandles] at h
    cases h
    exact ⟨own, y', rfl, rfl, rfl⟩

/-- Within the chain the handler is reached, whether it returns or panics. -/
theorem reach_registered (h : handler.Leaves key) (d : ResponseContext) (y : Exchange) :
    Exchange.Registered { y with reached := true } (reach handler d y).2 := by
  have hhandler := (h d { y with reached := true }).1
  rw [reach, Work.bind_ok (Work.modify_apply _ y)]
  rcases hhandles : handler d { y with reached := true } with ⟨p | own, y'⟩ <;>
    rw [hhandles] at hhandler
  · rw [Work.bind_error hhandles]
    exact hhandler
  · rw [Work.bind_ok hhandles]
    exact ⟨hhandler.extensions, hhandler.reached⟩

/-- What becomes of what is registered while a response is made. -/
theorem respond_registers (h : ∀ mw ∈ chain, ResponseMiddleware.Leaves key mw)
    (hhandler : handler.Leaves key) (c : ResponseContext) {y : Exchange}
    (empty : y.extensions = []) :
    ∃ r z, respond chain c handler y = (.ok r, z) ∧
      Receives chain handler c { y with reached := false } key r := by
  rcases Chain.run_stays
    (K := fun r r' : Response => r'.extensions.get? key = r.extensions.get? key)
    .refl .trans (fun _ => rfl) (fun h h' => h'.trans h) h c { y with reached := false } with
    ⟨d, y₁, hreaches, hbefore, hend⟩ | ⟨hunreached, -⟩
  · obtain ⟨hafter, hgives⟩ := hend (reach handler)
    rcases hrun : chain.run (reach handler) c { y with reached := false } with ⟨p | r, z⟩ <;>
      rw [hrun] at hafter hgives
    · have hdropped := (reach_registered hhandler d y₁).trans hafter
      obtain ⟨calls, hcalls⟩ := hbefore.extensions
      obtain ⟨more, hmore⟩ := hdropped.extensions
      have hall : z.extensions = y.extensions.insertAll (calls ++ more) := by
        rw [insertAll_append]
        exact hmore.trans (congrArg (·.insertAll more) hcalls)
      exact registers_dropped empty hreaches hrun ⟨_, hall⟩ hdropped.reached
    · obtain ⟨r₁, hr₁, hkeeps⟩ := hgives r rfl
      rcases hreach : reach handler d y₁ with ⟨outcome, z₁⟩
      rw [hreach] at hafter hr₁
      cases hr₁
      obtain ⟨own, y₂, hhandles, rfl, rfl⟩ := reach_ok hreach
      have hhandler := hhandler d { y₁ with reached := true }
      rw [hhandles] at hhandler
      exact registers_returned empty hreaches hbefore hhandles hhandler.1 (hhandler.2 own rfl) hrun
        ⟨hafter.extensions, hafter.reached⟩ hkeeps
  · rcases hrun : chain.run (reach handler) c { y with reached := false } with ⟨p | r, z⟩
    · obtain ⟨r, z', hflush, -⟩ := flushRest_apply
        (.ofErrors [(c.presentation.presentPanic (some c.operation) none p).1])
        { z with journal := z.journal ++
            (c.presentation.presentPanic (some c.operation) none p).2.map .event }
      exact ⟨r, z', (respond_recovered hrun).trans hflush,
        fun ⟨d, y', hreaches⟩ => absurd hreaches (hunreached d y')⟩
    · obtain ⟨r', z', hflush, -⟩ := flushRest_apply r z
      exact ⟨r', z', (respond_of_ok hrun).trans hflush,
        fun ⟨d, y', hreaches⟩ => absurd hreaches (hunreached d y')⟩

/-! ### Executors -/

/-- None of what runs around operations writes a key into a response; all of it only registers
extensions and reports errors, or panics. -/
structure Leaves (key : String) (x : Executor) : Prop where
  operations : ∀ mw ∈ x.operations, OperationMiddleware.Leaves key mw
  responses  : ∀ mw ∈ x.responses, ResponseMiddleware.Leaves key mw
  fields     : ∀ mw ∈ x.fields, FieldMiddleware.Stays Exchange.Registered mw
  query      : (Resolved.object x.service.query).Stays Exchange.Registered
  mutation   : ∀ root, x.service.mutation = some root →
    (Resolved.object root).Stays Exchange.Registered

variable {x : Executor}

/-- The handler of an executor does not write the key. -/
theorem execute_leaves (h : x.Leaves key) : ResponseHandler.Leaves key x.execute := fun c =>
  ((execute_leads Exchange.permits_registered h.fields h.query h.mutation c).mono
    fun _ hr => congrArg (Json.Members.get? · key) hr).stays

theorem run_leaves {chain : Chain Work OperationContext ResponseHandler}
    (h : ∀ mw ∈ chain, OperationMiddleware.Leaves key mw)
    {endpoint : OperationContext → Work ResponseHandler}
    (he : ∀ c, Work.Stays (fun _ _ => True) (endpoint c) (ResponseHandler.Leaves key))
    (c : OperationContext) :
    Work.Stays (fun _ _ => True) (chain.run endpoint c) (ResponseHandler.Leaves key) := by
  induction chain generalizing c with
  | nil => exact he c
  | cons mw rest ih =>
      refine (h mw List.mem_cons_self c).bind (fun _ _ => trivial) fun step hstep => ?_
      cases step with
      | answer handler => exact fun _ => ⟨trivial, fun _ h => by cases h; exact hstep⟩
      | callOn c' after =>
          exact (ih (fun mw hmw => h mw (List.mem_cons_of_mem _ hmw)) c').bind
            (fun _ _ => trivial) hstep

/-- What is dispatched has a handler that does not write the key. -/
theorem dispatch_leaves (h : x.Leaves key) (context : OperationContext) :
    Work.Stays (fun _ _ => True) (x.dispatch context) fun p =>
      p.handler.Leaves key ∧ p.responses = x.responses ∧ p.presentation = x.presentation := by
  have hend (c : OperationContext) : Work.Stays (fun _ _ => True) (do
      modify fun e : Exchange => { e with dispatched := some c }
      return x.execute) (ResponseHandler.Leaves key) := fun y =>
    ⟨trivial, fun handler hhandler => by cases hhandler; exact execute_leaves h⟩
  refine Work.Stays.bind (P := fun _ => True) (fun _ _ => trivial)
    (fun _ => ⟨trivial, fun _ _ => trivial⟩) fun _ _ => ?_
  refine (run_leaves h.operations hend context).bind (fun _ _ => trivial)
    fun handler hhandler y => ?_
  exact ⟨trivial, fun p hp => by cases hp; exact ⟨hhandler, rfl, rfl⟩⟩

/-- **Registered extensions reach the response**, of an operation that is dispatched and of a
request that is refused, under each key that no stage writes into the response. -/
theorem registers (h : x.Leaves key) :
    (∀ context y p y₁, x.dispatch context y = (.ok p, y₁) → ∃ r z, p.produce y₁ = (.ok r, z) ∧
      Receives x.responses p.handler ⟨p.operation, x.presentation⟩
        { y₁.reopen with reached := false } key r) ∧
    ∀ refusal y, ∃ r z, x.refuse refusal y = (.ok r, z) ∧
      Receives x.responses (fun _ => return {}) ⟨refusal.context, x.presentation⟩
        { y.reopen with errors := x.presented refusal, reached := false } key r := by
  constructor
  · intro context y p y₁ hdispatch
    obtain ⟨hhandler, hresponses, hpresentation⟩ :=
      (dispatch_leaves h context y).2 p (by rw [hdispatch])
    obtain ⟨r, z, hrespond, hreceives⟩ := respond_registers h.responses hhandler
      ⟨p.operation, x.presentation⟩ (y := y₁.reopen) rfl
    exact ⟨r, z, by rw [produce_eq, hresponses, hpresentation, hrespond], hreceives⟩
  · intro refusal y
    have hempty : ResponseHandler.Leaves key fun _ => return {} := fun _ =>
      (Work.leads_pure (Q := fun r : Response => r.extensions.get? key = none)
        Exchange.permits_registered rfl).stays
    obtain ⟨r, z, hrespond, hreceives⟩ := respond_registers h.responses hempty
      ⟨refusal.context, x.presentation⟩ (y := { y.reopen with errors := x.presented refusal }) rfl
    exact ⟨r, z, (refuse_eq refusal y).trans hrespond, hreceives⟩

namespace Registrar

/-- Middleware that registers an extension before it calls on, and again after. -/
def registrar (key : String) (before after : Json) : ResponseMiddleware := fun c => do
  c.register key before
  return .callOn c fun r => do
    c.register key after
    return r

theorem leaves_registrar (key other : String) (before after : Json) :
    ResponseMiddleware.Leaves other (registrar key before after) := fun c => by
  refine (c.leads_register key before).stays.bind .trans fun _ _ =>
    (Work.leads_pure Exchange.permits_registered fun c' after' hstep r => ?_).stays
  cases hstep
  exact ((c.leads_register key after).bind .trans fun _ _ =>
    Work.leads_pure (Q := fun r' : Response => r'.extensions.get? other = r.extensions.get? other)
      Exchange.permits_registered rfl).stays

/-- An executor with two of them, at keys of their own. -/
def executor : Executor :=
  { Around.executor with
    responses := [registrar "a" (.int 1) (.int 1), registrar "b" (.int 1) (.int 2)] }

theorem leaves (key : String) : executor.Leaves key where
  operations _ hmw := absurd hmw List.not_mem_nil
  responses mw hmw := by
    rcases List.mem_cons.mp hmw with rfl | hmw
    · exact leaves_registrar "a" key _ _
    · rw [List.mem_singleton.mp hmw]
      exact leaves_registrar "b" key _ _
  fields _ hmw := absurd hmw List.not_mem_nil
  query := .object (fun _ x => .refl x) fun _ _ r hr => by cases hr; exact .leaf _
  mutation _ hroot := by cases hroot

end Registrar

open Registrar in
/-- What the theorem says of an executor with middleware that registers the same again under one
key. -/
theorem registers_again : executor.Leaves "a" ∧
    (∃ p y₁, executor.dispatch {} {} = (.ok p, y₁) ∧ ∃ r z, p.produce y₁ = (.ok r, z) ∧
      Receives executor.responses p.handler ⟨p.operation, executor.presentation⟩
        { y₁.reopen with reached := false } "a" r) ∧
    (executor.refuse Around.refusal {}).1.map (·.extensions.get? "a") = .ok (some (.int 1)) :=
  ⟨leaves "a", ⟨_, _, rfl, (registers (leaves "a")).1 {} {} _ _ rfl⟩, rfl⟩

open Registrar in
/-- The value that was registered last is not always the one of the response: under the other key
there is what was registered before the handler returned. -/
theorem registers_not_last :
    ((executor.dispatch {} >>= Producer.produce) {}).1.map (·.extensions.get? "b") =
      .ok (some (.int 1)) ∧
    ((executor.dispatch {} >>= Producer.produce) {}).2.extensions.get? "b" = some (.int 2) ∧
    ((executor.dispatch {} >>= Producer.produce) {}).2.reached = true :=
  ⟨rfl, rfl, rfl⟩

end Executor

end GraphServe
