import GraphServe.Proofs.Executor.Running
import GraphServe.Transport.Serving

/-!
# Executors — middleware that passes operations on

Middleware may answer by itself, change answers, report errors and panic, and still pass on what it
was given: it calls on with its context as it is, and calls no resolver (`Middleware.Forwards`).
What is dispatched is then the operation that was built, and it runs at most once
(`Executor.produce_forwards`).

Middleware that passes through does so (`Executor.Transparent.forwards`).
-/

namespace GraphServe

open Document

/-- What a stage leaves alone that calls no resolver and dispatches nothing. -/
structure Exchange.Beside (x y : Exchange) : Prop where
  dispatched : y.dispatched = x.dispatched
  journal    : Extends x.journal y.journal

namespace Exchange.Beside

theorem refl (x : Exchange) : x.Beside x := ⟨rfl, .refl _⟩

theorem trans {x y z : Exchange} (h : x.Beside y) (h' : y.Beside z) : x.Beside z :=
  ⟨h'.dispatched.trans h.dispatched, h.journal.trans h'.journal⟩

end Exchange.Beside

theorem Exchange.Quiet.beside {x y : Exchange} (h : x.Quiet y) : x.Beside y :=
  ⟨h.dispatched, h.journal⟩

/-! ### Middleware -/

variable {C A : Type}

/-- A middleware that passes its context on as it is, unless it answers by itself; it calls no
resolver.  `Own` are the answers of its own, and its answer is related to the one that comes
back. -/
def Middleware.Forwards (Own : A → Prop) (Q : A → A → Prop) (mw : Middleware Work C A) : Prop :=
  ∀ c x, x.Beside (mw c x).2 ∧ ∀ step, (mw c x).1 = .ok step →
    (∃ a, step = .answer a ∧ Own a) ∨
    ∃ after, step = .callOn c after ∧
      ∀ a y, y.Beside (after a y).2 ∧ ∀ b, (after a y).1 = .ok b → Q a b

/-- A chain of middleware that passes its context on reaches the endpoint with it, or not at all. -/
theorem Chain.run_forwards {Own P : A → Prop} {Q : A → A → Prop} (hown : ∀ a, Own a → P a)
    (hrelated : ∀ a b, Q a b → P a → P b) {chain : Chain Work C A}
    (h : ∀ mw ∈ chain, mw.Forwards Own Q) (endpoint : C → Work A) (c : C) (x : Exchange) :
    (x.Beside (chain.run endpoint c x).2 ∧ ∀ a, (chain.run endpoint c x).1 = .ok a → P a) ∨
    ∃ y, x.Beside y ∧ (endpoint c y).2.Beside (chain.run endpoint c x).2 ∧
      ((∀ a, (endpoint c y).1 = .ok a → P a) → ∀ a, (chain.run endpoint c x).1 = .ok a → P a) := by
  induction chain generalizing x with
  | nil => exact .inr ⟨x, .refl x, .refl _, fun hp => hp⟩
  | cons mw rest ih =>
      obtain ⟨hbeside, hstep⟩ := h mw List.mem_cons_self c x
      have hrest := ih fun mw' hmw => h mw' (List.mem_cons_of_mem mw hmw)
      rcases hmw : mw c x with ⟨p | step, x₁⟩
      · rw [hmw] at hbeside
        rw [Chain.run, Work.bind_error hmw]
        exact .inl ⟨hbeside, fun a ha => by cases ha⟩
      · rw [hmw] at hbeside hstep
        rcases hstep step rfl with ⟨a, rfl, ha⟩ | ⟨after, rfl, hafter⟩
        · rw [Chain.run, Work.bind_ok hmw]
          exact .inl ⟨hbeside, fun b hb => by cases hb; exact hown a ha⟩
        · -- the others run around the endpoint, and the answer goes back through this one
          have hrun : Chain.run (mw :: rest) endpoint c x =
              (Chain.run rest endpoint c >>= after) x₁ := by
            rw [Chain.run, Work.bind_ok hmw]
          have hback : (Chain.run rest endpoint c x₁).2.Beside
                ((Chain.run rest endpoint c >>= after) x₁).2 ∧
              ((∀ a, (Chain.run rest endpoint c x₁).1 = .ok a → P a) →
                ∀ b, ((Chain.run rest endpoint c >>= after) x₁).1 = .ok b → P b) := by
            rcases hinner : Chain.run rest endpoint c x₁ with ⟨p | a, x₂⟩
            · rw [Work.bind_error hinner]
              exact ⟨.refl _, fun _ b hb => by cases hb⟩
            · rw [Work.bind_ok hinner]
              obtain ⟨hbeside', hq⟩ := hafter a x₂
              exact ⟨hbeside', fun hp b hb => hrelated a b (hq b hb) (hp a rfl)⟩
          rw [hrun]
          rcases hrest x₁ with ⟨hbeside', hp⟩ | ⟨y, hy, hend, hp⟩
          · exact .inl ⟨hbeside.trans (hbeside'.trans hback.1), hback.2 hp⟩
          · exact .inr ⟨y, hbeside.trans hy, hend.trans hback.1, fun h => hback.2 (hp h)⟩

/-- A handler that calls no resolver, or runs another one once on what it was given. -/
def Wraps (handler handler' : ResponseHandler) : Prop :=
  ∀ c y, Extends y.journal (handler' c y).2.journal ∨
    ∃ z, Extends y.journal z.journal ∧ Extends (handler c z).2.journal (handler' c y).2.journal

theorem Wraps.refl (handler : ResponseHandler) : Wraps handler handler := fun _ y =>
  .inr ⟨y, .refl _, .refl _⟩

theorem Wraps.trans {first second third : ResponseHandler} (h : Wraps first second)
    (h' : Wraps second third) : Wraps first third := fun c y => by
  rcases h' c y with hsilent | ⟨z, hbefore, hafter⟩
  · exact .inl hsilent
  · rcases h c z with hsilent | ⟨z', hbefore', hafter'⟩
    · exact .inl (hbefore.trans (hsilent.trans hafter))
    · exact .inr ⟨z', hbefore.trans hbefore', hafter'.trans hafter⟩

/-- The handler that comes back may be put around; a handler of its own calls no resolver. -/
abbrev OperationMiddleware.Forwards (mw : OperationMiddleware) : Prop :=
  Middleware.Forwards (fun handler => ∀ c y, Extends y.journal (handler c y).2.journal) Wraps mw

/-- The response is free. -/
abbrev ResponseMiddleware.Forwards (mw : ResponseMiddleware) : Prop :=
  Middleware.Forwards (fun _ => True) (fun _ _ => True) mw

theorem Middleware.Passes.forwards {Own : A → Prop} {Q Q' : A → A → Prop}
    {mw : Middleware Work C A} (h : mw.Passes Q) (hrelated : ∀ a b, Q a b → Q' a b) :
    mw.Forwards Own Q' := fun c x => by
  obtain ⟨step, y, hstep, hquiet, after, rfl, hafter⟩ := h c x
  rw [hstep]
  refine ⟨hquiet.beside, fun step hok => ?_⟩
  cases hok
  refine .inr ⟨after, rfl, fun a y => ?_⟩
  obtain ⟨b, z, hz, hquiet', hq⟩ := hafter a y
  rw [hz]
  exact ⟨hquiet'.beside, fun b' hb => by cases hb; exact hrelated a b hq⟩

namespace Executor

/-- The middleware passes operations on as they are. -/
structure Forwards (x : Executor) : Prop where
  operations : ∀ mw ∈ x.operations, OperationMiddleware.Forwards mw
  responses  : ∀ mw ∈ x.responses, ResponseMiddleware.Forwards mw

variable {x : Executor} {d : Executable} {o : Operation FieldDefinition} {c : OperationContext}

theorem Transparent.forwards (h : x.Transparent) : x.Forwards where
  operations mw hmw := (h.operations mw hmw).forwards fun a _ heq => heq ▸ Wraps.refl a
  responses mw hmw := (h.responses mw hmw).forwards fun _ _ _ => trivial

/-! ### Dispatching and responding -/

/-- What is dispatched is the operation that was given. -/
theorem dispatch_forwards (h : ∀ mw ∈ x.operations, OperationMiddleware.Forwards mw)
    (c : OperationContext) (y : Exchange) :
    Extends y.journal (x.dispatch c y).2.journal ∧
      ∀ p, (x.dispatch c y).1 = .ok p → p.operation = c ∧ Wraps x.execute p.handler ∧
        p.responses = x.responses ∧ p.presentation = x.presentation := by
  let endpoint : OperationContext → Work ResponseHandler := fun context => do
    modify fun e => { e with dispatched := some context }
    return x.execute
  have hdispatch : x.dispatch c y =
      (x.operations.run endpoint c >>= fun handler => do
        return { operation := (← get).dispatched.getD c, handler, responses := x.responses,
                 presentation := x.presentation }) { y with dispatched := none } := rfl
  have hrun := Chain.run_forwards (P := Wraps x.execute)
    (fun _ hsilent c y => .inl (hsilent c y)) (fun _ _ hq hp => hp.trans hq) h endpoint c
    { y with dispatched := none }
  rw [hdispatch]
  -- whether the endpoint was reached or not, nothing else was dispatched
  obtain ⟨hjournal, hdispatched, hwraps⟩ : 
      Extends y.journal (x.operations.run endpoint c { y with dispatched := none }).2.journal ∧
      (x.operations.run endpoint c { y with dispatched := none }).2.dispatched.getD c = c ∧
      ∀ a, (x.operations.run endpoint c { y with dispatched := none }).1 = .ok a →
        Wraps x.execute a := by
    rcases hrun with ⟨hbeside, hp⟩ | ⟨z, hbefore, hafter, hp⟩
    · exact ⟨hbeside.journal, by rw [hbeside.dispatched]; rfl, hp⟩
    · refine ⟨hbefore.journal.trans hafter.journal, by rw [hafter.dispatched]; rfl, hp ?_⟩
      intro a ha
      cases ha
      exact .refl _
  rcases hresult : x.operations.run endpoint c { y with dispatched := none } with ⟨p | handler, z⟩
  · rw [hresult] at hjournal
    rw [Work.bind_error hresult]
    exact ⟨hjournal, fun p hp => by cases hp⟩
  · rw [hresult] at hjournal hdispatched hwraps
    rw [Work.bind_ok hresult]
    refine ⟨hjournal, fun p hp => ?_⟩
    cases hp
    exact ⟨hdispatched, hwraps handler rfl, rfl, rfl⟩

/-- Making a response runs the handler once, or not at all. -/
theorem respond_forwards {chain : Chain Work ResponseContext Response}
    (h : ∀ mw ∈ chain, ResponseMiddleware.Forwards mw) (handler : ResponseHandler) :
    Wraps handler fun c => respond chain c handler := fun c y => by
  have hrun := Chain.run_forwards (P := fun _ => True) (fun _ _ => trivial)
    (fun _ _ _ _ => trivial) h (reach handler) c { y with reached := false }
  -- what comes after the chain writes events at most
  have hend : Extends (chain.run (reach handler) c { y with reached := false }).2.journal
      (respond chain c handler y).2.journal := by
    rcases hresult : chain.run (reach handler) c { y with reached := false } with ⟨p | r, z⟩
    · rw [respond_recovered hresult]
      obtain ⟨r', z', hflush, hjournal, -⟩ := flushRest_apply
        (.ofErrors [(c.presentation.presentPanic (some c.operation) none p).1])
        { z with journal := z.journal ++
            (c.presentation.presentPanic (some c.operation) none p).2.map .event }
      rw [hflush, hjournal]
      exact .add z.journal (silent_events _)
    · rw [respond_of_ok hresult]
      obtain ⟨r', z', hflush, hjournal, -⟩ := flushRest_apply r z
      rw [hflush, hjournal]
      exact .refl _
  rcases hrun with ⟨hbeside, -⟩ | ⟨z, hbefore, hafter, -⟩
  · exact .inl (hbeside.journal.trans hend)
  · refine .inr ⟨{ z with reached := true }, hbefore.journal, ?_⟩
    have hreach : Extends (handler c { z with reached := true }).2.journal
        (reach handler c z).2.journal := by
      rw [reach, Work.bind_ok (Work.modify_apply _ z), Work.bind_apply]
      rcases handler c { z with reached := true } with ⟨p | r, z'⟩ <;> exact .refl _
    exact hreach.trans (hafter.journal.trans hend)

/-- An operation is run by executing it on the root object for its type, once, or not at all. -/
theorem produce_forwards (h : x.Forwards) (hd : c.document = some d) (ho : c.operation = some o)
    (y : Exchange) :
    Extends y.journal ((do (← x.dispatch c).produce : Work Response) y).2.journal ∨
      x.Ran c d o y.journal ((do (← x.dispatch c).produce : Work Response) y).2.journal := by
  obtain ⟨hbefore, hproducer⟩ := dispatch_forwards h.operations c y
  rcases hdispatch : x.dispatch c y with ⟨p | producer, y₁⟩
  · rw [hdispatch] at hbefore
    rw [Work.bind_error hdispatch]
    exact .inl hbefore
  rw [hdispatch] at hbefore hproducer
  obtain ⟨operation, handler, responses, presentation⟩ := producer
  obtain ⟨rfl, hwraps, rfl, rfl⟩ := hproducer _ rfl
  rw [Work.bind_ok hdispatch, produce_eq]
  rcases hwraps.trans (respond_forwards h.responses handler) ⟨operation, x.presentation⟩
      y₁.reopen with hsilent | ⟨z, hz, hafter⟩
  · exact .inl (hbefore.trans hsilent)
  have hz' : Extends y.journal z.journal := hbefore.trans hz
  cases hroot : x.root? o.type with
  | none =>
      obtain ⟨r, hexecute⟩ :=
        @execute_of_root_none x d o ⟨operation, x.presentation⟩ hd ho hroot
      rw [hexecute] at hafter
      exact .inl (hz'.trans hafter)
  | some root =>
      refine .inr ⟨root, z, hroot, hz', ?_⟩
      rw [execute_of_root hd ho hroot, Work.bind_apply] at hafter
      rcases hrun : Execution.executeOperation x.service x.fields ⟨operation, x.presentation⟩ d o
        root z with ⟨p | data, z₁⟩
      all_goals
        rw [hrun] at hafter
        exact hafter

/-- A refusal calls no resolver. -/
theorem refuse_forwards (h : x.Forwards) (refusal : Refusal) (y : Exchange) :
    Extends y.journal (x.refuse refusal y).2.journal := by
  rw [refuse_eq]
  rcases respond_forwards h.responses (fun _ => return {}) ⟨refusal.context, x.presentation⟩
    { y.reopen with errors := x.presented refusal } with
    hsilent | ⟨z', hbefore, hafter⟩
  · exact hsilent
  · exact hbefore.trans hafter

end Executor

end GraphServe
