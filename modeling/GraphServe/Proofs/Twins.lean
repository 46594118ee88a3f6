import GraphServe.Proofs.Json.Value
import GraphServe.Proofs.Resolved
import Mathlib.Data.List.Forall2

/-!
# Twins — what differs in the headers of a request

Twins are two of a kind, parameters, operations or exchanges, that differ at most in the headers of
the requests that they come from.  Two stages agree if on twins they give related things and leave
twins behind (`Work.Agree`); a stage that agrees with itself does not see headers.

* `Middleware.Blind` says of a middleware that it does not see headers, and a chain of such
  middleware around endpoints that agree agrees (`Chain.agree_run`).
* `Resolved.Agree` says of resolved values that their resolvers agree, and so do those of the values
  that they give.  Plain JSON agrees with itself (`Resolved.agree_ofJson`).
* `Presentation.Blind` says that failures and panics are presented without a look at headers.
-/

namespace GraphServe

open Document

/-! ### Twins -/

/-- Parameters that differ at most in the headers. -/
def Params.Twin (p p' : Params) : Prop := ∃ headers, p' = { p with headers }

/-- Operations that differ at most in the headers of their requests. -/
def OperationContext.Twin (c c' : OperationContext) : Prop := ∃ headers, c' = { c with headers }

/-- Exchanges that differ at most in the headers of the operation that was dispatched. -/
def Exchange.Twin (x x' : Exchange) : Prop :=
  ∃ dispatched, Option.Rel OperationContext.Twin x.dispatched dispatched ∧
    x' = { x with dispatched }

/-- A change of anything but what was dispatched. -/
theorem Exchange.Twin.map {x x' : Exchange} (h : x.Twin x') {f : Exchange → Exchange}
    (hf : ∀ x dispatched, f { x with dispatched } = { f x with dispatched })
    (hsame : ∀ x, (f x).dispatched = x.dispatched) : (f x).Twin (f x') := by
  obtain ⟨dispatched, hrel, rfl⟩ := h
  exact ⟨dispatched, (hsame x).symm ▸ hrel, hf x dispatched⟩

/-- Failures and panics are presented without a look at headers. -/
structure Presentation.Blind (p : Presentation) : Prop where
  present : ∀ {c c' : OperationContext}, c.Twin c' → p.present (some c') = p.present (some c)
  recover : ∀ {c c' : OperationContext}, c.Twin c' → p.recover (some c') = p.recover (some c)

theorem Presentation.blind_standard : Presentation.standard.Blind where
  present _ := rfl
  recover h := by
    obtain ⟨headers, rfl⟩ := h
    rfl

/-- Responses to twins, presented alike. -/
structure ResponseContext.Twin (c c' : ResponseContext) : Prop where
  operation    : c.operation.Twin c'.operation
  presentation : c'.presentation = c.presentation
  blind        : c.presentation.Blind

/-- Fields of responses to twins. -/
def FieldContext.Twin (c c' : FieldContext) : Prop :=
  ∃ response, c.response.Twin response ∧ c' = { c with response }

/-- Two outcomes of one kind, which are related. -/
inductive Outcome.Rel {ε α : Type} (E : ε → ε → Prop) (R : α → α → Prop) :
    Except ε α → Except ε α → Prop where
  | ok {a a' : α} (h : R a a') : Rel E R (.ok a) (.ok a')
  | error {e e' : ε} (h : E e e') : Rel E R (.error e) (.error e')

theorem Outcome.Rel.eq {ε α : Type} {o o' : Except ε α} (h : Rel Eq Eq o o') : o = o' := by
  cases h with
  | ok h => rw [h]
  | error h => rw [h]

/-! ### Stages that agree -/

namespace Work

variable {α β : Type} {R : α → α → Prop} {w w' : Work α}

/-- Stages that on twins give related things, or panic alike, and leave twins behind. -/
def Agree (R : α → α → Prop) (w w' : Work α) : Prop :=
  ∀ x x', Exchange.Twin x x' → Outcome.Rel Eq R (w x).1 (w' x').1 ∧ (w x).2.Twin (w' x').2

namespace Agree

theorem pure {a a' : α} (h : R a a') : Agree R (Pure.pure a) (Pure.pure a') := fun _ _ hx =>
  ⟨.ok h, hx⟩

theorem bind {f f' : α → Work β} {S : β → β → Prop} (hw : Agree R w w')
    (hf : ∀ a a', R a a' → Agree S (f a) (f' a')) : Agree S (w >>= f) (w' >>= f') :=
  fun x x' hx => by
    obtain ⟨houtcome, hy⟩ := hw x x' hx
    rw [bind_apply, bind_apply]
    generalize w x = left, w' x' = right at houtcome hy
    obtain ⟨outcome, y⟩ := left
    obtain ⟨outcome', y'⟩ := right
    cases houtcome with
    | ok h => exact hf _ _ h y y' hy
    | error h => exact ⟨.error h, hy⟩

/-- What follows is made of what was given. -/
theorem map {f f' : α → β} {S : β → β → Prop} (hw : Agree R w w')
    (hf : ∀ a a', R a a' → S (f a) (f' a')) :
    Agree S (do return f (← w)) (do return f' (← w')) :=
  hw.bind fun a a' h => pure (hf a a' h)

/-- A stage whose panic is held. -/
theorem hold (hw : Agree R w w') : Agree (Outcome.Rel Eq R) (hold w) (hold w') :=
  fun x x' hx => by
    obtain ⟨houtcome, hy⟩ := hw x x' hx
    exact ⟨.ok houtcome, hy⟩

/-- A stage for each of some things. -/
theorem forM {f f' : β → Work Unit} (h : ∀ b, Agree Eq (f b) (f' b)) (l : List β) :
    Agree Eq (l.forM f) (l.forM f') := by
  induction l with
  | nil => exact pure rfl
  | cons b l ih => exact (h b).bind fun _ _ _ => ih

end Agree

/-- A change that takes twins to twins. -/
theorem agree_modify {f f' : Exchange → Exchange} (h : ∀ x x', x.Twin x' → (f x).Twin (f' x')) :
    Agree Eq (modify f) (modify f') := fun x x' hx => ⟨.ok rfl, h x x' hx⟩

/-- A stage that goes on with what it reads. -/
theorem agree_get {f f' : Exchange → Work α}
    (h : ∀ x x', x.Twin x' → Agree R (f x) (f' x')) : Agree R (get >>= f) (get >>= f') :=
  fun x x' hx => h x x' hx x x' hx

theorem agree_record (entry : Entry) : Agree Eq (record entry) (record entry) :=
  agree_modify fun _ _ h =>
    h.map (f := fun x => { x with journal := x.journal ++ [entry] }) (fun _ _ => rfl) fun _ => rfl

theorem agree_events (logged : List Event) : Agree Eq (events logged) (events logged) :=
  agree_modify fun _ _ h =>
    h.map (f := fun x => { x with journal := x.journal ++ logged.map .event }) (fun _ _ => rfl)
      fun _ => rfl

theorem agree_push (e : Error) : Agree Eq (modify (·.push e)) (modify (·.push e)) :=
  agree_modify fun _ _ h => h.map (f := (·.push e)) (fun _ _ => rfl) fun _ => rfl

end Work

/-! ### Reporting -/

namespace ResponseContext.Twin

variable {c c' : ResponseContext}

theorem addError (h : c.Twin c') (path : Option Path) (failure : Failure) :
    Work.Agree Eq (c.addError path failure) (c'.addError path failure) := by
  have hpresent : c'.presentation.present (some c'.operation)
      = c.presentation.present (some c.operation) := by
    rw [h.presentation, h.blind.present h.operation]
  unfold ResponseContext.addError
  rw [hpresent]
  exact Work.agree_push _

theorem recover (h : c.Twin c') (path : Option Path) (panic : Panic) :
    Work.Agree Eq (c.recover path panic) (c'.recover path panic) := by
  have hpanic : c'.presentation.presentPanic (some c'.operation) path panic
      = c.presentation.presentPanic (some c.operation) path panic := by
    unfold Presentation.presentPanic
    rw [h.presentation, h.blind.recover h.operation, h.blind.present h.operation]
  unfold ResponseContext.recover
  rw [hpanic]
  exact (Work.agree_events _).bind fun _ _ _ => .pure rfl

end ResponseContext.Twin

/-! ### Middleware -/

section

variable {C A : Type} {T : C → C → Prop} {R : A → A → Prop}

/-- What middleware does with twins: it gives related answers, or calls on with twins and makes
related answers of related answers. -/
inductive Middleware.Step.Agree (T : C → C → Prop) (R : A → A → Prop) :
    Middleware.Step Work C A → Middleware.Step Work C A → Prop where
  | answer {a a' : A} (h : R a a') : Agree T R (.answer a) (.answer a')
  | callOn {c c' : C} {after after' : A → Work A} (context : T c c')
      (answers : ∀ a a', R a a' → Work.Agree R (after a) (after' a')) :
      Agree T R (.callOn c after) (.callOn c' after')

/-- Middleware that does the same with twins. -/
def Middleware.Blind (T : C → C → Prop) (R : A → A → Prop) (mw : Middleware Work C A) : Prop :=
  ∀ c c', T c c' → Work.Agree (Middleware.Step.Agree T R) (mw c) (mw c')

/-- A chain of middleware that does not see headers, around endpoints that agree. -/
theorem Chain.agree_run {chain : Chain Work C A} (h : ∀ mw ∈ chain, mw.Blind T R)
    {endpoint endpoint' : C → Work A}
    (hend : ∀ c c', T c c' → Work.Agree R (endpoint c) (endpoint' c')) {c c' : C} (hc : T c c') :
    Work.Agree R (chain.run endpoint c) (chain.run endpoint' c') := by
  induction chain generalizing c c' with
  | nil => exact hend c c' hc
  | cons mw rest ih =>
      refine (h mw List.mem_cons_self c c' hc).bind fun step step' hstep => ?_
      cases hstep with
      | answer ha => exact .pure ha
      | callOn hc' hafter =>
          exact (ih (fun mw hmw => h mw (List.mem_cons_of_mem _ hmw)) hc').bind hafter

end

/-! ### Resolvers -/

/-- Resolved values whose resolvers agree, and so do those of the values that they give. -/
inductive Resolved.Agree : Resolved → Resolved → Prop where
  | leaf (v : Json) : Agree (.leaf v) (.leaf v)
  | list {items items' : List Resolved} (h : List.Forall₂ Agree items items') :
      Agree (.list items) (.list items')
  | object {o o' : ObjectValue Resolved} (typeName : o'.typeName = o.typeName)
      (isMethod : o'.isMethod = o.isMethod) (isResolver : o'.isResolver = o.isResolver)
      (gives : ∀ c c' x x', FieldContext.Twin c c' → Exchange.Twin x x' →
        Outcome.Rel Eq (Outcome.Rel Eq Agree) (o.resolve c x).1 (o'.resolve c' x').1)
      (leaves : ∀ c c' x x', FieldContext.Twin c c' → Exchange.Twin x x' →
        (o.resolve c x).2.Twin (o'.resolve c' x').2) : Agree (.object o) (.object o')

/-- Answers that agree: values that do, or one failure. -/
abbrev FieldResult.Agree : FieldResult → FieldResult → Prop := Outcome.Rel Eq Resolved.Agree

theorem Resolved.Agree.resolve {o o' : ObjectValue Resolved}
    (h : (Resolved.object o).Agree (.object o')) {c c' : FieldContext} (hc : c.Twin c') :
    Work.Agree FieldResult.Agree (o.resolve c) (o'.resolve c') := fun x x' hx => by
  cases h with
  | object _ _ _ gives leaves => exact ⟨gives c c' x x' hc hx, leaves c c' x x' hc hx⟩

/-- An object whose resolvers agree with themselves. -/
abbrev ObjectValue.Blind (o : ObjectValue Resolved) : Prop := (Resolved.object o).Agree (.object o)

theorem Resolved.lookup_ofMembers (members : Json.Members) (name : String) :
    (ofMembers members).lookup name = (members.lookup name).map ofJson := by
  induction members with
  | nil => rfl
  | cons m members ih =>
      obtain ⟨key, v⟩ := m
      rw [ofMembers, List.lookup_cons, List.lookup_cons, ih]
      split <;> rfl

/-- **Plain JSON does not see headers.** -/
theorem Resolved.agree_ofJson (v : Json) (type : String) :
    (ofJson v type).Agree (ofJson v type) := by
  induction v using Json.induct generalizing type with
  | null | bool | int | float | string =>
      rw [ofJson]
      exact .leaf _
  | list items ih =>
      rw [ofJson]
      refine .list ?_
      induction items with
      | nil => exact .nil
      | cons item items ihitems =>
          obtain ⟨hitem, hitems⟩ := List.forall_mem_cons.mp ih
          exact .cons (hitem type) (ihitems hitems)
  | object members ih =>
      rw [ofJson]
      refine .object rfl rfl rfl (fun c c' x x' hc _ => ?_) fun _ _ _ _ _ hx => hx
      obtain ⟨response, -, rfl⟩ := hc
      refine .ok (.ok ?_)
      have hname : ({ c with response } : FieldContext).name = c.name := rfl
      have htype : ({ c with response } : FieldContext).returnType = c.returnType := rfl
      rw [hname, htype, lookup_ofMembers]
      cases hfound : members.lookup c.name with
      | none => exact .leaf .null
      | some v => exact ih (c.name, v) (mem_of_lookup hfound) _

/-- Middleware around fields that does not see headers. -/
abbrev FieldMiddleware.Blind (mw : FieldMiddleware) : Prop :=
  Middleware.Blind FieldContext.Twin FieldResult.Agree mw

end GraphServe
