import GraphServe.Proofs.Journal
import GraphServe.Proofs.Work
import GraphServe.Resolved

/-!
# Kinds of resolvers

What is asked of resolvers and of the middleware around them where something is said of all of them.

* A resolver is tame if it and all that it leads to only add errors, and fail with errors that have
  no path of their own (`Resolved.Tame`); a chain of tame middleware around it is tame
  (`Chain.reports_run`).
* It is steady if it gives the same whatever happened before, and reports nothing by itself
  (`Resolved.Steady`).
* It is discreet if it calls no resolver of its own in the journal (`Resolved.Discreet`).
* Two are alike if they give the same, but that one may panic where the other fails
  (`Resolved.Alike`).
-/

namespace GraphServe

/-- Induction on resolved values: the items of a list, and what the resolvers of an object give, are
the smaller ones. -/
@[induction_eliminator]
theorem Resolved.induct {P : Resolved → Prop} (leaf : ∀ v, P (.leaf v))
    (list : ∀ items, (∀ r ∈ items, P r) → P (.list items))
    (object : ∀ o, (∀ c x r, (o.resolve c x).1 = .ok (.ok r) → P r) → P (.object o))
    (r : Resolved) : P r :=
  Resolved.rec (motive_1 := P) (motive_2 := fun items => ∀ r ∈ items, P r)
    (motive_3 := fun o => ∀ c x r, (o.resolve c x).1 = .ok (.ok r) → P r)
    (motive_4 := fun outcome => ∀ r, outcome.1 = .ok (.ok r) → P r)
    (motive_5 := fun outcome => ∀ r, outcome = .ok (.ok r) → P r)
    (motive_6 := fun answer => ∀ r, answer = .ok r → P r)
    leaf (fun items ih => list items ih) (fun o ih => object o ih)
    (fun _ h => nomatch h)
    (fun _ _ ih ihs r h => by
      rcases List.mem_cons.mp h with rfl | h
      · exact ih
      · exact ihs r h)
    (fun _ _ _ _ ih c x r h => ih c x r h)
    (fun _ _ ih r h => ih r h)
    (fun _ _ h => nomatch h)
    (fun _ ih r h => ih r (Except.ok.inj h))
    (fun _ _ h => nomatch h)
    (fun _ ih r h => Except.ok.inj h ▸ ih)
    r

/-! ### Tame resolvers -/

/-- A resolved value all of whose resolvers, and those of the values that they give, only add to the
errors and fail without a path of their own. -/
inductive Resolved.Tame : Resolved → Prop where
  | leaf (v : Json) : Tame (.leaf v)
  | list {items : List Resolved} (h : ∀ r ∈ items, Tame r) : Tame (.list items)
  | object {o : ObjectValue Resolved}
      (adds : ∀ c x, x.errors <+: (o.resolve c x).2.errors)
      (fails : ∀ c x f, (o.resolve c x).1 = .ok (.error f) → f.path? = none)
      (gives : ∀ c x r, (o.resolve c x).1 = .ok (.ok r) → Tame r) : Tame (.object o)

/-- An answer that is tame: a value that is, or a failure without a path of its own. -/
def FieldResult.Tame : FieldResult → Prop
  | .ok r    => r.Tame
  | .error f => f.path? = none

theorem Resolved.Tame.reports {o : ObjectValue Resolved} (h : (Resolved.object o).Tame)
    (c : FieldContext) : Work.Reports (o.resolve c) FieldResult.Tame := fun x => by
  cases h with
  | object adds fails gives =>
      refine ⟨adds c x, fun r hr => ?_⟩
      cases r with
      | ok r => exact gives c x r hr
      | error f => exact fails c x f hr

/-- Middleware around fields that only adds to the errors, and whose answers are tame if those it
gets are. -/
def FieldMiddleware.Tame (mw : FieldMiddleware) : Prop :=
  ∀ c, (mw c).Reports fun
    | .answer r       => FieldResult.Tame r
    | .callOn _ after => ∀ r, FieldResult.Tame r → (after r).Reports FieldResult.Tame

/-- A chain of tame middleware around a tame endpoint is tame. -/
theorem Chain.reports_run {chain : Chain Work FieldContext FieldResult}
    (h : ∀ mw ∈ chain, FieldMiddleware.Tame mw) {endpoint : FieldContext → Work FieldResult}
    (he : ∀ c, (endpoint c).Reports FieldResult.Tame) (c : FieldContext) :
    (chain.run endpoint c).Reports FieldResult.Tame := by
  induction chain generalizing c with
  | nil => exact he c
  | cons mw rest ih =>
      refine (h mw List.mem_cons_self c).bind fun step hstep => ?_
      cases step with
      | answer r => exact .pure hstep
      | callOn c' after =>
          exact (ih (fun mw hm => h mw (List.mem_cons_of_mem _ hm)) c').bind hstep

/-! ### Steady resolvers -/

/-- What a resolver leads to when nothing happened before. -/
def ObjectValue.outcome (o : ObjectValue Resolved) (c : FieldContext) : Except Panic FieldResult :=
  (o.resolve c default).1

/-- A resolved value all of whose resolvers, and those of the values that they give, always lead to
the same, report nothing, and fail without a path of their own. -/
inductive Resolved.Steady : Resolved → Prop where
  | leaf (v : Json) : Steady (.leaf v)
  | list {items : List Resolved} (h : ∀ r ∈ items, Steady r) : Steady (.list items)
  | object {o : ObjectValue Resolved}
      (same : ∀ c x, (o.resolve c x).1 = o.outcome c)
      (quiet : ∀ c x, (o.resolve c x).2.errors = x.errors)
      (fails : ∀ c f, o.outcome c = .ok (.error f) → f.path? = none)
      (gives : ∀ c r, o.outcome c = .ok (.ok r) → Steady r) : Steady (.object o)

/-! ### Discreet resolvers -/

/-- A resolved value all of whose resolvers, and those of the values that they give, only add to the
journal, and add no calls of resolvers: these are put down by execution. -/
inductive Resolved.Discreet : Resolved → Prop where
  | leaf (v : Json) : Discreet (.leaf v)
  | list {items : List Resolved} (h : ∀ r ∈ items, Discreet r) : Discreet (.list items)
  | object {o : ObjectValue Resolved}
      (adds : ∀ c x, Extends x.journal (o.resolve c x).2.journal)
      (gives : ∀ c x r, (o.resolve c x).1 = .ok (.ok r) → Discreet r) : Discreet (.object o)

/-- An object all of whose fields have one value. -/
def ObjectValue.uniform (typeName : String) (value : Resolved) : ObjectValue Resolved :=
  ⟨typeName, fun _ => false, fun _ => false, fun _ x => (.ok (.ok value), x)⟩

theorem Resolved.Discreet.uniform {typeName : String} {value : Resolved} (h : value.Discreet) :
    (Resolved.object (.uniform typeName value)).Discreet :=
  .object (fun _ x => .refl x.journal) fun _ _ r hr => by cases hr; exact h

theorem Resolved.Steady.uniform {typeName : String} {value : Resolved} (h : value.Steady) :
    (Resolved.object (.uniform typeName value)).Steady :=
  .object (fun _ _ => rfl) (fun _ _ => rfl) (fun _ _ hf => by cases hf)
    (fun _ _ hr => by cases hr; exact h)

/-! ### Resolvers that are alike -/

/-- Resolved values that are the same, but that a resolver of one may panic where that of the other
fails, and the other way round. -/
inductive Resolved.Alike : Resolved → Resolved → Prop where
  | leaf (v : Json) : Alike (.leaf v) (.leaf v)
  | list {items items' : List Resolved} (length : items.length = items'.length)
      (h : ∀ (i : Nat) r r', items[i]? = some r → items'[i]? = some r' → Alike r r') :
      Alike (.list items) (.list items')
  | object {o o' : ObjectValue Resolved} (typeName : o.typeName = o'.typeName)
      (isMethod : o.isMethod = o'.isMethod) (isResolver : o.isResolver = o'.isResolver)
      (give : ∀ c, (∃ r, o.outcome c = .ok (.ok r)) ↔ ∃ r', o'.outcome c = .ok (.ok r'))
      (gives : ∀ c r r', o.outcome c = .ok (.ok r) → o'.outcome c = .ok (.ok r') → Alike r r') :
      Alike (.object o) (.object o')

end GraphServe
