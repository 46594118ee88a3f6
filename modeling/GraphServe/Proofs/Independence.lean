import GraphServe.Extension
import GraphServe.Proofs.Resolved
import GraphServe.Proofs.Twins

/-!
# Stages that do not depend on what happened before

Stages that are put in different orders start from different exchanges.  A stage is independent if
it gives the same from every exchange and reports the same errors, if maybe in another order
(`Work.Independent`).  Several stages concur if all of them always give one and the same and report
the same errors (`Work.Concur`); this goes through sequences of stages.

* Resolvers are independent if what they lead to depends on the field alone
  (`Resolved.Independent`).  Plain JSON is (`Resolved.independent_ofJson`).
* Middleware around fields is independent if it keeps independent what it stands around
  (`FieldMiddleware.Independent`), and then so does a chain of it (`Chain.independent_run`).
  Tracing is (`Extension.independent_traceFields`).
-/

namespace GraphServe

/-! ### Stages -/

namespace Work

section

variable {ι α β : Type}

/-- Stages that always give one and the same, with a property, and add the same errors up to their
order. -/
def Concur (w : ι → Work α) (Q : α → Prop) : Prop :=
  ∃ a errors, Q a ∧ ∀ i, (w i).Adds fun b es => b = a ∧ es.Perm errors

/-- A stage that does not depend on what happened before.  It may panic; what it gives has a
property. -/
def Independent (w : Work α) (Q : α → Prop) : Prop :=
  Concur (fun _ : Unit => hold w) fun outcome => ∀ a, outcome = .ok a → Q a

namespace Concur

variable {w : ι → Work α} {P Q : α → Prop}

theorem pure {a : α} (h : Q a) : Concur (fun _ : ι => (Pure.pure a : Work α)) Q :=
  ⟨a, [], h, fun _ => .pure ⟨rfl, .refl _⟩⟩

theorem bind {f : ι → α → Work β} {R : β → Prop} (hw : Concur w P)
    (hf : ∀ a, P a → Concur (fun i => f i a) R) : Concur (fun i => w i >>= f i) R := by
  obtain ⟨a, errors, hp, hw⟩ := hw
  obtain ⟨b, others, hr, hf⟩ := hf a hp
  refine ⟨b, errors ++ others, hr, fun i => (hw i).bind ?_⟩
  rintro _ es ⟨rfl, hes⟩
  exact (hf i).mono fun _ _ hmore => ⟨hmore.1, hes.append hmore.2⟩

/-- A stage for each of some things. -/
theorem forM {f : β → Work Unit} (h : ∀ b, Concur (fun _ : ι => f b) fun _ => True) (l : List β) :
    Concur (fun _ : ι => l.forM f) fun _ => True := by
  induction l with
  | nil => exact .pure trivial
  | cons b l ih => exact (h b).bind fun _ _ => ih

end Concur

/-- A change that adds the same errors always. -/
theorem concur_modify {f : Exchange → Exchange} {errors : List Error}
    (h : ∀ x, (f x).errors = x.errors ++ errors) :
    Concur (fun _ : ι => (modify f : Work Unit)) fun _ => True :=
  ⟨(), errors, trivial, fun _ x => ⟨(), f x, errors, rfl, h x, rfl, .refl _⟩⟩

namespace Independent

variable {w w' : Work α} {Q : α → Prop}

/-- Wherever it stands, a stage whose panic is held gives the same. -/
theorem concur (h : w.Independent Q) :
    Concur (fun _ : ι => hold w) fun outcome => ∀ a, outcome = .ok a → Q a := by
  obtain ⟨outcome, errors, hq, hw⟩ := h
  exact ⟨outcome, errors, hq, fun _ => hw ()⟩

theorem of_eq {outcome : Except Panic α} {errors : List Error}
    (h : ∀ x, (w x).1 = outcome ∧ (w x).2.errors = x.errors ++ errors)
    (hq : ∀ a, outcome = .ok a → Q a) : w.Independent Q :=
  ⟨outcome, errors, hq, fun _ x =>
    ⟨outcome, (w x).2, errors, (h x).1 ▸ hold_apply w x, (h x).2, rfl, .refl _⟩⟩

/-- What happens before, beside the errors, is of no account. -/
theorem after (h : w.Independent Q) {f : Exchange → Exchange} (hf : ∀ x, (f x).errors = x.errors) :
    Independent (do modify f; w) Q := by
  obtain ⟨outcome, errors, hq, hw⟩ := h
  refine ⟨outcome, errors, hq, fun _ x => ?_⟩
  obtain ⟨a, y, added, hy, herrors, hadded⟩ := hw () (f x)
  exact ⟨a, y, added, hy, by rw [herrors, hf], hadded⟩

/-- What happens beside the errors is of no account. -/
theorem congr (h : w.Independent Q)
    (heq : ∀ x, (w' x).1 = (w x).1 ∧ (w' x).2.errors = (w x).2.errors) : w'.Independent Q := by
  obtain ⟨outcome, errors, hq, hw⟩ := h
  refine ⟨outcome, errors, hq, fun _ x => ?_⟩
  obtain ⟨_, y, added, hy, herrors, rfl, hperm⟩ := hw () x
  obtain ⟨houtcome, rfl⟩ := Prod.mk.inj ((hold_apply w x).symm.trans hy)
  refine ⟨_, (w' x).2, added, hold_apply w' x, (heq x).2.trans herrors, ?_, hperm⟩
  exact (heq x).1.trans (Except.ok.inj houtcome)

end Independent

end

end Work

/-! ### Resolvers -/

/-- A resolved value all of whose resolvers, and those of the values that they give, always lead to
the same for a field and report the same errors. -/
inductive Resolved.Independent : Resolved → Prop where
  | leaf (v : Json) : Independent (.leaf v)
  | list {items : List Resolved} (h : ∀ r ∈ items, Independent r) : Independent (.list items)
  | object {o : ObjectValue Resolved}
      (same : ∀ c, ∃ outcome errors, ∀ x,
        (o.resolve c x).1 = outcome ∧ (o.resolve c x).2.errors = x.errors ++ errors)
      (gives : ∀ c x r, (o.resolve c x).1 = .ok (.ok r) → Independent r) : Independent (.object o)

/-- An answer that is independent: a value that is, or a failure. -/
def FieldResult.Independent : FieldResult → Prop
  | .ok r    => r.Independent
  | .error _ => True

theorem Resolved.Independent.resolve {o : ObjectValue Resolved}
    (h : (Resolved.object o).Independent) (c : FieldContext) :
    Work.Independent (o.resolve c) FieldResult.Independent := by
  cases h with
  | object same gives =>
      obtain ⟨outcome, errors, hsame⟩ := same c
      refine .of_eq hsame fun result hresult => ?_
      cases result with
      | ok r => exact gives c default r ((hsame default).1.trans hresult)
      | error failure => trivial

/-- Middleware around fields that keeps independent what it stands around. -/
def FieldMiddleware.Independent (mw : FieldMiddleware) : Prop :=
  ∀ next : FieldContext → Work FieldResult, (∀ c, (next c).Independent FieldResult.Independent) →
    ∀ c, (Chain.run [mw] next c).Independent FieldResult.Independent

/-- A chain of independent middleware around an independent endpoint is independent. -/
theorem Chain.independent_run {chain : Chain Work FieldContext FieldResult}
    (h : ∀ mw ∈ chain, FieldMiddleware.Independent mw) {endpoint : FieldContext → Work FieldResult}
    (he : ∀ c, (endpoint c).Independent FieldResult.Independent) (c : FieldContext) :
    (chain.run endpoint c).Independent FieldResult.Independent := by
  induction chain generalizing c with
  | nil => exact he c
  | cons mw rest ih =>
      have hrest := ih fun mw hm => h mw (List.mem_cons_of_mem _ hm)
      exact h mw List.mem_cons_self (Chain.run rest endpoint) hrest c

/-- A field is traced beside what it leads to. -/
theorem Extension.independent_traceFields : FieldMiddleware.Independent traceFields := by
  intro next hnext c
  refine (hnext c).congr fun x => ?_
  have hget : (get : Work Exchange) x = (.ok x, x) := rfl
  rw [Chain.run, Work.bind_apply, traceFields, Work.bind_ok hget]
  cases x.trace? with
  | none =>
      show ((next c >>= Pure.pure) x).1 = _ ∧ ((next c >>= Pure.pure) x).2.errors = _
      rw [bind_pure]
      exact ⟨rfl, rfl⟩
  | some resolvers =>
      dsimp only
      rw [Work.pure_apply]
      dsimp only
      rw [Chain.run, Work.bind_apply]
      -- the entry is put into the trace after the field was resolved, if it was
      rcases next c x with ⟨_ | result, y⟩
      · exact ⟨rfl, rfl⟩
      · exact ⟨rfl, rfl⟩

/-- **Plain JSON is independent.** -/
theorem Resolved.independent_ofJson (v : Json) (type : String) : (ofJson v type).Independent := by
  induction v using Json.induct generalizing type with
  | null | bool | int | float | string =>
      rw [ofJson]
      exact .leaf _
  | list items ih =>
      rw [ofJson]
      refine .list ?_
      induction items with
      | nil => exact List.forall_mem_nil _
      | cons item items ihitems =>
          obtain ⟨hitem, hitems⟩ := List.forall_mem_cons.mp ih
          exact List.forall_mem_cons.mpr ⟨hitem type, ihitems hitems⟩
  | object members ih =>
      rw [ofJson]
      refine .object (fun c => ⟨_, [], fun x => ⟨rfl, (List.append_nil _).symm⟩⟩) ?_
      intro c x r hr
      cases hr
      rw [lookup_ofMembers]
      cases hfound : members.lookup c.name with
      | none => exact .leaf .null
      | some v => exact ih (c.name, v) (mem_of_lookup hfound) _

end GraphServe
