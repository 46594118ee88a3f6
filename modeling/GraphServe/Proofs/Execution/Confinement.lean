import GraphServe.Execution.Engine
import GraphServe.Proofs.Work

/-!
# Execution changes no more than its resolvers

By itself execution reports errors and writes into the journal, and nothing else of an exchange
changes.  So whatever the resolvers and the middleware around fields keep to is kept to by an
operation (`Execution.executeOperation_leads`), which moreover always gives its data: a panic ends at
the field it is met at.

* `Exchange.Permits` says of a relation between exchanges that errors and entries may be added.
* `Work.Stays` and `Work.Leads` say of a stage that it keeps to a relation; the first may panic.
* `Resolved.Stays` and `FieldMiddleware.Stays` say it of resolvers and the middleware around them.
-/

namespace GraphServe

/-- A relation between exchanges before and after a stage, by which errors may be reported and the
journal may change. -/
structure Exchange.Permits (R : Exchange → Exchange → Prop) : Prop where
  refl    : ∀ x, R x x
  trans   : ∀ {x y z}, R x y → R y z → R x z
  push    : ∀ x e, R x (x.push e)
  journal : ∀ (x : Exchange) (journal : List Entry), R x { x with journal }

namespace Work

variable {α β : Type} {R : Exchange → Exchange → Prop}

/-! ### Stages that keep to a relation -/

/-- A stage that keeps to a relation, with what it gives in `Q`; it may panic. -/
def Stays (R : Exchange → Exchange → Prop) (w : Work α) (Q : α → Prop) : Prop :=
  ∀ x, R x (w x).2 ∧ ∀ a, (w x).1 = .ok a → Q a

/-- A stage that keeps to a relation and always gives something, which is in `Q`. -/
def Leads (R : Exchange → Exchange → Prop) (w : Work α) (Q : α → Prop) : Prop :=
  ∀ x, ∃ a y, w x = (.ok a, y) ∧ R x y ∧ Q a

theorem Stays.bind {w : Work α} {f : α → Work β} {P : α → Prop} {Q : β → Prop}
    (trans : ∀ {x y z}, R x y → R y z → R x z) (hw : Stays R w P)
    (hf : ∀ a, P a → Stays R (f a) Q) : Stays R (w >>= f) Q := fun x => by
  obtain ⟨hx, hp⟩ := hw x
  rw [bind_apply]
  rcases hr : w x with ⟨_ | a, y⟩
  · rw [hr] at hx
    exact ⟨hx, fun _ h => nomatch h⟩
  · rw [hr] at hx hp
    obtain ⟨hy, hq⟩ := hf a (hp a rfl) y
    exact ⟨trans hx hy, hq⟩

theorem Leads.stays {w : Work α} {Q : α → Prop} (h : Leads R w Q) : Stays R w Q := fun x => by
  obtain ⟨a, y, hx, hr, hq⟩ := h x
  rw [hx]
  exact ⟨hr, fun b hb => by cases hb; exact hq⟩

namespace Leads

variable {w : Work α} {P Q : α → Prop}

theorem mono (h : Leads R w P) (sub : ∀ a, P a → Q a) : Leads R w Q := fun x => by
  obtain ⟨a, y, hx, hr, hp⟩ := h x
  exact ⟨a, y, hx, hr, sub a hp⟩

theorem bind {f : α → Work β} {S : β → Prop} (trans : ∀ {x y z}, R x y → R y z → R x z)
    (hw : Leads R w P) (hf : ∀ a, P a → Leads R (f a) S) : Leads R (w >>= f) S := fun x => by
  obtain ⟨a, y, hx, hr, hp⟩ := hw x
  obtain ⟨b, z, hb, hr', hs⟩ := hf a hp y
  exact ⟨b, z, by rw [bind_ok hx, hb], trans hr hr', hs⟩

/-- What follows leaves the exchange alone. -/
theorem map {f : α → β} {S : β → Prop} (h : Leads R w fun a => S (f a)) :
    Leads R (do return f (← w)) S := fun x => by
  obtain ⟨a, y, hx, hr, hs⟩ := h x
  exact ⟨f a, y, bind_ok hx, hr, hs⟩

end Leads

/-- A stage whose panic is held always gives something. -/
theorem Stays.hold {w : Work α} {Q : α → Prop} (h : Stays R w Q) :
    Leads R (hold w) fun outcome => ∀ a, outcome = .ok a → Q a := fun x =>
  ⟨(w x).1, (w x).2, hold_apply w x, (h x).1, (h x).2⟩

section

variable (hR : Exchange.Permits R)
include hR

theorem leads_pure {Q : α → Prop} {a : α} (h : Q a) : Leads R (pure a) Q := fun x =>
  ⟨a, x, rfl, hR.refl x, h⟩

theorem leads_forM {f : β → Work Unit} (h : ∀ b, Leads R (f b) fun _ => True) (l : List β) :
    Leads R (l.forM f) fun _ => True := by
  induction l with
  | nil => exact leads_pure hR trivial
  | cons b l ih => exact (h b).bind hR.trans fun _ _ => ih

theorem leads_push (e : Error) : Leads R (modify (·.push e)) fun _ => True := fun x =>
  ⟨(), x.push e, rfl, hR.push x e, trivial⟩

theorem leads_record (entry : Entry) : Leads R (record entry) fun _ => True := fun x =>
  ⟨(), _, rfl, hR.journal x _, trivial⟩

theorem leads_events (logged : List Event) : Leads R (events logged) fun _ => True := fun x =>
  ⟨(), _, rfl, hR.journal x _, trivial⟩

end

end Work

section

variable {R : Exchange → Exchange → Prop}

theorem ResponseContext.leads_addError (hR : Exchange.Permits R) (c : ResponseContext)
    (path : Option Path) (failure : Failure) : Work.Leads R (c.addError path failure) fun _ => True :=
  Work.leads_push hR _

/-! ### Resolvers -/

/-- A resolved value all of whose resolvers, and those of the values that they give, keep to a
relation. -/
inductive Resolved.Stays (R : Exchange → Exchange → Prop) : Resolved → Prop where
  | leaf (v : Json) : Stays R (.leaf v)
  | list {items : List Resolved} (h : ∀ r ∈ items, Stays R r) : Stays R (.list items)
  | object {o : ObjectValue Resolved}
      (stays : ∀ c x, R x (o.resolve c x).2)
      (gives : ∀ c x r, (o.resolve c x).1 = .ok (.ok r) → Stays R r) : Stays R (.object o)

/-- An answer whose value, if it is one, keeps to a relation. -/
def FieldResult.Stays (R : Exchange → Exchange → Prop) (result : FieldResult) : Prop :=
  ∀ r, result = .ok r → r.Stays R

/-- Middleware around fields that keeps to a relation, with answers that do if those it gets do. -/
def FieldMiddleware.Stays (R : Exchange → Exchange → Prop) (mw : FieldMiddleware) : Prop :=
  ∀ c, Work.Stays R (mw c) fun
    | .answer r       => FieldResult.Stays R r
    | .callOn _ after => ∀ r, FieldResult.Stays R r → Work.Stays R (after r) (FieldResult.Stays R)

theorem Resolved.Stays.resolve {o : ObjectValue Resolved} (h : (Resolved.object o).Stays R)
    (c : FieldContext) : Work.Stays R (o.resolve c) (FieldResult.Stays R) := fun x => by
  cases h with
  | object stays gives => exact ⟨stays c x, fun result hresult r hr => gives c x r (hr ▸ hresult)⟩

/-- A chain of middleware around an endpoint keeps to what all of them keep to. -/
theorem Chain.stays_run (hR : Exchange.Permits R) {chain : Chain Work FieldContext FieldResult}
    (h : ∀ mw ∈ chain, FieldMiddleware.Stays R mw) (endpoint : FieldContext → Work FieldResult)
    (he : ∀ c, Work.Stays R (endpoint c) (FieldResult.Stays R)) (c : FieldContext) :
    Work.Stays R (chain.run endpoint c) (FieldResult.Stays R) := by
  induction chain generalizing c with
  | nil => exact he c
  | cons mw rest ih =>
      refine (h mw List.mem_cons_self c).bind hR.trans fun step hstep => ?_
      cases step with
      | answer r => exact (Work.leads_pure (Q := FieldResult.Stays R) hR hstep).stays
      | callOn c' after =>
          exact (ih (fun mw hm => h mw (List.mem_cons_of_mem _ hm)) c').bind hR.trans hstep

end

namespace Execution

open Document

section

variable {R : Exchange → Exchange → Prop} (hR : Exchange.Permits R)
include hR

/-! ### Values -/

theorem raise_leads {α : Type} (response : ResponseContext) (path : Path) (message : String) :
    Work.Leads R (raise (α := α) response path message) fun _ => True :=
  (response.leads_addError hR _ _).bind hR.trans fun _ _ => Work.leads_pure hR trivial

theorem completeLeaf_leads (s : Schema) (response : ResponseContext) (name : String) (path : Path)
    (v : Json) : Work.Leads R (completeLeaf s response name path v) fun _ => True := by
  rw [completeLeaf]
  split
  · exact raise_leads hR response path _
  · split
    · exact Work.leads_pure hR trivial
    · exact raise_leads hR response path _

theorem completeItems_leads {complete : Path → Resolved → Work Completed} {item : TypeRef}
    (path : Path) {items : List Resolved}
    (h : ∀ path, ∀ r ∈ items, Work.Leads R (complete path r) fun _ => True) (i : Nat) :
    Work.Leads R (completeItems complete item path items i) fun _ => True := by
  induction items generalizing i with
  | nil => exact Work.leads_pure hR trivial
  | cons first rest ih =>
      rw [completeItems]
      refine (h _ first List.mem_cons_self).bind hR.trans fun found _ => ?_
      split
      · exact Work.leads_pure hR trivial
      · exact (ih (fun path r hr => h path r (List.mem_cons_of_mem _ hr)) _).bind hR.trans
          fun _ _ => Work.leads_pure hR trivial

theorem completeObject_leads {s : Schema} {response : ResponseContext} {execute : ExecuteObject}
    (hexec : ∀ concrete object path, (Resolved.object object).Stays R →
      Work.Leads R (execute concrete object path) fun _ => True)
    (name : String) (path : Path) {o : ObjectValue Resolved} (ho : (Resolved.object o).Stays R) :
    Work.Leads R (completeObject s response execute name path o) fun _ => True := by
  rw [completeObject]
  split
  · exact raise_leads hR response path _
  · split
    · exact (hexec _ o path ho).map
    · exact raise_leads hR response path _

/-- By the type that the value is to be of: that of its items is smaller. -/
theorem complete_leads {s : Schema} {response : ResponseContext} {execute : ExecuteObject}
    (hexec : ∀ concrete object path, (Resolved.object object).Stays R →
      Work.Leads R (execute concrete object path) fun _ => True)
    (type : TypeRef) (path : Path) {r : Resolved} (hr : r.Stays R) :
    Work.Leads R (complete s response execute type path r) fun _ => True := by
  have hraise (message : String) : Work.Leads R (raise (α := Json) response path message)
      fun _ => True := raise_leads hR response path message
  have hnull (type : TypeRef) :
      Work.Leads R (complete s response execute type path (.leaf .null)) fun _ => True := by
    rw [complete]
    split
    · exact hraise _
    · exact Work.leads_pure hR trivial
  induction type generalizing path r with
  | named name required =>
      cases hr with
      | leaf v =>
          cases v with
          | null => exact hnull _
          | _ => exact completeLeaf_leads hR s response name path _
      | list => exact hraise _
      | object stays gives => exact completeObject_leads hR hexec name path (.object stays gives)
  | list item required ih =>
      cases hr with
      | leaf v =>
          cases v with
          | null => exact hnull _
          | _ => exact hraise _
      | list hitems =>
          rw [complete]
          refine (completeItems_leads hR path (fun path r hr => ?_) 0).bind hR.trans fun found _ => ?_
          · exact ih path (hitems r hr) (raise_leads hR response path) fun type => by
              rw [complete]
              split
              · exact raise_leads hR response path _
              · exact Work.leads_pure hR trivial
          · split
            · exact Work.leads_pure hR trivial
            · exact Work.leads_pure hR trivial
      | object => exact hraise _

/-! ### Fields -/

namespace Run

variable (x : Run)

theorem resolveField_leads (hx : ∀ mw ∈ x.fields, FieldMiddleware.Stays R mw)
    {object : ObjectValue Resolved} (ho : (Resolved.object object).Stays R) (c : FieldContext) :
    Work.Leads R (x.resolveField object c) fun found => ∀ r, found = some r → r.Stays R := by
  have hchain := Chain.stays_run hR hx object.call
    (fun c => (Work.leads_record hR _).stays.bind hR.trans fun _ _ => ho.resolve c) c
  rw [resolveField]
  refine hchain.hold.bind hR.trans fun outcome hout => ?_
  split
  · exact Work.leads_pure hR fun r hr => Option.some.inj hr ▸ hout _ rfl _ rfl
  · exact (x.response.leads_addError hR _ _).bind hR.trans fun _ _ =>
      Work.leads_pure hR fun r hr => by cases hr
  · refine Work.Leads.bind (P := fun _ => True) hR.trans ?_ fun e _ => ?_
    · exact (Work.leads_events hR _).bind hR.trans fun _ _ => Work.leads_pure hR trivial
    · exact (Work.leads_push hR e).bind hR.trans fun _ _ =>
        Work.leads_pure hR fun r hr => by cases hr

theorem executeField_leads (hx : ∀ mw ∈ x.fields, FieldMiddleware.Stays R mw)
    (execute : Path → List (List ExecutableSelection) → ExecuteObject)
    (hexec : ∀ path sets concrete object here, (Resolved.object object).Stays R →
      Work.Leads R (execute path sets concrete object here) fun _ => True)
    (parent? : Option Path) (type : TypeDefinition) {object : ObjectValue Resolved}
    (ho : (Resolved.object object).Stays R) (path : Path) (field : CollectedField)
    (fields : List CollectedField) :
    Work.Leads R (x.executeField execute parent? type object path field fields) fun _ => True := by
  rw [executeField]
  split
  · exact Work.leads_pure hR trivial
  split
  · split
    · exact Work.leads_pure hR trivial
    · exact (x.response.leads_addError hR _ _).bind hR.trans fun _ _ => Work.leads_pure hR trivial
  split
  · exact raise_leads hR x.response path _
  · refine (x.resolveField_leads hR hx ho _).bind hR.trans fun found hfound => ?_
    split
    · exact Work.leads_pure hR trivial
    · exact (complete_leads hR (hexec _ _) _ path (hfound _ rfl)).bind hR.trans fun _ _ =>
        Work.leads_pure hR trivial

theorem executeGroups_leads
    {execute : String → CollectedField → List CollectedField → Work Completed}
    (h : ∀ key field fields, Work.Leads R (execute key field fields) fun _ => True)
    (groups : FieldGroups) : Work.Leads R (executeGroups execute groups) fun _ => True := by
  induction groups with
  | nil => exact Work.leads_pure hR trivial
  | cons group rest ih =>
      obtain ⟨key, _ | ⟨field, fields⟩⟩ := group
      · exact ih
      · refine (h key field (field :: fields)).bind hR.trans fun value _ => ?_
        refine ih.bind hR.trans fun values _ => ?_
        split
        · exact Work.leads_pure hR trivial
        · exact Work.leads_pure hR trivial

theorem executeObject_leads (hx : ∀ mw ∈ x.fields, FieldMiddleware.Stays R mw) (fuel : Nat)
    (parent? : Option Path) (sets : List (List ExecutableSelection)) (type : TypeDefinition)
    {object : ObjectValue Resolved} (ho : (Resolved.object object).Stays R) (path : Path) :
    Work.Leads R (x.executeObject fuel parent? sets type object path) fun _ => True := by
  induction fuel generalizing parent? sets type object path with
  | zero => exact raise_leads hR x.response path _
  | succ fuel ih =>
      have hfield (key : String) (field : CollectedField) (fields : List CollectedField) :=
        x.executeField_leads hR hx (fun path sets => x.executeObject fuel (some path) sets)
          (fun path sets concrete object here ho => ih (some path) sets concrete ho here) parent? type
          ho (path ++ [.key key]) field fields
      rw [executeObject]
      exact executeGroups_leads hR hfield _

end Run

/-! ### Operations -/

theorem introspect_leads (service : Service) (response : ResponseContext) (d : Executable)
    (o : Operation FieldDefinition) :
    Work.Leads R (introspect service response d o) fun _ => True := by
  rw [introspect]
  split
  · exact Work.leads_pure hR trivial
  · exact (Work.leads_forM hR (fun _ => response.leads_addError hR _ _) _).bind hR.trans
      fun _ _ => Work.leads_pure hR trivial

/-- **Execution changes no more than its resolvers**, and always gives data. -/
theorem executeOperation_leads {service : Service} {fields : Chain Work FieldContext FieldResult}
    (hfields : ∀ mw ∈ fields, FieldMiddleware.Stays R mw) (response : ResponseContext)
    (d : Executable) (o : Operation FieldDefinition) {root : ObjectValue Resolved}
    (hroot : (Resolved.object root).Stays R) :
    Work.Leads R (executeOperation service fields response d o root) fun _ => True := by
  rw [executeOperation]
  refine (introspect_leads hR service response d o).bind hR.trans fun introspection _ => ?_
  dsimp only
  split
  · rename_i name description directives interfaces defined htype
    have hobject := Run.executeObject_leads hR
      { service, response, document := d, fields, introspection } hfields (d.fieldCount + 1) none
      [o.selections] ⟨name, description, directives, .object interfaces defined⟩ hroot []
    refine hobject.bind hR.trans fun found _ => ?_
    split
    · exact Work.leads_pure hR trivial
    · exact Work.leads_pure hR trivial
  · exact (response.leads_addError hR _ _).bind hR.trans fun _ _ => Work.leads_pure hR trivial

end

end Execution

end GraphServe
