import GraphServe.Exchange

/-!
# Laws of stages

A stage of `Work` takes an exchange to an outcome and another exchange.  The lemmas `…_apply` say
what the operations on stages do to an exchange.

A stage `Reports` a property if it only adds to the errors of an exchange and what it gives has the
property; it may panic.  A stage `Adds` if it does not, and then the property is one of what it
gives and of the errors it adds.  It `Gives` a property if what it gives has it and nothing is
known of the rest.  All three go through sequences of stages.

A presentation is plain if failures keep what they say and get the path they were met at
(`Presentation.Plain`).
-/

namespace GraphServe

namespace Work

variable {α β : Type}

/-! ### Operations on an exchange -/

theorem pure_apply (a : α) (x : Exchange) : (pure a : Work α) x = (.ok a, x) := rfl

theorem bind_apply (w : Work α) (f : α → Work β) (x : Exchange) :
    (w >>= f) x = match w x with
      | (.ok a, y)    => f a y
      | (.error p, y) => (.error p, y) := by
  show (ExceptT.bindCont f (w x).1) (w x).2 = _
  rcases w x with ⟨_ | _, _⟩ <;> rfl

theorem bind_ok {w : Work α} {f : α → Work β} {x y : Exchange} {a : α} (h : w x = (.ok a, y)) :
    (w >>= f) x = f a y := by
  rw [bind_apply, h]

/-- A sequence gives something if its parts do, one after the other. -/
theorem bind_eq_ok {w : Work α} {f : α → Work β} {x z : Exchange} {b : β} :
    (w >>= f) x = (.ok b, z) ↔ ∃ a y, w x = (.ok a, y) ∧ f a y = (.ok b, z) := by
  rw [bind_apply]
  rcases w x with ⟨_ | a, y⟩
  · refine ⟨fun h => ?_, fun ⟨_, _, h, _⟩ => ?_⟩ <;> cases h
  · refine ⟨fun h => ⟨a, y, rfl, h⟩, fun ⟨_, _, h, h'⟩ => ?_⟩
    cases h
    exact h'

theorem map_eq_ok {w : Work α} {f : α → β} {x z : Exchange} {b : β} :
    (do return f (← w) : Work β) x = (.ok b, z) ↔ ∃ a, w x = (.ok a, z) ∧ f a = b := by
  rw [bind_eq_ok]
  refine ⟨fun ⟨a, y, h, hp⟩ => ?_, fun ⟨a, h, hp⟩ => ⟨a, z, h, hp ▸ rfl⟩⟩
  cases hp
  exact ⟨a, h, rfl⟩

theorem bind_error {w : Work α} {f : α → Work β} {x y : Exchange} {p : Panic}
    (h : w x = (.error p, y)) : (w >>= f) x = (.error p, y) := by
  rw [bind_apply, h]

theorem map_ok {w : Work α} {f : α → β} {x y : Exchange} {a : α} (h : w x = (.ok a, y)) :
    (f <$> w) x = (.ok (f a), y) := by
  rw [← bind_pure_comp, bind_ok h, pure_apply]

theorem modify_apply (f : Exchange → Exchange) (x : Exchange) :
    (modify f : Work Unit) x = (.ok (), f x) := rfl

theorem hold_apply (w : Work α) (x : Exchange) : hold w x = (.ok (w x).1, (w x).2) := rfl

/-! ### Stages that only add errors -/

/-- A stage that only adds to the errors, with what it gives in `Q`. -/
def Reports (w : Work α) (Q : α → Prop) : Prop :=
  ∀ x, x.errors <+: (w x).2.errors ∧ ∀ a, (w x).1 = .ok a → Q a

theorem Reports.pure {Q : α → Prop} {a : α} (h : Q a) : Reports (Pure.pure a) Q := fun x =>
  ⟨List.prefix_rfl, fun b hb => by cases hb; exact h⟩

theorem Reports.bind {w : Work α} {f : α → Work β} {P : α → Prop} {Q : β → Prop}
    (hw : w.Reports P) (hf : ∀ a, P a → (f a).Reports Q) : Reports (w >>= f) Q := fun x => by
  obtain ⟨hx, hp⟩ := hw x
  rw [bind_apply]
  rcases hr : w x with ⟨_ | a, y⟩
  · rw [hr] at hx
    exact ⟨hx, fun _ h => nomatch h⟩
  · rw [hr] at hx hp
    obtain ⟨hy, hq⟩ := hf a (hp a rfl) y
    exact ⟨hx.trans hy, hq⟩

/-- A change of anything but the errors. -/
theorem reports_modify {f : Exchange → Exchange} (h : ∀ x, (f x).errors = x.errors)
    {Q : Unit → Prop} (hq : Q ()) : Reports (modify f) Q := fun x =>
  ⟨(congrArg (x.errors <+: ·) (h x)).mpr List.prefix_rfl, fun _ _ => hq⟩

theorem reports_record (entry : Entry) : (record entry).Reports fun _ => True :=
  reports_modify (f := fun x => { x with journal := x.journal ++ [entry] }) (fun _ => rfl) trivial

/-! ### Stages that give something and add errors -/

/-- A stage that always gives something, and appends errors; the two are related by `Q`. -/
def Adds (w : Work α) (Q : α → List Error → Prop) : Prop :=
  ∀ x, ∃ a y added, w x = (.ok a, y) ∧ y.errors = x.errors ++ added ∧ Q a added

namespace Adds

variable {w : Work α} {P Q : α → List Error → Prop}

theorem pure {a : α} (h : Q a []) : Adds (Pure.pure a) Q := fun x =>
  ⟨a, x, [], rfl, (List.append_nil _).symm, h⟩

theorem bind {f : α → Work β} {R : β → List Error → Prop} (hw : w.Adds P)
    (hf : ∀ a es, P a es → (f a).Adds fun b more => R b (es ++ more)) : Adds (w >>= f) R :=
  fun x => by
    obtain ⟨a, y, es, hx, hy, hp⟩ := hw x
    obtain ⟨b, z, more, hb, hz, hr⟩ := hf a es hp y
    exact ⟨b, z, es ++ more, by rw [bind_ok hx, hb], by rw [hz, hy, List.append_assoc], hr⟩

theorem mono (h : w.Adds P) (sub : ∀ a es, P a es → Q a es) : w.Adds Q := fun x => by
  obtain ⟨a, y, es, hx, hy, hp⟩ := h x
  exact ⟨a, y, es, hx, hy, sub a es hp⟩

/-- What follows adds nothing. -/
theorem map {f : α → β} {R : β → List Error → Prop} (h : w.Adds fun a es => R (f a) es) :
    Adds (do return f (← w)) R :=
  h.bind fun a es hr => .pure (by rw [List.append_nil]; exact hr)

/-- A stage for each of some things. -/
theorem forM {f : β → Work Unit} (h : ∀ b, (f b).Adds fun _ _ => True) (l : List β) :
    (l.forM f).Adds fun _ _ => True := by
  induction l with
  | nil => exact .pure trivial
  | cons b l ih => exact (h b).bind fun _ _ _ => ih

end Adds

/-! ### Stages that give something -/

/-- A stage that always gives something with a property, whatever else it does. -/
def Gives (w : Work α) (P : α → Prop) : Prop := ∀ x, ∃ a y, w x = (.ok a, y) ∧ P a

namespace Gives

variable {w : Work α} {P Q : α → Prop}

theorem pure {a : α} (h : P a) : Gives (Pure.pure a) P := fun x => ⟨a, x, rfl, h⟩

theorem bind {f : α → Work β} {R : β → Prop} (hw : w.Gives P) (hf : ∀ a, P a → (f a).Gives R) :
    Gives (w >>= f) R := fun x => by
  obtain ⟨a, y, hx, hp⟩ := hw x
  obtain ⟨b, z, hb, hr⟩ := hf a hp y
  exact ⟨b, z, by rw [bind_ok hx, hb], hr⟩

theorem mono (h : w.Gives P) (sub : ∀ a, P a → Q a) : w.Gives Q := fun x => by
  obtain ⟨a, y, hx, hp⟩ := h x
  exact ⟨a, y, hx, sub a hp⟩

theorem of_ok (h : w.Gives P) {x y : Exchange} {a : α} (hw : w x = (.ok a, y)) : P a := by
  obtain ⟨b, z, hb, hp⟩ := h x
  cases hb.symm.trans hw
  exact hp

/-- What follows gives something made of it. -/
theorem map {f : α → β} {R : β → Prop} (h : w.Gives fun a => R (f a)) :
    Gives (do return f (← w)) R :=
  h.bind fun _ hr => .pure hr

/-- A stage for each of some things. -/
theorem forM {f : β → Work Unit} (h : ∀ b, (f b).Gives fun _ => True) (l : List β) :
    (l.forM f).Gives fun _ => True := by
  induction l with
  | nil => exact .pure trivial
  | cons b l ih => exact (h b).bind fun _ _ => ih

end Gives

theorem gives_modify (f : Exchange → Exchange) : Gives (modify f) fun _ => True := fun x =>
  ⟨(), f x, rfl, trivial⟩

theorem gives_hold (w : Work α) : (hold w).Gives fun _ => True := fun x =>
  ⟨(w x).1, (w x).2, hold_apply w x, trivial⟩

theorem adds_push {e : Error} {Q : Unit → List Error → Prop} (hq : Q () [e]) :
    Adds (modify (·.push e)) Q := fun x =>
  ⟨(), x.push e, [e], rfl, rfl, hq⟩

/-- A stage whose panic is held gives something always. -/
theorem Reports.hold {w : Work α} {P : α → Prop} (h : w.Reports P) :
    (hold w).Adds fun outcome _ => ∀ a, outcome = .ok a → P a := fun x => by
  obtain ⟨⟨added, hx⟩, hp⟩ := h x
  exact ⟨(w x).1, (w x).2, added, hold_apply w x, hx.symm, hp⟩

end Work

/-! ### Presenting -/

/-- Without a path to give, an error stays as it is. -/
theorem Error.orPath_none (e : Error) : e.orPath none = e := by
  rw [orPath]
  split
  · rfl
  · rename_i h
    rw [← h]

/-- The path that a failure has of its own. -/
def Failure.path? : Failure → Option Path
  | .message _ => none
  | .error e   => e.path

/-- Failures are presented as they are, with the path they were met at, and panics are made failures
without a path of their own. -/
structure Presentation.Plain (p : Presentation) : Prop where
  present : p.present = Presentation.presentAsIs
  recover : ∀ operation panic, (p.recover operation panic).1.path? = none

theorem Presentation.plain_standard : Presentation.standard.Plain := ⟨rfl, fun _ _ => rfl⟩

theorem Presentation.presentAsIs_path {operation : Option OperationContext} {path : Option Path}
    {failure : Failure} (h : failure.path? = none) :
    (presentAsIs operation path failure).path = path := by
  cases failure with
  | message t => rfl
  | error e =>
      have he : e.path = none := h
      rw [presentAsIs, Error.orPath, he]

theorem ResponseContext.adds_addError {c : ResponseContext} (h : c.presentation.Plain)
    {path : Option Path} {failure : Failure} (hf : failure.path? = none) :
    (c.addError path failure).Adds fun _ es => es.map (·.path) = [path] :=
  Work.adds_push (by rw [h.present]; simp [Presentation.presentAsIs_path hf])

theorem ResponseContext.adds_recover {c : ResponseContext} (h : c.presentation.Plain)
    {path : Option Path} {panic : Panic} :
    (c.recover path panic).Adds fun e es => e.path = path ∧ es = [] := by
  have hp : (c.presentation.presentPanic (some c.operation) path panic).1.path = path := by
    rw [Presentation.presentPanic, h.present]
    exact @Presentation.presentAsIs_path (some c.operation) _ _ (h.recover _ _)
  exact fun x => ⟨_, _, [], rfl, (List.append_nil _).symm, hp, rfl⟩

end GraphServe
