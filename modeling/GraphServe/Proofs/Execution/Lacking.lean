import GraphServe.Proofs.Execution.Bubbling

/-!
# Fields that their objects lack

A field that its object lacks counts as one that admits no `null`, whatever its type says.  So more
positions sink than by the types alone (`Sinks.weaken`).

* **Lacking fields** (`bubbled_strict_iff`): this changes the data exactly if one of them is of a
  type that admits `null` and is not below a nulled position (`ShowsLacking`).
-/

namespace GraphServe.Execution.Position

open Document

/-- A field that its object lacks and whose type admits `null` is not below a nulled position. -/
def ShowsLacking (t : Position) : Prop :=
  ∃ q, t.at? q = some (.lacking false) ∧ ∀ m, t.nulled false m = true → m <+: q → m = q

theorem showsLacking_of_child {t c : Position} (h : t.Distinct) {e : PathElement}
    (hc : t.child? e = some c) (hn : t.nulled false [] = false) (hs : c.ShowsLacking) :
    t.ShowsLacking := by
  obtain ⟨q, hq, hm⟩ := hs
  refine ⟨e :: q, by rw [at?, hc]; exact hq, fun m hz hp => ?_⟩
  cases m with
  | nil => rw [hn] at hz; cases hz
  | cons e' m =>
      obtain ⟨rfl, hp'⟩ := List.cons_prefix_cons.mp hp
      rw [hm m (by rw [← nulled_cons h hc]; exact hz) hp']

theorem ShowsLacking.child {t : Position} (h : t.Distinct) (hs : t.ShowsLacking) :
    t = .lacking false ∨
      t.nulled false [] = false ∧ ∃ e c, t.child? e = some c ∧ c.ShowsLacking := by
  obtain ⟨q, hq, hm⟩ := hs
  cases q with
  | nil => exact .inl (Option.some.inj hq)
  | cons e r =>
      obtain ⟨c, hc, hr⟩ := Option.bind_eq_some_iff.mp hq
      refine .inr ⟨Bool.eq_false_iff.mpr fun hz => ?_, e, c, hc, r, hr, fun m hz hp => ?_⟩
      · cases hm [] hz List.nil_prefix
      · rw [← nulled_cons h hc] at hz
        exact (List.cons.inj (hm (e :: m) hz (List.cons_prefix_cons.mpr ⟨rfl, hp⟩))).2

theorem here?_weaken {t : Position} (h : t.here? false = none) : t.here? true = none := by
  cases t with
  | lacking r => simp [here?, required]
  | null | leaf | told | failed | list | object => exact h

theorem innermost?_weaken {q : Path} {t : Position} (h : innermost? false q t = none) :
    innermost? true q t = none := by
  induction q generalizing t with
  | nil => exact here?_weaken h
  | cons e r ih =>
      rw [innermost?] at h ⊢
      cases hc : t.child? e with
      | none => rw [hc] at h; exact here?_weaken h
      | some c =>
          rw [hc, Option.bind_some] at h
          cases hi : innermost? false r c with
          | none => rw [hi] at h; rw [Option.bind_some, ih hi]; exact here?_weaken h
          | some p => rw [hi] at h; cases h

/-- Counting lacking fields as required only makes more positions sink. -/
theorem Sinks.weaken {t : Position} (h : t.Sinks false) : t.Sinks true := by
  obtain ⟨q, hq, hn⟩ := h
  exact ⟨q, hq, innermost?_weaken hn⟩

theorem Breaks.weaken {t : Position} (h : t.Breaks false) : t.Breaks true := by
  rcases h with hf | ⟨e, c, hc, hs⟩
  · exact .inl hf
  · exact .inr ⟨e, c, hc, hs.weaken⟩

/-- A tree that sinks only because lacking fields count as required shows one of them. -/
theorem showsLacking_of_sinks {t : Position} (h : t.Distinct) (hs : t.Sinks true)
    (hn : ¬ t.Sinks false) : t.ShowsLacking := by
  obtain ⟨q, hq, hi⟩ := hs
  induction q generalizing t with
  | nil =>
      have hf : t.isFailure = true := nil_mem_failures.mp hq
      cases t with
      | failed r =>
          cases r with
          | true => exact absurd ⟨[], by simp [failures], by simp [innermost?, here?, required]⟩ hn
          | false => simp [innermost?, here?, required] at hi
      | lacking r =>
          cases r with
          | true => exact absurd ⟨[], by simp [failures], by simp [innermost?, here?, required]⟩ hn
          | false => exact ⟨[], rfl, fun m _ hp => List.prefix_nil.mp hp⟩
      | null | leaf | told | list | object => cases hf
  | cons e r ih =>
      obtain ⟨c, hc, hr⟩ := (cons_mem_failures h).mp hq
      -- the failure sinks through the child, so the child shows a lacking field by induction
      have hnone : innermost? true r c = none := by
        rw [innermost?_cons hc] at hi
        cases hir : innermost? true r c with
        | none => rfl
        | some p => rw [hir] at hi; cases hi
      have hreq : t.required false = true := by
        have hs : t.Sinks true := ⟨e :: r, hq, hi⟩
        have := ((sinks_iff h).mp hs).1
        cases t <;> simp_all [required, child?]
      -- were the position nulled without the lacking field, it would sink without it
      have hbreaks : ¬ t.Breaks false := fun hb => hn ((sinks_iff h).mpr ⟨hreq, hb⟩)
      have hz : t.nulled false [] = false :=
        Bool.eq_false_iff.mpr fun hz => hbreaks ((nulled_nil h).mp hz).2
      have hcs : ¬ c.Sinks false := fun hs => hbreaks (.inr ⟨e, c, hc, hs⟩)
      exact showsLacking_of_child h hc hz (ih (h.child hc) hcs hr hnone)

/-- The case of a position that is no failure, with `body` what it shows where it is not nulled. -/
theorem bubbled_strict_iff_of_body {t : Position} (h : t.Distinct) (hs : ¬ t.Sinks true)
    (hf : t.isFailure = false) {body : Bool → Json}
    (hbody : ∀ strict, t.bubbled strict = if t.nulled strict [] then .null else body strict)
    (hnull : body false ≠ .null)
    (hbelow : (∀ e c, t.child? e = some c → ¬ c.Sinks true) →
      (body true = body false ↔ ∀ e c, t.child? e = some c → ¬ c.ShowsLacking)) :
    t.bubbled true = t.bubbled false ↔ ¬ t.ShowsLacking := by
  have hne : t ≠ .lacking false := fun ht => by rw [ht] at hf; cases hf
  have hreq : t.Breaks true → t.required true = false := fun hb =>
    Bool.eq_false_iff.mpr fun hr => hs ((sinks_iff h).mpr ⟨hr, hb⟩)
  have hsame : t.required false = t.required true := by
    cases t with
    | lacking r => cases hf
    | null | leaf | told | failed | list | object => rfl
  rw [hbody, hbody]
  by_cases hb : t.Breaks true
  · have hzt : t.nulled true [] = true := (nulled_nil h).mpr ⟨hreq hb, hb⟩
    by_cases hb' : t.Breaks false
    · -- the null of another failure is here either way
      have hzf : t.nulled false [] = true := (nulled_nil h).mpr ⟨by rw [hsame, hreq hb], hb'⟩
      have hno : ¬ t.ShowsLacking := fun hl => by
        obtain ⟨hz, -⟩ := (hl.child h).resolve_left hne
        rw [hzf] at hz
        cases hz
      simp [hzt, hzf, hno]
    -- only a lacking field brings a null here, so the two trees differ here
    · have hzf : t.nulled false [] = false :=
        Bool.eq_false_iff.mpr fun hz => hb' ((nulled_nil h).mp hz).2
      obtain ⟨e, c, hc, hcs⟩ := hb.resolve_left (by rw [hf]; simp)
      have hl : t.ShowsLacking := showsLacking_of_child h hc hzf
        (showsLacking_of_sinks (h.child hc) hcs fun hcs => hb' (.inr ⟨e, c, hc, hcs⟩))
      simp [hzt, hzf, hl, hnull.symm]
  -- no null comes here, so the two trees differ just where those below do
  · have hz : ∀ strict, t.nulled strict [] = false := fun strict =>
      Bool.eq_false_iff.mpr fun hz => by
        cases strict with
        | true => exact hb ((nulled_nil h).mp hz).2
        | false => exact hb ((nulled_nil h).mp hz).2.weaken
    rw [hz, hz, if_neg Bool.false_ne_true, if_neg Bool.false_ne_true,
      hbelow fun e c hc hcs => hb (.inr ⟨e, c, hc, hcs⟩)]
    constructor
    · intro hall hl
      obtain ⟨-, e, c, hc, hcl⟩ := (hl.child h).resolve_left hne
      exact hall e c hc hcl
    · exact fun hno e c hc hcl => hno (showsLacking_of_child h hc (hz false) hcl)

/-- **Lacking fields.**  For a tree that does not sink, counting lacking fields as required changes
the data exactly if one that admits `null` is not below a nulled position. -/
theorem bubbled_strict_iff {t : Position} (h : t.Distinct) (hs : ¬ t.Sinks true) :
    t.bubbled true = t.bubbled false ↔ ¬ t.ShowsLacking := by
  induction t with
  | null | leaf | told | failed =>
      refine iff_of_true (by simp [bubbled, shown, nulled, failures]) fun hl => ?_
      obtain ⟨-, e, c, hc, -⟩ := (hl.child h).resolve_left (by simp)
      simp [child?] at hc
  | lacking r =>
      exact absurd ⟨[], by simp [failures], by simp [innermost?, here?, required]⟩ hs
  | list r items ih =>
      refine bubbled_strict_iff_of_body h hs rfl (fun _ => bubbled_list h) (by simp) fun hcs => ?_
      have hc : ∀ c ∈ items, (c.bubbled true = c.bubbled false ↔ ¬ c.ShowsLacking) := fun c hm => by
        obtain ⟨i, hi⟩ := List.getElem?_of_mem hm
        exact ih c hm (h.child (e := .index i) hi) (hcs (.index i) c hi)
      rw [Json.list.injEq, List.map_inj_left]
      constructor
      · rintro hall (i | k) c hi
        · exact (hc c (List.mem_of_getElem? hi)).mp (hall c (List.mem_of_getElem? hi))
        · cases hi
      · intro hall c hm
        obtain ⟨i, hi⟩ := List.getElem?_of_mem hm
        exact (hc c hm).mpr (hall (.index i) c hi)
  | object r type sets fields ih =>
      have keys : (fields.map Prod.fst).Nodup := by cases h with | object keys _ => exact keys
      refine bubbled_strict_iff_of_body h hs rfl (fun _ => bubbled_object h keys) (by simp)
        fun hcs => ?_
      have hc : ∀ f ∈ fields, (f.2.bubbled true = f.2.bubbled false ↔ ¬ f.2.ShowsLacking) :=
        fun f hm => by
          have hi : (object r type sets fields).child? (.key f.1) = some f.2 :=
            (lookup_eq_some_iff keys).mpr hm
          exact ih f hm (h.child hi) (hcs _ _ hi)
      rw [Json.object.injEq, List.map_inj_left]
      constructor
      · rintro hall (i | k) c hi
        · cases hi
        · have hm : (k, c) ∈ fields := (lookup_eq_some_iff keys).mp hi
          exact (hc _ hm).mp (Prod.ext_iff.mp (hall _ hm)).2
      · intro hall f hm
        exact Prod.ext rfl ((hc f hm).mpr (hall (.key f.1) f.2 ((lookup_eq_some_iff keys).mpr hm)))

end GraphServe.Execution.Position
