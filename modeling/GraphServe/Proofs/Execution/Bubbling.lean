import Mathlib.Tactic.ByContra
import GraphServe.Proofs.Execution.Position

/-!
# Nulls that move outwards, step by step and all at once

`Position.settle` passes the null of a failure from a position to the one around it until one
admits it.  `Position.bubbled` looks at the whole tree: it finds the paths of all failures, and for
each of them the innermost position around it that admits `null`.

The link is `Sinks`: a failure below the position, or the position's own, has no position on its
way that admits `null`.  A position sinks exactly when it is required and `Breaks`, that is, it is a
failure or one of the positions directly below it sinks (`sinks_iff`); it is nulled exactly when it
is not required and breaks (`nulled_nil`).

* **Settling is bubbling** (`settle_eq`): nothing stays of a tree that sinks, and of any other tree
  there stays `bubbled`, with lacking fields counted as required.
* **What is kept** (`shown_keeps`): a position at and around which nothing is nulled is shown as it
  was found.
-/

namespace GraphServe.Execution.Position

open Document

variable {strict : Bool}

/-- The keys of every object in the tree are different. -/
inductive Distinct : Position → Prop where
  | null : Distinct .null
  | leaf (r : Bool) (v : Json) : Distinct (.leaf r v)
  | told (v : Json) : Distinct (.told v)
  | failed (r : Bool) : Distinct (.failed r)
  | lacking (r : Bool) : Distinct (.lacking r)
  | list {r : Bool} {items : List Position} (below : ∀ c ∈ items, Distinct c) :
      Distinct (.list r items)
  | object {r : Bool} {type : String} {sets : List (List ExecutableSelection)}
      {fields : List (String × Position)} (keys : (fields.map Prod.fst).Nodup)
      (below : ∀ f ∈ fields, Distinct f.2) : Distinct (.object r type sets fields)

/-! ### Children -/

theorem lookup_eq_some_iff {α : Type} {fields : List (String × α)}
    (h : (fields.map Prod.fst).Nodup) {key : String} {c : α} :
    fields.lookup key = some c ↔ (key, c) ∈ fields := by
  induction fields with
  | nil => simp
  | cons f rest ih =>
      obtain ⟨k, d⟩ := f
      simp only [List.map_cons, List.nodup_cons] at h
      rw [List.lookup_cons, List.mem_cons]
      by_cases hk : key = k
      · subst hk
        have : (key, c) ∉ rest := fun hm => h.1 (List.mem_map_of_mem (f := Prod.fst) hm)
        simp [this, eq_comm]
      · simp [beq_false_of_ne hk, hk, ih h.2]

theorem Distinct.child {t c : Position} {e : PathElement} (h : t.Distinct)
    (hc : t.child? e = some c) : c.Distinct := by
  cases h with
  | null | leaf | told | failed | lacking => simp [child?] at hc
  | list below =>
      cases e with
      | key => simp [child?] at hc
      | index i => exact below c (List.mem_of_getElem? hc)
  | object keys below =>
      cases e with
      | index => simp [child?] at hc
      | key k => exact below (k, c) ((lookup_eq_some_iff keys).mp hc)

/-! ### Failures -/

theorem mem_itemFailures {items : List Position} {i : Nat} {q : Path} :
    q ∈ itemFailures i items ↔
      ∃ j c r, items[j]? = some c ∧ r ∈ c.failures ∧ q = .index (i + j) :: r := by
  induction items generalizing i with
  | nil => simp [itemFailures]
  | cons first rest ih =>
      simp only [itemFailures, List.mem_append, List.mem_map, ih]
      constructor
      · rintro (⟨r, hr, rfl⟩ | ⟨j, c, r, hj, hr, rfl⟩)
        · exact ⟨0, first, r, rfl, hr, rfl⟩
        · exact ⟨j + 1, c, r, by simpa using hj, hr, by rw [Nat.add_assoc, Nat.add_comm 1 j]⟩
      · rintro ⟨j, c, r, hj, hr, rfl⟩
        cases j with
        | zero =>
            cases (Option.some.inj hj : first = c)
            exact .inl ⟨r, hr, rfl⟩
        | succ j =>
            exact .inr ⟨j, c, r, by simpa using hj, hr, by rw [Nat.add_assoc, Nat.add_comm 1 j]⟩

theorem mem_fieldFailures {fields : List (String × Position)} {q : Path} :
    q ∈ fieldFailures fields ↔ ∃ f ∈ fields, ∃ r ∈ f.2.failures, q = .key f.1 :: r := by
  induction fields with
  | nil => simp [fieldFailures]
  | cons f rest ih =>
      simp only [fieldFailures, List.mem_append, List.mem_map, ih, List.mem_cons,
        exists_eq_or_imp, @eq_comm Path q]

@[simp] theorem nil_mem_failures {t : Position} : [] ∈ t.failures ↔ t.isFailure = true := by
  cases t with
  | list _ items => simp [failures, isFailure, mem_itemFailures]
  | object _ _ _ fields => simp [failures, isFailure, mem_fieldFailures]
  | _ => simp [failures, isFailure]

/-- A failure is one of a position directly below, unless it is the position's own. -/
theorem cons_mem_failures {t : Position} (h : t.Distinct) {e : PathElement} {r : Path} :
    e :: r ∈ t.failures ↔ ∃ c, t.child? e = some c ∧ r ∈ c.failures := by
  cases h with
  | null | leaf | told | failed | lacking => simp [failures, child?]
  | list below =>
      simp only [failures, mem_itemFailures, Nat.zero_add, List.cons.injEq]
      constructor
      · rintro ⟨j, c, r, hj, hr, rfl, rfl⟩
        exact ⟨c, hj, hr⟩
      · rintro ⟨c, hc, hr⟩
        cases e with
        | key => simp [child?] at hc
        | index i => exact ⟨i, c, r, hc, hr, rfl, rfl⟩
  | object keys below =>
      simp only [failures, mem_fieldFailures, List.cons.injEq]
      constructor
      · rintro ⟨⟨k, c⟩, hf, r, hr, rfl, rfl⟩
        exact ⟨c, (lookup_eq_some_iff keys).mpr hf, hr⟩
      · rintro ⟨c, hc, hr⟩
        cases e with
        | index => simp [child?] at hc
        | key k => exact ⟨(k, c), (lookup_eq_some_iff keys).mp hc, r, hr, rfl, rfl⟩

/-! ### Sinking -/

/-- Some failure has no position on its way that admits `null`. -/
def Sinks (strict : Bool) (t : Position) : Prop :=
  ∃ q ∈ t.failures, innermost? strict q t = none

/-- The null of a failure comes to the position. -/
def Breaks (strict : Bool) (t : Position) : Prop :=
  t.isFailure = true ∨ ∃ e c, t.child? e = some c ∧ c.Sinks strict

theorem innermost?_cons {t c : Position} {e : PathElement} (hc : t.child? e = some c) (r : Path) :
    innermost? strict (e :: r) t =
      (innermost? strict r c).elim (t.here? strict) fun p => some (e :: p) := by
  rw [innermost?, hc, Option.bind_some]

/-- What is found on the way to a path is the position itself or lies below it. -/
theorem innermost?_eq {t : Position} {e : PathElement} {r : Path} {found : Option Path}
    (h : innermost? strict (e :: r) t = found) :
    found = t.here? strict ∨ ∃ p, found = some (e :: p) := by
  rw [innermost?] at h
  cases hi : (t.child? e).bind (innermost? strict r) with
  | none => rw [hi] at h; exact .inl h.symm
  | some p => rw [hi] at h; exact .inr ⟨p, h.symm⟩

/-- The null of a failure comes to a position just if no nearer position to the failure admits
`null`. -/
theorem breaks_iff {t : Position} (h : t.Distinct) :
    t.Breaks strict ↔ ∃ q ∈ t.failures, innermost? strict q t = t.here? strict := by
  constructor
  · rintro (hf | ⟨e, c, hc, r, hr, hn⟩)
    · exact ⟨[], nil_mem_failures.mpr hf, rfl⟩
    · refine ⟨e :: r, (cons_mem_failures h).mpr ⟨c, hc, hr⟩, ?_⟩
      rw [innermost?_cons hc, hn, Option.elim_none]
  · rintro ⟨q, hq, hn⟩
    cases q with
    | nil => exact .inl (nil_mem_failures.mp hq)
    | cons e r =>
        obtain ⟨c, hc, hr⟩ := (cons_mem_failures h).mp hq
        refine .inr ⟨e, c, hc, r, hr, ?_⟩
        rw [innermost?_cons hc] at hn
        cases hi : innermost? strict r c with
        | none => rfl
        | some p =>
            rw [hi, Option.elim_some, here?] at hn
            split at hn <;> simp at hn

/-- What is found on the way to a path is the position itself only if it admits `null`, and nothing
only if it does not. -/
theorem here?_of_innermost? {t : Position} {q : Path} {found : Option Path}
    (hn : innermost? strict q t = found) (hf : ∀ e p, found ≠ some (e :: p)) :
    found = t.here? strict := by
  cases q with
  | nil => exact hn.symm
  | cons e r => exact (innermost?_eq hn).resolve_right fun ⟨p, hp⟩ => hf e p hp

/-- **Sinking**: a position sinks if it admits no `null` and the null of a failure comes to it. -/
theorem sinks_iff {t : Position} (h : t.Distinct) :
    t.Sinks strict ↔ t.required strict = true ∧ t.Breaks strict := by
  rw [breaks_iff h]
  constructor
  · rintro ⟨q, hq, hn⟩
    have hh : none = t.here? strict := here?_of_innermost? hn (by simp)
    refine ⟨?_, q, hq, hn.trans hh⟩
    rw [here?] at hh
    split at hh
    · assumption
    · simp at hh
  · rintro ⟨hr, q, hq, hn⟩
    exact ⟨q, hq, by rw [hn, here?, if_pos hr]⟩

theorem nulled_iff {t : Position} {p : Path} :
    t.nulled strict p = true ↔ ∃ q ∈ t.failures, innermost? strict q t = some p := by
  simp [nulled]

/-- **Nulling**: a position is nulled if it admits `null` and the null of a failure comes to it. -/
theorem nulled_nil {t : Position} (h : t.Distinct) :
    t.nulled strict [] = true ↔ t.required strict = false ∧ t.Breaks strict := by
  rw [nulled_iff, breaks_iff h]
  constructor
  · rintro ⟨q, hq, hn⟩
    have hh : some [] = t.here? strict := here?_of_innermost? hn (by simp)
    refine ⟨?_, q, hq, hn.trans hh⟩
    rw [here?] at hh
    split at hh
    · simp at hh
    · simpa using ‹¬ t.required strict = true›
  · rintro ⟨hr, q, hq, hn⟩
    exact ⟨q, hq, by rw [hn, here?, hr]; rfl⟩

/-- What is nulled below a position is what is nulled of the positions directly below it. -/
theorem nulled_cons {t c : Position} (h : t.Distinct) {e : PathElement}
    (hc : t.child? e = some c) : (fun p => t.nulled strict (e :: p)) = c.nulled strict := by
  funext p
  rw [Bool.eq_iff_iff, nulled_iff, nulled_iff]
  constructor
  · rintro ⟨q, hq, hn⟩
    cases q with
    | nil => rw [innermost?, here?] at hn; split at hn <;> simp at hn
    | cons e' r =>
        obtain ⟨c', hc', hr⟩ := (cons_mem_failures h).mp hq
        rw [innermost?_cons hc'] at hn
        cases hi : innermost? strict r c' with
        | none => rw [hi, Option.elim_none, here?] at hn; split at hn <;> simp at hn
        | some p' =>
            rw [hi, Option.elim_some] at hn
            obtain ⟨rfl, rfl⟩ := List.cons.inj (Option.some.inj hn)
            cases hc.symm.trans hc'
            exact ⟨r, hr, hi⟩
  · rintro ⟨r, hr, hi⟩
    exact ⟨e :: r, (cons_mem_failures h).mpr ⟨c, hc, hr⟩, by rw [innermost?_cons hc, hi]; rfl⟩

/-! ### Settling -/

theorem breaks_list {r : Bool} {items : List Position} :
    (list r items).Breaks strict ↔ ∃ c ∈ items, c.Sinks strict := by
  constructor
  · rintro (hf | ⟨e, c, hc, hs⟩)
    · simp [isFailure] at hf
    · cases e with
      | key => simp [child?] at hc
      | index i => exact ⟨c, List.mem_of_getElem? hc, hs⟩
  · rintro ⟨c, hc, hs⟩
    obtain ⟨i, hi⟩ := List.getElem?_of_mem hc
    exact .inr ⟨.index i, c, hi, hs⟩

theorem breaks_object {r : Bool} {type : String} {sets : List (List ExecutableSelection)}
    {fields : List (String × Position)} (keys : (fields.map Prod.fst).Nodup) :
    (object r type sets fields).Breaks strict ↔ ∃ f ∈ fields, f.2.Sinks strict := by
  constructor
  · rintro (hf | ⟨e, c, hc, hs⟩)
    · simp [isFailure] at hf
    · cases e with
      | index => simp [child?] at hc
      | key k => exact ⟨(k, c), (lookup_eq_some_iff keys).mp hc, hs⟩
  · rintro ⟨⟨k, c⟩, hf, hs⟩
    exact .inr ⟨.key k, c, (lookup_eq_some_iff keys).mpr hf, hs⟩

theorem settleItems_none {items : List Position} (h : ∃ c ∈ items, c.settle = none) :
    settleItems items = none := by
  induction items with
  | nil => simp at h
  | cons first rest ih =>
      obtain ⟨c, hc, hn⟩ := h
      rcases List.mem_cons.mp hc with rfl | hc
      · simp [settleItems, hn]
      · simp [settleItems, ih ⟨c, hc, hn⟩]

theorem settleItems_some {items : List Position} {value : Position → Json}
    (h : ∀ c ∈ items, c.settle = some (value c)) : settleItems items = some (items.map value) := by
  induction items with
  | nil => rfl
  | cons first rest ih =>
      rw [settleItems, h first List.mem_cons_self, ih fun c hc => h c (List.mem_cons_of_mem _ hc)]
      rfl

theorem settleFields_none {fields : List (String × Position)} (h : ∃ f ∈ fields, f.2.settle = none) :
    settleFields fields = none := by
  induction fields with
  | nil => simp at h
  | cons first rest ih =>
      obtain ⟨f, hf, hn⟩ := h
      rcases List.mem_cons.mp hf with rfl | hf
      · simp [settleFields, hn]
      · simp [settleFields, ih ⟨f, hf, hn⟩]

theorem settleFields_some {fields : List (String × Position)} {value : Position → Json}
    (h : ∀ f ∈ fields, f.2.settle = some (value f.2)) :
    settleFields fields = some (fields.map fun f => (f.1, value f.2)) := by
  induction fields with
  | nil => rfl
  | cons first rest ih =>
      rw [settleFields, h first List.mem_cons_self, ih fun f hf => h f (List.mem_cons_of_mem _ hf)]
      rfl

theorem shownItems_eq {n : Path → Bool} {m : Position → Path → Bool} {items : List Position}
    {i : Nat} (h : ∀ j c, items[j]? = some c → (fun p => n (.index (i + j) :: p)) = m c) :
    shownItems n i items = items.map fun c => c.shown (m c) := by
  induction items generalizing i with
  | nil => rfl
  | cons first rest ih =>
      have hfirst : (fun p => n (.index i :: p)) = m first := h 0 first rfl
      have hrest : ∀ j c, rest[j]? = some c → (fun p => n (.index (i + 1 + j) :: p)) = m c :=
        fun j c hc => by rw [Nat.add_assoc, Nat.add_comm 1 j]; exact h (j + 1) c hc
      rw [shownItems, hfirst, ih hrest, List.map_cons]

theorem shownFields_eq {n : Path → Bool} {m : Position → Path → Bool}
    {fields : List (String × Position)}
    (h : ∀ f ∈ fields, (fun p => n (.key f.1 :: p)) = m f.2) :
    shownFields n fields = fields.map fun f => (f.1, f.2.shown (m f.2)) := by
  induction fields with
  | nil => rfl
  | cons first rest ih =>
      rw [shownFields, h first List.mem_cons_self, ih fun f hf => h f (List.mem_cons_of_mem _ hf),
        List.map_cons]

/-- A list that is not nulled shows its items. -/
theorem bubbled_list {r : Bool} {items : List Position} (h : (list r items).Distinct) :
    (list r items).bubbled strict =
      if (list r items).nulled strict [] then .null else .list (items.map (bubbled strict)) := by
  have hm : ∀ j c, items[j]? = some c →
      (fun p => (list r items).nulled strict (.index (0 + j) :: p)) = c.nulled strict :=
    fun j c hc => by rw [Nat.zero_add]; exact nulled_cons (e := .index j) h hc
  rw [bubbled, shown, shownItems_eq hm]
  rfl

/-- An object that is not nulled shows its fields. -/
theorem bubbled_object {r : Bool} {type : String} {sets : List (List ExecutableSelection)}
    {fields : List (String × Position)} (h : (object r type sets fields).Distinct)
    (keys : (fields.map Prod.fst).Nodup) :
    (object r type sets fields).bubbled strict =
      if (object r type sets fields).nulled strict [] then .null
      else .object (fields.map fun f => (f.1, f.2.bubbled strict)) := by
  have hm : ∀ f ∈ fields, (fun p => (object r type sets fields).nulled strict (.key f.1 :: p)) =
      f.2.nulled strict :=
    fun f hf => nulled_cons (e := .key f.1) h ((lookup_eq_some_iff keys).mpr hf)
  rw [bubbled, shown, shownFields_eq hm]
  rfl

/-- **Settling is bubbling.**  Nothing stays of a tree that sinks, and of any other there stays its
data with nulls in place of the innermost positions around its failures. -/
theorem settle_eq {t : Position} (h : t.Distinct) :
    (t.Sinks true → t.settle = none) ∧ (¬ t.Sinks true → t.settle = some (t.bubbled true)) := by
  induction t with
  | null => simp [Sinks, failures, settle, bubbled, shown]
  | leaf r v => simp [Sinks, failures, settle, bubbled, shown, nulled]
  | told v => simp [Sinks, failures, settle, bubbled, shown, nulled]
  | failed r => cases r <;> simp [Sinks, failures, settle, bubbled, shown, innermost?, here?, required,
      keepNull]
  | lacking r => simp [Sinks, failures, settle, innermost?, here?, required]
  | list r items ih =>
      have hb : ∀ c ∈ items, c.Distinct := by cases h with | list below => exact below
      rw [sinks_iff h]
      -- an item that sinks takes the list with it, up to the list if this admits `null`
      by_cases hk : (list r items).Breaks true
      · obtain ⟨c, hc, hs⟩ := breaks_list.mp hk
        have hn : settleItems items = none := settleItems_none ⟨c, hc, (ih c hc (hb c hc)).1 hs⟩
        cases r with
        | true => simp [settle, hn, keepNull, hk, required]
        | false =>
            have hz : (list false items).nulled true [] = true := (nulled_nil h).mpr ⟨rfl, hk⟩
            simp [settle, hn, keepNull, required, bubbled_list h, hz]
      · have hs : ∀ c ∈ items, c.settle = some (c.bubbled true) := fun c hc =>
          (ih c hc (hb c hc)).2 fun hs => hk (breaks_list.mpr ⟨c, hc, hs⟩)
        have hz : (list r items).nulled true [] = false :=
          Bool.eq_false_iff.mpr fun hz => hk ((nulled_nil h).mp hz).2
        simp [settle, settleItems_some hs, keepNull, hk, bubbled_list h, hz]
  | object r type sets fields ih =>
      obtain ⟨keys, hb⟩ : (fields.map Prod.fst).Nodup ∧ ∀ f ∈ fields, f.2.Distinct := by
        cases h with | object keys below => exact ⟨keys, below⟩
      rw [sinks_iff h]
      -- a field that sinks takes the object with it, up to the object if this admits `null`
      by_cases hk : (object r type sets fields).Breaks true
      · obtain ⟨f, hf, hs⟩ := (breaks_object keys).mp hk
        have hn : settleFields fields = none := settleFields_none ⟨f, hf, (ih f hf (hb f hf)).1 hs⟩
        cases r with
        | true => simp [settle, hn, keepNull, hk, required]
        | false =>
            have hz : (object false type sets fields).nulled true [] = true :=
              (nulled_nil h).mpr ⟨rfl, hk⟩
            simp [settle, hn, keepNull, required, bubbled_object h keys, hz]
      · have hs : ∀ f ∈ fields, f.2.settle = some (f.2.bubbled true) := fun f hf =>
          (ih f hf (hb f hf)).2 fun hs => hk ((breaks_object keys).mpr ⟨f, hf, hs⟩)
        have hz : (object r type sets fields).nulled true [] = false :=
          Bool.eq_false_iff.mpr fun hz => hk ((nulled_nil h).mp hz).2
        simp [settle, settleFields_some hs, keepNull, hk, bubbled_object h keys, hz]

/-- Of a tree that admits `null` there always stays something. -/
theorem settle_of_not_required {t : Position} (h : t.Distinct) (hr : t.required true = false) :
    t.settle = some (t.bubbled true) :=
  (settle_eq h).2 fun hs => by simp [((sinks_iff h).mp hs).1] at hr

/-! ### What is kept -/

/-- A value is what was found at a position, as far as the position itself goes: the value of a
leaf, the length of a list, the keys of an object in their order. -/
def IsKept : Position → Json → Prop
  | null,                v | failed _, v | lacking _, v => v = .null
  | leaf _ w,            v | told w, v                  => v = w
  | list _ items,        v => ∃ values, v = .list values ∧ values.length = items.length
  | object _ _ _ fields, v => ∃ members, v = .object members ∧
      members.map Prod.fst = fields.map Prod.fst

theorem shownItems_getElem? {n : Path → Bool} {items : List Position} {i j : Nat} :
    (shownItems n i items)[j]? =
      items[j]?.map fun c => c.shown fun p => n (.index (i + j) :: p) := by
  induction items generalizing i j with
  | nil => rfl
  | cons first rest ih =>
      cases j with
      | zero => rfl
      | succ j =>
          rw [shownItems, List.getElem?_cons_succ, List.getElem?_cons_succ, ih, Nat.add_assoc,
            Nat.add_comm 1 j]

theorem shownFields_get? {n : Path → Bool} {fields : List (String × Position)} {key : String} :
    Json.Members.get? (shownFields n fields) key =
      (fields.lookup key).map fun c => c.shown fun p => n (.key key :: p) := by
  induction fields with
  | nil => rfl
  | cons f rest ih =>
      obtain ⟨k, c⟩ := f
      rw [shownFields, Json.Members.get?_cons, List.lookup_cons]
      by_cases hk : k = key
      · subst hk; simp
      · rw [if_neg hk, ih, beq_false_of_ne (Ne.symm hk)]

theorem shownItems_length {n : Path → Bool} {items : List Position} {i : Nat} :
    (shownItems n i items).length = items.length := by
  induction items generalizing i with
  | nil => rfl
  | cons first rest ih => rw [shownItems, List.length_cons, ih, List.length_cons]

theorem shownFields_keys {n : Path → Bool} {fields : List (String × Position)} :
    (shownFields n fields).map Prod.fst = fields.map Prod.fst := by
  induction fields with
  | nil => rfl
  | cons f rest ih => rw [shownFields, List.map_cons, ih, List.map_cons]

/-- The value at a position that is not below a nulled one. -/
theorem shown_getAt {t u : Position} {n : Path → Bool} {p : Path} (h : t.at? p = some u)
    (hn : ∀ q, q <+: p → q ≠ p → n q = false) :
    (t.shown n).getAt p = some (u.shown fun q => n (p ++ q)) := by
  induction p generalizing t n with
  | nil => cases h; rfl
  | cons e r ih =>
      obtain ⟨c, hc, hu⟩ := Option.bind_eq_some_iff.mp h
      have hnil : n [] = false := hn [] (List.nil_prefix) (by simp)
      have hrest : ∀ q, q <+: r → q ≠ r → n (e :: q) = false := fun q hq hne =>
        hn (e :: q) (List.prefix_cons_inj e |>.mpr hq) (by simpa using hne)
      have hv := ih (n := fun q => n (e :: q)) hu hrest
      cases t with
      | null | leaf | told | failed | lacking => simp [child?] at hc
      | list _ items =>
          cases e with
          | key => simp [child?] at hc
          | index i =>
              rw [child?] at hc
              simpa [shown, hnil, Json.getAt, Json.child?, shownItems_getElem?, hc] using hv
      | object _ _ _ fields =>
          cases e with
          | index => simp [child?] at hc
          | key k =>
              rw [child?] at hc
              simpa [shown, hnil, Json.getAt, Json.child?, PathElement.text, shownFields_get?, hc]
                using hv

theorem isKept_shown {u : Position} {n : Path → Bool} (hn : n [] = false) :
    u.IsKept (u.shown n) := by
  cases u with
  | null | failed | lacking => rfl
  | leaf r v => simp [IsKept, shown, hn]
  | told v => simp [IsKept, shown, hn]
  | list r items => simp [IsKept, shown, hn, shownItems_length]
  | object r type sets fields => simp [IsKept, shown, hn, shownFields_keys]

/-- **What is kept**: a position at and around which nothing is nulled is shown as it was found. -/
theorem shown_keeps {t u : Position} {n : Path → Bool} {p : Path} (h : t.at? p = some u)
    (hn : ∀ q, q <+: p → n q = false) : ∃ v, (t.shown n).getAt p = some v ∧ u.IsKept v :=
  ⟨_, shown_getAt h fun q hq _ => hn q hq,
    isKept_shown (by rw [List.append_nil]; exact hn p List.prefix_rfl)⟩

/-- Nothing is shown below a nulled position. -/
theorem not_nulled_of_getAt {t u : Position} {n : Path → Bool} {p : Path} {v : Json}
    (h : t.at? p = some u) (hv : (t.shown n).getAt p = some v) :
    ∀ q, q <+: p → q ≠ p → n q = false := by
  induction p generalizing t n with
  | nil => exact fun q hq hne => absurd (List.prefix_nil.mp hq) hne
  | cons e r ih =>
      obtain ⟨c, hc, hu⟩ := Option.bind_eq_some_iff.mp h
      obtain ⟨w, hw, hwv⟩ := Option.bind_eq_some_iff.mp hv
      -- a value below `null` cannot be had
      have hnil : n [] = false := Bool.eq_false_iff.mpr fun hn => by
        cases t <;> simp [shown, hn, child?, Json.child?] at hc hw
      have hcv : w = c.shown fun q => n (e :: q) := by
        have := shown_getAt (n := n) (p := [e]) (u := c) (by rw [at?, hc]; rfl)
          (fun q hq hne => by
            cases q with
            | nil => exact hnil
            | cons e' q => simp_all)
        simpa [Json.getAt, hw] using this
      intro q hq hne
      cases q with
      | nil => exact hnil
      | cons e' q =>
          obtain ⟨rfl, hq'⟩ := List.cons_prefix_cons.mp hq
          exact ih (n := fun q => n (e' :: q)) hu (by rw [← hcv]; exact hwv) q hq'
            (by simpa using hne)

theorem here?_some {t : Position} {p : Path} (h : t.here? strict = some p) :
    p = [] ∧ t.required strict = false := by
  rw [here?] at h
  split at h
  · cases h
  · cases h
    exact ⟨rfl, Bool.eq_false_iff.mpr ‹_›⟩

/-- The innermost position on the way to a path stands there, and admits `null`. -/
theorem innermost?_some {t : Position} {q p : Path} (h : innermost? strict q t = some p) :
    p <+: q ∧ ∃ u, t.at? p = some u ∧ u.required strict = false := by
  induction q generalizing t p with
  | nil =>
      obtain ⟨rfl, hr⟩ := here?_some h
      exact ⟨List.prefix_rfl, t, rfl, hr⟩
  | cons e r ih =>
      rw [innermost?] at h
      cases hb : (t.child? e).bind (innermost? strict r) with
      | none =>
          rw [hb] at h
          obtain ⟨rfl, hr⟩ := here?_some h
          exact ⟨List.nil_prefix, t, rfl, hr⟩
      | some p' =>
          rw [hb] at h
          cases h
          obtain ⟨c, hc, hi⟩ := Option.bind_eq_some_iff.mp hb
          obtain ⟨hp, u, hu, hr⟩ := ih hi
          exact ⟨List.cons_prefix_cons.mpr ⟨rfl, hp⟩, u, by rw [at?, hc]; exact hu, hr⟩

end GraphServe.Execution.Position
