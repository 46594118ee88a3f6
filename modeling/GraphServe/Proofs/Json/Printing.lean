import GraphServe.Proofs.Json.Scanning
import GraphServe.Proofs.Json.Value

/-!
# JSON text — no control characters

The text of a value is one line: control characters in strings are escaped, and nothing else has any
(`Json.isClear_render`).
-/

namespace GraphServe.Json

open Text

/-- Characters that are no control characters. -/
def Clear (l : List Char) : Prop := ∀ c ∈ l, 32 ≤ c.toNat

instance (l : List Char) : Decidable (Clear l) := List.decidableBAll _ l

/-- A text without control characters. -/
abbrev IsClear (s : String) : Prop := Clear s.toList

/-- The bytes of a text without control characters. -/
theorem IsClear.bytes {s : String} (h : IsClear s) : ∀ b ∈ Text.bytes s, 32 ≤ b.toNat := by
  intro b hb
  rcases mem_bytes hb with ⟨c, hc, hascii, rfl⟩ | hb
  · rw [toNat_ofNat_of_lt (Nat.lt_trans hascii (by decide))]
    exact h c hc
  · exact Nat.le_trans (by decide) hb

theorem isClear_append {s t : String} (hs : IsClear s) (ht : IsClear t) : IsClear (s ++ t) := by
  intro c hc
  rw [String.toList_append] at hc
  exact (List.mem_append.mp hc).elim (hs c) (ht c)

theorem clear_escapeChar (ch : Char) : Clear (escapeChar ch) := by
  have hhex : ∀ n < 16, 32 ≤ (hexDigit n).toNat := by decide
  rw [escapeChar]
  split_ifs with _ _ _ _ _ _ _ hcontrol
  · decide
  · decide
  · decide
  · decide
  · decide
  · decide
  · decide
  · have hhigh := hhex (ch.toNat / 16) (by omega)
    have hlow := hhex (ch.toNat % 16) (by omega)
    intro c hc
    simp only [List.mem_cons, List.not_mem_nil, or_false] at hc
    rcases hc with rfl | rfl | rfl | rfl | rfl | rfl
    all_goals first | assumption | decide
  · intro c hc
    rw [List.mem_singleton.mp hc]
    exact Nat.not_lt.mp hcontrol

theorem isClear_quote (s : String) : IsClear (quote s) := by
  intro c hc
  rw [quote, String.toList_ofList] at hc
  simp only [List.mem_cons, List.mem_append, List.mem_flatMap, List.not_mem_nil, or_false] at hc
  rcases hc with rfl | ⟨ch, -, hc⟩ | rfl
  · decide
  · exact clear_escapeChar ch c hc
  · decide

theorem clear_digits (n : Nat) : Clear (Nat.toDigits 10 n) := by
  intro c hc
  have hdigit := isDigit_of_mem_toDigits c hc
  simp only [Char.isDigit, Bool.and_eq_true, decide_eq_true_eq, UInt32.le_iff_toNat_le] at hdigit
  exact Nat.le_trans (by decide) hdigit.1

theorem clear_render (style : Decimal.Style) (d : Decimal) : Clear (d.render style) := by
  have hdigits := clear_digits d.digits
  have hzeros (n : Nat) : Clear (List.replicate n '0') := fun c hc => by
    rw [List.eq_of_mem_replicate hc]
    decide
  intro c hc
  rw [Decimal.render] at hc
  split at hc
  · have hzero : Clear ['0', '.', '0'] := by decide
    exact hzero c hc
  · split at hc
    · split at hc
      · simp only [List.mem_append, List.mem_cons, List.not_mem_nil, or_false] at hc
        rcases hc with (hc | hc) | rfl | rfl
        · exact hdigits c hc
        · exact hzeros _ c hc
        · decide
        · decide
      · have hpadded (n : Nat) : Clear (List.replicate n '0' ++ Nat.toDigits 10 d.digits) :=
          fun c hc => (List.mem_append.mp hc).elim (hzeros n c) (hdigits c)
        rw [Decimal.withPoint] at hc
        rcases List.mem_append.mp hc with hc | hc
        · exact hpadded _ c (List.mem_of_mem_take hc)
        · rcases List.mem_cons.mp hc with rfl | hc
          · decide
          · exact hpadded _ c (List.mem_of_mem_drop hc)
    · rw [List.mem_append, List.mem_cons, List.mem_cons] at hc
      rcases hc with hc | rfl | rfl | hc
      · -- the digits, with a point after the first
        split at hc
        · cases hc
        · rename_i hone
          exact hdigits c (hone ▸ hc)
        · rename_i first more _ hmore
          rw [List.mem_cons, List.mem_cons] at hc
          rcases hc with rfl | rfl | hc
          · exact hdigits c (hmore ▸ List.mem_cons_self)
          · decide
          · exact hdigits c (hmore ▸ List.mem_cons_of_mem _ hc)
      · decide
      · split <;> decide
      · exact clear_digits _ c hc

theorem isClear_floatText (x : Double) : IsClear (floatText x) := by
  have hrender := clear_render floatStyle x.shortest
  intro c hc
  rw [floatText] at hc
  split at hc
  · have hnull : IsClear "null" := by decide
    exact hnull c hc
  · rw [String.toList_ofList] at hc
    split at hc
    · rcases List.mem_cons.mp hc with rfl | hc
      · decide
      · exact hrender c hc
    · exact hrender c hc

theorem isClear_toString (n : Nat) : IsClear (toString n) := by
  intro c hc
  rw [Nat.toString_eq_ofList_toDigits, String.toList_ofList] at hc
  exact clear_digits n c hc

theorem isClear_renderItems {items : List Json} (h : ∀ v ∈ items, IsClear v.render) :
    IsClear (renderItems items) := by
  induction items with
  | nil => rw [renderItems]; decide
  | cons item items ih =>
      obtain ⟨hitem, hitems⟩ := List.forall_mem_cons.mp h
      cases items with
      | nil => rw [renderItems]; exact hitem
      | cons next items =>
          rw [renderItems]
          · exact isClear_append (isClear_append hitem (by decide)) (ih hitems)
          · exact fun h => by cases h

theorem isClear_renderMembers {members : Members} (h : ∀ m ∈ members, IsClear m.2.render) :
    IsClear (renderMembers members) := by
  induction members with
  | nil => rw [renderMembers]; decide
  | cons m members ih =>
      obtain ⟨hm, hmembers⟩ := List.forall_mem_cons.mp h
      have hcolon : IsClear (quote m.1 ++ ":") := isClear_append (isClear_quote m.1) (by decide)
      have hmember := isClear_append hcolon hm
      cases members with
      | nil => rw [renderMembers]; exact hmember
      | cons next members =>
          rw [renderMembers]
          · exact isClear_append (isClear_append hmember (by decide)) (ih hmembers)
          · exact fun h => by cases h

/-- **What is written has no control characters.** -/
theorem isClear_render (v : Json) : IsClear v.render := by
  induction v using Json.induct with
  | null => rw [render]; decide
  | bool b => cases b <;> rw [render] <;> decide
  | int n =>
      rw [render]
      cases n with
      | ofNat n => exact isClear_toString n
      | negSucc n => exact isClear_append (s := "-") (by decide) (isClear_toString (n + 1))
  | float x => rw [render]; exact isClear_floatText x
  | string s => rw [render]; exact isClear_quote s
  | list items ih =>
      rw [render]
      exact isClear_append (isClear_append (by decide) (isClear_renderItems ih)) (by decide)
  | object members ih =>
      rw [render]
      exact isClear_append (isClear_append (by decide) (isClear_renderMembers ih)) (by decide)

end GraphServe.Json
