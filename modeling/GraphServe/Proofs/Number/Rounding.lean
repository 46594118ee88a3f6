import GraphServe.Number.Double
import Mathlib.Algebra.Order.Field.Power
import Mathlib.Algebra.Order.Ring.Rat
import Mathlib.Tactic.FieldSimp
import Mathlib.Tactic.Linarith
import Mathlib.Tactic.NormNum
import Mathlib.Tactic.Positivity
import Mathlib.Tactic.Ring

/-!
# Doubles — the nearest to a number

A number rounds to a double if it lies between the midpoints to the neighbours of the double, and at
a midpoint only if the mantissa is even (`Double.Rounds`).

* `Double.ofRatio_eq`: from a quotient that rounds to a double this double is made.
* `Double.ofDecimal_eq`: so it is from digits and a power of ten.
-/

namespace GraphServe.Double

/-! ### Powers -/

/-- A power as a quotient of naturals. -/
theorem zpow_eq_div (b : ℚ) (k : ℤ) : b ^ k = b ^ k.toNat / b ^ (-k).toNat := by
  rcases le_total 0 k with hk | hk
  · obtain ⟨n, rfl⟩ := Int.eq_ofNat_of_zero_le hk
    rw [show (-(n : ℤ)).toNat = 0 by omega, Int.toNat_natCast, pow_zero, div_one, zpow_natCast]
  · obtain ⟨n, hn⟩ := Int.eq_ofNat_of_zero_le (Int.neg_nonneg_of_nonpos hk)
    rw [show k.toNat = 0 by omega, hn, Int.toNat_natCast, pow_zero, one_div, ← zpow_natCast,
      ← zpow_neg, ← hn, neg_neg]

theorem two_zpow_pos (k : ℤ) : (0 : ℚ) < 2 ^ k := zpow_pos (by norm_num) k

theorem two_zpow_add (j k : ℤ) : (2 : ℚ) ^ (j + k) = 2 ^ j * 2 ^ k := zpow_add₀ (by norm_num) j k

/-- Powers of two are told by their size. -/
theorem lt_of_two_zpow_lt {j k : ℤ} (h : (2 : ℚ) ^ j < 2 ^ k) : j < k :=
  (zpow_lt_zpow_iff_right₀ (by norm_num)).mp h

/-! ### Division -/

variable {a b r : ℕ}

/-- An integer that is nearest to a quotient, and even if another is as near. -/
theorem roundDiv_eq (hb : 0 < b) (low : (r : ℚ) - 1 / 2 ≤ a / b) (high : (a : ℚ) / b ≤ r + 1 / 2)
    (even : (a : ℚ) / b = r - 1 / 2 ∨ (a : ℚ) / b = r + 1 / 2 → r % 2 = 0) : roundDiv a b = r := by
  have hb' : (0 : ℚ) < b := by exact_mod_cast hb
  have hlow : 2 * r * b ≤ 2 * a + b := by
    rw [le_div_iff₀ hb'] at low
    have : (2 * r * b : ℚ) ≤ 2 * a + b := by linarith
    exact_mod_cast this
  have hhigh : 2 * a ≤ (2 * r + 1) * b := by
    rw [div_le_iff₀ hb'] at high
    have : (2 * a : ℚ) ≤ (2 * r + 1) * b := by linarith
    exact_mod_cast this
  have hlowEnd (h : 2 * a + b = 2 * r * b) : r % 2 = 0 := by
    refine even (.inl ((div_eq_iff hb'.ne').mpr ?_))
    have : (2 * a + b : ℚ) = 2 * r * b := by exact_mod_cast h
    linarith
  have hhighEnd (h : 2 * a = (2 * r + 1) * b) : r % 2 = 0 := by
    refine even (.inr ((div_eq_iff hb'.ne').mpr ?_))
    have : (2 * a : ℚ) = (2 * r + 1) * b := by exact_mod_cast h
    linarith
  have hdiv : b * (a / b) + a % b = a := Nat.div_add_mod a b
  have hmod : a % b < b := Nat.mod_lt a hb
  unfold roundDiv
  dsimp only
  generalize a / b = q, a % b = t at hdiv hmod
  have hle : q ≤ r := by
    by_contra hlt
    have : (r + 1) * b ≤ q * b := Nat.mul_le_mul_right b (by omega)
    nlinarith
  have hge : r ≤ q + 1 := by
    by_contra hlt
    have : (q + 2) * b ≤ r * b := Nat.mul_le_mul_right b (by omega)
    nlinarith
  rcases (by omega : r = q ∨ r = q + 1) with rfl | rfl
  · have htwice : 2 * t ≤ b := by nlinarith
    rcases Nat.lt_or_eq_of_le htwice with hlt | heq
    · exact if_pos (.inl hlt)
    · exact if_pos (.inr ⟨heq, hhighEnd (by nlinarith)⟩)
  · have htwice : b ≤ 2 * t := by nlinarith
    refine if_neg ?_
    rintro (hlt | ⟨heq, heven⟩)
    · omega
    · have := hlowEnd (by nlinarith)
      omega

/-- A rounded quotient is at most half of one away. -/
theorem roundDiv_near (hb : 0 < b) : |(a : ℚ) / b - roundDiv a b| ≤ 1 / 2 := by
  have hb' : (0 : ℚ) < b := by exact_mod_cast hb
  have hdiv : (a : ℚ) = b * (a / b : ℕ) + (a % b : ℕ) := by exact_mod_cast (Nat.div_add_mod a b).symm
  have hquotient : (a : ℚ) / b = (a / b : ℕ) + (a % b : ℕ) / b := by
    rw [div_eq_iff hb'.ne', add_mul, div_mul_cancel₀ _ hb'.ne']
    linarith
  have hmod : a % b < b := Nat.mod_lt a hb
  rw [hquotient, abs_le]
  unfold roundDiv
  dsimp only
  generalize a / b = q, a % b = t at hmod
  have hlt : (t : ℚ) / b < 1 := (div_lt_one hb').mpr (by exact_mod_cast hmod)
  have hpos : (0 : ℚ) ≤ t / b := by positivity
  split_ifs with h
  · have htwice : 2 * t ≤ b := by omega
    have hhalf : (t : ℚ) / b ≤ 1 / 2 := by
      rw [div_le_iff₀ hb']
      have : (2 * t : ℚ) ≤ b := by exact_mod_cast htwice
      linarith
    constructor <;> linarith
  · have htwice : b ≤ 2 * t := by omega
    have hhalf : 1 / 2 ≤ (t : ℚ) / b := by
      rw [le_div_iff₀ hb']
      have : (b : ℚ) ≤ 2 * t := by exact_mod_cast htwice
      linarith
    push_cast
    constructor <;> linarith

/-! ### The scale of a quotient -/

variable {n d : ℕ}

theorem two_zpow_log2_le (hn : n ≠ 0) : (2 : ℚ) ^ (n.log2 : ℤ) ≤ n := by
  rw [zpow_natCast]
  exact_mod_cast Nat.log2_self_le hn

theorem lt_two_zpow_log2 (n : ℕ) : (n : ℚ) < 2 ^ (n.log2 + 1 : ℤ) := by
  rw [show (n.log2 + 1 : ℤ) = ((n.log2 + 1 : ℕ) : ℤ) by push_cast; rfl, zpow_natCast]
  exact_mod_cast Nat.lt_log2_self

/-- At its scale a quotient has a mantissa of fifty-three bits, or it is the least scale. -/
theorem scaleOf_eq (hn : 0 < n) (hd : 0 < d) : ∃ t : ℤ, scaleOf n d = max t (-1074) ∧
    (2 : ℚ) ^ (t + 52) ≤ n / d ∧ (n : ℚ) / d < 2 ^ (t + 53) := by
  have hd' : (0 : ℚ) < d := by exact_mod_cast hd
  have hnlow := two_zpow_log2_le hn.ne'
  have hdlow := two_zpow_log2_le hd.ne'
  have hnhigh := lt_two_zpow_log2 n
  have hdhigh := lt_two_zpow_log2 d
  unfold scaleOf
  dsimp only
  generalize hguess : (n.log2 : ℤ) - d.log2 - 52 = guess
  -- the guess is right or one too great.
  have hhigh : (n : ℚ) / d < 2 ^ (guess + 53) := by
    rw [div_lt_iff₀ hd']
    calc (n : ℚ) < 2 ^ (n.log2 + 1 : ℤ) := hnhigh
      _ = 2 ^ (guess + 53) * 2 ^ (d.log2 : ℤ) := by rw [← two_zpow_add]; congr 1; omega
      _ ≤ 2 ^ (guess + 53) * d := by gcongr
  have hlow : (2 : ℚ) ^ (guess - 1 + 52) ≤ n / d := by
    rw [le_div_iff₀ hd']
    calc (2 : ℚ) ^ (guess - 1 + 52) * d ≤ 2 ^ (guess - 1 + 52) * 2 ^ (d.log2 + 1 : ℤ) := by gcongr
      _ = 2 ^ (n.log2 : ℤ) := by rw [← two_zpow_add]; congr 1; omega
      _ ≤ n := hnlow
  have hfits : (if 0 ≤ guess then decide (d * Nat.pow 2 (guess.toNat + 52) ≤ n)
      else decide (d * Nat.pow 2 52 ≤ n * Nat.pow 2 (-guess).toNat)) = true
        ↔ (2 : ℚ) ^ (guess + 52) ≤ n / d := by
    rw [two_zpow_add, zpow_eq_div 2 guess, le_div_iff₀ hd', div_mul_eq_mul_div,
      div_mul_eq_mul_div, div_le_iff₀ (by positivity)]
    split_ifs with hsign
    · rw [decide_eq_true_iff, show (-guess).toNat = 0 by omega, ← @Nat.cast_le ℚ, Nat.pow_eq]
      push_cast
      rw [pow_add, pow_zero, mul_one, mul_comm (d : ℚ)]
      rfl
    · rw [decide_eq_true_iff, show guess.toNat = 0 by omega, ← @Nat.cast_le ℚ, Nat.pow_eq, Nat.pow_eq]
      push_cast
      rw [pow_zero, one_mul, mul_comm (d : ℚ)]
  by_cases h : (2 : ℚ) ^ (guess + 52) ≤ n / d
  · rw [if_pos (hfits.mpr h)]
    exact ⟨guess, rfl, h, hhigh⟩
  · rw [if_neg (mt hfits.mp h)]
    refine ⟨guess - 1, rfl, hlow, ?_⟩
    rw [show guess - 1 + 53 = guess + 52 by omega]
    exact not_le.mp h

/-- The mantissa of a quotient at a scale. -/
theorem rounded_eq (hd : 0 < d) {scale : ℤ} {r : ℕ}
    (low : (r : ℚ) - 1 / 2 ≤ n / d / 2 ^ scale) (high : (n : ℚ) / d / 2 ^ scale ≤ r + 1 / 2)
    (even : (n : ℚ) / d / 2 ^ scale = r - 1 / 2 ∨ (n : ℚ) / d / 2 ^ scale = r + 1 / 2 → r % 2 = 0) :
    (if 0 ≤ scale then roundDiv n (d * Nat.pow 2 scale.toNat)
      else roundDiv (n * Nat.pow 2 (-scale).toNat) d) = r := by
  rw [Nat.pow_eq, Nat.pow_eq]
  rw [zpow_eq_div, div_div_eq_mul_div, div_mul_eq_mul_div, div_div] at low high even
  split_ifs with hsign
  · rw [show (-scale).toNat = 0 by omega, pow_zero, mul_one] at low high even
    exact roundDiv_eq (by positivity) (by push_cast; exact low) (by push_cast; exact high)
      (by push_cast; exact even)
  · rw [show scale.toNat = 0 by omega, pow_zero, mul_one] at low high even
    exact roundDiv_eq hd (by push_cast; exact low) (by push_cast; exact high)
      (by push_cast; exact even)

/-! ### Doubles -/

variable {x : Double}

/-- How far down numbers round to a double, in units of its scale: the neighbour below is at half
of the distance if the mantissa is the least of its scale. -/
def below (x : Double) : ℚ := if x.mantissa = 2 ^ 52 ∧ 1 < x.exponentField then 1 / 4 else 1 / 2

theorem below_le (x : Double) : x.below ≤ 1 / 2 := by
  unfold below
  split_ifs <;> norm_num

/-- A number that rounds to a positive double. -/
structure Rounds (x : Double) (q : ℚ) : Prop where
  low  : (x.mantissa - x.below) * 2 ^ x.scale ≤ q
  high : q ≤ (x.mantissa + 1 / 2) * 2 ^ x.scale
  even : q = (x.mantissa - x.below) * 2 ^ x.scale ∨ q = (x.mantissa + 1 / 2) * 2 ^ x.scale →
    x.mantissa % 2 = 0

theorem exponentField_lt (x : Double) : x.exponentField < 2048 := Nat.mod_lt _ (by decide)

theorem fractionField_lt (x : Double) : x.fractionField < 2 ^ 52 := Nat.mod_lt _ (by decide)

theorem mantissa_lt (x : Double) : x.mantissa < 2 ^ 53 := by
  have := x.fractionField_lt
  unfold mantissa
  rw [Nat.pow_eq]
  split_ifs <;> omega

/-- Above the least scale mantissas have fifty-three bits. -/
theorem le_mantissa (h : 1 < x.exponentField) : 2 ^ 52 ≤ x.mantissa := by
  unfold mantissa
  rw [if_neg (by omega), Nat.pow_eq]
  omega

theorem scale_of_le (h : x.exponentField ≤ 1) : x.scale = -1074 := by
  unfold scale
  omega

theorem scale_of_lt (h : 1 < x.exponentField) : x.scale = x.exponentField - 1075 := by
  unfold scale
  omega

/-- The bits of a double without its sign. -/
theorem magnitude_eq (x : Double) :
    x.mantissa + (x.scale + 1074).toNat * 2 ^ 52 = x.exponentField * 2 ^ 52 + x.fractionField := by
  unfold mantissa scale
  rw [Nat.pow_eq]
  split_ifs with h <;> omega

theorem toNat_bits (x : Double) : x.bits.toNat =
    x.exponentField * 2 ^ 52 + x.fractionField + if x.isNegative then 2 ^ 63 else 0 := by
  have := x.bits.toNat_lt
  unfold exponentField fractionField isNegative
  simp only [Nat.pow_eq, decide_eq_true_iff]
  split_ifs <;> omega

/-- A finite double is made of its parts. -/
theorem ofMagnitude_eq (hx : x.isFinite = true) :
    ofMagnitude x.isNegative
      (min (x.mantissa + (x.scale + 1074).toNat * Nat.pow 2 52) (2047 * Nat.pow 2 52)) = x := by
  have hlt : x.exponentField < 2047 := by
    have := x.exponentField_lt
    have := of_decide_eq_true hx
    omega
  have := x.fractionField_lt
  have hmin : min (x.mantissa + (x.scale + 1074).toNat * Nat.pow 2 52) (2047 * Nat.pow 2 52)
      = x.exponentField * 2 ^ 52 + x.fractionField := by
    rw [Nat.pow_eq, magnitude_eq]
    omega
  rw [hmin, ofMagnitude, Nat.pow_eq, ← toNat_bits, UInt64.ofNat_toNat]

/-- What rounds to a double is positive, and not so great. -/
theorem Rounds.bounds {q : ℚ} (hpos : 0 < x.mantissa) (h : x.Rounds q) :
    1 / 2 * 2 ^ x.scale ≤ q ∧ q < 2 ^ (x.scale + 53) := by
  have hscale := two_zpow_pos x.scale
  constructor
  · refine le_trans ?_ h.low
    gcongr
    have hbelow := x.below_le
    have : (1 : ℚ) ≤ x.mantissa := by exact_mod_cast hpos
    linarith
  · refine lt_of_le_of_lt h.high ?_
    rw [two_zpow_add, mul_comm]
    gcongr
    have : (x.mantissa + 1 : ℚ) ≤ 2 ^ 53 := by exact_mod_cast x.mantissa_lt
    norm_num at this ⊢
    linarith

/-- The scale of what rounds to a double is that of the double; or it is one less, just below the
least mantissa of a scale. -/
theorem Rounds.scaleOf_eq (hpos : 0 < x.mantissa) (hn : 0 < n) (hd : 0 < d)
    (h : x.Rounds (n / d)) :
    scaleOf n d = x.scale ∨ scaleOf n d = x.scale - 1 ∧ 1 < x.exponentField ∧
      x.mantissa = 2 ^ 52 ∧ (n : ℚ) / d < 2 ^ (x.scale + 52) := by
  obtain ⟨t, ht, hlow, hhigh⟩ := Double.scaleOf_eq hn hd
  have hle : t ≤ x.scale := by
    have := lt_of_two_zpow_lt (lt_of_le_of_lt hlow (h.bounds hpos).2)
    omega
  rcases Nat.lt_or_ge 1 x.exponentField with hfield | hfield
  · have hscale := scale_of_lt hfield
    rcases eq_or_lt_of_le hle with rfl | hlt
    · exact .inl (by omega)
    · have hsmall : (n : ℚ) / d < 2 ^ (x.scale + 52) :=
        lt_of_lt_of_le hhigh (zpow_le_zpow_right₀ (by norm_num) (by omega))
      have hmantissa : x.mantissa = 2 ^ 52 := by
        by_contra hne
        have hge : 2 ^ 52 + 1 ≤ x.mantissa := Nat.lt_of_le_of_ne (le_mantissa hfield) (Ne.symm hne)
        have hbelow : x.below = 1 / 2 := if_neg fun hboth => hne hboth.1
        have hcast : (2 ^ 52 + 1 : ℚ) ≤ x.mantissa := by exact_mod_cast hge
        refine absurd (lt_of_le_of_lt h.low hsmall) (not_lt.mpr ?_)
        rw [two_zpow_add, mul_comm, hbelow]
        gcongr
        norm_num
        linarith
      have hbelow : x.below = 1 / 4 := if_pos ⟨hmantissa, hfield⟩
      have hgreat : (2 : ℚ) ^ (x.scale + 51) ≤ n / d := by
        refine le_trans ?_ h.low
        rw [two_zpow_add, mul_comm, hbelow, hmantissa]
        gcongr
        norm_num
      have := lt_of_two_zpow_lt (lt_of_le_of_lt hgreat hhigh)
      exact .inr ⟨by omega, hfield, hmantissa, hsmall⟩
  · have hscale := scale_of_le hfield
    exact .inl (by omega)

/-- **A double is made of what rounds to it.** -/
theorem ofRatio_eq (hx : x.isFinite = true) (hpos : 0 < x.mantissa) (hd : 0 < d)
    (h : x.Rounds (n / d)) : ofRatio x.isNegative n d = x := by
  have hscale := two_zpow_pos x.scale
  have hn : n ≠ 0 := by
    rintro rfl
    have := lt_of_lt_of_le (mul_pos one_half_pos hscale) (h.bounds hpos).1
    norm_num at this
  unfold ofRatio
  rw [if_neg hn]
  dsimp only
  rcases h.scaleOf_eq hpos (Nat.pos_of_ne_zero hn) hd with hsame | ⟨hless, hfield, hmantissa, hsmall⟩
  · have hlow : x.mantissa - x.below ≤ n / d / 2 ^ x.scale := (le_div_iff₀ hscale).mpr h.low
    have hbelow : x.below ≤ 1 / 2 := below_le x
    rw [hsame, rounded_eq hd (r := x.mantissa) (by linarith) ((div_le_iff₀ hscale).mpr h.high),
      ofMagnitude_eq hx]
    rintro (hend | hend)
    · refine h.even (.inl ((div_eq_iff hscale.ne').mp ?_))
      linarith
    · exact h.even (.inr ((div_eq_iff hscale.ne').mp hend))
  · have hbelow : x.below = 1 / 4 := if_pos ⟨hmantissa, hfield⟩
    have hhalf : (2 : ℚ) ^ x.scale = 2 * 2 ^ (x.scale - 1) := by
      rw [← zpow_one_add₀ two_ne_zero, add_sub_cancel]
    have hscale' := two_zpow_pos (x.scale - 1)
    have hlow : ((2 ^ 53 : ℕ) : ℚ) - 1 / 2 ≤ n / d / 2 ^ (x.scale - 1) := by
      have := h.low
      rw [hbelow, hmantissa, hhalf] at this
      rw [le_div_iff₀ hscale']
      norm_num at this ⊢
      linarith
    have hhigh : n / d / 2 ^ (x.scale - 1) ≤ ((2 ^ 53 : ℕ) : ℚ) + 1 / 2 := by
      rw [two_zpow_add, hhalf] at hsmall
      rw [div_le_iff₀ hscale']
      norm_num at hsmall ⊢
      linarith
    rw [hless, rounded_eq hd (r := 2 ^ 53) hlow hhigh fun _ => by norm_num]
    have hsame : 2 ^ 53 + (x.scale - 1 + 1074).toNat * Nat.pow 2 52
        = x.mantissa + (x.scale + 1074).toNat * Nat.pow 2 52 := by
      rw [hmantissa, Nat.pow_eq, scale_of_lt hfield]
      omega
    rw [hsame, ofMagnitude_eq hx]

/-! ### Decimals -/

/-- Ten is more than the third power of two. -/
theorem two_zpow_le (k : ℕ) : (2 : ℚ) ^ (3 * k : ℤ) ≤ 10 ^ (k : ℤ) := by
  rw [zpow_mul, zpow_natCast, zpow_natCast]
  exact pow_le_pow_left₀ (by norm_num) (by norm_num) k

/-- What rounds to a double lies between powers of ten. -/
theorem Rounds.ten_zpow_lt (hx : x.isFinite = true) (hpos : 0 < x.mantissa) {q : ℚ}
    (h : x.Rounds q) : (10 : ℚ) ^ (-400 : ℤ) < q ∧ q < 10 ^ (400 : ℤ) := by
  obtain ⟨hlow, hhigh⟩ := h.bounds hpos
  have hlt : x.exponentField < 2047 := by
    have := x.exponentField_lt
    have := of_decide_eq_true hx
    omega
  have hpower := two_zpow_le 400
  constructor
  · calc (10 : ℚ) ^ (-400 : ℤ) ≤ 2 ^ (-(3 * (400 : ℕ)) : ℤ) := by
          rw [zpow_neg, zpow_neg]
          exact inv_anti₀ (two_zpow_pos _) hpower
      _ < 2 ^ (x.scale - 1) := zpow_lt_zpow_right₀ (by norm_num) (by unfold scale; omega)
      _ = 1 / 2 * 2 ^ x.scale := by rw [zpow_sub_one₀ two_ne_zero]; ring
      _ ≤ q := hlow
  · calc q < 2 ^ (x.scale + 53) := hhigh
      _ ≤ 2 ^ (3 * (400 : ℕ) : ℤ) :=
          zpow_le_zpow_right₀ (by norm_num) (by unfold scale; omega)
      _ ≤ 10 ^ (400 : ℤ) := hpower

/-- What is below a power of two is below the power of ten of a third of it. -/
theorem lt_ten_zpow (n : ℕ) : (n : ℚ) < 10 ^ ((n.log2 : ℤ) / 3 + 1) :=
  calc (n : ℚ) < 2 ^ (n.log2 + 1 : ℤ) := lt_two_zpow_log2 n
    _ ≤ 2 ^ (3 * (n.log2 / 3 + 1 : ℕ) : ℤ) :=
        zpow_le_zpow_right₀ (by norm_num) (by push_cast; omega)
    _ ≤ 10 ^ ((n.log2 : ℤ) / 3 + 1) := two_zpow_le (n.log2 / 3 + 1)

/-- **A double is made of digits that round to it.** -/
theorem ofDecimal_eq (hx : x.isFinite = true) (hpos : 0 < x.mantissa) {digits : ℕ} {exponent : ℤ}
    (h : x.Rounds (digits * 10 ^ exponent)) : ofDecimal x.isNegative digits exponent = x := by
  obtain ⟨hlow, hhigh⟩ := h.ten_zpow_lt hx hpos
  have hten : (0 : ℚ) < 10 ^ exponent := zpow_pos (by norm_num) exponent
  have hdigits : digits ≠ 0 := by
    rintro rfl
    rw [Nat.cast_zero, zero_mul] at hlow
    exact absurd hlow (not_lt.mpr (zpow_nonneg (by norm_num) _))
  -- the guards decide what is far from every double.
  have hgreat : ¬ 400 < exponent := by
    have : (10 : ℚ) ^ exponent < 10 ^ (400 : ℤ) := by
      refine lt_of_le_of_lt ?_ hhigh
      have : (1 : ℚ) ≤ digits := by exact_mod_cast Nat.one_le_iff_ne_zero.mpr hdigits
      exact le_mul_of_one_le_left hten.le this
    have := (zpow_lt_zpow_iff_right₀ (by norm_num)).mp this
    omega
  have hsmall : ¬ exponent + (Nat.log2 digits : ℤ) / 3 < -400 := by
    intro hlt
    have : (10 : ℚ) ^ (-400 : ℤ) < 10 ^ ((digits.log2 : ℤ) / 3 + 1 + exponent) := by
      rw [zpow_add₀ (by norm_num)]
      refine lt_trans hlow ?_
      gcongr
      exact lt_ten_zpow digits
    have := (zpow_lt_zpow_iff_right₀ (by norm_num)).mp this
    omega
  unfold ofDecimal
  dsimp only
  rw [if_neg (not_or.mpr ⟨hdigits, hsmall⟩), if_neg hgreat]
  rw [zpow_eq_div, ← mul_div_assoc] at h
  split_ifs with hsign
  · rw [show (-exponent).toNat = 0 by omega, pow_zero] at h
    exact ofRatio_eq hx hpos one_pos (by rw [Nat.pow_eq]; push_cast; exact h)
  · rw [show exponent.toNat = 0 by omega, pow_zero, mul_one] at h
    exact ofRatio_eq hx hpos (by rw [Nat.pow_eq]; positivity) (by rw [Nat.pow_eq]; push_cast; exact h)

end GraphServe.Double
