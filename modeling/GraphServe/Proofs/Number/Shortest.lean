import GraphServe.Number.Shortest
import GraphServe.Proofs.Number.Rounding

/-!
# Doubles — shortest decimals

The decimal by which a double is written rounds to the double (`Double.rounds_shortest`): it is found
in the interval of the numbers that do, on a grid of at most seventeen digits.
-/

namespace GraphServe

/-- The digits of a number are as many as its size tells. -/
theorem length_toDigits_eq {n : ℕ} (hn : n ≠ 0) :
    ∃ k, (Nat.toDigits 10 n).length = k + 1 ∧ 10 ^ k ≤ n ∧ n < 10 ^ (k + 1) := by
  obtain ⟨k, hk⟩ := Nat.exists_eq_succ_of_ne_zero
    (Nat.ne_of_gt (Nat.length_toDigits_pos (b := 10) (n := n)))
  refine ⟨k, hk, ?_, (Nat.length_toDigits_le_iff (by decide) (Nat.succ_pos k)).mp hk.le⟩
  rcases Nat.eq_zero_or_pos k with rfl | hpos
  · exact Nat.one_le_iff_ne_zero.mpr hn
  · by_contra hlt
    have := (Nat.length_toDigits_le_iff (by decide) hpos).mpr (Nat.lt_of_not_le hlt)
    omega

/-- The number that a decimal is. -/
def Decimal.value (d : Decimal) : ℚ := d.digits * 10 ^ d.exponent

namespace Double

/-! ### Intervals -/

namespace Interval

variable {i : Interval} {d : Decimal} {exponent : ℤ}

theorem le_value_iff (hi : 0 < i.denominator) {n : ℕ} :
    n * Nat.pow 10 (-d.exponent).toNat ≤ d.digits * Nat.pow 10 d.exponent.toNat * i.denominator ↔
      (n : ℚ) / i.denominator ≤ d.value := by
  have hi' : (0 : ℚ) < i.denominator := by exact_mod_cast hi
  rw [Decimal.value, zpow_eq_div, ← mul_div_assoc, div_le_div_iff₀ hi' (by positivity),
    ← @Nat.cast_le ℚ, Nat.pow_eq, Nat.pow_eq]
  push_cast
  rfl

theorem value_le_iff (hi : 0 < i.denominator) {n : ℕ} :
    d.digits * Nat.pow 10 d.exponent.toNat * i.denominator ≤ n * Nat.pow 10 (-d.exponent).toNat ↔
      d.value ≤ (n : ℚ) / i.denominator := by
  have hi' : (0 : ℚ) < i.denominator := by exact_mod_cast hi
  rw [Decimal.value, zpow_eq_div, ← mul_div_assoc, div_le_div_iff₀ (by positivity) hi',
    ← @Nat.cast_le ℚ, Nat.pow_eq, Nat.pow_eq]
  push_cast
  rfl

/-- A decimal in an interval is between its ends, and at one only if they belong to it. -/
theorem contains_iff (hi : 0 < i.denominator) : i.contains d = true ↔
    (i.low / i.denominator : ℚ) ≤ d.value ∧ d.value ≤ i.high / i.denominator ∧
      (d.value = i.low / i.denominator ∨ d.value = i.high / i.denominator → i.closed = true) := by
  unfold contains
  dsimp only
  split_ifs with hclosed
  · rw [decide_eq_true_iff, le_value_iff hi, value_le_iff hi, hclosed]
    simp
  · rw [decide_eq_true_iff, ← not_le, ← not_le, le_value_iff hi, value_le_iff hi, not_le, not_le]
    constructor
    · rintro ⟨hlow, hhigh⟩
      refine ⟨hlow.le, hhigh.le, ?_⟩
      rintro (h | h)
      · exact absurd h hlow.ne'
      · exact absurd h hhigh.ne
    · rintro ⟨hlow, hhigh, hends⟩
      exact ⟨lt_of_le_of_ne hlow fun h => hclosed (hends (.inl h.symm)),
        lt_of_le_of_ne hhigh fun h => hclosed (hends (.inr h))⟩

theorem contains_of_nearest? (h : i.nearest? exponent = some d) : i.contains d = true := by
  unfold nearest? at h
  dsimp only at h
  generalize (if roundDiv _ _ = _ then _ else _ : ℕ) = other at h
  split_ifs at h with hnearer hother
  · exact Option.some_inj.mp h ▸ hnearer
  · exact Option.some_inj.mp h ▸ hother

/-- A search that passes a grid with a point in the interval finds one. -/
theorem contains_search {fuel : ℕ} {k : ℕ} (hk : k < fuel)
    (h : (i.nearest? (exponent - k)).isSome = true) : i.contains (i.search fuel exponent) = true := by
  induction fuel generalizing exponent k with
  | zero => exact absurd hk (Nat.not_lt_zero k)
  | succ fuel ih =>
      rw [search]
      cases hnearest : i.nearest? exponent with
      | some d => exact contains_of_nearest? hnearest
      | none =>
          cases k with
          | zero =>
              rw [Nat.cast_zero, sub_zero, hnearest] at h
              cases h
          | succ k =>
              refine ih (Nat.lt_of_succ_lt_succ hk) ?_
              rwa [sub_sub, add_comm (1 : ℤ), ← Nat.cast_succ]

/-- A grid has a point at most half of its unit away from the value. -/
theorem exists_near (hi : 0 < i.denominator) (exponent : ℤ) : ∃ d : Decimal,
    |(i.value : ℚ) / i.denominator - d.value| ≤ 1 / 2 * 10 ^ exponent ∧
      (i.contains d = true → (i.nearest? exponent).isSome = true) := by
  have hi' : (0 : ℚ) < i.denominator := by exact_mod_cast hi
  have hten : (0 : ℚ) < 10 ^ exponent := zpow_pos (by norm_num) exponent
  refine ⟨⟨roundDiv (i.value * Nat.pow 10 (-exponent).toNat)
    (i.denominator * Nat.pow 10 exponent.toNat), exponent⟩, ?_, fun h => ?_⟩
  · have hnear := roundDiv_near (a := i.value * Nat.pow 10 (-exponent).toNat)
      (b := i.denominator * Nat.pow 10 exponent.toNat) (by rw [Nat.pow_eq]; positivity)
    have hscaled : ((i.value * Nat.pow 10 (-exponent).toNat : ℕ) : ℚ)
        / (i.denominator * Nat.pow 10 exponent.toNat : ℕ)
          = i.value / i.denominator / 10 ^ exponent := by
      rw [zpow_eq_div, Nat.pow_eq, Nat.pow_eq, div_div_eq_mul_div, div_mul_eq_mul_div, div_div]
      push_cast
      rfl
    rw [hscaled] at hnear
    have := mul_le_mul_of_nonneg_right hnear hten.le
    rw [← abs_of_pos hten, ← abs_mul, sub_mul, abs_of_pos hten, div_mul_cancel₀ _ hten.ne'] at this
    exact this
  · unfold nearest?
    dsimp only
    rw [if_pos h]
    rfl

end Interval

/-! ### Grids -/

/-- The first digit of a quotient is not below its power of ten. -/
theorem ten_zpow_leadingExponent_le {n d : ℕ} (hn : 0 < n) (hd : 0 < d) :
    (10 : ℚ) ^ leadingExponent n d ≤ n / d := by
  have hd' : (0 : ℚ) < d := by exact_mod_cast hd
  have hn' : (0 : ℚ) < n := by exact_mod_cast hn
  unfold leadingExponent
  split_ifs with h
  · obtain ⟨k, hk, hpower, -⟩ := length_toDigits_eq (Nat.div_pos h hd).ne'
    rw [hk, Nat.cast_succ, add_sub_cancel_right, zpow_natCast, le_div_iff₀ hd']
    exact_mod_cast (Nat.le_div_iff_mul_le hd).mp hpower
  · have hpower := (Nat.length_toDigits_le_iff (by decide) Nat.length_toDigits_pos).mp
      (Nat.le_refl (Nat.toDigits 10 ((d - 1) / n)).length)
    rw [Nat.div_lt_iff_lt_mul hn] at hpower
    generalize (Nat.toDigits 10 ((d - 1) / n)).length = k at hpower ⊢
    rw [zpow_neg, zpow_natCast, inv_eq_one_div, div_le_div_iff₀ (by positivity) hd', one_mul,
      mul_comm]
    have : d ≤ 10 ^ k * n := by omega
    exact_mod_cast this

/-! ### Doubles -/

variable {x : Double}

theorem denominator_pos (x : Double) : 0 < x.interval.denominator := by
  unfold interval
  dsimp only
  rw [Nat.pow_eq]
  positivity

/-- The value of the interval is that of the double. -/
theorem value_eq (x : Double) :
    (x.interval.value : ℚ) / x.interval.denominator = x.mantissa * 2 ^ x.scale := by
  unfold interval
  dsimp only
  rw [zpow_eq_div, Nat.pow_eq, Nat.pow_eq]
  push_cast
  field_simp

theorem high_eq (x : Double) :
    (x.interval.high : ℚ) / x.interval.denominator = (x.mantissa + 1 / 2) * 2 ^ x.scale := by
  unfold interval
  dsimp only
  rw [zpow_eq_div, Nat.pow_eq, Nat.pow_eq]
  push_cast
  field_simp
  ring

theorem low_eq (hpos : 0 < x.mantissa) :
    (x.interval.low : ℚ) / x.interval.denominator = (x.mantissa - x.below) * 2 ^ x.scale := by
  unfold interval below
  dsimp only
  rw [zpow_eq_div, Nat.pow_eq, Nat.pow_eq, Nat.pow_eq]
  split_ifs with h
  · rw [Nat.cast_mul, Nat.cast_sub (by omega)]
    push_cast
    field_simp
  · rw [Nat.cast_mul, Nat.cast_sub (by omega)]
    push_cast
    field_simp
    ring

/-- A decimal of the interval of a double rounds to it. -/
theorem rounds_of_contains (hpos : 0 < x.mantissa) {d : Decimal} (h : x.interval.contains d = true) :
    x.Rounds d.value := by
  obtain ⟨hlow, hhigh, hends⟩ := (Interval.contains_iff x.denominator_pos).mp h
  rw [low_eq hpos, high_eq] at hends
  exact ⟨low_eq hpos ▸ hlow, high_eq x ▸ hhigh, fun h => of_decide_eq_true (hends h)⟩

/-- A decimal near a double is in its interval; how near it has to be is a part of the double. -/
theorem contains_of_near (hpos : 0 < x.mantissa) {d : Decimal}
    (h : |x.mantissa * 2 ^ x.scale - d.value| ≤ 1 / 2 * (x.mantissa * 2 ^ x.scale * 10 ^ (-16 : ℤ))) :
    x.interval.contains d = true := by
  have hscale := two_zpow_pos x.scale
  have hmantissa : (x.mantissa + 1 : ℚ) ≤ 2 ^ 53 := by exact_mod_cast x.mantissa_lt
  have hbelow : 1 / 2 * x.mantissa * 10 ^ (-16 : ℤ) < x.below := by
    unfold below
    split_ifs with h
    · rw [h.1]
      norm_num
    · norm_num at hmantissa ⊢
      linarith
  have hwidth := mul_lt_mul_of_pos_right hbelow hscale
  have hwidth' := mul_le_mul_of_nonneg_right x.below_le hscale.le
  obtain ⟨hlow, hhigh⟩ := abs_le.mp h
  refine (Interval.contains_iff x.denominator_pos).mpr ?_
  rw [low_eq hpos, high_eq]
  refine ⟨?_, ?_, ?_⟩
  · linarith
  · linarith
  · rintro (h | h)
    · linarith
    · linarith

theorem mantissa_pos (hzero : x.isZero = false) : 0 < x.mantissa := by
  have hbits := x.toNat_bits
  have hne : ¬ x.bits.toNat % 2 ^ 63 = 0 := of_decide_eq_false hzero
  unfold mantissa
  rw [Nat.pow_eq]
  split_ifs at hbits ⊢ <;> omega

/-- Without zeros at its end a decimal is the same number. -/
theorem value_stripZeros (fuel : ℕ) (d : Decimal) : (stripZeros fuel d).value = d.value := by
  induction fuel generalizing d with
  | zero => rfl
  | succ fuel ih =>
      rw [stripZeros]
      split_ifs with h
      · rw [ih, Decimal.value, Decimal.value]
        dsimp only
        rw [zpow_add_one₀ (by norm_num), mul_comm (10 ^ d.exponent : ℚ), ← mul_assoc]
        congr 1
        exact_mod_cast Nat.div_mul_cancel (Nat.dvd_of_mod_eq_zero h.2)
      · rfl

/-- **A double is written by a decimal that rounds to it.** -/
theorem rounds_shortest (hzero : x.isZero = false) : x.Rounds x.shortest.value := by
  have hpos := mantissa_pos hzero
  have hvalue : 0 < x.interval.value := by
    unfold interval
    dsimp only
    rw [Nat.pow_eq]
    positivity
  unfold shortest
  rw [hzero, if_neg Bool.false_ne_true]
  dsimp only
  rw [value_stripZeros]
  refine rounds_of_contains hpos (Interval.contains_search (k := 16) (by decide) ?_)
  have hlead := ten_zpow_leadingExponent_le hvalue x.denominator_pos
  generalize leadingExponent x.interval.value x.interval.denominator = leading at hlead ⊢
  obtain ⟨d, hnear, hfound⟩ := Interval.exists_near x.denominator_pos (leading - (16 : ℕ))
  rw [value_eq] at hlead hnear
  refine hfound (contains_of_near hpos (le_trans hnear ?_))
  rw [sub_eq_add_neg, zpow_add₀ (by norm_num)]
  gcongr
  · norm_num
  · rfl

theorem eq_zero_of_isZero (hzero : x.isZero = true) : zero x.isNegative = x := by
  have hbits := x.toNat_bits
  have hnone : x.bits.toNat % 2 ^ 63 = 0 := of_decide_eq_true hzero
  have := x.exponentField_lt
  have := x.fractionField_lt
  have hsign : x.bits.toNat = 0 + if x.isNegative then 2 ^ 63 else 0 := by
    split_ifs at hbits ⊢ <;> omega
  rw [zero, ofMagnitude, Nat.pow_eq, ← hsign, UInt64.ofNat_toNat]

/-- **A finite double is made of any digits that are its shortest decimal.** -/
theorem ofDecimal_of_eq_shortest (hx : x.isFinite = true) {digits : ℕ} {exponent : ℤ}
    (h : digits * 10 ^ exponent = x.shortest.value) : ofDecimal x.isNegative digits exponent = x := by
  cases hzero : x.isZero with
  | false =>
      exact ofDecimal_eq hx (mantissa_pos hzero) (h ▸ rounds_shortest hzero)
  | true =>
      have hdigits : digits = 0 := by
        rw [shortest, if_pos hzero, Decimal.value, Nat.cast_zero, zero_mul] at h
        exact_mod_cast (mul_eq_zero.mp h).resolve_right (zpow_ne_zero _ (by norm_num))
      unfold ofDecimal
      dsimp only
      rw [if_pos (.inl hdigits), eq_zero_of_isZero hzero]

end Double

/-! ### The first digit -/

/-- A positive decimal lies between the powers of ten of its first digit. -/
theorem Decimal.ten_zpow_le_value {d : Decimal} (hd : d.digits ≠ 0) {leading : ℤ}
    (h : d.exponent + (Nat.toDigits 10 d.digits).length - 1 = leading) :
    (10 : ℚ) ^ leading ≤ d.value ∧ d.value < 10 ^ (leading + 1) := by
  have hten : (0 : ℚ) < 10 ^ d.exponent := zpow_pos (by norm_num) _
  obtain ⟨k, hk, hlow, hhigh⟩ := length_toDigits_eq hd
  rw [hk] at h
  obtain rfl : d.exponent + k = leading := by
    push_cast at h
    omega
  rw [value]
  constructor
  · rw [zpow_add₀ (by norm_num), mul_comm, zpow_natCast]
    gcongr
    exact_mod_cast hlow
  · rw [add_assoc, zpow_add₀ (by norm_num), mul_comm, ← Nat.cast_succ, zpow_natCast]
    gcongr
    exact_mod_cast hhigh

end GraphServe
