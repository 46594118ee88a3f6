import GraphServe.Extension

/-!
# SHA-256 — texts of digests

The hexadecimal text of a digest determines the digest (`Sha256.hex_injective`), and is in lower
case (`Sha256.lower_hex`).  So two texts that have one hash, whatever the case of its digits, have
one digest (`PersistedQuery.digest_eq_of_isHashOf`).
-/

namespace GraphServe

namespace Sha256

/-! ### Digits -/

theorem toLower_hexDigit : ∀ n < 16, (Json.hexDigit n).toLower = Json.hexDigit n := by decide

theorem hexDigit_injective :
    ∀ m < 16, ∀ n < 16, Json.hexDigit m = Json.hexDigit n → m = n := by
  decide

theorem toNat_digit (x shift : UInt32) :
    ((x >>> shift) &&& 15).toNat = x.toNat >>> (shift.toNat % 32) % 16 := by
  rw [UInt32.toNat_and, UInt32.toNat_shiftRight]
  exact Nat.and_two_pow_sub_one_eq_mod _ 4

theorem toNat_digit_lt (x shift : UInt32) : ((x >>> shift) &&& 15).toNat < 16 := by
  rw [toNat_digit]
  exact Nat.mod_lt _ (by decide)

/-! ### Words -/

theorem map_toLower_hexWord (x : UInt32) : (hexWord x).map Char.toLower = hexWord x := by
  rw [hexWord, List.map_map]
  exact List.map_congr_left fun shift _ => toLower_hexDigit _ (toNat_digit_lt x shift)

theorem hexWord_injective {x y : UInt32} (h : hexWord x = hexWord y) : x = y := by
  have digit {shift : UInt32} (h : Json.hexDigit ((x >>> shift) &&& 15).toNat =
      Json.hexDigit ((y >>> shift) &&& 15).toNat) :
      x.toNat >>> (shift.toNat % 32) % 16 = y.toNat >>> (shift.toNat % 32) % 16 := by
    rw [← toNat_digit, ← toNat_digit]
    exact hexDigit_injective _ (toNat_digit_lt x shift) _ (toNat_digit_lt y shift) h
  simp only [hexWord, List.map_cons, List.map_nil, List.cons.injEq, and_true] at h
  obtain ⟨h₇, h₆, h₅, h₄, h₃, h₂, h₁, h₀⟩ := h
  -- the eight digits, as the number is written to the base sixteen
  have d₇ := digit h₇
  have d₆ := digit h₆
  have d₅ := digit h₅
  have d₄ := digit h₄
  have d₃ := digit h₃
  have d₂ := digit h₂
  have d₁ := digit h₁
  have d₀ := digit h₀
  have hx := x.toNat_lt
  have hy := y.toNat_lt
  simp [Nat.shiftRight_eq_div_pow] at d₇ d₆ d₅ d₄ d₃ d₂ d₁ d₀ hx hy
  apply UInt32.toNat.inj
  omega

theorem length_hexWord (x : UInt32) : (hexWord x).length = 8 := rfl

/-- Each word takes eight digits, so that the words stand at the same places. -/
theorem hexWord_append_inj {x y : UInt32} {s t : List Char} (h : hexWord x ++ s = hexWord y ++ t) :
    x = y ∧ s = t := by
  obtain ⟨hword, hrest⟩ := List.append_inj h (by rw [length_hexWord, length_hexWord])
  exact ⟨hexWord_injective hword, hrest⟩

/-! ### Texts -/

/-- The hexadecimal text is in lower case. -/
theorem lower_hex (text : String) : Headers.lower (hex text) = hex text := by
  simp only [Headers.lower, hex, String.toList_ofList, List.map_flatMap, map_toLower_hexWord]

theorem hex_injective {s t : String} (h : hex s = hex t) :
    digest (Text.bytes s) = digest (Text.bytes t) := by
  rcases hs : digest (Text.bytes s) with ⟨a, b, c, d, e, f, g, k⟩
  rcases ht : digest (Text.bytes t) with ⟨a', b', c', d', e', f', g', k'⟩
  have hdigits := String.ofList_injective h
  simp only [hs, ht, List.flatMap_cons, List.flatMap_nil] at hdigits
  obtain ⟨ha, hdigits⟩ := hexWord_append_inj hdigits
  obtain ⟨hb, hdigits⟩ := hexWord_append_inj hdigits
  obtain ⟨hc, hdigits⟩ := hexWord_append_inj hdigits
  obtain ⟨hd, hdigits⟩ := hexWord_append_inj hdigits
  obtain ⟨he, hdigits⟩ := hexWord_append_inj hdigits
  obtain ⟨hf, hdigits⟩ := hexWord_append_inj hdigits
  obtain ⟨hg, hdigits⟩ := hexWord_append_inj hdigits
  obtain ⟨hk, -⟩ := hexWord_append_inj hdigits
  rw [ha, hb, hc, hd, he, hf, hg, hk]

end Sha256

namespace Extension.PersistedQuery

/-- Texts that have one hash have one digest. -/
theorem digest_eq_of_isHashOf {hash s t : String} (hs : isHashOf hash s) (ht : isHashOf hash t) :
    Sha256.digest (Text.bytes s) = Sha256.digest (Text.bytes t) := by
  have hlower := (of_decide_eq_true hs).symm.trans (of_decide_eq_true ht)
  rw [Sha256.lower_hex, Sha256.lower_hex] at hlower
  exact Sha256.hex_injective hlower

end Extension.PersistedQuery

end GraphServe
