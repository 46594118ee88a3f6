import GraphServe.Proofs.Json.Scanning
import GraphServe.Proofs.Number.Shortest

/-!
# Reading JSON — doubles

The text of a finite double is its sign and a numeral of its shortest decimal, with a point or with a
power of ten (`Json.bytes_floatText`).

* `Json.Numeral.IsDecimal.scan`: a numeral is read as its digits with their power of ten.
* `Json.scanFloat_numeral`: those of the numeral of a double are the double.
-/

namespace GraphServe.Json

open Text

/-! ### Digits -/

theorem foldl_digits (digits : List UInt8) (n : Nat) :
    digits.foldl (fun n d => n * 10 + (d.toNat - 48)) n = n * 10 ^ digits.length + natOfDigits digits := by
  unfold natOfDigits
  induction digits generalizing n with
  | nil => simp
  | cons d digits ih =>
      rw [List.foldl_cons, List.foldl_cons, ih, ih (0 * 10 + _), List.length_cons]
      ring

theorem natOfDigits_append (digits places : List UInt8) :
    natOfDigits (digits ++ places) = natOfDigits digits * 10 ^ places.length + natOfDigits places := by
  rw [natOfDigits, List.foldl_append, foldl_digits]
  rfl

theorem natOfDigits_zeros (count : Nat) : natOfDigits (List.replicate count 48) = 0 := by
  induction count with
  | zero => rfl
  | succ count ih =>
      rw [List.replicate_succ']
      rw [natOfDigits_append, ih]
      rfl

/-- Digits that spell a word do not pass the greatest exponent. -/
theorem exponentOverflow?_eq_none {power : List UInt8} {value : Nat}
    (h : value * 10 ^ power.length + natOfDigits power < 2147483648) :
    exponentOverflow? value power = none := by
  induction power generalizing value with
  | nil => rfl
  | cons d power ih =>
      have hcons : natOfDigits (d :: power)
          = (d.toNat - 48) * 10 ^ power.length + natOfDigits power := by
        rw [natOfDigits, List.foldl_cons, foldl_digits]
        simp
      rw [hcons, List.length_cons] at h
      have hvalue : (value * 10 + (d.toNat - 48)) * 10 ^ power.length + natOfDigits power
          < 2147483648 := by
        refine lt_of_eq_of_lt ?_ h
        ring
      have hsigned : Word.isSigned 32 (value * 10 + (d.toNat - 48) : Nat) = true := by
        have hcount : Word.count (32 - 1) = 2147483648 := by decide
        have hle := Nat.le_mul_of_pos_right (value * 10 + (d.toNat - 48))
          (Nat.pow_pos (n := power.length) (show 0 < 10 by decide))
        rw [Word.isSigned, Bool.and_eq_true, decide_eq_true_iff, decide_eq_true_iff, hcount]
        omega
      rw [exponentOverflow?, if_pos hsigned, ih hvalue]
      rfl

/-! ### Numbers with a point -/

variable {whole places power rest : List UInt8}

theorem noDigit_cons {b : UInt8} (hb : Cursor.isDigit b = false) (rest : List UInt8) :
    NoDigit (b :: rest) := fun _ h => Option.some_inj.mp h ▸ hb

/-- The places of a number, and what follows them. -/
theorem scanFraction_point (hplaces : ∀ b ∈ places, Cursor.isDigit b = true) (hsome : places ≠ [])
    (hrest : NoDigit rest) {c : Cursor} (hc : c.rest = 46 :: (places ++ rest)) (negative : Bool)
    (digits : List UInt8) : ∃ d : Cursor, d.rest = rest ∧
      scanFraction negative digits c = if d.peek = 101 ∨ d.peek = 69
        then scanExponent negative (digits ++ places) (-places.length) d
        else scanFloat negative (digits ++ places) (-places.length) d := by
  obtain ⟨d, hd, hdigits⟩ := digits_eq hplaces hrest (Cursor.next_rest hc)
  refine ⟨d, hd, ?_⟩
  rw [scanFraction, if_pos (Cursor.peek_eq hc)]
  dsimp only
  rw [hdigits]
  dsimp only
  rw [if_neg (by simpa using hsome)]

theorem scanNumber_point (hwhole : IsWhole whole) (hplaces : ∀ b ∈ places, Cursor.isDigit b = true)
    (hsome : places ≠ []) (hrest : Ends rest) {c : Cursor}
    (hc : c.rest = whole ++ 46 :: (places ++ rest)) (negative : Bool) :
    ∃ d : Cursor, d.rest = rest ∧
      scanNumber negative c = scanFloat negative (whole ++ places) (-places.length) d := by
  obtain ⟨d, hd, hscan⟩ := scanNumber_whole hwhole (noDigit_cons (by decide) _) hc negative
  obtain ⟨e, he, hpoint⟩ := scanFraction_point hplaces hsome hrest.noDigit hd negative whole
  exact ⟨e, he, by rw [hscan, hpoint, if_neg (peek_of_ends (he ▸ hrest)).2]⟩

/-- The sign of a power of ten. -/
def powerSign (down : Bool) : UInt8 := if down then 45 else 43

/-- A power of ten is read. -/
theorem scanExponent_eq (hpower : ∀ b ∈ power, Cursor.isDigit b = true) (hsome : power ≠ [])
    (hrest : Ends rest) {c : Cursor} {down : Bool}
    (hc : c.rest = 101 :: powerSign down :: (power ++ rest))
    (hsmall : natOfDigits power < 2147483648) (negative : Bool) (digits : List UInt8)
    (exponent : Int) : ∃ d : Cursor, d.rest = rest ∧
      scanExponent negative digits exponent c = scanFloat negative digits
        (exponent + if down then -(natOfDigits power : Int) else natOfDigits power) d := by
  have hsign := Cursor.next_rest hc
  obtain ⟨d, hd, hdigits⟩ := digits_eq hpower hrest.noDigit (Cursor.next_rest hsign)
  obtain ⟨b, more, hb⟩ := List.exists_cons_of_ne_nil hsome
  have hfirst : c.next.next.rest = b :: (more ++ rest) := by
    rw [Cursor.next_rest hsign, hb]
    rfl
  have hstep : (if c.next.peek = 43 then (false, c.next.next)
      else if c.next.peek = 45 then (true, c.next.next) else (false, c.next))
        = (down, c.next.next) := by
    rw [Cursor.peek_eq hsign]
    cases down <;> rfl
  have hnone : (if down = true ∨ natOfDigits digits = 0 then none else exponentOverflow? 0 power)
      = none := by
    rw [exponentOverflow?_eq_none (by rwa [Nat.zero_mul, Nat.zero_add]), ite_self]
  refine ⟨d, hd, ?_⟩
  rw [scanExponent]
  dsimp only
  rw [hstep]
  dsimp only
  rw [hfirst]
  dsimp only
  rw [if_pos (hpower b (hb ▸ List.mem_cons_self)), hdigits]
  dsimp only
  rw [hnone]

theorem scanNumber_power (hwhole : IsWhole whole) (hplaces : ∀ b ∈ places, Cursor.isDigit b = true)
    (hpower : ∀ b ∈ power, Cursor.isDigit b = true) (hsome : power ≠ [])
    (hsmall : natOfDigits power < 2147483648) (hrest : Ends rest) {c : Cursor} {down : Bool}
    (hc : c.rest = whole ++ ((if places = [] then [] else 46 :: places)
      ++ 101 :: powerSign down :: (power ++ rest))) (negative : Bool) :
    ∃ d : Cursor, d.rest = rest ∧ scanNumber negative c = scanFloat negative (whole ++ places)
      (-places.length + if down then -(natOfDigits power : Int) else natOfDigits power) d := by
  split_ifs at hc with hnone
  · obtain ⟨d, hd, hscan⟩ := scanNumber_whole hwhole (noDigit_cons (by decide) _) hc negative
    obtain ⟨e, he, hexponent⟩ := scanExponent_eq hpower hsome hrest hd hsmall negative whole 0
    have hpeek : d.peek = 101 := Cursor.peek_eq hd
    refine ⟨e, he, ?_⟩
    rw [hscan, scanFraction, hpeek, if_neg (by decide), if_pos (.inl rfl), hexponent, hnone,
      List.append_nil]
    rfl
  · rw [List.cons_append] at hc
    obtain ⟨d, hd, hscan⟩ := scanNumber_whole hwhole (noDigit_cons (by decide) _) hc negative
    obtain ⟨e, he, hpoint⟩ :=
      scanFraction_point hplaces hnone (noDigit_cons (by decide) _) hd negative whole
    obtain ⟨f, hf, hexponent⟩ := scanExponent_eq hpower hsome hrest he hsmall negative
      (whole ++ places) (-places.length)
    exact ⟨f, hf, by rw [hscan, hpoint, if_pos (.inl (Cursor.peek_eq he)), hexponent]⟩

/-! ### Numerals -/

/-- A numeral: characters of a whole part and of places after a point, and a power of ten. -/
structure Numeral where
  whole  : List Char
  places : List Char := []
  power? : Option Int := none

namespace Numeral

variable {n : Numeral}

/-- The digits of a numeral. -/
def digits (n : Numeral) : List Char := n.whole ++ n.places

/-- The power of ten of the last digit. -/
def exponent (n : Numeral) : Int := n.power?.getD 0 - n.places.length

/-- The characters of a power of ten. -/
def powerChars : Option Int → List Char
  | none       => []
  | some power => 'e' :: (if power < 0 then '-' else '+') :: Nat.toDigits 10 power.natAbs

/-- The characters of a numeral. -/
def chars (n : Numeral) : List Char :=
  n.whole ++ ((if n.places = [] then [] else '.' :: n.places) ++ powerChars n.power?)

/-- The number that a numeral spells. -/
def value (n : Numeral) : ℚ := natOfDigits (encode n.digits) * 10 ^ n.exponent

/-- A numeral that is read as a double: of digits, with a point or a power of ten. -/
structure IsDecimal (n : Numeral) : Prop where
  digits : ∀ c ∈ n.digits, c.isDigit = true
  whole  : ∃ c rest, n.whole = c :: rest ∧ (c = '0' → rest = [])
  parts  : n.places ≠ [] ∨ n.power?.isSome = true
  power  : ∀ power ∈ n.power?, power.natAbs < 2147483648

/-- The whole part of a numeral is one of a number. -/
theorem IsDecimal.isWhole (h : n.IsDecimal) : IsWhole (encode n.whole) := by
  obtain ⟨c, rest, hwhole, hzero⟩ := h.whole
  have hdigits : ∀ c ∈ n.whole, c.isDigit = true := fun c hc =>
    h.digits c (List.mem_append_left _ hc)
  refine ⟨isDigit_encode hdigits, UInt8.ofNat c.toNat, rest.map fun c => UInt8.ofNat c.toNat, ?_,
    fun h48 => ?_⟩
  · rw [encode_digits hdigits, hwhole]
    rfl
  · have hbyte := congrArg UInt8.toNat h48
    rw [toNat_ofNat_of_lt (isDigit_of_char (hdigits c (hwhole ▸ List.mem_cons_self))).1] at hbyte
    rw [hzero (Char.toNat_inj.mp hbyte)]
    rfl

/-- **A numeral is read** as its digits with their power of ten. -/
theorem IsDecimal.scan (h : n.IsDecimal) {c : Cursor} (hc : c.rest = encode n.chars ++ rest)
    (hrest : Ends rest) (negative : Bool) : ∃ d : Cursor, d.rest = rest ∧
      scanNumber negative c = scanFloat negative (encode n.digits) n.exponent d := by
  have hplaces : ∀ c ∈ n.places, c.isDigit = true := fun c hc =>
    h.digits c (List.mem_append_right _ hc)
  have hsome : encode n.places = [] ↔ n.places = [] := by
    rw [← List.length_eq_zero_iff, length_encode hplaces, List.length_eq_zero_iff]
  rw [Numeral.digits, encode_append, Numeral.exponent, ← length_encode hplaces]
  unfold Numeral.chars at hc
  cases hpower : n.power? with
  | none =>
      have hpoint : n.places ≠ [] := h.parts.resolve_right (by rw [hpower]; exact Bool.false_ne_true)
      rw [hpower, if_neg hpoint, powerChars, List.append_nil, encode_append, encode_cons,
        List.append_assoc] at hc
      obtain ⟨d, hd, hscan⟩ := scanNumber_point h.isWhole (isDigit_encode hplaces)
        (mt hsome.mp hpoint) hrest (by rw [hc]; rfl) negative
      exact ⟨d, hd, by rw [hscan, Option.getD_none, zero_sub]⟩
  | some power =>
      have hpoint : encode (if n.places = [] then [] else '.' :: n.places)
          = if encode n.places = [] then [] else 46 :: encode n.places := by
        split_ifs with hnone hnone' hnone'
        · rfl
        · exact absurd (hsome.mpr hnone) hnone'
        · exact absurd (hsome.mp hnone') hnone
        · rw [encode_cons]
          rfl
      have hsign : encode ['e', if power < 0 then '-' else '+'] = [101, powerSign (power < 0)] := by
        by_cases hneg : power < 0
        · rw [if_pos hneg, decide_eq_true hneg]
          rfl
        · rw [if_neg hneg, decide_eq_false hneg]
          rfl
      rw [hpower, powerChars, encode_append, encode_append, hpoint,
        ← List.singleton_append (l := Nat.toDigits 10 _), ← List.cons_append, encode_append, hsign] at hc
      have hdigits : natOfDigits (digitBytes power.natAbs) = power.natAbs := natOfDigits_digitBytes _
      obtain ⟨-, b, more, hb, -⟩ := isWhole_digitBytes power.natAbs
      obtain ⟨d, hd, hscan⟩ := scanNumber_power h.isWhole (isDigit_encode hplaces)
        (isDigit_digitBytes power.natAbs) (hb ▸ List.cons_ne_nil b more)
        (hdigits.symm ▸ h.power power hpower) hrest
        (by rw [hc, List.append_assoc, List.append_assoc]; rfl) negative
      refine ⟨d, hd, ?_⟩
      rw [hscan, hdigits, Option.getD_some]
      congr 1
      split_ifs with hneg
      · have := of_decide_eq_true hneg
        omega
      · have := of_decide_eq_false (Bool.eq_false_iff.mpr hneg)
        omega

/-! ### Decimals -/

/-- The numeral by which a decimal is written. -/
def ofDecimal (style : Decimal.Style) (d : Decimal) : Numeral :=
  let digits := Nat.toDigits 10 d.digits
  let leading : Int := d.exponent + digits.length - 1
  if d.digits = 0 then { whole := ['0'], places := ['0'] }
  else if style.least ≤ leading ∧ leading < style.limit then
    if 0 ≤ d.exponent then
      { whole := digits ++ List.replicate d.exponent.toNat '0', places := ['0'] }
    else
      let places := (-d.exponent).toNat
      let padded := List.replicate (places + 1 - digits.length) '0' ++ digits
      { whole := padded.take (padded.length - places)
        places := padded.drop (padded.length - places) }
  else { whole := digits.take 1, places := digits.drop 1, power? := some leading }

variable {style : Decimal.Style} {d : Decimal}

theorem length_padded (digits : List Char) (places : Nat) :
    places < (List.replicate (places + 1 - digits.length) '0' ++ digits).length := by
  rw [List.length_append, List.length_replicate]
  omega

/-- The text of a decimal is that of its numeral. -/
theorem chars_ofDecimal (style : Decimal.Style) (d : Decimal) :
    (ofDecimal style d).chars = d.render style := by
  unfold ofDecimal Decimal.render
  dsimp only
  generalize hdigits : Nat.toDigits 10 d.digits = digits
  generalize hleading : d.exponent + (digits.length : Int) - 1 = leading
  by_cases hzero : d.digits = 0
  · rw [if_pos hzero, if_pos hzero]
    rfl
  rw [if_neg hzero, if_neg hzero]
  by_cases hstyle : style.least ≤ leading ∧ leading < style.limit
  · rw [if_pos hstyle, if_pos hstyle]
    split_ifs with hexponent
    · rfl
    · have hlength := length_padded digits (-d.exponent).toNat
      rw [chars, Decimal.withPoint]
      dsimp only
      rw [if_neg (by rw [List.drop_eq_nil_iff]; omega), powerChars, List.append_nil]
  · rw [if_neg hstyle, if_neg hstyle, chars]
    dsimp only
    rw [powerChars]
    cases digits with
    | nil => rfl
    | cons c digits =>
        cases digits with
        | nil => rfl
        | cons c' digits => rfl

theorem isDigit_zeros {count : Nat} : ∀ c ∈ List.replicate count '0', c.isDigit = true :=
  fun _ hc => List.eq_of_mem_replicate hc ▸ rfl

theorem natOfDigits_encode_append {l m : List Char} (hm : ∀ c ∈ m, c.isDigit = true) :
    natOfDigits (encode (l ++ m))
      = natOfDigits (encode l) * 10 ^ m.length + natOfDigits (encode m) := by
  rw [encode_append, natOfDigits_append, length_encode hm]

theorem natOfDigits_encode_zeros (count : Nat) :
    natOfDigits (encode (List.replicate count '0')) = 0 := by
  rw [encode_digits isDigit_zeros, List.map_replicate]
  exact natOfDigits_zeros count

/-- A numeral of a decimal spells it. -/
theorem value_ofDecimal (style : Decimal.Style) (d : Decimal) :
    (ofDecimal style d).value = d.value := by
  have hnumber : natOfDigits (encode (Nat.toDigits 10 d.digits)) = d.digits :=
    natOfDigits_digitBytes d.digits
  have hdigit : ∀ c ∈ Nat.toDigits 10 d.digits, c.isDigit = true := isDigit_of_mem_toDigits
  have hlength : 0 < (Nat.toDigits 10 d.digits).length := Nat.length_toDigits_pos
  unfold ofDecimal
  dsimp only
  generalize Nat.toDigits 10 d.digits = digits at hnumber hdigit hlength ⊢
  rw [Decimal.value, value, Numeral.digits, exponent]
  split_ifs with hzero hstyle hexponent
  · rw [hzero, Nat.cast_zero, zero_mul]
    exact zero_mul _
  · obtain ⟨k, hk⟩ := Int.eq_ofNat_of_zero_le hexponent
    have hall : natOfDigits (encode (digits ++ List.replicate k '0' ++ List.replicate 1 '0'))
        = d.digits * 10 ^ k * 10 := by
      rw [natOfDigits_encode_append isDigit_zeros, natOfDigits_encode_append isDigit_zeros,
        natOfDigits_encode_zeros, natOfDigits_encode_zeros, hnumber, List.length_replicate,
        List.length_replicate, pow_one]
      rfl
    dsimp only
    rw [hk, Int.toNat_natCast]
    refine (congrArg (fun n : Nat => (n : ℚ) * 10 ^ (0 - 1 : Int)) hall).trans ?_
    push_cast
    rw [zpow_natCast, zpow_neg_one, mul_inv_cancel_right₀ (by norm_num)]
  · have hall : natOfDigits (encode (List.replicate ((-d.exponent).toNat + 1 - digits.length) '0'
        ++ digits)) = d.digits := by
      rw [natOfDigits_encode_append hdigit, natOfDigits_encode_zeros, zero_mul, zero_add, hnumber]
    have hmore := length_padded digits (-d.exponent).toNat
    dsimp only
    rw [List.take_append_drop, hall, List.length_drop]
    congr 2
    rw [Option.getD_none]
    omega
  · dsimp only
    rw [List.take_append_drop, hnumber, List.length_drop]
    congr 2
    rw [Option.getD_some]
    omega

/-- A numeral of a decimal that is not too great or too small is read as a double. -/
theorem isDecimal_ofDecimal (style : Decimal.Style) (d : Decimal)
    (h : d.digits ≠ 0 → (10 : ℚ) ^ (-400 : ℤ) < d.value ∧ d.value < 10 ^ (400 : ℤ)) :
    (ofDecimal style d).IsDecimal := by
  have hdigit : ∀ c ∈ Nat.toDigits 10 d.digits, c.isDigit = true := isDigit_of_mem_toDigits
  unfold ofDecimal
  dsimp only
  by_cases hzero : d.digits = 0
  · rw [if_pos hzero]
    exact ⟨@isDigit_zeros 2, ⟨'0', [], rfl, fun _ => rfl⟩, .inl (List.cons_ne_nil _ _), by simp⟩
  rw [if_neg hzero]
  obtain ⟨c, rest, hhead, hc⟩ := head_toDigits d.digits (Nat.pos_of_ne_zero hzero)
  split_ifs with hstyle hexponent
  · refine ⟨?_, ?_, .inl (List.cons_ne_nil _ _), by simp⟩
    · simp only [Numeral.digits, List.forall_mem_append]
      exact ⟨⟨hdigit, isDigit_zeros⟩, @isDigit_zeros 1⟩
    · rw [hhead]
      exact ⟨c, _, rfl, fun h => absurd h hc⟩
  · generalize Nat.toDigits 10 d.digits = digits at hdigit hhead
    have hmore := length_padded digits (-d.exponent).toNat
    refine ⟨?_, ?_, .inl ?_, by simp⟩
    · simp only [Numeral.digits, List.take_append_drop, List.forall_mem_append]
      exact ⟨isDigit_zeros, hdigit⟩
    · dsimp only
      rcases Nat.lt_or_ge (-d.exponent).toNat digits.length with hlt | hge
      · obtain ⟨k, hk⟩ := Nat.exists_eq_add_of_lt hlt
        rw [show (-d.exponent).toNat + 1 - digits.length = 0 by omega, List.replicate_zero,
          List.nil_append, show digits.length - (-d.exponent).toNat = k + 1 by omega, hhead]
        exact ⟨c, rest.take k, rfl, fun h => absurd h hc⟩
      · obtain ⟨k, hk⟩ := Nat.exists_eq_add_of_le hge
        rw [show (-d.exponent).toNat + 1 - digits.length = k + 1 by omega, List.length_append,
          List.length_replicate, show k + 1 + digits.length - (-d.exponent).toNat = 1 by omega]
        exact ⟨'0', [], rfl, fun _ => rfl⟩
    · rw [ne_eq, List.drop_eq_nil_iff]
      omega
  · obtain ⟨hlow, hhigh⟩ := h hzero
    obtain ⟨hle, hlt⟩ := Decimal.ten_zpow_le_value hzero rfl
    have hleast := (zpow_lt_zpow_iff_right₀ (by norm_num)).mp (lt_trans hlow hlt)
    have hgreatest := (zpow_lt_zpow_iff_right₀ (by norm_num)).mp (lt_of_le_of_lt hle hhigh)
    refine ⟨?_, ?_, .inr rfl, fun power hpower => ?_⟩
    · simpa only [Numeral.digits, List.take_append_drop] using hdigit
    · rw [hhead]
      exact ⟨c, [], rfl, fun _ => rfl⟩
    · obtain rfl := Option.some_inj.mp hpower
      omega

end Numeral

/-! ### Doubles -/

variable {x : Double}

/-- The numeral by which a double is written. -/
def numeral (x : Double) : Numeral := .ofDecimal floatStyle x.shortest

theorem isDecimal_numeral (hx : x.isFinite = true) : (numeral x).IsDecimal := by
  refine Numeral.isDecimal_ofDecimal floatStyle x.shortest fun hdigits => ?_
  cases hzero : x.isZero with
  | true => exact absurd (by rw [Double.shortest, if_pos hzero]) hdigits
  | false => exact (Double.rounds_shortest hzero).ten_zpow_lt hx (Double.mantissa_pos hzero)

/-- What the numeral of a finite double spells is the double. -/
theorem scanFloat_numeral (hx : x.isFinite = true) (c : Cursor) :
    scanFloat x.isNegative (encode (numeral x).digits) (numeral x).exponent c
      = .done (.float x) c := by
  have hvalue : (natOfDigits (encode (numeral x).digits) : ℚ) * 10 ^ (numeral x).exponent
      = x.shortest.value := Numeral.value_ofDecimal floatStyle x.shortest
  unfold scanFloat
  dsimp only
  rw [Double.ofDecimal_of_eq_shortest hx hvalue, if_pos hx]

/-- The text of a finite double is its sign and its numeral. -/
theorem bytes_floatText (hx : x.isFinite = true) :
    bytes (floatText x) = (if x.isNegative then [45] else []) ++ encode (numeral x).chars := by
  unfold floatText
  rw [hx, Bool.not_true, if_neg Bool.false_ne_true]
  dsimp only
  rw [bytes_ofList, numeral, Numeral.chars_ofDecimal]
  split_ifs with hsign
  · exact encode_cons '-' _
  · rfl

end GraphServe.Json
