import GraphServe.Json.Printer
import GraphServe.Json.Text
import GraphServe.Proofs.Text.Utf8

/-!
# Reading JSON — strings and integers

The scanner on bytes that a writer made, with whatever follows them.

* `Json.scanString_escaped`: a string is read from its characters, escaped, and a quote.
* `Json.scanNumber_nat`, `Json.scanNumber_negative`: a word is read from its digits, if what follows
  ends a value (`Json.Ends`).
-/

namespace GraphServe.Json

open Text

/-- The bytes of characters. -/
abbrev encode (l : List Char) : List UInt8 := l.flatMap String.utf8EncodeChar

theorem encode_append (l m : List Char) : encode (l ++ m) = encode l ++ encode m :=
  List.flatMap_append

theorem encode_cons (c : Char) (l : List Char) :
    encode (c :: l) = String.utf8EncodeChar c ++ encode l := List.flatMap_cons

namespace Cursor

theorem next_rest {c : Cursor} {b : UInt8} {rest : List UInt8} (h : c.rest = b :: rest) :
    c.next.rest = rest := by
  rw [next, h]

theorem peek_eq {c : Cursor} {b : UInt8} {rest : List UInt8} (h : c.rest = b :: rest) :
    c.peek = b := by
  rw [peek, h, List.headD_cons]

/-- Nothing to pass over. -/
theorem skipBlanks_cons {c : Cursor} {b : UInt8} {rest : List UInt8} (h : c.rest = b :: rest)
    (hb : isBlank b = false) : c.skipBlanks = c := by
  obtain ⟨_, position⟩ := c
  cases h
  rw [skipBlanks, skipBlanks.go, hb]
  rfl

end Cursor

/-! ### Strings -/

/-- A byte that stands for itself in a string. -/
def IsPlain (b : UInt8) : Prop := ¬ b < 32 ∧ b ≠ 34 ∧ b ≠ 92

theorem isPlain_of_mem_encodeChar {ch : Char} {b : UInt8} (hb : b ∈ String.utf8EncodeChar ch)
    (hcontrol : 32 ≤ ch.toNat) (hquote : ch ≠ '"') (hslash : ch ≠ '\\') : IsPlain b := by
  have hne {n : Nat} {other : Char} (hn : other.toNat = n) (hother : ch ≠ other) :
      ch.toNat ≠ n := fun h => hother (Char.toNat_inj.mp (h.trans hn.symm))
  have hquote := hne (n := 34) rfl hquote
  have hslash := hne (n := 92) rfl hslash
  simp only [IsPlain, ne_eq, UInt8.lt_iff_toNat_lt, ← UInt8.toNat_inj]
  rcases mem_encodeChar hb with ⟨hascii, rfl⟩ | hb
  · rw [toNat_ofNat_of_lt (by omega)]
    exact ⟨Nat.not_lt.mpr hcontrol, hquote, hslash⟩
  · exact ⟨Nat.not_lt.mpr (Nat.le_trans (by decide) hb),
      fun h => absurd (h ▸ hb) (by decide), fun h => absurd (h ▸ hb) (by decide)⟩

/-- Bytes that stand for themselves. -/
theorem scanString_plain {plain : List UInt8} (h : ∀ b ∈ plain, IsPlain b) (done : List UInt8)
    {c : Cursor} {rest : List UInt8} (hc : c.rest = plain ++ rest) :
    ∃ d : Cursor, d.rest = rest ∧ ∀ fuel,
      scanString none done (plain.length + fuel) c
        = scanString none (plain.reverse ++ done) fuel d := by
  induction plain generalizing done c with
  | nil => exact ⟨c, hc, fun fuel => by rw [List.length_nil, Nat.zero_add]; rfl⟩
  | cons b plain ih =>
      obtain ⟨⟨hcontrol, hquote, hslash⟩, hplain⟩ := List.forall_mem_cons.mp h
      obtain ⟨d, hd, hscan⟩ := ih hplain (b :: done) (Cursor.next_rest hc)
      refine ⟨d, hd, fun fuel => ?_⟩
      rw [List.length_cons, Nat.add_right_comm, scanString, hc]
      simp only [List.cons_append, if_neg hcontrol, if_neg hquote, if_neg hslash]
      rw [hscan fuel, List.reverse_cons, List.append_assoc]
      rfl

/-- An escape that stands for some bytes. -/
theorem scanString_escape {value : List UInt8} (done : List UInt8) {c d : Cursor}
    {rest : List UInt8} (hc : c.rest = 92 :: rest) (hescape : scanEscape c.next = .bytes value d)
    (fuel : Nat) :
    scanString none done (1 + fuel) c = scanString none (value.reverse ++ done) fuel d := by
  rw [Nat.add_comm, scanString, hc]
  simp only [show ¬ (92 : UInt8) = 34 by decide, if_false, if_true, hescape]

/-- The letters of short escapes, with the bytes that they stand for. -/
def shortEscapes : List (UInt8 × UInt8) :=
  [(34, 34), (92, 92), (98, 8), (102, 12), (110, 10), (114, 13), (116, 9)]

theorem scanEscape_short {b value : UInt8} (h : (b, value) ∈ shortEscapes) {c : Cursor}
    {rest : List UInt8} (hc : c.rest = b :: rest) : scanEscape c = .bytes [value] c.next := by
  rw [scanEscape, hc]
  simp only [shortEscapes, List.mem_cons, Prod.mk.injEq, List.not_mem_nil, or_false] at h
  rcases h with ⟨rfl, rfl⟩ | ⟨rfl, rfl⟩ | ⟨rfl, rfl⟩ | ⟨rfl, rfl⟩ | ⟨rfl, rfl⟩ | ⟨rfl, rfl⟩ |
    ⟨rfl, rfl⟩ <;> rfl

/-- The digits of the escape of a control character. -/
theorem hexValue?_hexDigit : ∀ n < 16, String.utf8EncodeChar (hexDigit n)
      = [UInt8.ofNat (hexDigit n).toNat]
    ∧ hexValue? (UInt8.ofNat (hexDigit n).toNat) = some n := by
  decide

/-- The escape of a control character by its number. -/
theorem scanEscape_number {ch : Char} (h : ch.toNat < 32) {c : Cursor} {rest : List UInt8}
    (hc : c.rest = encode ['u', '0', '0', hexDigit (ch.toNat / 16), hexDigit (ch.toNat % 16)]
      ++ rest) :
    ∃ d : Cursor, d.rest = rest ∧ scanEscape c = .bytes (String.utf8EncodeChar ch) d := by
  obtain ⟨hhigh, hvalue⟩ := hexValue?_hexDigit (ch.toNat / 16) (by omega)
  obtain ⟨hlow, hvalue'⟩ := hexValue?_hexDigit (ch.toNat % 16) (by omega)
  have hrest : c.rest = 117 :: 48 :: 48 :: UInt8.ofNat (hexDigit (ch.toNat / 16)).toNat
      :: UInt8.ofNat (hexDigit (ch.toNat % 16)).toNat :: rest := by
    rw [hc]
    simp only [encode, List.flatMap_cons, hhigh, hlow]
    rfl
  have hnext := Cursor.next_rest hrest
  have hhex : scanHex c.next = .ok (ch.toNat, c.next.next.next.next.next) := by
    rw [scanHex, hnext]
    simp only [hvalue, hvalue', show hexValue? 48 = some 0 by decide]
    rw [show ((0 * 16 + 0) * 16 + ch.toNat / 16) * 16 + ch.toNat % 16 = ch.toNat by omega]
  refine ⟨c.next.next.next.next.next, ?_, ?_⟩
  · exact Cursor.next_rest (Cursor.next_rest (Cursor.next_rest (Cursor.next_rest hnext)))
  · rw [scanEscape, hrest]
    simp only [show ¬ ((117 : UInt8) = 34 ∨ (117 : UInt8) = 92 ∨ (117 : UInt8) = 47) by decide,
      show ¬ (117 : UInt8) = 98 by decide, show ¬ (117 : UInt8) = 102 by decide,
      show ¬ (117 : UInt8) = 110 by decide, show ¬ (117 : UInt8) = 114 by decide,
      show ¬ (117 : UInt8) = 116 by decide, if_false, if_true, hhex]
    rw [if_neg (by omega), if_neg (by omega), utf8Bytes, String.singleton_eq_ofList]
    exact congrArg (Escape.bytes · _) ((bytes_ofList [Char.ofNat ch.toNat]).trans (by simp))

/-- A character of a string is read from what it is written as. -/
theorem scanString_escapeChar (ch : Char) (done : List UInt8) {c : Cursor} {rest : List UInt8}
    (hc : c.rest = encode (escapeChar ch) ++ rest) :
    ∃ d steps, d.rest = rest ∧ steps ≤ (encode (escapeChar ch)).length ∧ ∀ fuel,
      scanString none done (steps + fuel) c
        = scanString none ((String.utf8EncodeChar ch).reverse ++ done) fuel d := by
  have short {letter : Char} (h : escapeChar ch = ['\\', letter])
      (hletter : (UInt8.ofNat letter.toNat, UInt8.ofNat ch.toNat) ∈ shortEscapes)
      (hascii : letter.toNat < 128) (hch : ch.toNat < 128) :
      ∃ d steps, d.rest = rest ∧ steps ≤ (encode (escapeChar ch)).length ∧ ∀ fuel,
        scanString none done (steps + fuel) c
          = scanString none ((String.utf8EncodeChar ch).reverse ++ done) fuel d := by
    rw [h, encode_cons, encode_cons, encodeChar_of_lt hascii] at hc ⊢
    have hescape := scanEscape_short hletter (Cursor.next_rest hc)
    refine ⟨c.next.next, 1, Cursor.next_rest (Cursor.next_rest hc), by simp, fun fuel => ?_⟩
    rw [scanString_escape done hc hescape, encodeChar_of_lt hch]
  by_cases hquote : ch = '"'
  · exact short (by rw [escapeChar, if_pos hquote]) (by rw [hquote]; decide) (by decide)
      (by rw [hquote]; decide)
  by_cases hslash : ch = '\\'
  · exact short (by rw [escapeChar, if_neg hquote, if_pos hslash]) (by rw [hslash]; decide)
      (by decide) (by rw [hslash]; decide)
  by_cases hline : ch = '\n'
  · exact short (by rw [escapeChar, if_neg hquote, if_neg hslash, if_pos hline])
      (by rw [hline]; decide) (by decide) (by rw [hline]; decide)
  by_cases hreturn : ch = '\r'
  · exact short (by rw [escapeChar, if_neg hquote, if_neg hslash, if_neg hline, if_pos hreturn])
      (by rw [hreturn]; decide) (by decide) (by rw [hreturn]; decide)
  by_cases htab : ch = '\t'
  · exact short (by
      rw [escapeChar, if_neg hquote, if_neg hslash, if_neg hline, if_neg hreturn, if_pos htab])
      (by rw [htab]; decide) (by decide) (by rw [htab]; decide)
  by_cases hback : ch.toNat = 8
  · exact short (by
      rw [escapeChar, if_neg hquote, if_neg hslash, if_neg hline, if_neg hreturn, if_neg htab,
        if_pos hback]) (by rw [hback]; decide) (by decide) (by rw [hback]; decide)
  by_cases hfeed : ch.toNat = 12
  · exact short (by
      rw [escapeChar, if_neg hquote, if_neg hslash, if_neg hline, if_neg hreturn, if_neg htab,
        if_neg hback, if_pos hfeed]) (by rw [hfeed]; decide) (by decide) (by rw [hfeed]; decide)
  rw [escapeChar, if_neg hquote, if_neg hslash, if_neg hline, if_neg hreturn, if_neg htab,
    if_neg hback, if_neg hfeed] at hc ⊢
  by_cases hcontrol : ch.toNat < 32
  · rw [if_pos hcontrol, encode_cons, encodeChar_of_lt (by decide)] at hc ⊢
    obtain ⟨d, hd, hescape⟩ := scanEscape_number hcontrol (Cursor.next_rest hc)
    exact ⟨d, 1, hd, by simp, scanString_escape done hc hescape⟩
  · rw [if_neg hcontrol] at hc ⊢
    have hplain (b : UInt8) (hb : b ∈ String.utf8EncodeChar ch) : IsPlain b :=
      isPlain_of_mem_encodeChar hb (Nat.le_of_not_lt hcontrol) hquote hslash
    obtain ⟨d, hd, hscan⟩ := scanString_plain hplain done (by simpa [encode] using hc)
    exact ⟨d, _, hd, by simp [encode], hscan⟩

/-- A string is read from its text between quotes; there are fewer characters than `fuel`. -/
theorem scanString_escaped (l : List Char) (done : List UInt8) {c : Cursor} {rest : List UInt8}
    {fuel : Nat} (hc : c.rest = encode (l.flatMap escapeChar) ++ 34 :: rest)
    (hfuel : (encode (l.flatMap escapeChar)).length < fuel) {s : String}
    (hs : bytes s = done.reverse ++ encode l) :
    ∃ d, d.rest = rest ∧ scanString none done fuel c = .done s d := by
  induction l generalizing done c fuel with
  | nil =>
      obtain ⟨fuel, rfl⟩ := Nat.exists_eq_succ_of_ne_zero (Nat.ne_zero_of_lt hfuel)
      have hc : c.rest = 34 :: rest := hc
      refine ⟨c.next, Cursor.next_rest hc, ?_⟩
      have hutf : String.fromUTF8? ⟨done.reverse.toArray⟩ = some s := by
        rw [← List.append_nil done.reverse, ← fromUTF8?_bytes s, hs]
        rfl
      rw [scanString, hc]
      simp only [if_true, hutf]
  | cons ch l ih =>
      rw [List.flatMap_cons, encode_append] at hc hfuel
      rw [List.append_assoc] at hc
      rw [List.length_append] at hfuel
      obtain ⟨d, steps, hd, hsteps, hscan⟩ := scanString_escapeChar ch done hc
      obtain ⟨fuel, rfl⟩ := Nat.exists_eq_add_of_le (Nat.le_trans hsteps (by omega : _ ≤ fuel))
      rw [hscan]
      exact ih _ hd (by omega) (by rw [hs, encode_cons]; simp)

/-! ### Digits -/

/-- A byte that is no digit comes next, or nothing. -/
def NoDigit (rest : List UInt8) : Prop := ∀ b ∈ rest.head?, Cursor.isDigit b = false

/-- What follows a value inside of a text: nothing, or what divides values or ends the list or the
object that they are in. -/
def Ends (rest : List UInt8) : Prop := ∀ b ∈ rest.head?, b ∈ [(44 : UInt8), 93, 125]

/-- What ends a value does not go on with a number. -/
theorem Ends.not_number {rest : List UInt8} (h : Ends rest) {b : UInt8} (hb : b ∈ rest.head?) :
    Cursor.isDigit b = false ∧ b ≠ 46 ∧ ¬ (b = 101 ∨ b = 69) := by
  have hends := h b hb
  simp only [List.mem_cons, List.not_mem_nil, or_false] at hends
  rcases hends with rfl | rfl | rfl <;> decide

theorem Ends.noDigit {rest : List UInt8} (h : Ends rest) : NoDigit rest := fun _ hb =>
  (h.not_number hb).1

theorem digits_eq {run rest : List UInt8} (hrun : ∀ b ∈ run, Cursor.isDigit b = true)
    (hrest : NoDigit rest) {c : Cursor} (hc : c.rest = run ++ rest) :
    ∃ d : Cursor, d.rest = rest ∧ c.digits = (run, d) := by
  have htake : (run ++ rest).takeWhile Cursor.isDigit = run := by
    rw [List.takeWhile_append_of_pos hrun]
    cases rest with
    | nil => exact List.append_nil run
    | cons b rest => rw [List.takeWhile_cons, hrest b rfl]; exact List.append_nil run
  refine ⟨c.digits.2, ?_, ?_⟩
  · rw [Cursor.digits, hc, htake, List.drop_left]
  · rw [Cursor.digits, hc, htake]

/-- The digits of a natural number as a text has them. -/
def digitBytes (n : Nat) : List UInt8 := encode (Nat.toDigits 10 n)

theorem encode_digits {l : List Char} (h : ∀ c ∈ l, c.isDigit = true) :
    encode l = l.map fun c => UInt8.ofNat c.toNat := by
  induction l with
  | nil => rfl
  | cons c l ih =>
      obtain ⟨hc, hl⟩ := List.forall_mem_cons.mp h
      have hascii : c.toNat < 128 := by
        simp only [Char.isDigit, Bool.and_eq_true, decide_eq_true_eq, UInt32.le_iff_toNat_le] at hc
        exact Nat.lt_of_le_of_lt hc.2 (by decide)
      rw [encode_cons, encodeChar_of_lt hascii, ih hl]
      rfl

theorem isDigit_of_char {c : Char} (h : c.isDigit = true) :
    c.toNat < 256 ∧ 48 ≤ c.toNat ∧ Cursor.isDigit (UInt8.ofNat c.toNat) = true := by
  simp only [Char.isDigit, Bool.and_eq_true, decide_eq_true_eq, UInt32.le_iff_toNat_le] at h
  have hlow : 48 ≤ c.toNat := h.1
  have hhigh : c.toNat ≤ 57 := h.2
  refine ⟨by omega, hlow, ?_⟩
  simp only [Cursor.isDigit, Bool.and_eq_true, decide_eq_true_eq, UInt8.le_iff_toNat_le,
    toNat_ofNat_of_lt (show c.toNat < 256 by omega)]
  exact h

theorem natOfDigits_map {l : List Char} (h : ∀ c ∈ l, c.isDigit = true) :
    natOfDigits (l.map fun c => UInt8.ofNat c.toNat) = Nat.ofDigitChars 10 l 0 := by
  have hfold (n : Nat) : (l.map fun c => UInt8.ofNat c.toNat).foldl
      (fun n d => n * 10 + (d.toNat - 48)) n = Nat.ofDigitChars 10 l n := by
    rw [Nat.ofDigitChars]
    induction l generalizing n with
    | nil => rfl
    | cons c l ih =>
        obtain ⟨hc, hl⟩ := List.forall_mem_cons.mp h
        rw [List.map_cons, List.foldl_cons, List.foldl_cons,
          toNat_ofNat_of_lt (isDigit_of_char hc).1, ih hl, Nat.mul_comm]
        rfl
  exact hfold 0

theorem isDigit_of_mem_toDigits {n : Nat} : ∀ c ∈ Nat.toDigits 10 n, c.isDigit = true :=
  fun _ hc => Nat.isDigit_of_mem_toDigits (by decide) (by decide) hc

theorem natOfDigits_digitBytes (n : Nat) : natOfDigits (digitBytes n) = n := by
  rw [digitBytes, encode_digits isDigit_of_mem_toDigits, natOfDigits_map isDigit_of_mem_toDigits,
    Nat.ofDigitChars_ten_toDigits]

theorem isDigit_encode {l : List Char} (h : ∀ c ∈ l, c.isDigit = true) :
    ∀ b ∈ encode l, Cursor.isDigit b = true := by
  rw [encode_digits h]
  intro b hb
  obtain ⟨c, hc, rfl⟩ := List.mem_map.mp hb
  exact (isDigit_of_char (h c hc)).2.2

theorem isDigit_digitBytes (n : Nat) : ∀ b ∈ digitBytes n, Cursor.isDigit b = true :=
  isDigit_encode isDigit_of_mem_toDigits

theorem length_encode {l : List Char} (h : ∀ c ∈ l, c.isDigit = true) :
    (encode l).length = l.length := by
  rw [encode_digits h, List.length_map]

/-- A number other than zero does not begin with zero. -/
theorem head_toDigits (n : Nat) : 0 < n → ∃ c l, Nat.toDigits 10 n = c :: l ∧ c ≠ '0' := by
  induction n using Nat.strongRecOn with
  | ind n ih =>
      intro hn
      rw [Nat.toDigits_eq_if (by decide)]
      split
      · next hlt =>
          refine ⟨_, [], rfl, ?_⟩
          have : ∀ n < 10, 0 < n → n.digitChar ≠ '0' := by decide
          exact this n hlt hn
      · obtain ⟨c, l, hl, hc⟩ := ih (n / 10) (Nat.div_lt_self hn (by decide)) (by omega)
        exact ⟨c, l ++ [(n % 10).digitChar], by rw [hl]; rfl, hc⟩

/-- A run of digits that a number may begin with: zero alone, or one that does not begin with it. -/
def IsWhole (run : List UInt8) : Prop :=
  (∀ b ∈ run, Cursor.isDigit b = true) ∧ ∃ b rest, run = b :: rest ∧ (b = 48 → rest = [])

theorem isWhole_encode {c : Char} {l : List Char} (h : ∀ d ∈ c :: l, d.isDigit = true)
    (hzero : c = '0' → l = []) : IsWhole (encode (c :: l)) := by
  refine ⟨isDigit_encode h, UInt8.ofNat c.toNat, l.map fun d => UInt8.ofNat d.toNat, ?_,
    fun h48 => ?_⟩
  · exact encode_digits h
  · have hbyte := congrArg UInt8.toNat h48
    rw [toNat_ofNat_of_lt (isDigit_of_char (h c List.mem_cons_self)).1] at hbyte
    rw [hzero (Char.toNat_inj.mp hbyte)]
    rfl

theorem isWhole_digitBytes (n : Nat) : IsWhole (digitBytes n) := by
  rcases Nat.eq_zero_or_pos n with rfl | hn
  · exact isWhole_encode (isDigit_of_mem_toDigits (n := 0)) fun _ => rfl
  · obtain ⟨c, l, hl, hc⟩ := head_toDigits n hn
    have hdigits := isDigit_of_mem_toDigits (n := n)
    rw [hl] at hdigits
    rw [digitBytes, hl]
    exact isWhole_encode hdigits fun h => absurd h hc

/-! ### Numbers -/

theorem scanNumber_whole {run rest : List UInt8} (hrun : IsWhole run) (hrest : NoDigit rest)
    {c : Cursor} (hc : c.rest = run ++ rest) (negative : Bool) :
    ∃ d : Cursor, d.rest = rest ∧ scanNumber negative c = scanFraction negative run d := by
  obtain ⟨hdigits, b, more, rfl, hzero⟩ := hrun
  have hb := hdigits b List.mem_cons_self
  rw [scanNumber, hc]
  simp only [List.cons_append]
  by_cases h48 : b = 48
  · rw [hzero h48] at hc ⊢
    have hnext : c.next.rest = rest := Cursor.next_rest hc
    have hpeek : Cursor.isDigit c.next.peek = false := by
      rw [Cursor.peek, hnext]
      cases rest with
      | nil => rfl
      | cons b rest => exact hrest b rfl
    refine ⟨c.next, hnext, ?_⟩
    rw [if_pos h48, hpeek, if_neg Bool.false_ne_true]
  · obtain ⟨d, hd, hscan⟩ := digits_eq hdigits hrest hc
    exact ⟨d, hd, by rw [if_neg h48, if_pos hb, hscan]⟩

theorem peek_of_ends {c : Cursor} (h : Ends c.rest) :
    c.peek ≠ 46 ∧ ¬ (c.peek = 101 ∨ c.peek = 69) := by
  rw [Cursor.peek]
  cases hc : c.rest with
  | nil => decide
  | cons b rest =>
      rw [hc] at h
      exact (h.not_number rfl).2

theorem isUnsigned_iff (n : Int) :
    Word.isUnsigned 64 n = true ↔ 0 ≤ n ∧ n < 18446744073709551616 := by
  have hcount : Word.count 64 = 18446744073709551616 := by decide
  rw [Word.isUnsigned, Bool.and_eq_true, decide_eq_true_iff, decide_eq_true_iff, hcount]
  omega

theorem isSigned_iff (n : Int) :
    Word.isSigned 64 n = true ↔ -9223372036854775808 ≤ n ∧ n < 9223372036854775808 := by
  have hcount : Word.count (64 - 1) = 9223372036854775808 := by decide
  rw [Word.isSigned, Bool.and_eq_true, decide_eq_true_iff, decide_eq_true_iff, hcount]
  omega

theorem scanNumber_nat {n : Nat} (hn : n < 18446744073709551616) {rest : List UInt8}
    (hrest : Ends rest) {c : Cursor} (hc : c.rest = digitBytes n ++ rest) :
    ∃ d : Cursor, d.rest = rest ∧ scanNumber false c = .done (.int n) d := by
  obtain ⟨d, hd, hscan⟩ := scanNumber_whole (isWhole_digitBytes n) hrest.noDigit hc false
  obtain ⟨hpoint, hexponent⟩ := peek_of_ends (hd ▸ hrest)
  refine ⟨d, hd, ?_⟩
  rw [hscan, scanFraction, if_neg hpoint, if_neg hexponent]
  simp only [natOfDigits_digitBytes]
  rw [if_pos]
  rw [Bool.and_eq_true, isUnsigned_iff]
  exact ⟨rfl, by omega⟩

theorem scanNumber_negative {n : Nat} (hpos : 0 < n) (hn : n ≤ 9223372036854775808)
    {rest : List UInt8} (hrest : Ends rest) {c : Cursor} (hc : c.rest = digitBytes n ++ rest) :
    ∃ d : Cursor, d.rest = rest ∧ scanNumber true c = .done (.int (-n)) d := by
  obtain ⟨d, hd, hscan⟩ := scanNumber_whole (isWhole_digitBytes n) hrest.noDigit hc true
  obtain ⟨hpoint, hexponent⟩ := peek_of_ends (hd ▸ hrest)
  refine ⟨d, hd, ?_⟩
  rw [hscan, scanFraction, if_neg hpoint, if_neg hexponent]
  simp only [natOfDigits_digitBytes]
  rw [if_neg (by simp), if_pos]
  rw [Bool.and_eq_true, Bool.and_eq_true, decide_eq_true_iff, isSigned_iff]
  exact ⟨⟨rfl, hpos⟩, by omega⟩

end GraphServe.Json
