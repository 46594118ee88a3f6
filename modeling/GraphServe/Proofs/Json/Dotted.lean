import GraphServe.Proofs.Json.Scanning
import GraphServe.Proofs.Json.Value

/-!
# Paths — dotted texts

A text is its segments with dots between them (`Path.intercalate_splitDots`), and segments without
dots are found again (`Path.splitDots_intercalate`).  `Path.parseDotted` reads each segment as an
element, so the elements with dots between them are the text again exactly if each segment is
written as the element that it is read as (`Path.dotted_parseDotted_iff`).

That is so unless the segment is padded (`PathElement.text_ofSegment_iff`): a number of sixty-four
bits with a plus sign or a zero before its digits is written without them.  Hence a key without dots
is the one that is written to, and read, exactly if it is not padded (`Path.parseDotted_faithful`).
-/

namespace GraphServe

/-! ### Numbers -/

/-- A digit is that of its number. -/
theorem toDigits_digit {d : Char} (hd : d.isDigit = true) :
    d.toNat - '0'.toNat < 10 ∧ Nat.toDigits 10 (d.toNat - '0'.toNat) = [d] := by
  simp only [Char.isDigit, Bool.and_eq_true, decide_eq_true_eq, UInt32.le_iff_toNat_le] at hd
  have hlow : 48 ≤ d.toNat := hd.1
  have hhigh : d.toNat ≤ 57 := hd.2
  have hsmall : d.toNat - '0'.toNat < 10 := by
    change d.toNat - 48 < 10
    omega
  refine ⟨hsmall, ?_⟩
  rw [Nat.toDigits_of_lt_base hsmall, List.singleton_inj]
  have hchar : ∀ k < 10, (Nat.digitChar k).toNat = 48 + k := by decide
  apply Char.toNat_inj.mp
  rw [hchar _ hsmall]
  change 48 + (d.toNat - 48) = d.toNat
  omega

/-- More digits stand behind those of a number. -/
theorem toDigits_ofDigitChars_append {digits : List Char} (hdigits : ∀ d ∈ digits, d.isDigit = true)
    {n : Nat} (hn : 0 < n) :
    Nat.toDigits 10 (Nat.ofDigitChars 10 digits n) = Nat.toDigits 10 n ++ digits := by
  induction digits generalizing n with
  | nil => rw [Nat.ofDigitChars_nil, List.append_nil]
  | cons d digits ih =>
      obtain ⟨hd, hdigits⟩ := List.forall_mem_cons.mp hdigits
      obtain ⟨hsmall, hone⟩ := toDigits_digit hd
      rw [Nat.ofDigitChars_cons, ih hdigits (by omega),
        ← Nat.toDigits_append_toDigits (by decide) hn hsmall, hone, List.append_assoc,
        List.singleton_append]

/-- Digits that do not begin with zero are those of their number. -/
theorem toDigits_ofDigitChars {d : Char} {digits : List Char}
    (hdigits : ∀ c ∈ d :: digits, c.isDigit = true) (hd : d ≠ '0') :
    Nat.toDigits 10 (Nat.ofDigitChars 10 (d :: digits) 0) = d :: digits := by
  obtain ⟨hfirst, hdigits⟩ := List.forall_mem_cons.mp hdigits
  obtain ⟨-, hone⟩ := toDigits_digit hfirst
  have hpos : 0 < d.toNat - '0'.toNat := by
    apply Nat.pos_of_ne_zero
    intro hzero
    rw [hzero, Nat.toDigits_zero, List.singleton_inj] at hone
    exact hd hone.symm
  rw [Nat.ofDigitChars_cons, Nat.mul_zero, Nat.zero_add, toDigits_ofDigitChars_append hdigits hpos,
    hone, List.singleton_append]

namespace PathElement

/-- Digits that spell a number of sixty-four bits. -/
structure AreNumber (digits : List Char) : Prop where
  nonempty : digits ≠ []
  digit    : ∀ c ∈ digits, c.isDigit = true
  small    : Nat.ofDigitChars 10 digits 0 < Word.count 64

/-- A segment that spells a number of sixty-four bits after a plus sign or a zero. -/
inductive IsPadded (segment : String) : Prop where
  | plus {digits : List Char} (spelled : segment.toList = '+' :: digits) (number : AreNumber digits)
  | zero {digits : List Char} (spelled : segment.toList = '0' :: digits) (number : AreNumber digits)

/-- What a segment has after a plus sign. -/
def unsigned : List Char → List Char
  | '+' :: rest => rest
  | all         => all

variable {segment : String} {n : Nat}

/-- The number that a segment spells is that of its digits, after a plus sign or not. -/
theorem number?_eq_some_iff : number? segment = some n ↔
    AreNumber (unsigned segment.toList) ∧ Nat.ofDigitChars 10 (unsigned segment.toList) 0 = n := by
  have hfold (digits : List Char) : digits.foldl (fun n d => n * 10 + (d.toNat - '0'.toNat)) 0 =
      Nat.ofDigitChars 10 digits 0 := by
    simp only [Nat.ofDigitChars_eq_foldl, Nat.mul_comm]
  have hword (n : Nat) : Word.isUnsigned 64 (n : Int) = true ↔ n < Word.count 64 := by
    rw [Word.isUnsigned, Bool.and_eq_true, decide_eq_true_iff, decide_eq_true_iff, Int.ofNat_lt]
    exact and_iff_right (Int.natCast_nonneg n)
  have hsplit : number? segment =
      let digits := unsigned segment.toList
      if !digits.isEmpty && digits.all Char.isDigit then
        if Word.isUnsigned 64 (Nat.ofDigitChars 10 digits 0 : Nat) then
          some (Nat.ofDigitChars 10 digits 0) else none
      else none := by
    simp only [← hfold]
    rfl
  rw [hsplit]
  generalize unsigned segment.toList = digits
  constructor
  · intro h
    simp only [Option.ite_none_right_eq_some, Bool.and_eq_true, Bool.not_eq_true',
      List.isEmpty_eq_false_iff, List.all_eq_true, hword, Option.some.injEq] at h
    obtain ⟨⟨hne, hdigit⟩, hsmall, hn⟩ := h
    exact ⟨⟨hne, hdigit, hsmall⟩, hn⟩
  · rintro ⟨⟨hne, hdigit, hsmall⟩, rfl⟩
    have hall : digits.all Char.isDigit = true := List.all_eq_true.mpr hdigit
    have hempty : digits.isEmpty = false := List.isEmpty_eq_false_iff.mpr hne
    simp only [hall, hempty, Bool.not_false, Bool.and_self, if_true, (hword _).mpr hsmall]

/-- The digits of a padded segment are a number without the pad. -/
theorem IsPadded.number?_isSome (h : IsPadded segment) : ∃ n, number? segment = some n := by
  cases h with
  | plus spelled number =>
      refine ⟨_, number?_eq_some_iff.mpr ⟨?_, rfl⟩⟩
      rw [spelled]
      exact number
  | @zero digits spelled number =>
      refine ⟨_, number?_eq_some_iff.mpr ⟨?_, rfl⟩⟩
      rw [spelled]
      refine ⟨List.cons_ne_nil _ _, ?_, ?_⟩
      · exact List.forall_mem_cons.mpr ⟨rfl, number.digit⟩
      · exact number.small

/-- A segment is padded if its first character is a pad, and a number follows. -/
theorem isPadded_iff {c : Char} {rest : List Char} (h : segment.toList = c :: rest) :
    IsPadded segment ↔ (c = '+' ∨ c = '0') ∧ AreNumber rest := by
  constructor
  · intro hpadded
    cases hpadded with
    | plus spelled number =>
        obtain ⟨rfl, rfl⟩ := List.cons.inj (h.symm.trans spelled)
        exact ⟨.inl rfl, number⟩
    | zero spelled number =>
        obtain ⟨rfl, rfl⟩ := List.cons.inj (h.symm.trans spelled)
        exact ⟨.inr rfl, number⟩
  · rintro ⟨rfl | rfl, number⟩
    · exact .plus h number
    · exact .zero h number

/-- The digits of a number begin with zero only if they are no more. -/
theorem eq_nil_of_toDigits {m : Nat} {rest : List Char} (h : Nat.toDigits 10 m = '0' :: rest) :
    rest = [] := by
  rcases Nat.eq_zero_or_pos m with rfl | hm
  · rw [Nat.toDigits_zero] at h
    exact (List.cons.inj h).2.symm
  · obtain ⟨c, more, hfirst, hc⟩ := Json.head_toDigits m hm
    rw [hfirst] at h
    exact absurd (List.cons.inj h).1 hc

/-- Digits are written as their number is, unless they come after a sign or begin with zero. -/
theorem toDigits_unsigned_iff {c : Char} {rest : List Char}
    (number : AreNumber (unsigned (c :: rest))) :
    Nat.toDigits 10 (Nat.ofDigitChars 10 (unsigned (c :: rest)) 0) = c :: rest ↔
      ¬ ((c = '+' ∨ c = '0') ∧ AreNumber rest) := by
  by_cases hplus : c = '+'
  · -- no number is written with a sign
    subst hplus
    refine iff_of_false ?_ (not_not_intro ⟨.inl rfl, number⟩)
    intro h
    have hsign := Json.isDigit_of_mem_toDigits '+' (h ▸ List.mem_cons_self)
    exact absurd hsign (by decide)
  · have hunsigned : unsigned (c :: rest) = c :: rest := by
      rw [unsigned]
      intro rest h
      exact hplus (List.cons.inj h).1
    rw [hunsigned] at number ⊢
    by_cases hzero : c = '0'
    · subst hzero
      constructor
      · rintro h ⟨-, hrest⟩
        exact hrest.nonempty (eq_nil_of_toDigits h)
      · intro h
        by_cases hrest : rest = []
        · subst hrest
          exact Nat.toDigits_zero 10
        · have hpadded : AreNumber rest :=
            ⟨hrest, (List.forall_mem_cons.mp number.digit).2, number.small⟩
          exact absurd ⟨.inr rfl, hpadded⟩ h
    · refine iff_of_true (toDigits_ofDigitChars number.digit hzero) ?_
      rintro ⟨hpad, -⟩
      exact hpad.elim hplus hzero

/-- **A segment is written as its element is, unless it is padded.** -/
theorem text_ofSegment_iff (segment : String) :
    (ofSegment segment).text = segment ↔ ¬ IsPadded segment := by
  rw [ofSegment]
  cases hnumber : number? segment with
  | none =>
      refine iff_of_true rfl ?_
      intro h
      obtain ⟨n, hn⟩ := h.number?_isSome
      rw [hn] at hnumber
      cases hnumber
  | some n =>
      obtain ⟨number, rfl⟩ := number?_eq_some_iff.mp hnumber
      have htext (n : Nat) : (index n).text = segment ↔ Nat.toDigits 10 n = segment.toList := by
        rw [text, Nat.toString_eq_ofList_toDigits, ← String.toList_inj, String.toList_ofList]
      obtain ⟨c, rest, hchars⟩ : ∃ c rest, segment.toList = c :: rest := by
        apply List.exists_cons_of_ne_nil
        intro hempty
        rw [hempty] at number
        exact number.nonempty rfl
      rw [htext, isPadded_iff hchars]
      rw [hchars] at number ⊢
      exact toDigits_unsigned_iff number

/-- The text of the element of a segment has a dot only if the segment has. -/
theorem dot_not_mem_text (h : '.' ∉ segment.toList) : '.' ∉ (ofSegment segment).text.toList := by
  rw [ofSegment]
  cases number? segment with
  | none => exact h
  | some n =>
      intro hdot
      rw [text, Nat.toString_eq_ofList_toDigits, String.toList_ofList] at hdot
      exact absurd (Json.isDigit_of_mem_toDigits '.' hdot) (by decide)

end PathElement

namespace Path

/-- The text of a path with dots: its elements, and a dot between any two. -/
def dotted (p : Path) : String := ".".intercalate (p.map PathElement.text)

theorem splitDots_ne_nil (current rest : List Char) : splitDots current rest ≠ [] := by
  induction rest generalizing current with
  | nil => exact List.cons_ne_nil _ _
  | cons c rest ih =>
      rw [splitDots]
      split
      · exact List.cons_ne_nil _ _
      · exact ih _

theorem parseDotted_ne_nil (text : String) : parseDotted text ≠ [] := by
  rw [parseDotted, ofSegments]
  intro h
  exact splitDots_ne_nil _ _ (List.map_eq_nil_iff.mp h)

/-- A text is its segments with dots between them. -/
theorem intercalate_splitDots (current rest : List Char) :
    ".".intercalate (splitDots current rest) = String.ofList (current.reverse ++ rest) := by
  induction rest generalizing current with
  | nil => rw [splitDots, String.intercalate_singleton, List.append_nil]
  | cons c rest ih =>
      rw [splitDots]
      by_cases hc : c = '.'
      · rw [if_pos hc, String.intercalate_cons_of_ne_nil (splitDots_ne_nil [] rest), ih, hc]
        apply String.toList_inj.mp
        simp
      · rw [if_neg hc, ih, List.reverse_cons, List.append_assoc, List.singleton_append]

/-- No segment has a dot. -/
theorem dot_not_mem_of_mem_splitDots {current rest : List Char} (h : '.' ∉ current)
    {segment : String} (hsegment : segment ∈ splitDots current rest) : '.' ∉ segment.toList := by
  induction rest generalizing current with
  | nil =>
      rw [splitDots, List.mem_singleton] at hsegment
      rw [hsegment, String.toList_ofList, List.mem_reverse]
      exact h
  | cons c rest ih =>
      rw [splitDots] at hsegment
      by_cases hc : c = '.'
      · rw [if_pos hc] at hsegment
        rcases List.mem_cons.mp hsegment with rfl | hsegment
        · rw [String.toList_ofList, List.mem_reverse]
          exact h
        · exact ih List.not_mem_nil hsegment
      · rw [if_neg hc] at hsegment
        refine ih ?_ hsegment
        intro hdot
        rcases List.mem_cons.mp hdot with hdot | hdot
        · exact hc hdot.symm
        · exact h hdot

/-- Characters up to the next dot, or to the end, go to the segment. -/
theorem splitDots_append {chars : List Char} (h : '.' ∉ chars) (current rest : List Char) :
    splitDots current (chars ++ rest) = splitDots (chars.reverse ++ current) rest := by
  induction chars generalizing current with
  | nil => rfl
  | cons c chars ih =>
      obtain ⟨hc, hchars⟩ := List.ne_and_not_mem_of_not_mem_cons h
      rw [List.cons_append, splitDots, if_neg (Ne.symm hc), ih hchars, List.reverse_cons,
        List.append_assoc, List.singleton_append]

/-- Segments without dots are found again. -/
theorem splitDots_intercalate {segments : List String} (hne : segments ≠ [])
    (h : ∀ segment ∈ segments, '.' ∉ segment.toList) :
    splitDots [] (".".intercalate segments).toList = segments := by
  induction segments with
  | nil => exact absurd rfl hne
  | cons first others ih =>
      obtain ⟨hfirst, hothers⟩ := List.forall_mem_cons.mp h
      by_cases hlast : others = []
      · subst hlast
        have hsplit := splitDots_append hfirst [] []
        rw [List.append_nil, List.append_nil, splitDots, List.reverse_reverse,
          String.ofList_toList] at hsplit
        rw [String.intercalate_singleton, hsplit]
      · have htext : (".".intercalate (first :: others)).toList =
            first.toList ++ '.' :: (".".intercalate others).toList := by
          rw [String.intercalate_cons_of_ne_nil hlast]
          simp
        rw [htext, splitDots_append hfirst, List.append_nil, splitDots, if_pos rfl,
          List.reverse_reverse, String.ofList_toList, ih hlast hothers]

/-- **A dotted text is that of its path, if no segment is padded, and only then.** -/
theorem dotted_parseDotted_iff (text : String) :
    (parseDotted text).dotted = text ↔
      ∀ segment ∈ splitDots [] text.toList, ¬ PathElement.IsPadded segment := by
  let segments := splitDots [] text.toList
  let written := segments.map fun segment => (PathElement.ofSegment segment).text
  have hjoined : ".".intercalate segments = text := by
    rw [intercalate_splitDots, List.reverse_nil, List.nil_append, String.ofList_toList]
  have hdotted : (parseDotted text).dotted = ".".intercalate written := by
    rw [dotted, parseDotted, ofSegments, List.map_map]
    rfl
  have hfound : splitDots [] (".".intercalate written).toList = written := by
    refine splitDots_intercalate (by simpa [written] using splitDots_ne_nil [] text.toList) ?_
    intro out hout
    obtain ⟨segment, hsegment, rfl⟩ := List.mem_map.mp hout
    exact PathElement.dot_not_mem_text (dot_not_mem_of_mem_splitDots List.not_mem_nil hsegment)
  calc (parseDotted text).dotted = text
      ↔ written = segments := by
        rw [hdotted]
        constructor
        · intro h
          rw [← hfound, h]
        · intro h
          rw [h, hjoined]
    _ ↔ segments.map (fun segment => (PathElement.ofSegment segment).text) = segments.map id := by
        rw [List.map_id]
    _ ↔ ∀ segment ∈ segments, (PathElement.ofSegment segment).text = segment := List.map_inj_left
    _ ↔ ∀ segment ∈ segments, ¬ PathElement.IsPadded segment :=
        forall₂_congr fun segment _ => PathElement.text_ofSegment_iff segment

/-- The path of a key without dots is the element that it is read as. -/
theorem parseDotted_key {key : String} (h : '.' ∉ key.toList) :
    parseDotted key = [PathElement.ofSegment key] := by
  have hsplit := splitDots_intercalate (List.cons_ne_nil key []) (List.forall_mem_singleton.mpr h)
  rw [String.intercalate_singleton] at hsplit
  rw [parseDotted, hsplit]
  rfl

/-- **What a dotted path loses.**  A text is the elements of its path, with dots between them, exactly
if none of its segments is padded.  A key without dots stands for the key that its element is written as: that
one is written to in an object, and read; it is the key itself exactly if the key is not padded. -/
theorem parseDotted_faithful (text : String) :
    ((parseDotted text).dotted = text ↔
        ∀ segment ∈ splitDots [] text.toList, ¬ PathElement.IsPadded segment) ∧
      ∀ (key : String) (members : Json.Members) (x : Json), '.' ∉ key.toList →
        let name := (PathElement.ofSegment key).text
        let after := Json.object (members.insert name x)
        Json.setAt x (parseDotted key) (.object members) = some after ∧
          (Json.object members).getAt (parseDotted key) = members.get? name ∧
          after.getAt (parseDotted key) = some x ∧
          (name = key ↔ ¬ PathElement.IsPadded key) := by
  refine ⟨dotted_parseDotted_iff text, ?_⟩
  intro key members x hkey name after
  have hread (others : Json.Members) :
      (Json.object others).getAt (parseDotted key) = others.get? name := by
    rw [parseDotted_key hkey, Json.getAt, Json.child?]
    exact Option.bind_fun_some _
  refine ⟨?_, hread members, ?_, PathElement.text_ofSegment_iff key⟩
  · rw [parseDotted_key hkey, Json.setAt, List.isEmpty_nil, if_pos rfl]
  · rw [hread, Json.Members.get?_insert, if_pos rfl]

/-- An index is written as it was, and so is a number of more than sixty-four bits, which is a key. -/
theorem parseDotted_faithful_plain :
    (parseDotted "input.0").dotted = "input.0" ∧
      '.' ∉ "18446744073709551616".toList ∧
      Json.setAt .null (parseDotted "18446744073709551616") (.object []) =
        some (.object [("18446744073709551616", .null)]) := by
  have hinput : ¬ PathElement.IsPadded "input" := (PathElement.text_ofSegment_iff _).mp (by decide)
  have hzero : ¬ PathElement.IsPadded "0" := (PathElement.text_ofSegment_iff _).mp (by decide)
  have hsegments : splitDots [] "input.0".toList = ["input", "0"] := by decide
  have hkey : '.' ∉ "18446744073709551616".toList := by decide
  obtain ⟨hdotted, hkeys⟩ := parseDotted_faithful "input.0"
  have hbig : (PathElement.ofSegment "18446744073709551616").text = "18446744073709551616" := by
    decide
  obtain ⟨hset, -⟩ := hkeys "18446744073709551616" [] .null hkey
  refine ⟨hdotted.mpr ?_, hkey, ?_⟩
  · rw [hsegments]
    exact List.forall_mem_cons.mpr ⟨hinput, List.forall_mem_singleton.mpr hzero⟩
  · rw [hset, hbig]
    rfl

/-- Zeros in front of a number are lost: another key is written to than the one that is named. -/
theorem parseDotted_not_faithful :
    (parseDotted "007").dotted = "7" ∧ '.' ∉ "007".toList ∧
      Json.setAt (.int 1) (parseDotted "007") (.object [("007", .null)]) =
        some (.object [("007", .null), ("7", .int 1)]) := by
  refine ⟨by decide, by decide, ?_⟩
  rfl

end Path

end GraphServe
