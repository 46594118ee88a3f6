import GraphServe.Proofs.Json.Doubles
import GraphServe.Proofs.Json.Tree

/-!
# Reading JSON — what was written

A value that a text can hold (`Json.IsWritable`) is read from its text: the text spells the value
(`Json.spells_text`), so every decoder that takes the value takes its text, and the whole text is
read as the value if it does not nest too deeply (`Json.parse?_text`).
-/

namespace GraphServe.Json

open Text

/-- A value that a text can hold: its integers are words of sixty-four bits, with a sign or without,
its doubles are finite, and its objects have keys of their own. -/
inductive IsWritable : Json → Prop where
  | null : IsWritable .null
  | bool (b : Bool) : IsWritable (.bool b)
  | int {n : Int} (low : -9223372036854775808 ≤ n) (high : n < 18446744073709551616) :
      IsWritable (.int n)
  | float {x : Double} (h : x.isFinite = true) : IsWritable (.float x)
  | string (s : String) : IsWritable (.string s)
  | list {items : List Json} (below : ∀ v ∈ items, IsWritable v) : IsWritable (.list items)
  | object {members : Members} (distinct : (members.map Prod.fst).Nodup)
      (below : ∀ m ∈ members, IsWritable m.2) : IsWritable (.object members)

theorem isWritable_int_iff {n : Int} :
    (int n).IsWritable ↔ -9223372036854775808 ≤ n ∧ n < 18446744073709551616 := by
  constructor
  · intro h
    cases h with
    | int low high => exact ⟨low, high⟩
  · rintro ⟨low, high⟩
    exact .int low high

theorem isWritable_list_iff {items : List Json} :
    (list items).IsWritable ↔ ∀ v ∈ items, v.IsWritable := by
  constructor
  · intro h
    cases h with
    | list below => exact below
  · exact .list

theorem isWritable_object_iff {members : Members} :
    (object members).IsWritable ↔
      (members.map Prod.fst).Nodup ∧ ∀ m ∈ members, m.2.IsWritable := by
  constructor
  · intro h
    cases h with
    | object distinct below => exact ⟨distinct, below⟩
  · rintro ⟨distinct, below⟩
    exact .object distinct below

/-! ### Texts -/

/-- The bytes of a value. -/
def text (v : Json) : List UInt8 := bytes v.render

/-- The bytes of the items of a list after some of them. -/
def moreItems (items : List Json) : List UInt8 := items.flatMap fun v => 44 :: v.text

/-- The bytes of a member. -/
def memberText (m : String × Json) : List UInt8 := bytes (quote m.1) ++ 58 :: m.2.text

/-- The bytes of the members of an object after some of them. -/
def moreMembers (members : Members) : List UInt8 := members.flatMap fun m => 44 :: memberText m

theorem bytes_empty : bytes "" = [] := bytes_ofList []

theorem bytes_comma : bytes "," = [44] := bytes_ofList [',']

theorem bytes_colon : bytes ":" = [58] := bytes_ofList [':']

theorem bytes_renderItems (v : Json) (items : List Json) :
    bytes (renderItems (v :: items)) = v.text ++ moreItems items := by
  induction items generalizing v with
  | nil => rw [renderItems]; exact (List.append_nil _).symm
  | cons w items ih =>
      rw [renderItems, bytes_append, bytes_append, ih]
      · simp [moreItems, text, bytes_comma]
      · exact fun h => by cases h

theorem bytes_renderMembers (m : String × Json) (members : Members) :
    bytes (renderMembers (m :: members)) = memberText m ++ moreMembers members := by
  induction members generalizing m with
  | nil =>
      rw [renderMembers, bytes_append, bytes_append]
      simp [moreMembers, memberText, text, bytes_colon]
  | cons n members ih =>
      rw [renderMembers, bytes_append, bytes_append, bytes_append, bytes_append, ih]
      · simp [moreMembers, memberText, text, bytes_colon,
          bytes_comma]
      · exact fun h => by cases h

theorem text_list (items : List Json) : (list items).text = 91 :: (bytes (renderItems items) ++ [93]) := by
  rw [text, render, bytes_append, bytes_append, show bytes "[" = [91] from bytes_ofList ['['],
    show bytes "]" = [93] from bytes_ofList [']']]
  rfl

theorem text_object (members : Members) :
    (object members).text = 123 :: (bytes (renderMembers members) ++ [125]) := by
  rw [text, render, bytes_append, bytes_append, show bytes "\x7b" = [123] from bytes_ofList ['\x7b'],
    show bytes "\x7d" = [125] from bytes_ofList ['\x7d']]
  rfl

theorem bytes_quote (s : String) :
    bytes (quote s) = 34 :: (encode (s.toList.flatMap escapeChar) ++ [34]) := by
  rw [quote, bytes_ofList, List.flatMap_cons, List.flatMap_append]
  rfl

/-! ### Scalars -/

/-- A byte with which a scalar begins. -/
def IsOpening (b : UInt8) : Prop :=
  b ∈ [(110 : UInt8), 116, 102, 45, 34] ∨ Cursor.isDigit b = true

/-- A byte with which a scalar begins is no blank and no bracket. -/
theorem IsOpening.plain {b : UInt8} (h : IsOpening b) :
    Cursor.isBlank b = false ∧ b ∉ [(91 : UInt8), 93, 123, 125] := by
  rcases h with h | h
  · simp only [List.mem_cons, List.not_mem_nil, or_false] at h
    rcases h with rfl | rfl | rfl | rfl | rfl <;> decide
  · simp only [Cursor.isDigit, Bool.and_eq_true, decide_eq_true_eq, UInt8.le_iff_toNat_le] at h
    obtain ⟨hlow, hhigh⟩ : 48 ≤ b.toNat ∧ b.toNat ≤ 57 := h
    have hne {n : Nat} (hn : n < 256) (hout : n < 48 ∨ 57 < n) : b ≠ UInt8.ofNat n := fun he => by
      rw [he, toNat_ofNat_of_lt hn] at hlow hhigh
      omega
    simp only [Cursor.isBlank, Bool.or_eq_false_iff, decide_eq_false_iff_not, List.mem_cons,
      List.not_mem_nil, or_false, not_or]
    exact ⟨⟨⟨⟨hne (n := 32) (by decide) (by decide), hne (n := 10) (by decide) (by decide)⟩,
      hne (n := 9) (by decide) (by decide)⟩, hne (n := 13) (by decide) (by decide)⟩,
      hne (n := 91) (by decide) (by decide), hne (n := 93) (by decide) (by decide),
      hne (n := 123) (by decide) (by decide), hne (n := 125) (by decide) (by decide)⟩

theorem bytes_toString (n : Nat) : bytes (toString n) = digitBytes n := by
  rw [Nat.toString_eq_ofList_toDigits, bytes_ofList, digitBytes]

/-- Numbers are told by their digits. -/
theorem toString_injective : Function.Injective (toString : Nat → String) := fun m n h => by
  rw [← natOfDigits_digitBytes m, ← bytes_toString, h, bytes_toString, natOfDigits_digitBytes]

theorem text_nat (n : Nat) : (int n).text = digitBytes n := by
  rw [text, render, ← bytes_toString]
  rfl

theorem text_negative (n : Nat) : (int (Int.negSucc n)).text = 45 :: digitBytes (n + 1) := by
  rw [text, render, ← bytes_toString]
  exact (bytes_append "-" _).trans (congrArg (· ++ _) (bytes_ofList ['-']))

theorem isOpening_of_digits (n : Nat) : ∃ b rest, digitBytes n = b :: rest ∧ IsOpening b := by
  obtain ⟨hdigits, b, rest, hb, -⟩ := isWhole_digitBytes n
  exact ⟨b, rest, hb, .inr (hdigits b (hb ▸ List.mem_cons_self))⟩

theorem isOpening_text {v : Json} (hv : v.IsWritable) (hs : v.IsScalar) :
    ∃ b rest, v.text = b :: rest ∧ IsOpening b := by
  cases hv with
  | null => exact ⟨110, _, bytes_ofList ['n', 'u', 'l', 'l'], .inl (by decide)⟩
  | bool b =>
      cases b with
      | true => exact ⟨116, _, bytes_ofList ['t', 'r', 'u', 'e'], .inl (by decide)⟩
      | false => exact ⟨102, _, bytes_ofList ['f', 'a', 'l', 's', 'e'], .inl (by decide)⟩
  | @int n low high =>
      cases n with
      | ofNat n => rw [Int.ofNat_eq_natCast, text_nat]; exact isOpening_of_digits n
      | negSucc n => exact ⟨45, _, text_negative n, .inl (by decide)⟩
  | @float x h =>
      rw [show (Json.float x).text = bytes (floatText x) from rfl, bytes_floatText h]
      split_ifs
      · exact ⟨45, _, rfl, .inl (by decide)⟩
      · obtain ⟨hdigits, b, rest, hb, -⟩ := (isDecimal_numeral h).isWhole
        rw [List.nil_append, Numeral.chars, encode_append, hb]
        exact ⟨b, _, rfl, .inr (hdigits b (hb ▸ List.mem_cons_self))⟩
  | string s => exact ⟨34, _, bytes_quote s, .inl (by decide)⟩
  | list => exact hs.elim
  | object => exact hs.elim

theorem scanWord_eq (v : Json) {word rest : List UInt8} {c : Cursor} (hc : c.rest = word ++ rest) :
    ∃ d : Cursor, d.rest = rest ∧ scanWord v word c = .done v d := by
  induction word generalizing c with
  | nil => exact ⟨c, hc, by rw [scanWord]⟩
  | cons b word ih =>
      obtain ⟨d, hd, hscan⟩ := ih (Cursor.next_rest hc)
      refine ⟨d, hd, ?_⟩
      rw [scanWord, hc]
      exact (if_pos rfl).trans hscan

theorem scanScalar_whole {run rest : List UInt8} (h : IsWhole run) {c : Cursor}
    (hc : c.rest = run ++ rest) (fuel : Nat) : scanScalar fuel c = scanNumber false c := by
  obtain ⟨hdigits, b, more, rfl, -⟩ := h
  have hb := hdigits b List.mem_cons_self
  have hne {n : UInt8} (hn : Cursor.isDigit n = false) : b ≠ n := fun he => by
    rw [he, hn] at hb
    cases hb
  rw [scanScalar, hc]
  simp only [List.cons_append]
  rw [if_neg (hne (by decide)), if_neg (hne (by decide)), if_neg (hne (by decide)),
    if_neg (hne (by decide)), if_pos hb]

theorem scanScalar_minus {c : Cursor} {rest : List UInt8} (hc : c.rest = 45 :: rest) (fuel : Nat) :
    scanScalar fuel c = scanNumber true c.next := by
  rw [scanScalar, hc]
  simp only [show ¬ (45 : UInt8) = 110 by decide, show ¬ (45 : UInt8) = 116 by decide,
    show ¬ (45 : UInt8) = 102 by decide, if_false, if_true]

/-- A finite double is read from its text. -/
theorem scanScalar_float {x : Double} (hx : x.isFinite = true) {c : Cursor} {rest : List UInt8}
    (hc : c.rest = (float x).text ++ rest) (hrest : Ends rest) (fuel : Nat) :
    ∃ d : Cursor, d.rest = rest ∧ scanScalar fuel c = .done (.float x) d := by
  have hdecimal := isDecimal_numeral hx
  have hfloat := scanFloat_numeral hx
  rw [show (float x).text = bytes (floatText x) from rfl, bytes_floatText hx, List.append_assoc] at hc
  cases hsign : x.isNegative with
  | true =>
      rw [hsign] at hc hfloat
      obtain ⟨d, hd, hscan⟩ := hdecimal.scan (Cursor.next_rest hc) hrest true
      exact ⟨d, hd, by rw [scanScalar_minus hc, hscan, hfloat]⟩
  | false =>
      rw [hsign] at hc hfloat
      obtain ⟨d, hd, hscan⟩ := hdecimal.scan hc hrest false
      rw [if_neg Bool.false_ne_true, List.nil_append, Numeral.chars, encode_append,
        List.append_assoc] at hc
      exact ⟨d, hd, by rw [scanScalar_whole hdecimal.isWhole hc, hscan, hfloat]⟩

/-- A scalar is read from its text. -/
theorem scanScalar_text {v : Json} (hv : v.IsWritable) (hs : v.IsScalar) {c : Cursor}
    {rest : List UInt8} (hc : c.rest = v.text ++ rest) (hrest : Ends rest) {fuel : Nat}
    (hfuel : v.text.length ≤ fuel) : ∃ d : Cursor, d.rest = rest ∧ scanScalar fuel c = .done v d := by
  cases hv with
  | null =>
      have hc : c.rest = 110 :: ([117, 108, 108] ++ rest) := by
        rw [hc, text, render, show bytes "null" = [110, 117, 108, 108] from
          bytes_ofList ['n', 'u', 'l', 'l']]
        rfl
      obtain ⟨d, hd, hscan⟩ := scanWord_eq .null (Cursor.next_rest hc)
      exact ⟨d, hd, by rw [scanScalar, hc]; exact hscan⟩
  | bool b =>
      cases b with
      | true =>
          have hc : c.rest = 116 :: ([114, 117, 101] ++ rest) := by
            rw [hc, text, render, if_pos rfl, show bytes "true" = [116, 114, 117, 101] from
              bytes_ofList ['t', 'r', 'u', 'e']]
            rfl
          obtain ⟨d, hd, hscan⟩ := scanWord_eq (.bool true) (Cursor.next_rest hc)
          exact ⟨d, hd, by rw [scanScalar, hc]; exact hscan⟩
      | false =>
          have hc : c.rest = 102 :: ([97, 108, 115, 101] ++ rest) := by
            rw [hc, text, render, if_neg Bool.false_ne_true, show bytes "false"
              = [102, 97, 108, 115, 101] from bytes_ofList ['f', 'a', 'l', 's', 'e']]
            rfl
          obtain ⟨d, hd, hscan⟩ := scanWord_eq (.bool false) (Cursor.next_rest hc)
          exact ⟨d, hd, by rw [scanScalar, hc]; exact hscan⟩
  | @int n low high =>
      cases n with
      | ofNat n =>
          rw [Int.ofNat_eq_natCast] at high hc
          rw [text_nat] at hc
          obtain ⟨d, hd, hscan⟩ := scanNumber_nat (by omega) hrest hc
          exact ⟨d, hd, by rw [scanScalar_whole (isWhole_digitBytes n) hc, hscan]; rfl⟩
      | negSucc n =>
          rw [text_negative, List.cons_append] at hc
          obtain ⟨d, hd, hscan⟩ := scanNumber_negative (Nat.succ_pos n) (by omega) hrest
            (Cursor.next_rest hc)
          exact ⟨d, hd, by rw [scanScalar_minus hc, hscan]; rfl⟩
  | float h => exact scanScalar_float h hc hrest fuel
  | string s =>
      have htext : (string s).text = 34 :: (encode (s.toList.flatMap escapeChar) ++ [34]) :=
        bytes_quote s
      rw [htext, List.cons_append, List.append_assoc] at hc
      rw [htext] at hfuel
      have hlength : (encode (s.toList.flatMap escapeChar)).length < fuel := by
        simp only [List.length_cons, List.length_append] at hfuel
        omega
      obtain ⟨d, hd, hscan⟩ := scanString_escaped s.toList [] (Cursor.next_rest hc) hlength
        (bytes_eq s)
      exact ⟨d, hd, by rw [scanScalar, hc]; exact congrArg (Scan.map Json.string) hscan⟩
  | list => exact hs.elim
  | object => exact hs.elim

/-! ### Lists and objects -/

/-- A value is read from its text wherever the text ends; each of its bytes takes four steps at
most. -/
def IsRead (v : Json) : Prop :=
  ∀ (fuel : Nat) {c : Cursor} {rest : List UInt8}, c.rest = v.text ++ rest → Ends rest →
    4 * v.text.length ≤ fuel →
      ∃ node d, d.rest = rest ∧ readNode fuel c = (node, some d) ∧ node.Holds v

theorem text_ne_nil {v : Json} (hv : v.IsWritable) :
    ∃ b rest, v.text = b :: rest ∧ Cursor.isBlank b = false ∧ b ∉ [(93 : UInt8), 125] := by
  have scalar (hs : v.IsScalar) :
      ∃ b rest, v.text = b :: rest ∧ Cursor.isBlank b = false ∧ b ∉ [(93 : UInt8), 125] := by
    obtain ⟨b, rest, hb, hopen⟩ := isOpening_text hv hs
    obtain ⟨hblank, hbracket⟩ := hopen.plain
    exact ⟨b, rest, hb, hblank, fun h => hbracket (by
      simp only [List.mem_cons, List.not_mem_nil, or_false] at h ⊢
      rcases h with h | h <;> simp [h])⟩
  cases hv with
  | list => exact ⟨91, _, text_list _, by decide, by decide⟩
  | object => exact ⟨123, _, text_object _, by decide, by decide⟩
  | _ => exact scalar trivial

theorem isRead_scalar {v : Json} (hv : v.IsWritable) (hs : v.IsScalar) : v.IsRead := by
  intro fuel c rest hc hrest hfuel
  obtain ⟨b, more, hb, hopen⟩ := isOpening_text hv hs
  obtain ⟨hblank, hbracket⟩ := hopen.plain
  obtain ⟨fuel, rfl⟩ : ∃ n, fuel = n + 1 := Nat.exists_eq_succ_of_ne_zero (by
    rw [hb, List.length_cons] at hfuel
    omega)
  obtain ⟨d, hd, hscan⟩ := scanScalar_text hv hs hc hrest (show v.text.length ≤ fuel + 1 by omega)
  have hfirst : c.rest = b :: (more ++ rest) := by rw [hc, hb, List.cons_append]
  have hskip : c.skipBlanks = c := Cursor.skipBlanks_cons hfirst hblank
  simp only [List.mem_cons, List.not_mem_nil, or_false, not_or] at hbracket
  refine ⟨_, d, hd, ?_, .scalar hs d.position⟩
  rw [readNode]
  simp only [hskip, Cursor.peek_eq hfirst, if_neg hbracket.1, if_neg hbracket.2.2.1, hscan,
    Scan.toNode]

/-- What comes after a value in a list or object. -/
theorem ends_more {more rest : List UInt8} {b : UInt8} (hb : b ∈ [(93 : UInt8), 125])
    (h : ∀ b ∈ more.head?, b = 44) : Ends (more ++ b :: rest) := by
  intro e he
  cases more with
  | nil =>
      cases he
      exact List.mem_cons_of_mem 44 hb
  | cons d more =>
      cases he
      rw [h _ rfl]
      exact List.mem_cons_self

/-- What a reading of items gives that ends before some bytes. -/
def ReadsItems (read : Node.Items × Option Cursor) (items : List Json) (rest : List UInt8) : Prop :=
  ∃ nodes d, d.rest = rest ∧ read = (nodes, some d) ∧ ItemsHold nodes items

/-- An item, after which the others are read. -/
theorem readItem_eq {v : Json} (hv : v.IsRead) {items : List Json} (fuel : Nat) {c : Cursor}
    {rest : List UInt8} (hc : c.rest = v.text ++ (moreItems items ++ 93 :: rest))
    (hfuel : 4 * v.text.length ≤ fuel)
    (hmore : ∀ d : Cursor, d.rest = moreItems items ++ 93 :: rest →
      ReadsItems (readItems fuel false d) items rest) :
    ReadsItems (readItem (fuel + 1) c) (v :: items) rest := by
  have hends : Ends (moreItems items ++ 93 :: rest) := ends_more (by decide) fun b hb => by
    cases items with
    | nil => cases hb
    | cons w items => cases hb; rfl
  obtain ⟨node, d, hd, hnode, hholds⟩ := hv fuel hc hends hfuel
  obtain ⟨nodes, e, he, hnodes, hhold⟩ := hmore d hd
  refine ⟨_, e, he, ?_, .item (resumeInList d) hholds hhold⟩
  rw [readItem]
  simp only [hnode, hnodes]

/-- The items after some of a list, up to its bracket. -/
theorem readItems_more {items : List Json} (hw : ∀ v ∈ items, v.IsWritable)
    (hitems : ∀ v ∈ items, v.IsRead) (fuel : Nat) {c : Cursor} {rest : List UInt8}
    (hc : c.rest = moreItems items ++ 93 :: rest) (hfuel : 4 * (moreItems items).length < fuel) :
    ReadsItems (readItems fuel false c) items rest := by
  induction items generalizing c fuel with
  | nil =>
      obtain ⟨fuel, rfl⟩ := Nat.exists_eq_succ_of_ne_zero (Nat.ne_zero_of_lt hfuel)
      have hc : c.rest = 93 :: rest := hc
      refine ⟨_, c.next, Cursor.next_rest hc, ?_, .close c.next.position⟩
      rw [readItems]
      simp only [Cursor.skipBlanks_cons hc rfl, hc, Cursor.peek_eq hc, List.isEmpty_cons, if_true]
      rfl
  | cons v items ih =>
      obtain ⟨hv, hw⟩ := List.forall_mem_cons.mp hw
      obtain ⟨hread, hitems⟩ := List.forall_mem_cons.mp hitems
      obtain ⟨b, more, hb, hblank, hbracket⟩ := text_ne_nil hv
      have hmore : moreItems (v :: items) = 44 :: (v.text ++ moreItems items) := by
        rw [moreItems, List.flatMap_cons]; rfl
      rw [hmore, List.cons_append, List.append_assoc] at hc
      rw [hmore, List.length_cons, List.length_append] at hfuel
      obtain ⟨fuel, rfl⟩ : ∃ n, fuel = n + 1 + 1 := ⟨fuel - 2, by omega⟩
      have hnext := Cursor.next_rest hc
      have hfirst : c.next.rest = b :: (more ++ (moreItems items ++ 93 :: rest)) := by
        rw [hnext, hb, List.cons_append]
      simp only [List.mem_cons, List.not_mem_nil, or_false, not_or] at hbracket
      rw [readItems]
      simp only [Cursor.skipBlanks_cons hc rfl, Cursor.skipBlanks_cons hfirst hblank, hc, hfirst,
        Cursor.peek_eq hc, Cursor.peek_eq hfirst, List.isEmpty_cons, if_neg hbracket.1,
        Bool.false_eq_true, if_false, if_true, show ¬ (44 : UInt8) = 93 by decide]
      exact readItem_eq hread fuel hnext (by omega) fun d hd => ih hw hitems fuel hd (by omega)

theorem isRead_list {items : List Json} (hw : ∀ v ∈ items, v.IsWritable)
    (hitems : ∀ v ∈ items, v.IsRead) : (list items).IsRead := by
  intro fuel c rest hc _ hfuel
  rw [text_list, List.cons_append, List.append_assoc] at hc
  rw [text_list, List.length_cons, List.length_append] at hfuel
  obtain ⟨fuel, rfl⟩ : ∃ n, fuel = n + 1 + 1 + 1 := ⟨fuel - 3, by omega⟩
  have hnext := Cursor.next_rest hc
  have hread : ReadsItems (readItems (fuel + 1 + 1) true c.next) items rest := by
    cases items with
    | nil =>
        have hnext : c.next.rest = 93 :: rest := by
          rw [hnext, renderItems, bytes_empty]
          rfl
        refine ⟨_, c.next.next, Cursor.next_rest hnext, ?_, .close c.next.next.position⟩
        rw [readItems]
        simp only [Cursor.skipBlanks_cons hnext rfl, hnext, Cursor.peek_eq hnext,
          List.isEmpty_cons, if_true]
        rfl
    | cons v items =>
        obtain ⟨hv, hw⟩ := List.forall_mem_cons.mp hw
        obtain ⟨hv', hitems⟩ := List.forall_mem_cons.mp hitems
        obtain ⟨b, more, hb, hblank, hbracket⟩ := text_ne_nil hv
        rw [bytes_renderItems, List.append_assoc] at hnext
        rw [bytes_renderItems, List.length_append] at hfuel
        have hfirst : c.next.rest = b :: (more ++ (moreItems items ++ 93 :: rest)) := by
          rw [hnext, hb]; rfl
        simp only [List.mem_cons, List.not_mem_nil, or_false, not_or] at hbracket
        rw [readItems]
        simp only [Cursor.skipBlanks_cons hfirst hblank, hfirst, Cursor.peek_eq hfirst,
          List.isEmpty_cons, if_neg hbracket.1, Bool.false_eq_true, if_false, if_true]
        exact readItem_eq hv' fuel hnext (by omega) fun d hd =>
          readItems_more hw hitems fuel hd (by omega)
  obtain ⟨nodes, d, hd, hnodes, hhold⟩ := hread
  refine ⟨_, d, hd, ?_, .list c.position hhold⟩
  rw [readNode]
  simp only [Cursor.skipBlanks_cons hc rfl, Cursor.peek_eq hc, if_true, hnodes]

/-- What a reading of members gives that ends before some bytes. -/
def ReadsEntries (read : Node.Entries × Option Cursor) (members : Members) (rest : List UInt8) :
    Prop :=
  ∃ nodes d, d.rest = rest ∧ read = (nodes, some d) ∧ EntriesHold nodes members

/-- A member, after which the others are read. -/
theorem readEntry_eq {m : String × Json} (hv : m.2.IsRead)
    {members : Members} (fuel : Nat) {c : Cursor} {rest : List UInt8}
    (hc : c.rest = memberText m ++ (moreMembers members ++ 125 :: rest))
    (hfuel : 4 * (memberText m).length ≤ fuel)
    (hmore : ∀ d : Cursor, d.rest = moreMembers members ++ 125 :: rest →
      ReadsEntries (readEntries fuel false d) members rest) :
    ReadsEntries (readEntry (fuel + 1) c) (m :: members) rest := by
  obtain ⟨key, v⟩ := m
  have hv : v.IsRead := hv
  have hends : Ends (moreMembers members ++ 125 :: rest) := ends_more (by decide) fun b hb => by
    cases members with
    | nil => cases hb
    | cons n members => cases hb; rfl
  rw [memberText, bytes_quote] at hc hfuel
  simp only [List.cons_append, List.append_assoc, List.nil_append, List.length_cons,
    List.length_append] at hc hfuel
  obtain ⟨after, hafter, hkey⟩ := scanString_escaped key.toList [] (Cursor.next_rest hc)
    (show (encode (key.toList.flatMap escapeChar)).length < fuel + 1 by omega) (bytes_eq key)
  obtain ⟨node, d, hd, hnode, hholds⟩ := hv fuel (Cursor.next_rest hafter) hends (by omega)
  obtain ⟨nodes, e, he, hnodes, hhold⟩ := hmore d hd
  refine ⟨_, e, he, ?_, .entry (resumeInObject after) (resumeInObject d) hholds hhold⟩
  rw [readEntry]
  simp only [hkey, Cursor.skipBlanks_cons hafter rfl, hafter, Cursor.peek_eq hafter,
    List.isEmpty_cons, if_true, Bool.false_eq_true, if_false, hnode, hnodes]

theorem memberText_eq (m : String × Json) : ∃ rest, memberText m = 34 :: rest :=
  ⟨_, by rw [memberText, bytes_quote, List.cons_append]⟩

/-- The members after some of an object, up to its brace. -/
theorem readEntries_more {members : Members} (hmembers : ∀ m ∈ members, m.2.IsRead) (fuel : Nat)
    {c : Cursor} {rest : List UInt8} (hc : c.rest = moreMembers members ++ 125 :: rest)
    (hfuel : 4 * (moreMembers members).length < fuel) :
    ReadsEntries (readEntries fuel false c) members rest := by
  induction members generalizing c fuel with
  | nil =>
      obtain ⟨fuel, rfl⟩ := Nat.exists_eq_succ_of_ne_zero (Nat.ne_zero_of_lt hfuel)
      have hc : c.rest = 125 :: rest := hc
      refine ⟨_, c.next, Cursor.next_rest hc, ?_, .close c.next.position⟩
      rw [readEntries]
      simp only [Cursor.skipBlanks_cons hc rfl, hc, Cursor.peek_eq hc, List.isEmpty_cons, if_true]
      rfl
  | cons m members ih =>
      obtain ⟨hm, hmembers⟩ := List.forall_mem_cons.mp hmembers
      obtain ⟨more, hb⟩ := memberText_eq m
      have hmore : moreMembers (m :: members) = 44 :: (memberText m ++ moreMembers members) := by
        rw [moreMembers, List.flatMap_cons]; rfl
      rw [hmore, List.cons_append, List.append_assoc] at hc
      rw [hmore, List.length_cons, List.length_append] at hfuel
      obtain ⟨fuel, rfl⟩ : ∃ n, fuel = n + 1 + 1 := ⟨fuel - 2, by omega⟩
      have hnext := Cursor.next_rest hc
      have hfirst : c.next.rest = 34 :: (more ++ (moreMembers members ++ 125 :: rest)) := by
        rw [hnext, hb, List.cons_append]
      rw [readEntries]
      simp only [Cursor.skipBlanks_cons hc rfl, Cursor.skipBlanks_cons hfirst rfl, hc, hfirst,
        Cursor.peek_eq hc, Cursor.peek_eq hfirst, List.isEmpty_cons,
        Bool.false_eq_true, if_false, if_true, show ¬ (44 : UInt8) = 125 by decide]
      exact readEntry_eq hm fuel hnext (by omega) fun d hd => ih hmembers fuel hd (by omega)

theorem isRead_object {members : Members} (distinct : (members.map Prod.fst).Nodup)
    (hmembers : ∀ m ∈ members, m.2.IsRead) : (object members).IsRead := by
  intro fuel c rest hc _ hfuel
  rw [text_object, List.cons_append, List.append_assoc] at hc
  rw [text_object, List.length_cons, List.length_append] at hfuel
  obtain ⟨fuel, rfl⟩ : ∃ n, fuel = n + 1 + 1 + 1 := ⟨fuel - 3, by omega⟩
  have hnext := Cursor.next_rest hc
  have hread : ReadsEntries (readEntries (fuel + 1 + 1) true c.next) members rest := by
    cases members with
    | nil =>
        have hnext : c.next.rest = 125 :: rest := by
          rw [hnext, renderMembers, bytes_empty]
          rfl
        refine ⟨_, c.next.next, Cursor.next_rest hnext, ?_, .close c.next.next.position⟩
        rw [readEntries]
        simp only [Cursor.skipBlanks_cons hnext rfl, hnext, Cursor.peek_eq hnext,
          List.isEmpty_cons, if_true]
        rfl
    | cons m members =>
        obtain ⟨hm, hmembers⟩ := List.forall_mem_cons.mp hmembers
        obtain ⟨more, hb⟩ := memberText_eq m
        rw [bytes_renderMembers, List.append_assoc] at hnext
        rw [bytes_renderMembers, List.length_append] at hfuel
        have hfirst : c.next.rest = 34 :: (more ++ (moreMembers members ++ 125 :: rest)) := by
          rw [hnext, hb]; rfl
        rw [readEntries]
        simp only [Cursor.skipBlanks_cons hfirst rfl, hfirst, Cursor.peek_eq hfirst,
          List.isEmpty_cons, Bool.false_eq_true, if_false, if_true,
          show ¬ (34 : UInt8) = 125 by decide]
        exact readEntry_eq hm fuel hnext (by omega) fun d hd =>
          readEntries_more hmembers fuel hd (by omega)
  obtain ⟨nodes, d, hd, hnodes, hhold⟩ := hread
  refine ⟨_, d, hd, ?_, .object c.position distinct hhold⟩
  rw [readNode]
  simp only [Cursor.skipBlanks_cons hc rfl, Cursor.peek_eq hc, if_true,
    show ¬ (123 : UInt8) = 91 by decide, if_false, hnodes]

/-! ### Values -/

/-- By the shape of the value. -/
theorem IsWritable.isRead {v : Json} (h : v.IsWritable) : v.IsRead := by
  induction h with
  | list below ih => exact isRead_list below ih
  | object distinct below ih => exact isRead_object distinct ih
  | null => exact isRead_scalar .null trivial
  | bool b => exact isRead_scalar (.bool b) trivial
  | int low high => exact isRead_scalar (.int low high) trivial
  | float h => exact isRead_scalar (.float h) trivial
  | string s => exact isRead_scalar (.string s) trivial

/-- **What was written is read.**  The text of a value spells it. -/
theorem spells_text {v : Json} (h : v.IsWritable) : Spells v.text v := by
  obtain ⟨node, d, hd, hnode, hholds⟩ := h.isRead (4 * v.text.length + 4) (c := .start v.text)
    (List.append_nil _).symm (fun b hb => by cases hb) (by omega)
  refine ⟨node, ?_, hholds⟩
  have hskip : d.skipBlanks.rest.isEmpty = true := by
    obtain ⟨_, position⟩ := d
    cases hd
    rfl
  rw [Document.read, hnode]
  simp only [hskip, if_true]

/-- Any value that is not nested too deep is read from its text. -/
theorem parse?_text {v : Json} (h : v.IsWritable) (hdepth : v.NestsWithin depthLimit) :
    parse? v.text = .ok v :=
  Decoder.run_of_spells (spells_text h) fun _ hholds => Decoder.value_of_holds hholds hdepth

end GraphServe.Json
