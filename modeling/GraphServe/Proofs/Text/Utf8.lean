import GraphServe.Text.Utf8
import Mathlib.Data.List.TakeWhile

/-!
# Decoding UTF-8 — what was encoded

The bytes of a text are read as the text (`Text.decodeLossy_bytes`, `Text.decode?_bytes`), character
by character (`Text.decodeChars_encodeChar`).
-/

namespace GraphServe.Text

/-! ### Bytes of texts -/

theorem byteArray_toList (a : ByteArray) : a.toList = a.data.toList := by
  have hloop (i : Nat) (done : List UInt8) :
      ByteArray.toList.loop a i done = done.reverse ++ a.data.toList.drop i := by
    fun_induction ByteArray.toList.loop a i done with
    | case1 i done h ih =>
        have hi : i < a.data.toList.length := by simpa using h
        rw [ih, List.drop_eq_getElem_cons hi]
        simp [ByteArray.get!, h]
    | case2 i done h =>
        rw [List.drop_eq_nil_of_le (by simpa using Nat.le_of_not_lt h), List.append_nil]
  exact hloop 0 []

theorem bytes_ofList (l : List Char) :
    bytes (String.ofList l) = l.flatMap String.utf8EncodeChar := by
  rw [bytes, byteArray_toList, String.toUTF8, String.toByteArray_ofList, List.utf8Encode,
    List.toList_data_toByteArray]

theorem bytes_eq (s : String) : bytes s = s.toList.flatMap String.utf8EncodeChar := by
  rw [← bytes_ofList, String.ofList_toList]

theorem bytes_append (s t : String) : bytes (s ++ t) = bytes s ++ bytes t := by
  rw [bytes_eq, bytes_eq, bytes_eq, String.toList_append, List.flatMap_append]

theorem fromUTF8?_bytes (s : String) : String.fromUTF8? ⟨(bytes s).toArray⟩ = some s := by
  have harray : (⟨(bytes s).toArray⟩ : ByteArray) = s.toByteArray := by
    rw [bytes, byteArray_toList, Array.toArray_toList]
    rfl
  rw [harray, String.fromUTF8?, dif_pos s.isValidUTF8]
  rfl

/-! ### Characters -/

/-- A character of more than one byte: a first byte, and as many more as it tells. -/
theorem decodeChars_lead {b second low high : UInt8} {tail : List UInt8} (hb : ¬ b < 0x80)
    (hlead : leadByte b = some (tail.length + 1, low, high)) (hlow : low ≤ second)
    (hhigh : second ≤ high) (htail : ∀ t ∈ tail, isTail t = true) (rest : List UInt8) :
    decodeChars (b :: second :: (tail ++ rest))
      = Char.ofNat (codePoint b (second :: tail)) :: decodeChars rest := by
  have htake : (((second :: (tail ++ rest)).drop 1).take (tail.length + 1 - 1)).takeWhile isTail
      = tail := by
    rw [List.drop_one, List.tail_cons, Nat.add_sub_cancel, List.take_left,
      List.takeWhile_eq_self_iff.mpr htail]
  have hsecond : (second :: (tail ++ rest)).head?.filter
      (fun c => decide (low ≤ c) && decide (c ≤ high)) = some second := by
    simp [hlow, hhigh]
  rw [decodeChars, if_neg hb, hlead]
  simp only [hsecond, htake]
  rw [if_pos (by simp)]
  simp

theorem toNat_ofNat_of_lt {n : Nat} (h : n < 256) : (UInt8.ofNat n).toNat = n := by
  rw [UInt8.toNat_ofNat', Nat.mod_eq_of_lt h]

theorem isTail_ofNat {n : Nat} (h : n < 64) : isTail (UInt8.ofNat (n + 128)) = true := by
  have hn := toNat_ofNat_of_lt (show n + 128 < 256 by omega)
  simp only [isTail, Bool.and_eq_true, decide_eq_true_eq, UInt8.le_iff_toNat_le, hn]
  exact ⟨Nat.le_add_left 128 n, Nat.le_of_lt_succ (show n + 128 < 192 by omega)⟩

theorem not_lt_lead {n : Nat} (h : n < 256) (hn : 128 ≤ n) : ¬ UInt8.ofNat n < 0x80 := by
  rw [UInt8.lt_iff_toNat_lt, toNat_ofNat_of_lt h]
  exact Nat.not_lt.mpr hn

theorem ofNat_le_ofNat {m n : Nat} (hm : m < 256) (hn : n < 256) (h : m ≤ n) :
    UInt8.ofNat m ≤ UInt8.ofNat n := by
  rw [UInt8.le_iff_toNat_le, toNat_ofNat_of_lt hm, toNat_ofNat_of_lt hn]
  exact h

/-- The first byte of two. -/
theorem leadByte_two : ∀ a < 32, 2 ≤ a →
    leadByte (UInt8.ofNat (a + 192)) = some (1, UInt8.ofNat 128, UInt8.ofNat 191) := by
  decide

/-- The first byte of three. -/
theorem leadByte_three : ∀ a < 16, leadByte (UInt8.ofNat (a + 224))
    = some (2, UInt8.ofNat (if a = 0 then 160 else 128),
        UInt8.ofNat (if a = 13 then 159 else 191)) := by
  decide

/-- The first byte of four. -/
theorem leadByte_four : ∀ a < 5, leadByte (UInt8.ofNat (a + 240))
    = some (3, UInt8.ofNat (if a = 0 then 144 else 128),
        UInt8.ofNat (if a = 4 then 143 else 191)) := by
  decide

/-- What some bytes add to a code point. -/
theorem foldl_tail (n : Nat) {tail : List Nat} (h : ∀ t ∈ tail, t < 64) :
    (tail.map fun t => UInt8.ofNat (t + 128)).foldl (fun n b => n * 64 + (b.toNat - 0x80)) n
      = tail.foldl (fun n t => n * 64 + t) n := by
  induction tail generalizing n with
  | nil => rfl
  | cons t tail ih =>
      obtain ⟨ht, htail⟩ := List.forall_mem_cons.mp h
      rw [List.map_cons, List.foldl_cons, List.foldl_cons,
        toNat_ofNat_of_lt (show t + 128 < 256 by omega), ih _ htail, Nat.add_sub_cancel]

/-- A character by what its first byte and the bytes after it add. -/
theorem decodeChars_of_tail {lead low high n : Nat} (a : Nat) (tail : List Nat) (hlead : lead < 256)
    (hb : 128 ≤ lead)
    (hbounds : leadByte (UInt8.ofNat lead)
      = some (tail.length + 1, UInt8.ofNat low, UInt8.ofNat high))
    (hlow : low ≤ a + 128) (hhigh : a + 128 ≤ high) (hmax : high < 256)
    (htail : ∀ t ∈ tail, t < 64)
    (hn : codePoint (UInt8.ofNat lead) ((a :: tail).map fun t => UInt8.ofNat (t + 128)) = n)
    (rest : List UInt8) :
    decodeChars (UInt8.ofNat lead :: (((a :: tail).map fun t => UInt8.ofNat (t + 128)) ++ rest))
      = Char.ofNat n :: decodeChars rest := by
  rw [← hn]
  exact decodeChars_lead (not_lt_lead hlead hb) (by rw [hbounds, List.length_map])
    (ofNat_le_ofNat (by omega) (by omega) hlow) (ofNat_le_ofNat (by omega) hmax hhigh)
    (by simpa using fun t ht => isTail_ofNat (htail t ht)) rest

/-- What a character is encoded as is read as the character. -/
theorem decodeChars_encodeChar (c : Char) (rest : List UInt8) :
    decodeChars (String.utf8EncodeChar c ++ rest) = c :: decodeChars rest := by
  have hvalid : c.val.toNat < 55296 ∨ 57343 < c.val.toNat ∧ c.val.toNat < 1114112 := c.valid
  have hc : Char.ofNat c.val.toNat = c := Char.ofNat_toNat c
  unfold String.utf8EncodeChar
  generalize c.val.toNat = v at hvalid hc ⊢
  dsimp only
  split
  · have hb := toNat_ofNat_of_lt (show v < 256 by omega)
    rw [List.cons_append, List.nil_append, decodeChars, if_pos, hb, hc]
    rw [UInt8.lt_iff_toNat_lt, hb]
    exact Nat.lt_succ_of_le ‹v ≤ 127›
  rw [← hc]
  split
  · refine decodeChars_of_tail (v % 64) [] (by omega) (by omega)
      (leadByte_two _ (by omega) (by omega)) (by omega) (by omega) (by omega) (by simp) ?_ rest
    refine (foldl_tail _ (by simp; omega)).trans ?_
    rw [toNat_ofNat_of_lt (by omega)]
    simp only [List.map_cons, List.map_nil, List.length_cons, List.length_nil, List.foldl_cons,
      List.foldl_nil]
    omega
  split
  · refine decodeChars_of_tail (v / 64 % 64) [v % 64] (by omega) (by omega)
      (leadByte_three _ (by omega)) (by split <;> omega) (by split <;> omega)
      (by split <;> omega) (by simp; omega) ?_ rest
    refine (foldl_tail _ (by simp; omega)).trans ?_
    rw [toNat_ofNat_of_lt (by omega)]
    simp only [List.map_cons, List.map_nil, List.length_cons, List.length_nil, List.foldl_cons,
      List.foldl_nil]
    omega
  · refine decodeChars_of_tail (v / 4096 % 64) [v / 64 % 64, v % 64] (by omega)
      (by omega) (leadByte_four _ (by omega)) (by split <;> omega) (by split <;> omega)
      (by split <;> omega) (by simp; omega) ?_ rest
    refine (foldl_tail _ (by simp; omega)).trans ?_
    rw [toNat_ofNat_of_lt (by omega)]
    simp only [List.map_cons, List.map_nil, List.length_cons, List.length_nil, List.foldl_cons,
      List.foldl_nil]
    omega

/-- A byte of a character is the character itself or else no ASCII byte. -/
theorem mem_encodeChar {c : Char} {b : UInt8} (h : b ∈ String.utf8EncodeChar c) :
    (c.toNat < 128 ∧ b = UInt8.ofNat c.toNat) ∨ 128 ≤ b.toNat := by
  have hge {n : Nat} (hn : n < 256) (h : 128 ≤ n) : 128 ≤ (UInt8.ofNat n).toNat := by
    rwa [toNat_ofNat_of_lt hn]
  have htail (n : Nat) : 128 ≤ (UInt8.ofNat (n % 64 + 128)).toNat := hge (by omega) (by omega)
  unfold String.utf8EncodeChar at h
  dsimp only at h
  split at h
  · exact .inl ⟨Nat.lt_succ_of_le ‹_›, List.mem_singleton.mp h⟩
  · right
    split at h
    · rcases List.mem_cons.mp h with rfl | h
      · exact hge (by omega) (by omega)
      · rw [List.mem_singleton.mp h]
        exact htail _
    · split at h
      · simp only [List.mem_cons, List.not_mem_nil, or_false] at h
        rcases h with rfl | rfl | rfl
        · exact hge (by omega) (by omega)
        · exact htail _
        · exact htail _
      · simp only [List.mem_cons, List.not_mem_nil, or_false] at h
        rcases h with rfl | rfl | rfl | rfl
        · exact hge (by omega) (by omega)
        · exact htail _
        · exact htail _
        · exact htail _

/-- A byte of a text is one of its characters, or belongs to one that takes several. -/
theorem mem_bytes {s : String} {b : UInt8} (h : b ∈ bytes s) :
    (∃ c ∈ s.toList, c.toNat < 128 ∧ b = UInt8.ofNat c.toNat) ∨ 128 ≤ b.toNat := by
  rw [bytes_eq] at h
  obtain ⟨c, hc, hb⟩ := List.mem_flatMap.mp h
  exact (mem_encodeChar hb).imp_left fun h => ⟨c, hc, h⟩

theorem encodeChar_of_lt {c : Char} (h : c.toNat < 128) :
    String.utf8EncodeChar c = [UInt8.ofNat c.toNat] := by
  rw [String.utf8EncodeChar]
  exact if_pos (Nat.le_of_lt_succ h)

theorem decodeChars_encode (l : List Char) :
    decodeChars (l.flatMap String.utf8EncodeChar) = l := by
  induction l with
  | nil => rw [List.flatMap_nil, decodeChars]
  | cons c l ih => rw [List.flatMap_cons, decodeChars_encodeChar, ih]

/-- The bytes of a text are read as the text. -/
theorem decodeLossy_bytes (s : String) : decodeLossy (bytes s) = s := by
  rw [decodeLossy, bytes_eq, decodeChars_encode, String.ofList_toList]

theorem decode?_bytes (s : String) : decode? (bytes s) = some s := by
  rw [decode?, decodeLossy_bytes]
  exact if_pos rfl

end GraphServe.Text
