import GraphServe.Json.Path
import Mathlib.Data.List.Basic

/-!
# JSON values — laws

Induction on values goes through the items of lists and the members of objects (`Json.induct`).  The
members of an object are a list: a key that is new goes to its end (`Json.Members.insert_of_get?`),
and members whose keys stand in a given order are told by what stands under them
(`Json.Members.filterMap_get?`).
-/

namespace GraphServe

/-- What is found under a key stands there with it. -/
theorem mem_of_lookup {α β : Type} [BEq α] [LawfulBEq α] {entries : List (α × β)}
    {key : α} {value : β} (h : entries.lookup key = some value) : (key, value) ∈ entries := by
  obtain ⟨before, after, rfl, -⟩ := List.lookup_eq_some_iff.mp h
  exact List.mem_append_right before List.mem_cons_self

namespace Json

/-- Induction on values: the items of a list and the values of members are the smaller ones. -/
theorem induct {P : Json → Prop} (null : P null) (bool : ∀ b, P (bool b)) (int : ∀ n, P (int n))
    (float : ∀ x, P (float x)) (string : ∀ t, P (string t))
    (list : ∀ items, (∀ v ∈ items, P v) → P (list items))
    (object : ∀ members : Members, (∀ m ∈ members, P m.2) → P (object members)) (v : Json) : P v :=
  Json.rec (motive_1 := P) (motive_2 := fun items => ∀ v ∈ items, P v)
    (motive_3 := fun members => ∀ m ∈ members, P m.2) (motive_4 := fun m => P m.2)
    null bool int float string list object
    (fun _ h => nomatch h)
    (fun _ _ first rest v hv => (List.mem_cons.mp hv).elim (· ▸ first) (rest v))
    (fun _ h => nomatch h)
    (fun _ _ first rest m hm => (List.mem_cons.mp hm).elim (· ▸ first) (rest m))
    (fun _ _ value => value)
    v

/-- Neither `null` nor a list. -/
def IsSingle (v : Json) : Prop := v ≠ .null ∧ ∀ items, v ≠ .list items

namespace Members

variable {m : Members} {key : String} {v : Json}

theorem get?_eq_lookup (m : Members) (key : String) : m.get? key = m.lookup key := by
  induction m with
  | nil => rfl
  | cons head rest ih =>
      obtain ⟨k, v⟩ := head
      rw [get?_cons, List.lookup_cons, ih]
      by_cases hk : k = key
      · rw [if_pos hk, hk, beq_self_eq_true]
      · rw [if_neg hk, beq_false_of_ne (Ne.symm hk)]

theorem get?_eq_none : m.get? key = none ↔ key ∉ m.map Prod.fst := by
  induction m with
  | nil => simp
  | cons head rest ih =>
      obtain ⟨k, v⟩ := head
      by_cases hk : k = key
      · simp [hk]
      · simp [hk, Ne.symm hk, ih]

theorem mem_of_get? (h : m.get? key = some v) : (key, v) ∈ m := by
  rw [get?_eq_lookup] at h
  exact mem_of_lookup h

/-- A key that is new goes to the end. -/
theorem insert_of_get? (h : m.get? key = none) (v : Json) : m.insert key v = m ++ [(key, v)] := by
  induction m with
  | nil => rfl
  | cons head rest ih =>
      obtain ⟨k, w⟩ := head
      rw [get?_cons] at h
      by_cases hk : k = key
      · simp [hk] at h
      · rw [if_neg hk] at h
        rw [insert, if_neg hk, ih h, List.cons_append]

/-- A member is one that was there, or has the value that was put. -/
theorem mem_insert {member : String × Json} (h : member ∈ m.insert key v) :
    member ∈ m ∨ member.2 = v := by
  induction m with
  | nil =>
      rw [insert, List.mem_singleton] at h
      exact .inr (congrArg Prod.snd h)
  | cons head rest ih =>
      obtain ⟨k, w⟩ := head
      rw [insert] at h
      split at h
      · rcases List.mem_cons.mp h with h | h
        · exact .inr (congrArg Prod.snd h)
        · exact .inl (List.mem_cons_of_mem _ h)
      · rcases List.mem_cons.mp h with h | h
        · exact .inl (List.mem_cons.mpr (.inl h))
        · exact (ih h).imp_left (List.mem_cons_of_mem _)

theorem map_fst_insert (m : Members) (key : String) (v : Json) :
    (m.insert key v).map Prod.fst =
      if key ∈ m.map Prod.fst then m.map Prod.fst else m.map Prod.fst ++ [key] := by
  induction m with
  | nil => rfl
  | cons head rest ih =>
      obtain ⟨k, w⟩ := head
      rw [insert]
      by_cases h : k = key
      · simp [h]
      · rw [if_neg h, List.map_cons, ih]
        simp only [List.map_cons]
        by_cases hkey : key ∈ rest.map Prod.fst
        · rw [if_pos hkey, if_pos (List.mem_cons_of_mem k hkey)]
        · rw [if_neg hkey,
            if_neg fun hmem => hkey ((List.mem_cons.mp hmem).resolve_left (Ne.symm h))]
          rfl

/-- No key comes twice. -/
theorem nodup_insert (h : (m.map Prod.fst).Nodup) (key : String) (v : Json) :
    ((m.insert key v).map Prod.fst).Nodup := by
  rw [map_fst_insert]
  split
  · exact h
  · rename_i hkey
    refine List.nodup_append.mpr ⟨h, List.pairwise_singleton _ key, fun a ha b hb => ?_⟩
    rw [List.mem_singleton.mp hb]
    exact fun hab => hkey (hab ▸ ha)

/-- What is put under a key is replaced by what is put there next. -/
theorem insert_insert (m : Members) (key : String) (v w : Json) :
    (m.insert key v).insert key w = m.insert key w := by
  induction m with
  | nil => simp only [insert, if_true]
  | cons head rest ih =>
      obtain ⟨k, u⟩ := head
      by_cases h : k = key
      · simp only [insert, h, if_true]
      · simp only [insert, h, if_false, ih]

/-- Putting what is there already changes nothing. -/
theorem insert_of_get?_eq_some (h : m.get? key = some v) : m.insert key v = m := by
  induction m with
  | nil => cases h
  | cons head rest ih =>
      obtain ⟨k, w⟩ := head
      rw [get?_cons] at h
      rw [insert]
      by_cases hk : k = key
      · rw [if_pos hk] at h ⊢
        cases h
        rfl
      · rw [if_neg hk] at h ⊢
        rw [ih h]

/-- What was put under a key tells what it was. -/
theorem insert_inj {w : Json} : m.insert key v = m.insert key w ↔ v = w := by
  constructor
  · intro h
    have hget := congrArg (get? · key) h
    simpa only [get?_insert, if_true, Option.some_inj] using hget
  · intro h
    rw [h]

/-- A key that is there keeps its value. -/
theorem insertNew_of_get? (h : m.get? key = some v) (w : Json) : m.insertNew key w = m := by
  rw [insertNew, contains, h, Option.isSome_some, if_pos rfl]

/-- A key that is new is put like any other. -/
theorem insertNew_of_get?_eq_none (h : m.get? key = none) (v : Json) :
    m.insertNew key v = m.insert key v := by
  rw [insert_of_get? h, insertNew, contains, h, Option.isSome_none, if_neg Bool.false_ne_true]

theorem get?_insertNew (m : Members) (key : String) (v : Json) (other : String) :
    (m.insertNew key v).get? other =
      if key = other then some ((m.get? key).getD v) else m.get? other := by
  cases hkey : m.get? key with
  | none   => rw [insertNew_of_get?_eq_none hkey, get?_insert, Option.getD_none]
  | some w =>
      rw [insertNew_of_get? hkey, Option.getD_some]
      split
      · rename_i h
        rw [← h, hkey]
      · rfl

/-- Entries put one after the other. -/
def insertAll (m : Members) (entries : List (String × Json)) : Members :=
  entries.foldl (fun m (k, v) => m.insert k v) m

/-- The value that comes last under a key. -/
def last? (entries : List (String × Json)) (key : String) : Option Json :=
  entries.reverse.lookup key

theorem insertAll_append (m : Members) (xs ys : List (String × Json)) :
    m.insertAll (xs ++ ys) = (m.insertAll xs).insertAll ys := List.foldl_append

theorem last?_append (xs ys : List (String × Json)) (key : String) :
    last? (xs ++ ys) key = (last? ys key).or (last? xs key) := by
  rw [last?, List.reverse_append, List.lookup_append]
  rfl

/-- Under a key there is what was put there last. -/
theorem get?_insertAll (m : Members) (entries : List (String × Json)) (key : String) :
    (m.insertAll entries).get? key = (last? entries key).or (m.get? key) := by
  induction entries generalizing m with
  | nil => rfl
  | cons entry rest ih =>
      obtain ⟨k, v⟩ := entry
      have hone : last? [(k, v)] key = if k = key then some v else none := by
        show List.lookup key [(k, v)] = _
        rw [← get?_eq_lookup, get?_cons, get?_nil]
      show ((m.insert k v).insertAll rest).get? key = _
      rw [ih, get?_insert, ← List.singleton_append, last?_append, hone, Option.or_assoc]
      split <;> rfl

/-- Entries under keys that are new are put one after the other: the first under a key is kept. -/
theorem get?_foldl_insertNew (m : Members) (entries : Members) (key : String) :
    (entries.foldl (fun m (k, v) => m.insertNew k v) m).get? key =
      (m.get? key).or (entries.get? key) := by
  induction entries generalizing m with
  | nil => rw [List.foldl_nil, get?_nil, Option.or_none]
  | cons entry rest ih =>
      obtain ⟨k, v⟩ := entry
      rw [List.foldl_cons, ih, get?_insertNew, get?_cons]
      by_cases hk : k = key
      · rw [if_pos hk, if_pos hk, hk, Option.some_or]
        cases m.get? key <;> rfl
      · rw [if_neg hk, if_neg hk]

/-- Members whose keys come in the order of some names, as they are found under the names. -/
theorem filterMap_get? {names : List String} (distinct : names.Nodup)
    (order : List.Sublist (m.map Prod.fst) names) :
    (names.filterMap fun key => (m.get? key).map (key, ·)) = m := by
  induction names generalizing m with
  | nil =>
      rw [List.sublist_nil, List.map_eq_nil_iff] at order
      rw [order]
      rfl
  | cons name names ih =>
      obtain ⟨hnew, hdistinct⟩ := List.nodup_cons.mp distinct
      cases m with
      | nil => simp
      | cons head rest =>
          obtain ⟨k, v⟩ := head
          by_cases hk : k = name
          · subst hk
            rw [List.map_cons, List.cons_sublist_cons] at order
            rw [List.filterMap_cons_some (b := (k, v)) (by simp)]
            congr 1
            refine (List.filterMap_congr fun key hkey => ?_).trans (ih hdistinct order)
            have hother : k ≠ key := fun h => hnew (h ▸ hkey)
            rw [get?_cons, if_neg hother]
          · have order' : List.Sublist (((k, v) :: rest).map Prod.fst) names := by
              rw [List.map_cons] at order ⊢
              cases order with
              | cons _ h => exact h
              | cons_cons _ _ => exact absurd rfl hk
            have hnone : get? ((k, v) :: rest) name = none :=
              get?_eq_none.mpr fun h => hnew (order'.subset h)
            rw [List.filterMap_cons_none (by rw [hnone]; rfl)]
            exact ih hdistinct order'

/-- Members whose keys come in the order of some names are told by what is found under these. -/
theorem ext_of_sublist {m' : Members} {names : List String} (distinct : names.Nodup)
    (order : List.Sublist (m.map Prod.fst) names) (order' : List.Sublist (m'.map Prod.fst) names)
    (same : ∀ name ∈ names, m.get? name = m'.get? name) : m = m' := by
  rw [← filterMap_get? distinct order, ← filterMap_get? distinct order']
  exact List.filterMap_congr fun name hname => by rw [same name hname]

/-- What is found under the name of one of some things that each give a member or none. -/
theorem get?_filterMap {α : Type} {entries : List α} {name : α → String}
    {entry : α → Option (String × Json)} (distinct : (entries.map name).Nodup)
    (named : ∀ a ∈ entries, ∀ k v, entry a = some (k, v) → k = name a) {a : α} (ha : a ∈ entries) :
    get? (entries.filterMap entry) (name a) = (entry a).map Prod.snd := by
  induction entries with
  | nil => exact absurd ha List.not_mem_nil
  | cons b rest ih =>
      rw [List.map_cons, List.nodup_cons] at distinct
      have hrest := ih distinct.2 fun a ha => named a (List.mem_cons_of_mem b ha)
      -- what comes of another has another name
      have hother (c : α) (hc : c ∈ rest) : name b ≠ name c := fun h =>
        distinct.1 (h ▸ List.mem_map_of_mem hc)
      rcases List.mem_cons.mp ha with rfl | ha
      · cases hentry : entry a with
        | some pair =>
            obtain ⟨k, v⟩ := pair
            rw [List.filterMap_cons_some hentry, get?_cons,
              if_pos (named a List.mem_cons_self k v hentry)]
            rfl
        | none =>
            rw [List.filterMap_cons_none hentry]
            refine get?_eq_none.mpr fun hmem => ?_
            obtain ⟨⟨k, v⟩, hkv, hk⟩ := List.mem_map.mp hmem
            obtain ⟨c, hc, hc'⟩ := List.mem_filterMap.mp hkv
            exact hother c hc (hk ▸ named c (List.mem_cons_of_mem _ hc) k v hc')
      · cases hentry : entry b with
        | some pair =>
            obtain ⟨k, v⟩ := pair
            rw [List.filterMap_cons_some hentry, get?_cons,
              if_neg fun h => hother a ha ((named b List.mem_cons_self k v hentry) ▸ h)]
            exact hrest ha
        | none =>
            rw [List.filterMap_cons_none hentry]
            exact hrest ha

end Members

/-- A path leads to a value, or to a member that an object lacks. -/
inductive Addresses (v : Json) : Path → Prop where
  | value {path : Path} {w : Json} (leads : v.getAt path = some w) : Addresses v path
  | missing {path : Path} {members : Members} {key : String}
      (leads : v.getAt path = some (.object members)) (lacks : members.get? key = none) :
      Addresses v (path ++ [.key key])

theorem Addresses.lacking {members : Members} {key : String} (h : members.get? key = none) :
    (object members).Addresses [.key key] := @missing (object members) [] members key rfl h

variable {v w : Json}

theorem getAt_cons_of_child? {e : PathElement} (h : v.child? e = some w) (path : Path) :
    v.getAt (e :: path) = w.getAt path := by
  rw [getAt, h, Option.bind_some]

/-- A path that leads on from a value under an element. -/
theorem Addresses.below {e : PathElement} {path : Path} (h : v.child? e = some w)
    (below : w.Addresses path) : v.Addresses (e :: path) := by
  cases below with
  | value leads => exact .value ((getAt_cons_of_child? h path).trans leads)
  | missing leads lacks =>
      rw [← List.cons_append]
      exact .missing ((getAt_cons_of_child? h _).trans leads) lacks

end Json

end GraphServe
