import GraphServe.Proofs.Cache
import Mathlib.Data.Finset.Card
import Mathlib.Data.List.Nodup

/-!
# Caches — the keys used most recently

A bounded cache is told by how it was used: of every key its last use counts, and the keys used
most recently are there, as many as the capacity allows (`LruCache.Remembers`).  Adding an entry and
finding one are uses, a look that finds nothing is none (`Remembers.add`, `Remembers.get`).

**What is found** (`Remembers.get_iff`).  A key is found exactly if it was used and the other keys
used since are fewer than the capacity.
-/

namespace GraphServe

variable {V : Type} {key : String} {value : V} {uses : List (String × V)}

/-- The keys of some entries. -/
def keysOf (entries : List (String × V)) : List String := entries.map Prod.fst

/-- Of every key the last use, the most recent first. -/
def latest : List (String × V) → List (String × V)
  | []           => []
  | (key, value) :: earlier => (key, value) :: LruCache.without (latest earlier) key

/-- A key is among so many that were used most recently: it was used, and the other keys used since
are fewer. -/
def IsRecent (capacity : Nat) (uses : List (String × V)) (key : String) : Prop :=
  ∃ since value earlier, uses = since ++ (key, value) :: earlier ∧
    ((keysOf since).toFinset.erase key).card < capacity

/-! ### The last uses -/

theorem mem_keysOf_without {entries : List (String × V)} {other : String} :
    other ∈ keysOf (LruCache.without entries key) ↔ other ∈ keysOf entries ∧ other ≠ key := by
  simp only [keysOf, LruCache.without, List.mem_map, List.mem_filter, decide_eq_true_eq]
  constructor
  · rintro ⟨e, ⟨he, hne⟩, rfl⟩
    exact ⟨⟨e, he, rfl⟩, hne⟩
  · rintro ⟨⟨e, he, rfl⟩, hne⟩
    exact ⟨e, ⟨he, hne⟩, rfl⟩

theorem without_cons_of_ne {e : String × V} (h : e.1 ≠ key) (entries : List (String × V)) :
    LruCache.without (e :: entries) key = e :: LruCache.without entries key :=
  List.filter_cons_of_pos (decide_eq_true h)

theorem without_cons_of_eq {e : String × V} (h : e.1 = key) (entries : List (String × V)) :
    LruCache.without (e :: entries) key = LruCache.without entries key :=
  List.filter_cons_of_neg (by simpa using h)

theorem without_append (entries more : List (String × V)) (key : String) :
    LruCache.without (entries ++ more) key =
      LruCache.without entries key ++ LruCache.without more key :=
  List.filter_append entries more

theorem without_of_notMem {entries : List (String × V)} (h : key ∉ keysOf entries) :
    LruCache.without entries key = entries := by
  refine List.filter_eq_self.mpr fun e he => decide_eq_true fun heq => h ?_
  exact heq ▸ List.mem_map_of_mem he

theorem nodup_keysOf_without {entries : List (String × V)} (h : (keysOf entries).Nodup)
    (key : String) : (keysOf (LruCache.without entries key)).Nodup :=
  (List.filter_sublist.map Prod.fst).nodup h

theorem nodup_keysOf_latest (uses : List (String × V)) : (keysOf (latest uses)).Nodup := by
  induction uses with
  | nil => exact List.nodup_nil
  | cons use earlier ih =>
      refine List.nodup_cons.mpr ⟨fun hmem => ?_, nodup_keysOf_without ih use.1⟩
      exact (mem_keysOf_without.mp hmem).2 rfl

/-- The last uses since the last one of some key are of the keys used since. -/
theorem latest_append (since : List (String × V)) (value : V) (earlier : List (String × V))
    (hkey : key ∉ keysOf since) :
    ∃ before after, latest (since ++ (key, value) :: earlier) = before ++ (key, value) :: after ∧
      ∀ other, other ∈ keysOf before ↔ other ∈ keysOf since := by
  induction since with
  | nil => exact ⟨[], _, rfl, fun other => Iff.rfl⟩
  | cons use since ih =>
      obtain ⟨hne, hsince⟩ := List.ne_and_not_mem_of_not_mem_cons hkey
      obtain ⟨before, after, heq, hbefore⟩ := ih hsince
      refine ⟨use :: LruCache.without before use.1, LruCache.without after use.1, ?_, fun other => ?_⟩
      · show use :: LruCache.without (latest (since ++ (key, value) :: earlier)) use.1 = _
        rw [heq, without_append, without_cons_of_ne hne, List.cons_append]
      · show other ∈ use.1 :: keysOf (LruCache.without before use.1) ↔ other ∈ use.1 :: keysOf since
        rw [List.mem_cons, List.mem_cons, mem_keysOf_without, hbefore]
        tauto

/-- The place of a key among the last uses is the number of keys used since. -/
theorem latest_append_length (since : List (String × V)) (value : V) (earlier : List (String × V))
    (hkey : key ∉ keysOf since) :
    ∃ before after, latest (since ++ (key, value) :: earlier) = before ++ (key, value) :: after ∧
      key ∉ keysOf before ∧ before.length = (keysOf since).toFinset.card := by
  obtain ⟨before, after, heq, hbefore⟩ := latest_append since value earlier hkey
  have hnodup : (keysOf before).Nodup := by
    have hall := nodup_keysOf_latest (since ++ (key, value) :: earlier)
    rw [heq, keysOf, List.map_append] at hall
    exact hall.of_append_left
  have hset : (keysOf before).toFinset = (keysOf since).toFinset :=
    Finset.ext fun other => by rw [List.mem_toFinset, List.mem_toFinset, hbefore]
  refine ⟨before, after, heq, fun hmem => hkey ((hbefore key).mp hmem), ?_⟩
  rw [← hset, List.toFinset_card_of_nodup hnodup, keysOf, List.length_map]

/-- A key that was used is split off at its last use. -/
theorem exists_last_use (h : key ∈ keysOf uses) :
    ∃ since value earlier, uses = since ++ (key, value) :: earlier ∧ key ∉ keysOf since := by
  induction uses with
  | nil => exact absurd h List.not_mem_nil
  | cons use uses ih =>
      obtain ⟨k, v⟩ := use
      by_cases heq : k = key
      · exact ⟨[], v, uses, by rw [heq]; rfl, List.not_mem_nil⟩
      · obtain ⟨since, value, earlier, rfl, hsince⟩ :=
          ih ((List.mem_cons.mp h).resolve_left fun h => heq h.symm)
        refine ⟨(k, v) :: since, value, earlier, rfl, fun hmem => ?_⟩
        exact (List.mem_cons.mp hmem).elim (fun h => heq h.symm) hsince

/-- A key that was used recently was so at its last use. -/
theorem IsRecent.last {capacity : Nat} (h : IsRecent capacity uses key) :
    ∃ since value earlier, uses = since ++ (key, value) :: earlier ∧ key ∉ keysOf since ∧
      (keysOf since).toFinset.card < capacity := by
  obtain ⟨since, value, earlier, rfl, hfew⟩ := h
  by_cases hmem : key ∈ keysOf since
  · obtain ⟨since', value', earlier', rfl, hlast⟩ := exists_last_use hmem
    refine ⟨since', value', earlier' ++ (key, value) :: earlier, by simp, hlast, ?_⟩
    refine Nat.lt_of_le_of_lt (Finset.card_le_card fun other hother => ?_) hfew
    have hother : other ∈ keysOf since' := List.mem_toFinset.mp hother
    refine Finset.mem_erase.mpr ⟨fun heq => hlast (heq ▸ hother), List.mem_toFinset.mpr ?_⟩
    rw [keysOf, List.map_append]
    exact List.mem_append_left _ hother
  · rw [Finset.erase_eq_of_notMem (mt List.mem_toFinset.mp hmem)] at hfew
    exact ⟨since, value, earlier, rfl, hmem, hfew⟩

theorem mem_of_mem_latest {use : String × V} (h : use ∈ latest uses) : use ∈ uses := by
  induction uses with
  | nil => exact h
  | cons first earlier ih =>
      rcases List.mem_cons.mp h with rfl | hrest
      · exact List.mem_cons_self
      · exact List.mem_cons_of_mem _ (ih (List.mem_filter.mp hrest).1)

/-! ### Entries as far as they fit -/

theorem lookup_append_of_notMem {before after : List (String × V)} (h : key ∉ keysOf before) :
    (before ++ (key, value) :: after).lookup key = some value :=
  List.lookup_eq_some_iff.mpr ⟨before, after, rfl, fun e he => by
    simpa using fun heq : key = e.1 => h (heq ▸ List.mem_map_of_mem he)⟩

theorem lookup_eq_none_of_notMem {entries : List (String × V)} (h : key ∉ keysOf entries) :
    entries.lookup key = none :=
  List.lookup_eq_none_iff.mpr fun e he => by
    simpa using fun heq : key = e.1 => h (heq ▸ List.mem_map_of_mem he)

/-- Of entries with distinct keys, what fits beside a key is the same whether the others are cut off
before or after the key is taken out. -/
theorem take_without_take {entries : List (String × V)} (h : (keysOf entries).Nodup) (n : Nat) :
    (LruCache.without (entries.take (n + 1)) key).take n = (LruCache.without entries key).take n := by
  induction entries generalizing n with
  | nil => rfl
  | cons e entries ih =>
      obtain ⟨hnotMem, hrest⟩ := List.nodup_cons.mp h
      by_cases heq : e.1 = key
      · -- no other entry has the key
        have hkey : key ∉ keysOf entries := heq ▸ hnotMem
        have htake : key ∉ keysOf (entries.take n) := fun hmem =>
          hkey ((List.take_sublist n entries).map Prod.fst |>.subset hmem)
        rw [List.take_succ_cons, without_cons_of_eq heq, without_cons_of_eq heq,
          without_of_notMem htake, without_of_notMem hkey, List.take_take, Nat.min_self]
      · rw [List.take_succ_cons, without_cons_of_ne heq, without_cons_of_ne heq]
        cases n with
        | zero => rfl
        | succ n => rw [List.take_succ_cons, List.take_succ_cons, ih hrest]

/-- Taking out a key that is there leaves room for one. -/
theorem length_without_lt {entries : List (String × V)} (h : key ∈ keysOf entries) :
    (LruCache.without entries key).length < entries.length := by
  obtain ⟨e, he, rfl⟩ := List.mem_map.mp h
  exact List.length_filter_lt_length_iff_exists.mpr ⟨e, he, by simp⟩

/-! ### Caches -/

namespace LruCache

/-- A cache that holds the keys used most recently, as many as its capacity allows. -/
def Remembers (cache : LruCache V) (uses : List (String × V)) : Prop :=
  cache.entries = (latest uses).take cache.capacity

variable {cache : LruCache V}

theorem remembers_nil (h : cache.entries = []) : cache.Remembers [] :=
  h.trans List.take_nil.symm

theorem get_fst (cache : LruCache V) (key : String) :
    (cache.get key).1 = cache.entries.lookup key := by
  unfold get
  split
  · rename_i hnone; exact hnone.symm
  · rename_i hsome; exact hsome.symm

@[simp] theorem capacity_add (cache : LruCache V) (key : String) (value : V) :
    (cache.add key value).capacity = cache.capacity := rfl

@[simp] theorem capacity_get (cache : LruCache V) (key : String) :
    (cache.get key).2.capacity = cache.capacity := by
  unfold get
  split <;> rfl

namespace Remembers

/-- The entries with one more use in front. -/
theorem take_without (h : cache.Remembers uses) (key : String) (value : V) :
    ((key, value) :: without cache.entries key).take cache.capacity =
      (latest ((key, value) :: uses)).take cache.capacity := by
  obtain ⟨n, hn⟩ := Nat.exists_eq_add_one.mpr cache.capacity_pos
  rw [h, hn, latest, List.take_succ_cons, List.take_succ_cons,
    take_without_take (nodup_keysOf_latest uses)]

/-- An entry that is added is used last. -/
theorem add (h : cache.Remembers uses) (key : String) (value : V) :
    (cache.add key value).Remembers ((key, value) :: uses) :=
  h.take_without key value

/-- An entry that is found is used last; it was there already, so that none is evicted. -/
theorem get (h : cache.Remembers uses) (hfound : (cache.get key).1 = some value) :
    (cache.get key).2.Remembers ((key, value) :: uses) := by
  rw [get_fst] at hfound
  have hmem : key ∈ keysOf cache.entries := List.mem_map_of_mem (mem_of_lookup hfound)
  have hfits : cache.entries.length ≤ cache.capacity := by
    rw [h]
    exact List.length_take_le _ _
  have hroom : ((key, value) :: without cache.entries key).length ≤ cache.capacity :=
    Nat.lt_of_lt_of_le (length_without_lt hmem) hfits
  unfold Remembers LruCache.get
  rw [hfound]
  exact (List.take_of_length_le hroom).symm.trans (h.take_without key value)

/-- What is found was used. -/
theorem mem_of_get (h : cache.Remembers uses) (hfound : (cache.get key).1 = some value) :
    (key, value) ∈ uses := by
  rw [get_fst, h] at hfound
  exact mem_of_mem_latest (List.mem_of_mem_take (mem_of_lookup hfound))

/-- At its last use a key is as far back as other keys were used since. -/
theorem get_of_last {since earlier : List (String × V)}
    (h : cache.Remembers (since ++ (key, value) :: earlier)) (hsince : key ∉ keysOf since) :
    (cache.get key).1 =
      if (keysOf since).toFinset.card < cache.capacity then some value else none := by
  obtain ⟨before, after, heq, hbefore, hlength⟩ :=
    latest_append_length since value earlier hsince
  rw [get_fst, h, heq, List.take_append, ← hlength]
  split
  next hlt =>
    obtain ⟨n, hn⟩ := Nat.exists_eq_add_one.mpr (Nat.sub_pos_of_lt hlt)
    rw [List.take_of_length_le (Nat.le_of_lt hlt), hn, List.take_succ_cons]
    exact lookup_append_of_notMem hbefore
  next hge =>
    rw [Nat.sub_eq_zero_of_le (Nat.le_of_not_lt hge), List.take_zero, List.append_nil]
    exact lookup_eq_none_of_notMem fun hmem =>
      hbefore ((List.take_sublist _ before).map Prod.fst |>.subset hmem)

/-- A key is found exactly if the other keys used since are fewer than the capacity. -/
theorem get_iff (h : cache.Remembers uses) :
    (∃ value, (cache.get key).1 = some value) ↔ IsRecent cache.capacity uses key := by
  constructor
  · rintro ⟨value, hfound⟩
    obtain ⟨since, v, earlier, rfl, hsince⟩ :=
      exists_last_use (List.mem_map_of_mem (h.mem_of_get hfound) : key ∈ keysOf uses)
    rw [h.get_of_last hsince] at hfound
    split at hfound
    next hlt =>
      rw [← Finset.erase_eq_of_notMem (mt List.mem_toFinset.mp hsince)] at hlt
      exact ⟨since, v, earlier, rfl, hlt⟩
    next => cases hfound
  · intro hrecent
    obtain ⟨since, value, earlier, rfl, hsince, hlt⟩ := hrecent.last
    exact ⟨value, by rw [h.get_of_last hsince, if_pos hlt]⟩

end Remembers

end LruCache

end GraphServe
