import GraphServe.Proofs.Cache.Recency

/-!
# Caches — what a history of calls leaves

A cache is only ever called to get a key or to add one (`Cache.Call`).  A call that adds a key uses
it, and so does one that finds it; what a call finds depends on the uses before, and is a use
itself.  Along the calls a bounded cache remembers its uses, and the last use of a key is of the
value that was added last under it (`Cache.Tells.after`, `Cache.Tells.foldl`).

**What is kept** (`Cache.bounded_keeps`).  A key is found exactly if it was added and fewer other
keys than the capacity were used since its last use, with the value that was added last; and as many
keys are held as were added, up to the capacity.
-/

namespace GraphServe

variable {V : Type} {used adds : List (String × V)} {key : String} {value : V}

/-! ### Keys and values -/

theorem lookup_isSome_iff {entries : List (String × V)} :
    (entries.lookup key).isSome ↔ key ∈ keysOf entries := by
  constructor
  · intro h
    obtain ⟨value, hvalue⟩ := Option.isSome_iff_exists.mp h
    exact List.mem_map_of_mem (mem_of_lookup hvalue)
  · intro h
    obtain ⟨since, value, earlier, rfl, hsince⟩ := exists_last_use h
    rw [lookup_append_of_notMem hsince]
    rfl

theorem mem_keysOf_latest {other : String} : other ∈ keysOf (latest used) ↔ other ∈ keysOf used := by
  induction used with
  | nil => exact Iff.rfl
  | cons use earlier ih =>
      show other ∈ use.1 :: keysOf (LruCache.without (latest earlier) use.1) ↔
        other ∈ use.1 :: keysOf earlier
      rw [List.mem_cons, List.mem_cons, mem_keysOf_without, ih]
      tauto

/-- There are as many last uses as keys were used. -/
theorem length_latest (used : List (String × V)) :
    (latest used).length = (keysOf used).toFinset.card := by
  have hset : (keysOf used).toFinset = (keysOf (latest used)).toFinset := by
    ext other
    rw [List.mem_toFinset, List.mem_toFinset, mem_keysOf_latest]
  rw [hset, List.toFinset_card_of_nodup (nodup_keysOf_latest used), keysOf, List.length_map]

/-- The uses since the last one of a key are those up to the first of it. -/
theorem takeWhile_last {since : List (String × V)} (hsince : key ∉ keysOf since) (value : V)
    (earlier : List (String × V)) :
    (since ++ (key, value) :: earlier).takeWhile (·.1 ≠ key) = since := by
  rw [List.takeWhile_append_of_pos, List.takeWhile_cons_of_neg, List.append_nil]
  · simp
  · intro use huse
    refine decide_eq_true ?_
    rintro rfl
    exact hsince (List.mem_map_of_mem huse)

namespace LruCache.Remembers

variable {cache : LruCache V}

/-- What is found is what the last use was of. -/
theorem lookup_of_get (h : cache.Remembers used) (hfound : (cache.get key).1 = some value) :
    used.lookup key = some value := by
  obtain ⟨since, last, earlier, rfl, hsince⟩ :=
    exists_last_use (List.mem_map_of_mem (h.mem_of_get hfound) : key ∈ keysOf used)
  rw [h.get_of_last hsince] at hfound
  rw [lookup_append_of_notMem hsince]
  split at hfound
  · exact hfound
  · cases hfound

/-- A key is found if it was used and fewer other keys than the capacity were used since. -/
theorem get_iff_since (h : cache.Remembers used) :
    (∃ value, (cache.get key).1 = some value) ↔
      key ∈ keysOf used ∧
        (keysOf (used.takeWhile (·.1 ≠ key))).toFinset.card < cache.capacity := by
  by_cases hused : key ∈ keysOf used
  · obtain ⟨since, value, earlier, rfl, hsince⟩ := exists_last_use hused
    rw [h.get_of_last hsince, takeWhile_last hsince]
    simp [hused]
  · constructor
    · rintro ⟨value, hfound⟩
      exact absurd (List.mem_map_of_mem (h.mem_of_get hfound)) hused
    · rintro ⟨hmem, -⟩
      exact absurd hmem hused

theorem length_entries (h : cache.Remembers used) :
    cache.entries.length = min cache.capacity (keysOf used).toFinset.card := by
  rw [h, List.length_take, length_latest]

end LruCache.Remembers

namespace Cache

/-! ### Calls -/

/-- What a cache is called for. -/
inductive Call (V : Type) where
  | get (key : String)
  | add (key : String) (value : V)

/-- What a call adds. -/
def Call.added? : Call V → Option (String × V)
  | get _         => .none
  | add key value => some (key, value)

/-- What was added by calls, the last first. -/
def added (calls : List (Call V)) : List (String × V) := (calls.filterMap Call.added?).reverse

/-- A cache after a call. -/
def after (c : Cache V) : Call V → Cache V
  | .get key       => (c.get key).2
  | .add key value => c.add key value

/-- The use that a call makes of a cache: what it adds or finds. -/
def use? (c : Cache V) : Call V → Option (String × V)
  | .get key       => (c.get key).1.map (key, ·)
  | .add key value => some (key, value)

/-- The uses that calls make of a cache one after the other, the last first. -/
def uses (c : Cache V) : List (Call V) → List (String × V)
  | []            => []
  | call :: calls => uses (c.after call) calls ++ (c.use? call).toList

theorem added_cons (call : Call V) (calls : List (Call V)) :
    added (call :: calls) = added calls ++ call.added?.toList := by
  cases call <;> simp [added, Call.added?, List.filterMap_cons]

theorem mem_keysOf_added {calls : List (Call V)} :
    key ∈ keysOf (added calls) ↔ ∃ value, .add key value ∈ calls := by
  induction calls with
  | nil => simp [added, keysOf]
  | cons call calls ih =>
      rw [added_cons, keysOf, List.map_append, List.mem_append, ← keysOf, ih]
      cases call with
      | get other => simp [Call.added?]
      | add other value => simp [Call.added?, or_comm, exists_or]

/-! ### Histories -/

/-- What is known of a bounded cache from its uses and what was added to it. -/
structure Tells (capacity : Nat) (c : Cache V) (used adds : List (String × V)) : Prop where
  /-- The keys used most recently are there. -/
  remembers : ∃ cache : LruCache V, c = lru cache ∧ cache.capacity = capacity ∧
    cache.Remembers used
  /-- The last use of a key is of the value that was added last. -/
  value     : ∀ key, used.lookup key = adds.lookup key

namespace Tells

variable {capacity : Nat} {c : Cache V}

theorem bounded (h : 0 < capacity) : Tells capacity (.bounded capacity) ([] : List (String × V)) [] :=
  ⟨⟨{ capacity, capacity_pos := h }, dif_pos h, rfl, LruCache.remembers_nil rfl⟩, fun _ => rfl⟩

theorem mem_keysOf (h : Tells capacity c used adds) (key : String) :
    key ∈ keysOf used ↔ key ∈ keysOf adds := by
  rw [← lookup_isSome_iff, ← lookup_isSome_iff, h.value]

/-- A call is a use, or the cache stays as it is. -/
theorem after (h : Tells capacity c used adds) (call : Call V) :
    Tells capacity (c.after call) ((c.use? call).toList ++ used) (call.added?.toList ++ adds) := by
  obtain ⟨⟨cache, rfl, rfl, hremembers⟩, hvalue⟩ := h
  cases call with
  | add key value =>
      refine ⟨⟨cache.add key value, rfl, rfl, hremembers.add key value⟩, fun other => ?_⟩
      show ((key, value) :: used).lookup other = ((key, value) :: adds).lookup other
      rw [List.lookup_cons, List.lookup_cons, hvalue]
  | get key =>
      cases hget : (cache.get key).1 with
      | none =>
          have hsame : (lru cache).get key = (.none, lru cache) :=
            Prod.ext hget (get_of_none hget)
          simp only [Cache.after, use?, hsame]
          exact ⟨⟨cache, rfl, rfl, hremembers⟩, hvalue⟩
      | some value =>
          have hfound : ((lru cache).get key).1 = some value := hget
          simp only [Cache.after, use?, hfound]
          refine ⟨⟨(cache.get key).2, rfl, cache.capacity_get key, hremembers.get hget⟩, ?_⟩
          intro other
          rw [Option.map_some, Option.toList_some, List.singleton_append]
          show ((key, value) :: used).lookup other = adds.lookup other
          by_cases heq : other = key
          · -- what is found is what was added last
            rw [heq, List.lookup_cons_self, ← hvalue, hremembers.lookup_of_get hget]
          · rw [List.lookup_cons, beq_false_of_ne heq, hvalue]

/-- What is known of a cache is known of it after any calls. -/
theorem foldl (h : Tells capacity c used adds) (calls : List (Call V)) :
    Tells capacity (calls.foldl Cache.after c) (c.uses calls ++ used) (added calls ++ adds) := by
  induction calls generalizing c used adds with
  | nil => exact h
  | cons call calls ih =>
      rw [List.foldl_cons, Cache.uses, added_cons, List.append_assoc, List.append_assoc]
      exact ih (h.after call)

end Tells

/-- **What is kept.**  After any calls a key is found exactly if it was added and fewer other keys
than the capacity were used since its last use; the value found is the one that was added last; and
the cache holds as many keys as were added, up to its capacity. -/
theorem bounded_keeps {capacity : Nat} (hcapacity : 0 < capacity) (calls : List (Call V))
    (key : String) :
    let c := calls.foldl after (.bounded capacity)
    let uses := (Cache.bounded capacity).uses calls
    ((∃ value, (c.get key).1 = some value) ↔
      (∃ value, .add key value ∈ calls) ∧
        (keysOf (uses.takeWhile (·.1 ≠ key))).toFinset.card < capacity) ∧
    (∀ value, (c.get key).1 = some value → (added calls).lookup key = some value) ∧
    c.size? = some (min capacity (keysOf (added calls)).toFinset.card) := by
  intro c uses
  have htells := (Tells.bounded hcapacity).foldl calls
  rw [List.append_nil, List.append_nil] at htells
  obtain ⟨cache, hc, rfl, hremembers⟩ := htells.remembers
  have hget : (c.get key).1 = (cache.get key).1 := by rw [show c = lru cache from hc]; rfl
  refine ⟨?_, fun value hfound => ?_, ?_⟩
  · rw [hget, hremembers.get_iff_since, htells.mem_keysOf, mem_keysOf_added]
  · rw [← htells.value]
    exact hremembers.lookup_of_get (hget ▸ hfound)
  · have hset : (keysOf uses).toFinset = (keysOf (added calls)).toFinset := by
      ext other
      rw [List.mem_toFinset, List.mem_toFinset]
      exact htells.mem_keysOf other
    rw [show c = lru cache from hc, ← hset]
    exact congrArg some hremembers.length_entries

/-- Of two keys the one that was found in between stays when a third is added. -/
theorem bounded_keeps_found :
    let calls : List (Call Nat) := [.add "a" 1, .add "b" 2, .get "a", .get "d", .add "c" 3]
    let c := calls.foldl after (.bounded 2)
    (∃ value, (c.get "a").1 = some value) ∧ (¬ ∃ value, (c.get "b").1 = some value) ∧
      (c.get "a").1 ≠ some 3 ∧ c.size? = some 2 := by
  intro calls c
  have hkeeps (key : String) := bounded_keeps Nat.zero_lt_two calls key
  refine ⟨(hkeeps "a").1.mpr ⟨⟨1, by simp [calls]⟩, by decide⟩, fun h => ?_, fun h => ?_, ?_⟩
  · exact absurd ((hkeeps "b").1.mp h).2 (by decide)
  · exact absurd ((hkeeps "a").2.1 3 h) (by decide)
  · exact (hkeeps "a").2.2

end Cache

end GraphServe
