import GraphServe.Cache
import GraphServe.Proofs.Json.Value

/-!
# Caches — what they hold

A property of all entries (`Cache.All`) stays when a key is looked up, and stays when an entry is
added that has it.  So it holds of whatever is found, for every kind of cache and every eviction.
A look that finds nothing leaves no trace (`Cache.get_of_none`).
-/

namespace GraphServe.Cache

variable {V : Type} {P : String → V → Prop} {c : Cache V} {key : String} {value : V}

/-- The entries of a cache. -/
def entries : Cache V → List (String × V)
  | lru cache   => cache.entries
  | map entries => entries
  | none        => []

/-- Every entry has a property. -/
def All (P : String → V → Prop) (c : Cache V) : Prop := ∀ e ∈ c.entries, P e.1 e.2

theorem all_of_entries_nil (h : c.entries = []) : c.All P := fun e he => by
  rw [h] at he
  exact absurd he List.not_mem_nil

/-- What is found is held. -/
theorem mem_of_get (h : (c.get key).1 = some value) : (key, value) ∈ c.entries := by
  cases c with
  | none => cases h
  | map entries => exact mem_of_lookup h
  | lru cache =>
      simp only [get, LruCache.get] at h
      cases hl : cache.entries.lookup key with
      | none => rw [hl] at h; cases h
      | some v => rw [hl] at h; exact mem_of_lookup (hl.trans h)

/-- A key that is not found does not count as used. -/
theorem get_of_none (h : (c.get key).1 = Option.none) : (c.get key).2 = c := by
  cases c with
  | none | map entries => rfl
  | lru cache =>
      simp only [get, LruCache.get] at h ⊢
      cases hl : cache.entries.lookup key with
      | none => rfl
      | some v => rw [hl] at h; cases h

namespace All

theorem found (h : c.All P) (hget : (c.get key).1 = some value) : P key value :=
  h (key, value) (mem_of_get hget)

/-- Looking a key up only reorders the entries. -/
theorem get (h : c.All P) (key : String) : (c.get key).2.All P := by
  cases c with
  | none | map entries => exact h
  | lru cache =>
      simp only [Cache.get, LruCache.get]
      cases hl : cache.entries.lookup key with
      | none => exact h
      | some v =>
          intro e he
          rcases List.mem_cons.mp he with rfl | hrest
          · exact h _ (mem_of_lookup hl)
          · exact h e (List.mem_filter.mp hrest).1

/-- Only the new entry is added; others may be evicted. -/
theorem add (h : c.All P) (hnew : P key value) : (c.add key value).All P := by
  intro e he
  cases c with
  | none => exact h e he
  | map entries =>
      rcases List.mem_cons.mp he with rfl | hrest
      · exact hnew
      · exact h e (List.mem_filter.mp hrest).1
  | lru cache =>
      rcases List.mem_cons.mp (List.mem_of_mem_take he) with rfl | hrest
      · exact hnew
      · exact h e (List.mem_filter.mp hrest).1

end All

end GraphServe.Cache
