/-!
# Caches

Stores of values under text keys: bounded with the least recently used entry evicted, unbounded, or
none at all.  Finding a key and adding one both count as using it.
-/

namespace GraphServe

/-- A cache of at most `capacity` entries, the most recently used first. -/
structure LruCache (V : Type) where
  capacity     : Nat
  entries      : List (String × V) := []
  capacity_pos : 0 < capacity

namespace LruCache

variable {V : Type}

/-- Without a key. -/
def without (entries : List (String × V)) (key : String) : List (String × V) :=
  entries.filter (·.1 ≠ key)

/-- The value under a key, which makes the key the most recently used. -/
def get (c : LruCache V) (key : String) : Option V × LruCache V :=
  match c.entries.lookup key with
  | none   => (none, c)
  | some v => (some v, { c with entries := (key, v) :: without c.entries key })

/-- Put a value under a key, which makes the key the most recently used; past the capacity the
least recently used entry goes. -/
def add (c : LruCache V) (key : String) (value : V) : LruCache V :=
  { c with entries := ((key, value) :: without c.entries key).take c.capacity }

end LruCache

/-- A cache. -/
inductive Cache (V : Type) where
  | lru (cache : LruCache V)
  /-- Never evicts. -/
  | map (entries : List (String × V))
  /-- Never stores. -/
  | none

namespace Cache

variable {V : Type}

/-- A bounded cache; no entry fits a capacity of zero. -/
def bounded (capacity : Nat) : Cache V :=
  if h : 0 < capacity then lru { capacity, capacity_pos := h } else none

/-- An unbounded cache. -/
def unbounded : Cache V := map []

/-- The value under a key, and the cache after the look. -/
def get (c : Cache V) (key : String) : Option V × Cache V :=
  match c with
  | lru cache   => let (found, cache) := cache.get key; (found, lru cache)
  | map entries => (entries.lookup key, c)
  | none        => (Option.none, none)

/-- Put a value under a key. -/
def add (c : Cache V) (key : String) (value : V) : Cache V :=
  match c with
  | lru cache   => lru (cache.add key value)
  | map entries => map ((key, value) :: entries.filter (·.1 ≠ key))
  | none        => none

/-- The number of entries; a cache that never stores has none to count. -/
def size? : Cache V → Option Nat
  | lru cache   => some cache.entries.length
  | map entries => some entries.length
  | none        => Option.none

end Cache

/-- Documents kept by default. -/
def defaultDocumentCapacity : Nat := 1000

/-- Persisted queries kept by default. -/
def defaultPersistedCapacity : Nat := 100

end GraphServe
