import GraphServe.Proofs.Cache.Recency
import GraphServe.Proofs.Executor.Provenance

/-!
# Executors — the uses of a store in a history

A bounded store of persisted queries is used when a text is kept under a hash, and when one is found
under it.  Of a history of requests, in every order of steps, the uses are listed
(`Interleaving.usesIn`), and the store holds the keys that were used most recently
(`Interleaving.recalls_run`).  A text that came with its hash is among the uses once its operation
was built (`Interleaving.mem_usesIn_of_answer`).
-/

namespace GraphServe

open Document
open Extension (PersistedQuery Names persistParams persistParams_spec persistContext
  persistContext_cases)

namespace Extension

/-! ### What hooks use -/

/-- The hash by which parameters name a persisted query, in the version that is known. -/
def named? (params : Params) : Option String := do
  let q ← PersistedQuery.ofJson? (← params.extensions.get? PersistedQuery.key)
  if q.version = 1 then some q.hash else none

/-- The entry that the hook on the parameters finds in a store: only of a request without text. -/
def found? (store : Cache String) (params : Params) : Option (String × String) :=
  match params.query, named? params with
  | none, some hash => (store.get hash).1.map (hash, ·)
  | _,    _         => none

/-- The entry that the hook on an operation keeps: its text, if that came with its hash. -/
def kept? (context : OperationContext) : Option (String × String) :=
  match context.stats.persisted? with
  | some ⟨hash, true⟩ => some (hash, context.rawQuery)
  | _                 => none

theorem names_iff {params : Params} {hash : String} :
    Names params hash ↔ named? params = some hash := by
  unfold Names named?
  cases hvalue : params.extensions.get? PersistedQuery.key with
  | none => simp
  | some value =>
      cases hq : PersistedQuery.ofJson? value with
      | none => simp [hq]
      | some q =>
          obtain ⟨version, hash'⟩ := q
          simp [hq, and_comm]

variable {cache : LruCache String} {uses : List (String × String)} {store : Cache String}
  {params : Params}

theorem found?_of_named?_none (h : named? params = none) : found? store params = none := by
  unfold found?
  rw [h]
  split
  next heq => cases heq
  next => rfl

theorem found?_of_names {hash : String} (hquery : params.query = none)
    (hnames : Names params hash) : found? store params = (store.get hash).1.map (hash, ·) := by
  simp only [found?, hquery, names_iff.mp hnames]

theorem Declined.found?_eq_none (h : Declined store params) : found? store params = none := by
  cases h with
  | malformed hvalue hnone => exact found?_of_named?_none (by simp [named?, hvalue, hnone])
  | version hvalue hsome hversion =>
      exact found?_of_named?_none (by simp [named?, hvalue, hsome, hversion])
  | mismatch hnames hquery hhash => simp only [found?, hquery]
  | unknown hnames hquery hnone => rw [found?_of_names hquery hnames, hnone]; rfl

/-- The hook on the parameters uses the entry that it finds, and no other. -/
theorem persistParams_found? (store : Cache String) (params : Params) (stats : Stats) :
    (found? store params = none ∧ (persistParams store params stats).2 = store) ∨
      ∃ hash text, found? store params = some (hash, text) ∧ (store.get hash).1 = some text ∧
        (persistParams store params stats).2 = (store.get hash).2 := by
  rcases persistParams_spec store params stats with
    ⟨hnone, heq⟩ | ⟨hdeclined, e, events, heq⟩ | ⟨hash, text, -, hquery, -, heq⟩ |
      ⟨hash, text, event, hnames, hquery, hfound, heq⟩
  · exact .inl ⟨found?_of_named?_none (by simp [named?, hnone]), by rw [heq]⟩
  · exact .inl ⟨hdeclined.found?_eq_none, by rw [heq]⟩
  · exact .inl ⟨by simp only [found?, hquery], by rw [heq]⟩
  · refine .inr ⟨hash, text, ?_, hfound, by rw [heq]⟩
    rw [found?_of_names hquery hnames, hfound]
    rfl

theorem kept?_eq_some {context : OperationContext} {hash text : String} :
    kept? context = some (hash, text) ↔
      context.stats.persisted? = some ⟨hash, true⟩ ∧ context.rawQuery = text := by
  unfold kept?
  split
  next hash' hsome => simp [hsome]
  next hnone =>
    refine iff_of_false (by simp) fun h => hnone hash h.1

/-- Of the store, as the hook on the parameters leaves it, its uses with the one that it finds. -/
theorem remembers_persistParams (h : cache.Remembers uses) (params : Params) (stats : Stats) :
    ∃ cache' : LruCache String, (persistParams (.lru cache) params stats).2 = .lru cache' ∧
      cache'.capacity = cache.capacity ∧
      cache'.Remembers ((found? (.lru cache) params).toList ++ uses) := by
  rcases persistParams_found? (.lru cache) params stats with
    ⟨hnone, heq⟩ | ⟨hash, text, hsome, hget, heq⟩
  · exact ⟨cache, heq, rfl, by rw [hnone]; exact h⟩
  · exact ⟨(cache.get hash).2, heq, cache.capacity_get hash, by rw [hsome]; exact h.get hget⟩

/-- Of the store, as the hook on an operation leaves it, its uses with the one that it keeps. -/
theorem remembers_persistContext (h : cache.Remembers uses) (context : OperationContext) :
    ∃ cache' : LruCache String, (persistContext (.lru cache) context).2 = .lru cache' ∧
      cache'.capacity = cache.capacity ∧ cache'.Remembers ((kept? context).toList ++ uses) := by
  rcases persistContext_cases (.lru cache) context with ⟨hash, event, hp, heq⟩ | ⟨hp, heq⟩
  · refine ⟨cache.add hash context.rawQuery, by rw [heq]; rfl, rfl, ?_⟩
    rw [kept?_eq_some.mpr ⟨hp, rfl⟩]
    exact h.add hash context.rawQuery
  · have hnone : kept? context = none :=
      Option.eq_none_iff_forall_ne_some.mpr fun entry hentry => hp _ (kept?_eq_some.mp hentry).1
    exact ⟨cache, by rw [heq], rfl, by rw [hnone]; exact h⟩

/-- An extension stays what it is: none becomes a store. -/
theorem store_of_onParams {e : Extension} {stats : Stats}
    (h : (e.onParams params stats).2 = .persistedQueries store) :
    ∃ store, e = .persistedQueries store := by
  cases e with
  | persistedQueries store => exact ⟨store, rfl⟩
  | custom hooks | introspection | tracing | complexityLimit limit => cases h

theorem store_of_onContext {e : Extension} {service : Service} {context : OperationContext}
    (h : (e.onContext service context).2 = .persistedQueries store) :
    ∃ store, e = .persistedQueries store := by
  cases e with
  | persistedQueries store => exact ⟨store, rfl⟩
  | custom hooks | introspection | tracing | complexityLimit limit => cases h

end Extension

/-! ### Steps -/

/-- The entry of a store of some extension that the next step of a preparation uses. -/
def Stage.used? (store : Cache String) (i : Nat) : Stage → Option (String × String)
  | hooking _ j params _ => if j = i then Extension.found? store params else none
  | checking j context   => if j = i then Extension.kept? context else none
  | _                    => none

/-- The first store of persisted queries is bounded, and holds the keys that some uses leave. -/
structure Executor.Recalls (x : Executor) (i capacity : Nat) (uses : List (String × String)) :
    Prop where
  store : ∃ cache : LruCache String, x.extensions[i]? = some (.persistedQueries (.lru cache)) ∧
    cache.capacity = capacity ∧ cache.Remembers uses
  first : ∀ j < i, ∀ store, x.extensions[j]? ≠ some (.persistedQueries store)

/-- The store of some extension. -/
def Executor.storeAt? (x : Executor) (i : Nat) : Option (Cache String) :=
  match x.extensions[i]? with
  | some (.persistedQueries store) => some store
  | _                              => none

namespace Stage

variable {x : Executor} {i capacity : Nat} {uses : List (String × String)} {s : Stage}
  {cache : LruCache String}

/-- An extension in the place of another; where that is no store it is none either. -/
theorem recalls_set {j : Nat} {e e' : Extension} (h : x.Recalls i capacity uses) (hne : j ≠ i)
    (he : x.extensions[j]? = some e)
    (hkind : ∀ store, e' = .persistedQueries store → ∃ store, e = .persistedQueries store) :
    Executor.Recalls { x with extensions := x.extensions.set j e' } i capacity uses := by
  obtain ⟨cache, hi, hcapacity, hremembers⟩ := h.store
  refine ⟨⟨cache, by rw [List.getElem?_set_ne hne]; exact hi, hcapacity, hremembers⟩, ?_⟩
  intro k hk store hstore
  by_cases heq : j = k
  · subst heq
    rw [List.getElem?_set_self (List.getElem?_eq_some_iff.mp he).1] at hstore
    obtain ⟨store', rfl⟩ := hkind store (Option.some.inj hstore)
    exact h.first j hk store' he
  · rw [List.getElem?_set_ne heq] at hstore
    exact h.first k hk store hstore

/-- A hook that ran changes one extension.  If that is the store, it is used at most once. -/
theorem recalls_hook {j : Nat} {e e' : Extension} {used : Option (String × String)}
    (h : x.Recalls i capacity uses)
    (hstore : x.extensions[i]? = some (.persistedQueries (.lru cache)))
    (he : x.extensions[j]? = some e)
    (hkind : ∀ store, e' = .persistedQueries store → ∃ store, e = .persistedQueries store)
    (huse : e = .persistedQueries (.lru cache) → cache.Remembers uses →
      ∃ after : LruCache String, e' = .persistedQueries (.lru after) ∧
        after.capacity = cache.capacity ∧ after.Remembers (used.toList ++ uses)) :
    Executor.Recalls { x with extensions := x.extensions.set j e' } i capacity
      ((if j = i then used else none).toList ++ uses) := by
  by_cases heq : j = i
  · subst heq
    obtain ⟨cache', hcache', hcapacity, hremembers⟩ := h.store
    cases Option.some.inj (hstore.symm.trans hcache')
    obtain ⟨after, rfl, hsame, huses⟩ := huse (Option.some.inj (he.symm.trans hstore)) hremembers
    have hj : j < x.extensions.length := (List.getElem?_eq_some_iff.mp hstore).1
    rw [if_pos rfl]
    refine ⟨⟨after, List.getElem?_set_self hj, hsame.trans hcapacity, huses⟩,
      fun k hk store => ?_⟩
    rw [List.getElem?_set_ne (by omega)]
    exact h.first k hk store
  · rw [if_neg heq]
    exact recalls_set h heq he hkind

/-- A step uses at most one entry of the store. -/
theorem recalls_advance (h : x.Recalls i capacity uses)
    (hstore : x.extensions[i]? = some (.persistedQueries (.lru cache))) (s : Stage) :
    (s.advance x).2.Recalls i capacity ((s.used? (.lru cache) i).toList ++ uses) := by
  have hne {j : Nat} (he : x.extensions[j]? = none) : j ≠ i := by
    rintro rfl
    cases hstore.symm.trans he
  cases s with
  | seeking params text context => exact ⟨h.store, h.first⟩
  | keeping params text context d key? => exact ⟨h.store, h.first⟩
  | answered a => exact h
  | hooking asked j params stats =>
      cases he : x.extensions[j]? with
      | none =>
          rw [advance_hooking_none he, used?, if_neg (hne he)]
          exact h
      | some e =>
          rw [advance_hooking he, used?]
          refine recalls_hook h hstore he (fun _ => Extension.store_of_onParams)
            fun heq hremembers => ?_
          obtain ⟨after, hafter, hsame, huses⟩ :=
            Extension.remembers_persistParams hremembers params stats
          exact ⟨after, heq ▸ congrArg Extension.persistedQueries hafter, hsame, huses⟩
  | checking j context =>
      cases he : x.extensions[j]? with
      | none =>
          rw [advance_checking_none he, used?, if_neg (hne he)]
          exact h
      | some e =>
          rw [advance_checking he, used?]
          refine recalls_hook h hstore he (fun _ => Extension.store_of_onContext)
            fun heq hremembers => ?_
          obtain ⟨after, hafter, hsame, huses⟩ :=
            Extension.remembers_persistContext hremembers context
          exact ⟨after, heq ▸ congrArg Extension.persistedQueries hafter, hsame, huses⟩

/-- The text of an operation that is past a store is among its uses if it came with its hash. -/
def Kept (i : Nat) (uses : List (String × String)) : Stage → Prop
  | checking j context     => i < j → ∀ entry, Extension.kept? context = some entry → entry ∈ uses
  | answered (.ok context) => ∀ entry, Extension.kept? context = some entry → entry ∈ uses
  | _                      => True

theorem Kept.mono {uses' : List (String × String)} (h : s.Kept i uses) (hsub : uses ⊆ uses') :
    s.Kept i uses' := by
  cases s with
  | checking j context => exact fun hij entry hentry => hsub (h hij entry hentry)
  | answered a =>
      cases a with
      | ok context => exact fun entry hentry => hsub (h entry hentry)
      | error refusal => trivial
  | _ => trivial

theorem kept?_onContext {texts : List String} {e : Extension} (he : e.Sound texts)
    (service : Service) (context : OperationContext) :
    Extension.kept? (e.onContext service context).1.context = Extension.kept? context := by
  obtain ⟨hraw, hpersisted⟩ := rawQuery_onContext he service context
  simp only [Extension.kept?, hraw, hpersisted]

/-- The hook that keeps a text is passed once. -/
theorem kept_advance {texts : List String} {store : Cache String} (hx : x.Sound texts)
    (hstore : x.extensions[i]? = some (.persistedQueries store)) (h : s.Kept i uses) :
    (s.advance x).1.Kept i ((s.used? store i).toList ++ uses) := by
  cases s with
  | hooking asked j params stats =>
      cases he : x.extensions[j]? with
      | some e =>
          rw [advance_hooking he, hooked]
          split <;> trivial
      | none =>
          rw [advance_hooking_none he, ready]
          split <;> trivial
  | seeking params text context =>
      dsimp only [advance, sought]
      split
      · trivial
      · split <;> trivial
  | keeping params text context d key? =>
      dsimp only [advance, selected]
      split
      · exact fun hi => absurd hi (Nat.not_lt_zero i)
      · trivial
  | checking j context =>
      cases he : x.extensions[j]? with
      | none =>
          -- all hooks are done, the one of the store among them
          have hij : i < j :=
            Nat.lt_of_lt_of_le (List.getElem?_eq_some_iff.mp hstore).1
              (List.getElem?_eq_none_iff.mp he)
          rw [advance_checking_none he]
          exact fun entry hentry => List.mem_append_right _ (h hij entry hentry)
      | some e =>
          have hsame := kept?_onContext (hx.extensions e (List.mem_of_getElem? he)) x.service context
          rw [advance_checking he, checked]
          split
          · trivial
          · intro hij entry hentry
            rw [hsame] at hentry
            rcases Nat.lt_or_eq_of_le (Nat.le_of_lt_succ hij) with hlt | rfl
            · exact List.mem_append_right _ (h hlt entry hentry)
            · rw [used?, if_pos rfl, hentry]
              exact List.mem_cons_self
  | answered a => exact h

end Stage

/-! ### Whole histories -/

namespace Interleaving

variable {r : Interleaving} {i capacity : Nat} {uses : List (String × String)}
  {texts : List String}

/-- The entry of the store of some extension that the next step of a preparation uses. -/
def usedAt? (r : Interleaving) (i j : Nat) : Option (String × String) :=
  match r.stages[j]?, r.executor.storeAt? i with
  | some s, some store => s.used? store i
  | _,      _          => none

/-- The entries of the store of some extension that are used in the course of a schedule, the last
one first. -/
def usesIn (i : Nat) : Interleaving → List Nat → List (String × String)
  | _, []        => []
  | r, j :: rest => usesIn i (r.step j) rest ++ (r.usedAt? i j).toList

theorem usedAt?_of_some {s : Stage} {j : Nat} {store : Cache String} (hs : r.stages[j]? = some s)
    (hstore : r.executor.extensions[i]? = some (.persistedQueries store)) :
    r.usedAt? i j = s.used? store i := by
  simp only [usedAt?, hs, Executor.storeAt?, hstore]

theorem recalls_step (h : r.executor.Recalls i capacity uses) (j : Nat) :
    (r.step j).executor.Recalls i capacity ((r.usedAt? i j).toList ++ uses) := by
  obtain ⟨cache, hstore, -, -⟩ := h.store
  cases hs : r.stages[j]? with
  | none =>
      have hnone : r.usedAt? i j = none := by simp only [usedAt?, hs]
      rw [step_of_none hs, hnone]
      exact h
  | some s =>
      rw [step_of_some hs, usedAt?_of_some hs hstore]
      exact Stage.recalls_advance h hstore s

/-- The store holds the keys that were used most recently, by induction on the steps. -/
theorem recalls_run (schedule : List Nat) :
    ∀ {r : Interleaving} {uses : List (String × String)}, r.executor.Recalls i capacity uses →
      (r.run schedule).executor.Recalls i capacity (r.usesIn i schedule ++ uses) := by
  induction schedule with
  | nil => intro r uses h; exact h
  | cons j rest ih =>
      intro r uses h
      rw [run_cons, usesIn, List.append_assoc]
      exact ih (recalls_step h j)

theorem kept_run (schedule : List Nat) :
    ∀ {r : Interleaving} {uses : List (String × String)}, r.Sound texts →
      r.executor.Recalls i capacity uses → (∀ s ∈ r.stages, s.Kept i uses) →
      ∀ s ∈ (r.run schedule).stages, s.Kept i (r.usesIn i schedule ++ uses) := by
  induction schedule with
  | nil => intro r uses hr hrecalls h; exact h
  | cons j rest ih =>
      intro r uses hr hrecalls h
      rw [run_cons, usesIn, List.append_assoc]
      refine ih (sound_step hr j) (recalls_step hrecalls j) fun t ht => ?_
      obtain ⟨cache, hstore, -, -⟩ := hrecalls.store
      cases hs : r.stages[j]? with
      | none =>
          rw [step_of_none hs] at ht
          exact (h t ht).mono (List.subset_append_right _ _)
      | some s =>
          rw [step_of_some hs] at ht
          rcases List.mem_or_eq_of_mem_set ht with hmem | rfl
          · exact (h t hmem).mono (List.subset_append_right _ _)
          · rw [usedAt?_of_some hs hstore]
            exact Stage.kept_advance hr.executor hstore (h s (List.mem_of_getElem? hs))

/-- A text that came with its hash was kept once its operation is built. -/
theorem mem_usesIn_of_answer {x : Executor} {requests : List Params} {schedule : List Nat} {j : Nat}
    {context : OperationContext} {hash : String} (hfresh : x.Fresh)
    (hrecalls : x.Recalls i capacity [])
    (hanswer : ((start x requests).run schedule).answer? j = some (.ok context))
    (hsent : context.stats.persisted? = some ⟨hash, true⟩) :
    (hash, context.rawQuery) ∈ (start x requests).usesIn i schedule := by
  obtain ⟨s, hs, hs'⟩ := Option.bind_eq_some_iff.mp hanswer
  have hstart : ∀ s ∈ (start x requests).stages, s.Kept i [] := fun s hs => by
    obtain ⟨asked, -, rfl⟩ := List.mem_map.mp hs
    trivial
  have hkept := kept_run schedule (sound_start hfresh) hrecalls hstart s (List.mem_of_getElem? hs)
  rw [List.append_nil] at hkept
  cases s with
  | answered a =>
      cases Option.some.inj hs'
      exact hkept _ (Extension.kept?_eq_some.mpr ⟨hsent, rfl⟩)
  | _ => cases hs'

end Interleaving

end GraphServe
