import GraphServe.Context
import GraphServe.Proofs.Json.Value
import Mathlib.Logic.Function.Basic
import Mathlib.Tactic.ByContra

/-!
# Contexts — a map that its handles share

The calls on a context are `get`, `insert` and `upsert` at any types (`Context.Call`).  A context is
reached through handles: it is made with one, and others are cloned from those there are
(`Handles`).

* A call changes what is under its own key at most, and stores there what `Call.stores?` says
  (`Call.get?_run`); so what is under a key is what was stored there last, through any of the
  handles on the context (`Handles.get?_foldl`).
* An update is of what `get` answers, and of the default where there is nothing.  It is of the
  default also where there is `null` (`upsert_eq`, `seen_eq_iff`).
* A call that fails leaves each key as it was, except for two (`Call.Slips`): an `insert` has stored
  its value if the previous one cannot be read, and an `upsert` has stored `null` if it cannot write
  what it made of the default (`Call.leaves_iff`).

`Handles.share` puts them together.
-/

namespace GraphServe

namespace Context

/-! ### Operations -/

section

variable {α : Type} {c : Context} {codec : Codec α} {key : String} {default : α}

theorem seen_of_none (h : c.values.get? key = none) (codec : Codec α) (default : α) :
    c.seen codec key default = .ok default := by
  rw [seen, h]

theorem seen_of_null (h : c.values.get? key = some .null) (codec : Codec α) (default : α) :
    c.seen codec key default = .ok default := by
  rw [seen, h]

theorem seen_of_some {v : Json} (h : c.values.get? key = some v) (hnull : v ≠ .null)
    (codec : Codec α) (default : α) : c.seen codec key default = codec.read v := by
  rw [seen, h]
  split
  · rename_i h'
    cases h'
  · rename_i h'
    exact absurd (Option.some.inj h') hnull
  · rename_i h'
    rw [Option.some.inj h']

/-- A `get` fails at a value that cannot be read. -/
theorem get_error {e : String} (h : c.get codec key = .error e) :
    ∃ v, c.values.get? key = some v ∧ codec.read v = .error e := by
  rw [get] at h
  split at h
  · cases h
  · rename_i v hv
    refine ⟨v, hv, ?_⟩
    cases hread : codec.read v with
    | error e' => rw [hread] at h; cases h; rfl
    | ok a     => rw [hread] at h; cases h

/-- An update is of what `get` answers, or of the default where that is nothing, exactly unless
there is `null` and it is not read as the default. -/
theorem seen_eq_iff : c.seen codec key default = (c.get codec key).map (·.getD default) ↔
    (c.values.get? key = some .null → codec.read .null = .ok default) := by
  rcases hstored : c.values.get? key with - | v
  · have hget : c.get codec key = .ok none := by rw [get, hstored]
    rw [seen_of_none hstored, hget]
    exact iff_of_true rfl fun h => nomatch h
  · have hget : (c.get codec key).map (·.getD default) = codec.read v := by
      rw [get, hstored]
      show ((codec.read v).map some).map _ = _
      cases codec.read v <;> rfl
    rw [hget]
    by_cases hnull : v = .null
    · subst hnull
      rw [seen_of_null hstored]
      exact ⟨fun h _ => h.symm, fun h => (h rfl).symm⟩
    · rw [seen_of_some hstored hnull]
      exact ⟨fun _ h => absurd (Option.some.inj h) hnull, fun _ => rfl⟩

/-- A `null` that is put where there was nothing is not told from nothing. -/
theorem seen_insertNew_null (c : Context) (codec : Codec α) (key : String) (default : α) :
    seen ⟨c.values.insertNew key .null⟩ codec key default = c.seen codec key default := by
  have hlook : (c.values.insertNew key .null).get? key = some ((c.values.get? key).getD .null) := by
    rw [Json.Members.get?_insertNew, if_pos rfl]
  rcases hstored : c.values.get? key with - | v
  · rw [hstored, Option.getD_none] at hlook
    rw [seen_of_none hstored]
    exact seen_of_null (c := ⟨c.values.insertNew key .null⟩) hlook codec default
  · rw [Json.Members.insertNew_of_get? hstored]

/-- An `upsert` writes the update of what it has seen.  If that cannot be written it fails, and has
put `null` where there was nothing. -/
theorem upsert_eq (c : Context) (codec : Codec α) (key : String) (update : α → α) (default : α) :
    c.upsert codec key update default =
      match c.seen codec key default with
      | .error e => (.error e, c)
      | .ok a    =>
          match codec.write (update a) with
          | .error e => (.error e, ⟨c.values.insertNew key .null⟩)
          | .ok v    => (.ok (), ⟨(c.values.insertNew key .null).insert key v⟩) := by
  rw [upsert, seen_insertNew_null]
  cases hseen : c.seen codec key default with
  | ok a    => rfl
  | error e =>
      -- what cannot be read is there already
      rcases hstored : c.values.get? key with - | v
      · rw [seen_of_none hstored] at hseen
        cases hseen
      · simp only [Json.Members.insertNew_of_get? hstored]

/-- An `upsert` answers if it can read and write, and then what it has written is there. -/
theorem upsert_writes (c : Context) (codec : Codec α) (key : String) (update : α → α)
    (default : α) :
    match c.seen codec key default >>= fun a => codec.write (update a) with
    | .ok v    => (c.upsert codec key update default).1 = .ok () ∧
        (c.upsert codec key update default).2.values.get? key = some v
    | .error e => (c.upsert codec key update default).1 = .error e := by
  rw [upsert_eq]
  cases c.seen codec key default with
  | error e => rfl
  | ok a =>
      cases hwrite : codec.write (update a) with
      | error e => simp only [bind, Except.bind, hwrite]
      | ok v =>
          simp only [bind, Except.bind, hwrite, Json.Members.get?_insert, if_pos, and_self]

end

/-! ### Calls -/

/-- A call of an operation at a type. -/
inductive Call : Type 1 where
  | get (α : Type) (codec : Codec α) (key : String)
  | insert (α : Type) (codec : Codec α) (key : String) (value : α)
  | upsert (α : Type) (codec : Codec α) (key : String) (update : α → α) (default : α)

namespace Call

/-- The key of a call. -/
def key : Call → String
  | get _ _ key        => key
  | insert _ _ key _   => key
  | upsert _ _ key _ _ => key

/-- Run a call: whether it answers or fails, and the context after it. -/
def run : Call → Context → Except String Unit × Context
  | get _ codec key, c                   => ((c.get codec key).map fun _ => (), c)
  | insert _ codec key value, c          =>
      ((c.insert codec key value).1.map fun _ => (), (c.insert codec key value).2)
  | upsert _ codec key update default, c => c.upsert codec key update default

/-- What a call stores under its key. -/
def stores? (c : Context) : Call → Option Json
  | get ..                            => none
  | insert _ codec _ value            => (codec.write value).toOption
  | upsert _ codec key update default =>
      match c.seen codec key default with
      | .error _ => none
      | .ok a    =>
          match codec.write (update a) with
          | .error _ => if c.contains key then none else some .null
          | .ok v    => some v

/-- A call that fails, but not before it has changed what is under its key. -/
inductive Slips (c : Context) : Call → Prop where
  /-- An `insert` stores its value before it reads the previous one. -/
  | unread {α : Type} {codec : Codec α} {key : String} {value : α} {v previous : Json} {e : String}
      (write : codec.write value = .ok v) (stored : c.values.get? key = some previous)
      (read : codec.read previous = .error e) (other : v ≠ previous) :
      Slips c (.insert α codec key value)
  /-- An `upsert` puts `null` where there is nothing before it writes its value. -/
  | unwritten {α : Type} {codec : Codec α} {key : String} {update : α → α} {default : α}
      {e : String} (absent : c.values.get? key = none)
      (write : codec.write (update default) = .error e) :
      Slips c (.upsert α codec key update default)

/-- After a call there is what it stored under its key, and each other key is as it was. -/
theorem get?_run (call : Call) (c : Context) (key : String) :
    (call.run c).2.values.get? key =
      if call.key = key then (call.stores? c).or (c.values.get? key) else c.values.get? key := by
  cases call with
  | get α codec name =>
      simp only [run, stores?, Option.none_or, ite_self]
  | insert α codec name value =>
      cases hwrite : codec.write value with
      | error e =>
          simp only [run, stores?, Context.insert, hwrite, Except.toOption, Option.none_or,
            ite_self]
      | ok v =>
          simp only [run, stores?, Context.insert, hwrite, Except.toOption, Option.some_or,
            Json.Members.get?_insert, Call.key]
  | upsert α codec name update default =>
      rw [run, upsert_eq]
      cases hseen : c.seen codec name default with
      | error e => simp only [stores?, hseen, Option.none_or, ite_self]
      | ok a =>
          cases hwrite : codec.write (update a) with
          | ok v =>
              simp only [stores?, hseen, hwrite, Json.Members.get?_insert,
                Json.Members.get?_insertNew, Option.some_or, Call.key]
              split <;> rfl
          | error e =>
              simp only [stores?, hseen, hwrite, Json.Members.get?_insertNew, Call.key]
              by_cases h : name = key
              · rw [if_pos h, if_pos h, ← h]
                rcases Option.eq_none_or_eq_some (c.values.get? name) with hnone | ⟨v, hv⟩
                · simp [Context.contains, Json.Members.contains, hnone]
                · simp [Context.contains, Json.Members.contains, hv]
              · rw [if_neg h, if_neg h]

/-- A call leaves each key as it was exactly if what it stores is there. -/
theorem leaves_iff_stored (call : Call) (c : Context) :
    (∀ key, (call.run c).2.values.get? key = c.values.get? key) ↔
      ∀ v, call.stores? c = some v → c.values.get? call.key = some v := by
  constructor
  · intro h v hv
    rw [← h call.key, get?_run, if_pos rfl, hv, Option.some_or]
  · intro h key
    rw [get?_run]
    split
    · rename_i hkey
      cases hstores : call.stores? c with
      | none   => rw [Option.none_or]
      | some v => rw [Option.some_or, ← hkey, h v hstores]
    · rfl

theorem Slips.stores {call : Call} {c : Context} (h : call.Slips c) :
    ∃ v, call.stores? c = some v ∧ c.values.get? call.key ≠ some v := by
  cases h with
  | unread write stored read other =>
      refine ⟨_, congrArg Except.toOption write, ?_⟩
      rw [key, stored]
      exact fun h => other (Option.some.inj h).symm
  | unwritten absent write =>
      refine ⟨.null, ?_, ?_⟩
      · simp [stores?, seen_of_none absent, write, Context.contains, Json.Members.contains, absent]
      · rw [key, absent]
        exact (Option.some_ne_none _).symm

/-- A call that fails and has stored something new is one of those that slip. -/
theorem slips_of_fails {call : Call} {c : Context} {e : String} {v : Json}
    (fails : (call.run c).1 = .error e) (stores : call.stores? c = some v)
    (other : c.values.get? call.key ≠ some v) : call.Slips c := by
  cases call with
  | get α codec name => cases stores
  | insert α codec name value =>
      -- it fails at the previous value, for it has written its own
      cases hwrite : codec.write value with
      | error e' => simp [stores?, hwrite, Except.toOption] at stores
      | ok w =>
          obtain rfl : w = v := by simpa [stores?, hwrite, Except.toOption] using stores
          have hget : (c.get codec name).map (fun _ => ()) = .error e := by
            simpa only [run, Context.insert, hwrite] using fails
          cases hread : c.get codec name with
          | ok a     => rw [hread] at hget; cases hget
          | error e' =>
              obtain ⟨previous, hstored, hread⟩ := get_error hread
              exact .unread hwrite hstored hread fun h => other (h ▸ hstored)
  | upsert α codec name update default =>
      rw [run, upsert_eq] at fails
      cases hseen : c.seen codec name default with
      | error e' => simp [stores?, hseen] at stores
      | ok a =>
          cases hwrite : codec.write (update a) with
          | ok w     => simp [hseen, hwrite] at fails
          | error e' =>
              have habsent : c.values.get? name = none := by
                by_contra hsome
                have hcontains : c.contains name = true := Option.isSome_iff_ne_none.mpr hsome
                simp [stores?, hseen, hwrite, hcontains] at stores
              rw [seen_of_none habsent] at hseen
              cases hseen
              exact .unwritten habsent hwrite

/-- A call that fails leaves each key as it was exactly if it is none of those that slip. -/
theorem leaves_iff {call : Call} {c : Context} {e : String} (fails : (call.run c).1 = .error e) :
    (∀ key, (call.run c).2.values.get? key = c.values.get? key) ↔ ¬ call.Slips c := by
  rw [leaves_iff_stored]
  constructor
  · intro h slips
    obtain ⟨v, hv, hother⟩ := slips.stores
    exact hother (h v hv)
  · intro h v hv
    by_contra hother
    exact h (slips_of_fails fails hv hother)

end Call

end Context

/-! ### Handles -/

/-- Contexts, and handles that are each on one of them. -/
structure Handles where
  contexts : Nat → Context := fun _ => {}
  made     : Nat := 0
  /-- The place of the context that each handle is on. -/
  places   : List Nat := []

namespace Handles

/-- What is done with handles. -/
inductive Act : Type 1 where
  /-- Make a context and a handle on it. -/
  | make
  /-- Make another handle on the context of a handle. -/
  | clone (handle : Nat)
  /-- Make a call through a handle. -/
  | call (handle : Nat) (call : Context.Call)

/-- The context that a handle is on. -/
def context? (s : Handles) (handle : Nat) : Option Context := s.places[handle]?.map s.contexts

def act (s : Handles) : Act → Handles
  | .make             => { s with made := s.made + 1, places := s.places ++ [s.made] }
  | .clone handle     =>
      match s.places[handle]? with
      | none       => s
      | some place => { s with places := s.places ++ [place] }
  | .call handle call =>
      match s.places[handle]? with
      | none       => s
      | some place =>
          { s with contexts := Function.update s.contexts place (call.run (s.contexts place)).2 }

/-- What an act stores under a key of the context at a place. -/
def stores? (place : Nat) (key : String) (s : Handles) : Act → Option Json
  | .make | .clone _  => none
  | .call handle call =>
      if s.places[handle]? = some place ∧ call.key = key then call.stores? (s.contexts place)
      else none

/-- What acts store under a key of the context at a place, one after the other, through whichever of
the handles on it. -/
def stored (place : Nat) (key : String) : Handles → List Act → List Json
  | _, []        => []
  | s, a :: acts => (stores? place key s a).toList ++ stored place key (s.act a) acts

theorem get?_act (place : Nat) (key : String) (s : Handles) (a : Act) :
    ((s.act a).contexts place).values.get? key =
      (stores? place key s a).or ((s.contexts place).values.get? key) := by
  cases a with
  | make         => rfl
  | clone handle => cases h : s.places[handle]? <;> simp only [act, stores?, h, Option.none_or]
  | call handle call =>
      cases h : s.places[handle]? with
      | none       => simp [act, stores?, h]
      | some other =>
          by_cases hplace : other = place
          · subst hplace
            by_cases hkey : call.key = key <;>
              simp [act, stores?, h, hkey, Context.Call.get?_run]
          · simp [act, stores?, h, hplace, Function.update_of_ne (Ne.symm hplace)]

/-- Under a key there is what was stored there last. -/
theorem get?_foldl (place : Nat) (key : String) (s : Handles) (acts : List Act) :
    ((acts.foldl act s).contexts place).values.get? key =
      (stored place key s acts).getLast?.or ((s.contexts place).values.get? key) := by
  induction acts generalizing s with
  | nil => rfl
  | cons a acts ih =>
      rw [List.foldl_cons, ih, get?_act, stored, List.getLast?_append, Option.or_assoc]
      cases stores? place key s a <;> rfl

/-- A call is seen through each handle on the same context, and through no other. -/
theorem context?_call {s : Handles} {handle place : Nat} (on : s.places[handle]? = some place)
    (call : Context.Call) (other : Nat) :
    (s.act (.call handle call)).context? other =
      if s.places[other]? = some place then some (call.run (s.contexts place)).2
      else s.context? other := by
  simp only [context?, act, on]
  cases h : s.places[other]? with
  | none        => rfl
  | some place' =>
      by_cases hplace : place' = place
      · subst hplace
        simp
      · simp [hplace]

/-- **The handles on a context share one map.**  For a handle on the context at a place, after any
acts on any handles:

* `get` answers the reading of what was stored under the key last, through any handle on the
  context;
* a call is seen through each handle on the context, and through no other; and it changes no key but
  its own;
* a call that fails leaves each key as it was exactly unless it slips: an `insert` over another
  value that cannot be read, or an `upsert` that cannot write the update of the default;
* an `upsert` writes the update of what it has seen, or fails as the reading or the writing does; it
  has seen what `get` answers, or the default where that is nothing, exactly unless there is a
  `null` that is not read as the default. -/
theorem share {acts : List Act} {s : Handles} {handle place : Nat}
    (run : acts.foldl act {} = s) (on : s.places[handle]? = some place) :
    (∀ {α : Type} (codec : Codec α) (key : String), (s.contexts place).get codec key =
      match (stored place key {} acts).getLast? with
      | none   => .ok none
      | some v => (codec.read v).map some) ∧
    (∀ call : Context.Call,
      (∀ other, (s.act (.call handle call)).context? other =
        if s.places[other]? = some place then some (call.run (s.contexts place)).2
        else s.context? other) ∧
      (∀ key ≠ call.key, (call.run (s.contexts place)).2.values.get? key =
        (s.contexts place).values.get? key) ∧
      ∀ e, (call.run (s.contexts place)).1 = .error e →
        ((∀ key, (call.run (s.contexts place)).2.values.get? key =
          (s.contexts place).values.get? key) ↔ ¬ call.Slips (s.contexts place))) ∧
    ∀ {α : Type} (codec : Codec α) (key : String) (update : α → α) (default : α),
      (match (s.contexts place).seen codec key default >>= fun a => codec.write (update a) with
      | .ok v    => ((s.contexts place).upsert codec key update default).1 = .ok () ∧
          ((s.contexts place).upsert codec key update default).2.values.get? key = some v
      | .error e => ((s.contexts place).upsert codec key update default).1 = .error e) ∧
      ((s.contexts place).seen codec key default =
          ((s.contexts place).get codec key).map (·.getD default) ↔
        ((s.contexts place).values.get? key = some .null → codec.read .null = .ok default)) := by
  refine ⟨fun codec key => ?_, fun call => ⟨context?_call on call, fun key hkey => ?_,
    fun e fails => Context.Call.leaves_iff fails⟩,
    fun codec key update default => ⟨Context.upsert_writes _ codec key update default,
      Context.seen_eq_iff⟩⟩
  · have hlast := get?_foldl place key {} acts
    rw [run, show ((({} : Handles).contexts place).values.get? key) = none from rfl,
      Option.or_none] at hlast
    rewrite [Context.get, hlast]
    rfl
  · rw [Context.Call.get?_run, if_neg (Ne.symm hkey)]

/-- A context with two handles, and a text stored through the one. -/
def pair : List Act :=
  [.make, .clone 0, .call 1 (.insert String Codec.string "name" "value")]

/-- The text is read through the other, and an update of it at another type leaves it. -/
theorem share_pair : (pair.foldl act {}).places[0]? = some 0 ∧
    ((pair.foldl act {}).contexts 0).get Codec.string "name" = .ok (some "value") ∧
    (((pair.foldl act {}).contexts 0).upsert Codec.unsigned32 "name" (· + 1) 0).1 =
      .error "invalid type: string \"value\", expected u32" ∧
    ∀ key, (((pair.foldl act {}).contexts 0).upsert Codec.unsigned32 "name" (· + 1) 0).2.values.get?
      key = ((pair.foldl act {}).contexts 0).values.get? key := by
  have hshare := share (rfl : pair.foldl act {} = _)
    (show (pair.foldl act {}).places[0]? = some 0 from rfl)
  have hfails : ((Context.Call.upsert Int Codec.unsigned32 "name" (· + 1) 0).run
      ((pair.foldl act {}).contexts 0)).1 =
        .error "invalid type: string \"value\", expected u32" := by
    decide +kernel
  refine ⟨rfl, hshare.1 Codec.string "name", hfails, ?_⟩
  refine ((hshare.2.1 (.upsert Int Codec.unsigned32 "name" (· + 1) 0)).2.2 _ hfails).mpr fun h => ?_
  cases h with
  | unwritten absent => cases absent

end Handles

namespace Context

/-- A call that fails may have changed what is under its key: a text is there, and an `insert` of a
number fails as it cannot read the text, but the number is stored.  An update may be of something
else than what `get` answers: that is `null` here, and the update is of the default. -/
theorem not_atomic :
    (∃ e, ((Call.insert Int Codec.unsigned32 "k" 1).run ⟨[("k", .string "value")]⟩).1 = .error e) ∧
    ((Call.insert Int Codec.unsigned32 "k" 1).run ⟨[("k", .string "value")]⟩).2.values.get? "k" =
      some (.int 1) ∧
    Context.get ⟨[("k", .null)]⟩ Codec.json "k" = .ok (some .null) ∧
    Context.seen ⟨[("k", .null)]⟩ Codec.json "k" (.int 0) = .ok (.int 0) :=
  ⟨⟨_, rfl⟩, rfl, rfl, rfl⟩

end Context

end GraphServe
