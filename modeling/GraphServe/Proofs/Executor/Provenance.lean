import GraphServe.Proofs.Executor.Soundness

/-!
# Executors — where the text of a request comes from

A preparation takes the text that its request came with.  A request without a text names one by its
hash, and the text that is taken has this hash (`Stage.Follows`, `Interleaving.follows_run`).

**Refusals.**  A request that persisted queries refuse has used nothing that requests share: it was
at its first hooks until then (`Stage.Unseen`), none of which found a text.  So none of its steps
changes the executor, whatever others do between them (`Interleaving.leaves_of_declinedIn`).

* `OperationContext.Took` says what is known of the text of an operation.
* `Interleaving.DeclinedIn` says that a request is refused in the course of a schedule.
* `Interleaving.Leaves` says that the steps of a request leave the executor as it is.
-/

namespace GraphServe

open Document
open Extension (PersistedQuery Names Declined persistParams persistParams_spec persistContext
  persistContext_cases limitComplexity_context)

/-! ### Parameters and operations -/

/-- What some hooks made of the parameters of a request: a hash that they saw is one that the
request names, and the text has it; before that the text is the request's own. -/
structure Params.From (params asked : Params) (stats : Stats) : Prop where
  extensions : params.extensions = asked.extensions
  plain      : stats.persisted? = none → params.query = asked.query
  named      : ∀ p, stats.persisted? = some p → Names asked p.hash ∧
    ∃ text, params.query = some text ∧ PersistedQuery.isHashOf p.hash text = true

/-- The text that an operation took: the one that its request came with, or one that has the hash
that the request names. -/
structure OperationContext.Took (context : OperationContext) (asked : Params) : Prop where
  plain : context.stats.persisted? = none → asked.query = some context.rawQuery
  named : ∀ p, context.stats.persisted? = some p → Names asked p.hash ∧
    PersistedQuery.isHashOf p.hash context.rawQuery = true

variable {texts : List String} {asked params : Params} {stats : Stats}

theorem OperationContext.Took.exists_hash {context : OperationContext} (h : context.Took asked)
    (hquery : asked.query = none) :
    ∃ hash, Names asked hash ∧ PersistedQuery.isHashOf hash context.rawQuery = true := by
  cases hp : context.stats.persisted? with
  | none =>
      have := h.plain hp
      rw [hquery] at this
      cases this
  | some p => exact ⟨p.hash, h.named p hp⟩

theorem Params.From.start (asked : Params) : Params.From asked asked {} :=
  ⟨rfl, fun _ => rfl, fun p hp => by cases hp⟩

theorem Params.From.names_iff (h : params.From asked stats) {hash : String} :
    Names params hash ↔ Names asked hash := by
  simp only [Names, h.extensions]

theorem names_unique {hash other : String} (h : Names asked hash) (h' : Names asked other) :
    hash = other := by
  obtain ⟨value, hvalue, hq⟩ := h
  obtain ⟨value', hvalue', hq'⟩ := h'
  rw [hvalue] at hvalue'
  cases hvalue'
  rw [hq] at hq'
  cases hq'
  rfl

/-- No request is refused once a hash was seen. -/
theorem Params.From.unseen_of_declined {store : Cache String} (h : params.From asked stats)
    (hdeclined : Declined store params) : stats.persisted? = none := by
  cases hp : stats.persisted? with
  | none => rfl
  | some p =>
      obtain ⟨hnames, text, hquery, hhash⟩ := h.named p hp
      rw [← h.names_iff] at hnames
      obtain ⟨value, hvalue, hq⟩ := id hnames
      cases hdeclined with
      | malformed hvalue' hnone =>
          cases Option.some.inj (hvalue.symm.trans hvalue')
          rw [hq] at hnone
          cases hnone
      | version hvalue' hsome hversion =>
          cases Option.some.inj (hvalue.symm.trans hvalue')
          cases Option.some.inj (hq.symm.trans hsome)
          exact absurd rfl hversion
      | mismatch hnames' hquery' hfalse =>
          cases names_unique hnames hnames'
          cases Option.some.inj (hquery.symm.trans hquery')
          rw [hhash] at hfalse
          cases hfalse
      | unknown hnames' hquery' hnone =>
          rw [hquery] at hquery'
          cases hquery'

/-! ### Stages -/

namespace Stage

/-- A stage of the preparation for some request. -/
def Follows (asked : Params) : Stage → Prop
  | hooking asked' _ params stats => asked' = asked ∧ params.From asked stats
  | seeking _ _ context           => context.Took asked
  | keeping _ _ context _ _       => context.Took asked
  | checking _ context            => context.Took asked
  | answered (.ok context)        => context.Took asked
  | answered (.error _)           => True

/-- The operation that a stage is at, once it has a text and as long as it is not refused. -/
def context? : Stage → Option OperationContext
  | seeking _ _ context     => some context
  | keeping _ _ context _ _ => some context
  | checking _ context      => some context
  | answered (.ok context)  => some context
  | _                       => none

/-- A stage that has not seen a hash: a hook on the parameters is next. -/
def Unseen : Stage → Prop
  | hooking _ _ _ stats => stats.persisted? = none
  | _                   => False

theorem Follows.took {s : Stage} {context : OperationContext} (h : s.Follows asked)
    (hcontext : s.context? = some context) : context.Took asked := by
  cases s with
  | hooking asked' i params stats => cases hcontext
  | seeking params text c | checking i c => cases hcontext; exact h
  | keeping params text c d key? => cases hcontext; exact h
  | answered a =>
      cases a with
      | ok c => cases hcontext; exact h
      | error refusal => cases hcontext

variable {x : Executor} {s : Stage}

/-- A hook on the parameters; it leaves no trace of a request that has not seen a hash after it. -/
theorem follows_hooked {e : Extension} (he : e.Sound texts) (h : params.From asked stats)
    (i : Nat) :
    (hooked asked i (e.onParams params stats).1).Follows asked ∧
      ((hooked asked i (e.onParams params stats).1).Unseen →
        stats.persisted? = none ∧ (e.onParams params stats).2 = e) := by
  cases e with
  | custom hooks => exact absurd he id
  | introspection | tracing | complexityLimit limit =>
      exact ⟨⟨rfl, h⟩, fun hunseen => ⟨hunseen, rfl⟩⟩
  | persistedQueries store =>
      dsimp only [Extension.onParams]
      rcases persistParams_spec store params stats with
        ⟨-, heq⟩ | ⟨-, e, events, heq⟩ | ⟨hash, text, hnames, hquery, hhash, heq⟩ |
          ⟨hash, text, event, hnames, hquery, hfound, heq⟩
      · rw [heq]
        exact ⟨⟨rfl, h⟩, fun hunseen => ⟨hunseen, rfl⟩⟩
      · rw [heq]
        exact ⟨trivial, fun hunseen => absurd hunseen id⟩
      · rw [heq]
        refine ⟨⟨rfl, h.extensions, fun hp => ?_, fun p hp => ?_⟩, fun hp => ?_⟩ <;> cases hp
        exact ⟨h.names_iff.mp hnames, text, hquery, hhash⟩
      -- what is found under a hash has it
      · rw [heq]
        have hhash : Hashes texts hash text := Cache.All.found he hfound
        refine ⟨⟨rfl, h.extensions, fun hp => ?_, fun p hp => ?_⟩, fun hp => ?_⟩ <;> cases hp
        exact ⟨h.names_iff.mp hnames, text, rfl, hhash.2⟩

theorem follows_ready (h : params.From asked stats) : (ready asked params stats).Follows asked := by
  unfold ready
  cases hquery : params.query with
  | none => trivial
  | some text =>
      have hraw := rawQuery_contextOf asked stats hquery
      refine ⟨fun hp => ?_, fun p hp => ?_⟩
      · rw [hraw, ← hquery, h.plain hp]
      · obtain ⟨hnames, t, ht, hhash⟩ := h.named p hp
        cases Option.some.inj (hquery.symm.trans ht)
        exact ⟨hnames, hraw.symm ▸ hhash⟩

theorem follows_checked {i : Nat} {outcome : ContextOutcome} (h : outcome.context.Took asked) :
    (checked i outcome).Follows asked := by
  unfold checked
  split
  · trivial
  · exact h

/-- The hooks on an operation keep its text and the hash that was seen. -/
theorem rawQuery_onContext {e : Extension} (he : e.Sound texts) (service : Service)
    (context : OperationContext) :
    (e.onContext service context).1.context.rawQuery = context.rawQuery ∧
      (e.onContext service context).1.context.stats.persisted? = context.stats.persisted? := by
  cases e with
  | custom hooks => exact absurd he id
  | introspection | tracing => exact ⟨rfl, rfl⟩
  | complexityLimit limit =>
      obtain ⟨complexity?, hcontext⟩ := @limitComplexity_context limit service context
      dsimp only [Extension.onContext]
      rw [hcontext]
      exact ⟨rfl, rfl⟩
  | persistedQueries store =>
      dsimp only [Extension.onContext]
      rcases persistContext_cases store context with ⟨hash, event, -, heq⟩ | ⟨-, heq⟩ <;>
        rw [heq] <;> exact ⟨rfl, rfl⟩

theorem took_of_eq {c c' : OperationContext} (h : c.Took asked) (hraw : c'.rawQuery = c.rawQuery)
    (hpersisted : c'.stats.persisted? = c.stats.persisted?) : c'.Took asked := by
  refine ⟨fun hp => ?_, fun p hp => ?_⟩
  · rw [hraw]
    exact h.plain (hpersisted ▸ hp)
  · rw [hraw]
    exact h.named p (hpersisted ▸ hp)

/-- A step of the preparation for a request. -/
theorem follows_advance (hx : x.Sound texts) (h : s.Follows asked) :
    (s.advance x).1.Follows asked := by
  cases s with
  | hooking asked' i params stats =>
      obtain ⟨rfl, hfrom⟩ := h
      cases he : x.extensions[i]? with
      | some e =>
          rw [advance_hooking he]
          exact (follows_hooked (hx.extensions e (List.mem_of_getElem? he)) hfrom (i + 1)).1
      | none =>
          rw [advance_hooking_none he]
          exact follows_ready hfrom
  | seeking params text context =>
      dsimp only [advance, sought]
      split
      · exact h
      · split
        · exact h
        · trivial
  | keeping params text context d key? =>
      exact Executor.selected_cases (P := Stage.Follows asked) (fun _ => trivial) fun _ _ =>
        took_of_eq h rfl rfl
  | checking i context =>
      cases he : x.extensions[i]? with
      | some e =>
          obtain ⟨hraw, hpersisted⟩ :=
            rawQuery_onContext (hx.extensions e (List.mem_of_getElem? he)) x.service context
          rw [advance_checking he]
          exact follows_checked (took_of_eq h hraw hpersisted)
      | none =>
          rw [advance_checking_none he]
          exact h
  | answered a => exact h

/-- A stage that has not seen a hash comes from another one, which leaves the executor alone. -/
theorem unseen_of_advance (hx : x.Sound texts) (h : s.Follows asked)
    (hunseen : (s.advance x).1.Unseen) : s.Unseen ∧ (s.advance x).2 = x := by
  cases s with
  | hooking asked' i params stats =>
      obtain ⟨rfl, hfrom⟩ := h
      cases he : x.extensions[i]? with
      | some e =>
          rw [advance_hooking he] at hunseen ⊢
          obtain ⟨hnone, hsame⟩ :=
            (follows_hooked (hx.extensions e (List.mem_of_getElem? he)) hfrom (i + 1)).2 hunseen
          obtain ⟨hi, rfl⟩ := List.getElem?_eq_some_iff.mp he
          refine ⟨hnone, ?_⟩
          rw [hsame, List.set_getElem_self]
      | none =>
          rw [advance_hooking_none he, ready] at hunseen
          split at hunseen <;> exact absurd hunseen id
  | seeking params text context =>
      dsimp only [advance, sought] at hunseen
      split at hunseen
      · exact absurd hunseen id
      · split at hunseen <;> exact absurd hunseen id
  | keeping params text context d key? =>
      dsimp only [advance, selected] at hunseen
      split at hunseen <;> exact absurd hunseen id
  | checking i context =>
      cases he : x.extensions[i]? with
      | some e =>
          rw [advance_checking he, checked] at hunseen
          split at hunseen <;> exact absurd hunseen id
      | none =>
          rw [advance_checking_none he] at hunseen
          exact absurd hunseen id
  | answered a => exact absurd hunseen id

/-- A refusal by persisted queries: the preparation ends, and the executor stays as it is. -/
theorem advance_declined {i : Nat} {store : Cache String}
    (he : x.extensions[i]? = some (.persistedQueries store)) (h : Declined store params) :
    ∃ refusal, (hooking asked i params stats).advance x = (answered (.error refusal), x) := by
  obtain ⟨e, events, heq⟩ := Extension.persistParams_of_declined store params stats h
  obtain ⟨hi, hget⟩ := List.getElem?_eq_some_iff.mp he
  rw [advance_hooking he]
  dsimp only [Extension.onParams, hooked]
  rw [heq, ← hget, List.set_getElem_self]
  exact ⟨_, rfl⟩

end Stage

/-! ### Whole histories -/

namespace Interleaving

variable {requests : List Params} {r : Interleaving} {j : Nat}

/-- Every preparation is the one for its request. -/
def Follows (requests : List Params) (r : Interleaving) : Prop :=
  ∀ (j : Nat) (s : Stage), r.stages[j]? = some s → ∃ asked, requests[j]? = some asked ∧ s.Follows asked

theorem follows_start (x : Executor) (requests : List Params) :
    Follows requests (start x requests) := by
  intro j s hs
  rw [start, List.getElem?_map] at hs
  obtain ⟨asked, hasked, rfl⟩ := Option.map_eq_some_iff.mp hs
  exact ⟨asked, hasked, rfl, .start asked⟩

theorem follows_step (hr : r.Sound texts) (h : r.Follows requests) (i : Nat) :
    (r.step i).Follows requests := by
  intro j t ht
  rw [getElem?_step] at ht
  split at ht
  · obtain ⟨s, hs, rfl⟩ := Option.map_eq_some_iff.mp ht
    obtain ⟨asked, hasked, hfollows⟩ := h j s hs
    exact ⟨asked, hasked, Stage.follows_advance hr.executor hfollows⟩
  · exact h j t ht

theorem follows_run (schedule : List Nat) :
    ∀ {r : Interleaving}, r.Sound texts → r.Follows requests →
      (r.run schedule).Follows requests := by
  induction schedule with
  | nil => intro r hr h; exact h
  | cons i rest ih => intro r hr h; exact ih (sound_step hr i) (follows_step hr h i)

/-! ### Refusals -/

/-- The next step of a preparation is a hook of persisted queries, which refuses the request. -/
def DeclinesAt (r : Interleaving) (j : Nat) : Prop :=
  ∃ asked i params stats store, r.stages[j]? = some (.hooking asked i params stats) ∧
    r.executor.extensions[i]? = some (.persistedQueries store) ∧ Declined store params

/-- One of the steps of a preparation is a refusal by persisted queries. -/
def DeclinedIn (r : Interleaving) : List Nat → Nat → Prop
  | [],        _ => False
  | i :: rest, j => (i = j ∧ r.DeclinesAt j) ∨ (r.step i).DeclinedIn rest j

/-- Every step of a preparation leaves the executor as it is at that time. -/
def Leaves (r : Interleaving) : List Nat → Nat → Prop
  | [],        _ => True
  | i :: rest, j => (i = j → (r.step i).executor = r.executor) ∧ (r.step i).Leaves rest j

/-- Once there is an answer the steps do nothing. -/
theorem leaves_of_answer {a : Answer} (schedule : List Nat) :
    ∀ {r : Interleaving}, r.stages[j]? = some (.answered a) →
      r.Leaves schedule j ∧ (r.run schedule).stages[j]? = some (.answered a) := by
  induction schedule with
  | nil => intro r h; exact ⟨trivial, h⟩
  | cons i rest ih =>
      intro r h
      have hnext : (r.step i).stages[j]? = some (.answered a) := by
        rw [getElem?_step, h]
        split <;> rfl
      obtain ⟨hleaves, hanswer⟩ := ih hnext
      refine ⟨⟨fun heq => ?_, hleaves⟩, hanswer⟩
      rw [step_of_some (heq ▸ h)]
      rfl

/-- **A refusal by persisted queries leaves no trace**, by induction on the schedule: before it the
request was at hooks that saw no hash, and after it there is the answer. -/
theorem leaves_of_declinedIn (schedule : List Nat) :
    ∀ {r : Interleaving}, r.Sound texts → r.Follows requests → r.DeclinedIn schedule j →
      (∃ s, r.stages[j]? = some s ∧ s.Unseen) ∧ r.Leaves schedule j ∧
        ∃ refusal, (r.run schedule).stages[j]? = some (.answered (.error refusal)) := by
  induction schedule with
  | nil => intro r hr h hdeclined; exact absurd hdeclined id
  | cons i rest ih =>
      intro r hr h hdeclined
      rcases hdeclined with ⟨rfl, asked, k, params, stats, store, hs, he, hdeclined⟩ | hlater
      · obtain ⟨asked', -, rfl, hfrom⟩ := h i _ hs
        obtain ⟨refusal, hadvance⟩ := @Stage.advance_declined asked params stats _ _ _ he hdeclined
        have hstep := step_of_some hs
        rw [hadvance] at hstep
        have hnext : (r.step i).stages[i]? = some (.answered (.error refusal)) := by
          rw [getElem?_step, if_pos rfl, hs, Option.map_some, hadvance]
        obtain ⟨hleaves, hanswer⟩ := leaves_of_answer rest hnext
        exact ⟨⟨_, hs, hfrom.unseen_of_declined hdeclined⟩, ⟨fun _ => by rw [hstep], hleaves⟩,
          refusal, hanswer⟩
      · obtain ⟨⟨t, ht, hunseen⟩, hleaves, hanswer⟩ :=
          ih (sound_step hr i) (follows_step hr h i) hlater
        rw [getElem?_step] at ht
        by_cases heq : i = j
        · rw [if_pos heq] at ht
          obtain ⟨s, hs, rfl⟩ := Option.map_eq_some_iff.mp ht
          obtain ⟨asked, -, hfollows⟩ := h j s hs
          obtain ⟨hbefore, hsame⟩ := Stage.unseen_of_advance hr.executor hfollows hunseen
          refine ⟨⟨s, hs, hbefore⟩, ⟨fun _ => ?_, hleaves⟩, hanswer⟩
          rw [heq, step_of_some hs]
          exact hsame
        · rw [if_neg heq] at ht
          exact ⟨⟨t, ht, hunseen⟩, ⟨fun h => absurd h heq, hleaves⟩, hanswer⟩

end Interleaving

end GraphServe
