import GraphServe.Extension
import GraphServe.Proofs.Cache
import GraphServe.Proofs.Execution.Variables
import GraphServe.Proofs.Journal

/-!
# Extensions — what their hooks do

* A limit of complexity records what it measured and the bound, and refuses the operation if the
  first exceeds the second (`limitComplexity_of_some`).
* Persisted queries find a text or check the one that came, or refuse a request for one of four
  reasons (`persistParams_spec`), and keep a text that came with its hash
  (`persistContext_cases`).
-/

namespace GraphServe.Extension

open Document

/-! ### Persisted queries -/

section Persisted

variable (store : Cache String) (params : Params) (stats : Stats) (context : OperationContext)

/-- A request names a persisted query by its hash, in the version that is known. -/
def Names (params : Params) (hash : String) : Prop :=
  ∃ value, params.extensions.get? PersistedQuery.key = some value ∧
    PersistedQuery.ofJson? value = some ⟨1, hash⟩

/-- The reasons to refuse what a request says of a persisted query. -/
inductive Declined : Prop where
  | malformed {value : Json} (hvalue : params.extensions.get? PersistedQuery.key = some value)
      (hnone : PersistedQuery.ofJson? value = none)
  | version {value : Json} {q : PersistedQuery}
      (hvalue : params.extensions.get? PersistedQuery.key = some value)
      (hsome : PersistedQuery.ofJson? value = some q) (hversion : q.version ≠ 1)
  | mismatch {hash text : String} (hnames : Names params hash) (hquery : params.query = some text)
      (hhash : PersistedQuery.isHashOf hash text = false)
  | unknown {hash : String} (hnames : Names params hash) (hquery : params.query = none)
      (hnone : (store.get hash).1 = none)

/-- The hook on the parameters passes them on, refuses them and remembers nothing of them, checks
their text or finds one. -/
theorem persistParams_spec :
    (params.extensions.get? PersistedQuery.key = none ∧
      persistParams store params stats = ({ params, stats }, store)) ∨
    (Declined store params ∧ ∃ e, ∃ events : List Event,
      persistParams store params stats =
        ({ params, stats, error := some e, entries := events.map .event }, store)) ∨
    (∃ hash text, Names params hash ∧ params.query = some text ∧
      PersistedQuery.isHashOf hash text = true ∧
      persistParams store params stats =
        ({ params, stats := { stats with persisted? := some ⟨hash, true⟩ } }, store)) ∨
    (∃ hash text event, Names params hash ∧ params.query = none ∧
      (store.get hash).1 = some text ∧
      persistParams store params stats =
        ({ params := { params with query := some text }
           stats := { stats with persisted? := some ⟨hash, false⟩ }
           entries := [.event event] }, (store.get hash).2)) := by
  unfold persistParams
  cases hvalue : params.extensions.get? PersistedQuery.key with
  | none => exact .inl ⟨rfl, rfl⟩
  | some value =>
      dsimp only
      cases hq : PersistedQuery.ofJson? value with
      | none => exact .inr (.inl ⟨.malformed hvalue hq, _, [], rfl⟩)
      | some q =>
          dsimp only
          by_cases hversion : q.version = 1
          · rw [if_neg (not_not_intro hversion)]
            have hnames : Names params q.hash := ⟨value, hvalue, by rw [hq, ← hversion]⟩
            cases hquery : params.query with
            | some text =>
                dsimp only
                cases hhash : PersistedQuery.isHashOf q.hash text with
                | true => exact .inr (.inr (.inl ⟨q.hash, text, hnames, rfl, hhash, rfl⟩))
                | false => exact .inr (.inl ⟨.mismatch hnames hquery hhash, _, [_], rfl⟩)
            | none =>
                dsimp only
                rcases hfound : store.get q.hash with ⟨_ | text, after⟩
                · have hnone : (store.get q.hash).1 = none := by rw [hfound]
                  have hsame := Cache.get_of_none hnone
                  rw [hfound] at hsame
                  cases hsame
                  exact .inr (.inl ⟨.unknown hnames hquery hnone, _, [_], rfl⟩)
                · let event : Event := { severity := .trace, message := "apq: " ++ "cache hit" }
                  refine .inr (.inr (.inr ⟨q.hash, text, event, hnames, rfl, ?_, ?_⟩))
                  · rw [hfound]
                  · rw [hfound]
                    rfl
          · rw [if_pos hversion]
            exact .inr (.inl ⟨.version hvalue hq hversion, _, [], rfl⟩)

/-- Each of the reasons counts. -/
theorem persistParams_of_declined (h : Declined store params) :
    ∃ e, ∃ events : List Event, persistParams store params stats =
      ({ params, stats, error := some e, entries := events.map .event }, store) := by
  cases h with
  | malformed hvalue hnone => exact ⟨_, [], by simp only [persistParams, hvalue, hnone]; rfl⟩
  | version hvalue hsome hversion =>
      exact ⟨_, [], by simp only [persistParams, hvalue, hsome, if_pos hversion]; rfl⟩
  | mismatch hnames hquery hhash =>
      obtain ⟨value, hvalue, hq⟩ := hnames
      exact ⟨_, [_], by simp only [persistParams, hvalue, hq, hquery, hhash]; rfl⟩
  | @unknown hash hnames hquery hnone =>
      obtain ⟨value, hvalue, hq⟩ := hnames
      have hget : store.get hash = (none, store) := Prod.ext hnone (Cache.get_of_none hnone)
      exact ⟨_, [_], by simp only [persistParams, hvalue, hq, hquery, hget]; rfl⟩

/-- The hook on the parameters, where it does not matter what a request says. -/
theorem persistParams_cases :
    persistParams store params stats = ({ params, stats }, store) ∨
    (∃ e, ∃ events : List Event, ∃ store', (∀ P, store.All P → store'.All P) ∧
      persistParams store params stats =
        ({ params, stats, error := some e, entries := events.map .event }, store')) ∨
    (∃ hash text, params.query = some text ∧ PersistedQuery.isHashOf hash text = true ∧
      persistParams store params stats =
        ({ params, stats := { stats with persisted? := some ⟨hash, true⟩ } }, store)) ∨
    (∃ hash text event, (store.get hash).1 = some text ∧
      persistParams store params stats =
        ({ params := { params with query := some text }
           stats := { stats with persisted? := some ⟨hash, false⟩ }
           entries := [.event event] }, (store.get hash).2)) := by
  rcases persistParams_spec store params stats with
    ⟨-, heq⟩ | ⟨-, e, events, heq⟩ | ⟨hash, text, -, hquery, hhash, heq⟩ |
      ⟨hash, text, event, -, -, hfound, heq⟩
  · exact .inl heq
  · exact .inr (.inl ⟨e, events, store, fun _ h => h, heq⟩)
  · exact .inr (.inr (.inl ⟨hash, text, hquery, hhash, heq⟩))
  · exact .inr (.inr (.inr ⟨hash, text, event, hfound, heq⟩))

/-- The text is kept only if it came with the hash. -/
theorem persistContext_cases :
    (∃ hash event, context.stats.persisted? = some ⟨hash, true⟩ ∧
      persistContext store context =
        ({ context, entries := [.event event] }, store.add hash context.rawQuery)) ∨
    ((∀ hash, context.stats.persisted? ≠ some ⟨hash, true⟩) ∧
      persistContext store context = ({ context }, store)) := by
  unfold persistContext
  cases hp : context.stats.persisted? with
  | none => exact .inr ⟨fun hash h => (by cases h), rfl⟩
  | some p =>
      obtain ⟨hash, sentText⟩ := p
      cases sentText with
      | false => exact .inr ⟨fun hash h => (by cases h), rfl⟩
      | true => exact .inl ⟨hash, _, rfl, rfl⟩

end Persisted

/-! ### Limits of complexity -/

variable {limit : OperationContext → Nat} {service : Service} {context : OperationContext}

/-- The complexity that counts: none for an operation that asks for the schema, by its name. -/
def measure (service : Service) (d : Executable) (o : Operation FieldDefinition)
    (variableValues : Json.Members) : Nat :=
  if o.name? = some introspectionName then 0
  else (Complexity.ofOperation service d o variableValues).1

theorem limitComplexity_of_some {d : Executable} {o : Operation FieldDefinition}
    (hd : context.document = some d) (ho : context.operation = some o) :
    (limitComplexity limit service context).context =
        { context with stats := { context.stats with
            complexity? := some ⟨measure service d o context.variableValues, limit context⟩ } } ∧
      ((limitComplexity limit service context).error = none ↔
        measure service d o context.variableValues ≤ limit context) ∧
      ∀ e, (limitComplexity limit service context).error = some e →
        e.IsCoded .complexityLimitExceeded := by
  simp only [limitComplexity, hd, ho, measure]
  split
  all_goals
    refine ⟨rfl, by split <;> simp_all, fun e he => ?_⟩
    split at he
    · cases he
    · cases he
      rfl

/-- A context without an operation is left alone. -/
theorem limitComplexity_of_none (h : context.document = none ∨ context.operation = none) :
    limitComplexity limit service context = { context } := by
  unfold limitComplexity
  rcases h with h | h
  · rw [h]
  · rw [h]
    cases context.document <;> rfl

theorem limitComplexity_context :
    ∃ complexity?, (limitComplexity limit service context).context =
      { context with stats := { context.stats with complexity? } } := by
  by_cases h : context.document = none ∨ context.operation = none
  · exact ⟨context.stats.complexity?, by rw [limitComplexity_of_none h]⟩
  · obtain ⟨hd, ho⟩ := not_or.mp h
    obtain ⟨d, hd⟩ := Option.ne_none_iff_exists'.mp hd
    obtain ⟨o, ho⟩ := Option.ne_none_iff_exists'.mp ho
    exact ⟨_, (limitComplexity_of_some hd ho).1⟩

theorem silent_limitComplexity : Silent (limitComplexity limit service context).entries := by
  unfold limitComplexity
  cases context.document with
  | none => exact silent_nil
  | some d =>
      cases context.operation with
      | none => exact silent_nil
      | some o => exact silent_events _

/-- An operation is refused with the code of the limit. -/
theorem limitComplexity_error {e : Error}
    (h : (limitComplexity limit service context).error = some e) :
    e.IsCoded .complexityLimitExceeded := by
  by_cases hnone : context.document = none ∨ context.operation = none
  · rw [limitComplexity_of_none hnone] at h
    cases h
  · obtain ⟨hd, ho⟩ := not_or.mp hnone
    obtain ⟨d, hd⟩ := Option.ne_none_iff_exists'.mp hd
    obtain ⟨o, ho⟩ := Option.ne_none_iff_exists'.mp ho
    exact (limitComplexity_of_some hd ho).2.2 e h

end GraphServe.Extension
