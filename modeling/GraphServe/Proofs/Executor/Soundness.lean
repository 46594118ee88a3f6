import GraphServe.Proofs.Digest.Sha256
import GraphServe.Proofs.Document.Faults
import GraphServe.Proofs.Executor.Interleaving
import GraphServe.Proofs.Extension

/-!
# Executors — what is remembered

Of a history of requests on an executor that starts with nothing remembered, the invariant is that

* a text is remembered under a hash that it has (`Extension.Sound`), and a request that has a hash
  has a text with this hash (`Stage.Sound`);
* a document is kept under its text, or under the key of a hash that its text has (`IsKeyOf`).

Every step keeps it (`Stage.advance_sound`), and so does every schedule (`Interleaving.sound_run`).
A key of a hash is the text of no document, so that the key of a hash only finds documents of a
text with that hash.  The converse is missing: a text may be the key of a hash, and a request for
that text then finds another document (`Stage.Crosses`).  Otherwise what is found is what reading
the text gives (`Stage.Sound.read_of_found`).
-/

namespace GraphServe

open Document
open Extension (PersistedQuery persistParams persistParams_cases persistContext
  persistContext_cases limitComplexity_context)

/-- No two of some texts have one digest. -/
def NoCollision (texts : List String) : Prop :=
  ∀ s ∈ texts, ∀ t ∈ texts,
    Sha256.digest (Text.bytes s) = Sha256.digest (Text.bytes t) → s = t

/-- A hash and one of some texts that has it. -/
def Hashes (texts : List String) (hash text : String) : Prop :=
  text ∈ texts ∧ PersistedQuery.isHashOf hash text = true

/-- A key under which a document may be kept: its text, or the key of a hash of its text. -/
def IsKeyOf (s : Schema) (texts : List String) (key : String) (d : Executable) : Prop :=
  Executor.readDocument s key = .ok d ∨
    ∃ hash text, key = "apq|" ++ hash ∧ Hashes texts hash text ∧
      Executor.readDocument s text = .ok d

theorem NoCollision.unique {texts : List String} (h : NoCollision texts) {hash s t : String}
    (hs : Hashes texts hash s) (ht : Hashes texts hash t) : s = t :=
  h s hs.1 t ht.1 (PersistedQuery.digest_eq_of_isHashOf hs.2 ht.2)

theorem noCollision_pair {s t : String}
    (hne : Sha256.digest (Text.bytes s) ≠ Sha256.digest (Text.bytes t)) : NoCollision [s, t] := by
  intro a ha b hb heq
  simp only [List.mem_cons, List.not_mem_nil, or_false] at ha hb
  rcases ha with rfl | rfl <;> rcases hb with rfl | rfl
  · rfl
  · exact absurd heq hne
  · exact absurd heq.symm hne
  · rfl

/-- The texts that some requests bring. -/
def textsOf (requests : List Params) : List String := requests.filterMap (·.query)

/-! ### Errors of reading -/

namespace Executor

/-- Nothing is read from the key of a hash, for its text is malformed. -/
theorem readDocument_persistedKey (s : Schema) (hash : String) :
    ∃ errors, errors ≠ [] ∧ (∀ e ∈ errors, e.IsCoded .parseFailed) ∧
      readDocument s ("apq|" ++ hash) = .error errors := by
  obtain ⟨faults, hne, hread⟩ := read_persistedKey hash
  refine ⟨_, ?_, ?_, by simp only [readDocument, hread]; rfl⟩
  · simpa [located] using hne
  · intro e he
    simp only [located, List.mem_map] at he
    obtain ⟨⟨message, place⟩, -, rfl⟩ := he
    rfl

theorem apq_append_injective {hash other : String} (h : "apq|" ++ hash = "apq|" ++ other) :
    hash = other := by
  simpa using h

end Executor

/-! ### Extensions -/

namespace Extension

/-- An extension that comes with the library; what it remembers are texts under their hashes. -/
def Sound (texts : List String) : Extension → Prop
  | persistedQueries store => store.All (Hashes texts)
  | custom _               => False
  | _                      => True

/-- An extension that comes with the library and remembers nothing. -/
def Fresh : Extension → Prop
  | persistedQueries store => store.entries = []
  | custom _               => False
  | _                      => True

theorem Fresh.sound {e : Extension} {texts : List String} (h : e.Fresh) : e.Sound texts := by
  cases e with
  | persistedQueries store => exact Cache.all_of_entries_nil h
  | custom hooks => exact h
  | introspection | tracing | complexityLimit limit => trivial

end Extension

/-- Parameters whose text is one of some texts, and has the hash that was seen. -/
structure Params.Sound (texts : List String) (params : Params) (stats : Stats) : Prop where
  text : ∀ text, params.query = some text → text ∈ texts
  hash : ∀ p, stats.persisted? = some p →
    ∃ text, params.query = some text ∧ PersistedQuery.isHashOf p.hash text = true

/-- An operation whose text is one of some texts, and has the hash that was seen. -/
structure OperationContext.Sound (texts : List String) (context : OperationContext) : Prop where
  text : context.rawQuery ∈ texts
  hash : ∀ p, context.stats.persisted? = some p →
    PersistedQuery.isHashOf p.hash context.rawQuery = true

variable {texts : List String}

theorem persistParams_sound {store : Cache String} {params : Params} {stats : Stats}
    (hstore : store.All (Hashes texts)) (h : params.Sound texts stats) :
    (persistParams store params stats).1.params.Sound texts
        (persistParams store params stats).1.stats ∧
      (persistParams store params stats).2.All (Hashes texts) := by
  rcases persistParams_cases store params stats with
    heq | ⟨e, events, store', hkeeps, heq⟩ | ⟨hash, text, hquery, hhash, heq⟩ |
      ⟨hash, text, event, hfound, heq⟩
  · rw [heq]
    exact ⟨h, hstore⟩
  · rw [heq]
    exact ⟨h, hkeeps _ hstore⟩
  · rw [heq]
    refine ⟨⟨h.text, fun p hp => ⟨text, hquery, ?_⟩⟩, hstore⟩
    cases hp
    exact hhash
  · rw [heq]
    have hhash : Hashes texts hash text := hstore.found hfound
    refine ⟨⟨fun t ht => ?_, fun p hp => ⟨text, rfl, ?_⟩⟩, hstore.get hash⟩
    · cases ht
      exact hhash.1
    · cases hp
      exact hhash.2

theorem Extension.onParams_sound {e : Extension} {params : Params} {stats : Stats}
    (he : e.Sound texts) (h : params.Sound texts stats) :
    (e.onParams params stats).1.params.Sound texts (e.onParams params stats).1.stats ∧
      (e.onParams params stats).2.Sound texts := by
  cases e with
  | persistedQueries store => exact persistParams_sound he h
  | custom hooks => exact absurd he id
  | introspection | tracing | complexityLimit limit => exact ⟨h, trivial⟩

theorem persistContext_sound {store : Cache String} {context : OperationContext}
    (hstore : store.All (Hashes texts)) (h : context.Sound texts) :
    (persistContext store context).1.context.Sound texts ∧
      (persistContext store context).2.All (Hashes texts) := by
  rcases persistContext_cases store context with ⟨hash, event, hp, heq⟩ | ⟨-, heq⟩
  · rw [heq]
    have hhash : Hashes texts hash context.rawQuery := ⟨h.text, h.hash ⟨hash, true⟩ hp⟩
    exact ⟨h, hstore.add hhash⟩
  · rw [heq]
    exact ⟨h, hstore⟩

theorem Extension.onContext_sound {e : Extension} {service : Service} {context : OperationContext}
    (he : e.Sound texts) (h : context.Sound texts) :
    (e.onContext service context).1.context.Sound texts ∧
      (e.onContext service context).2.Sound texts := by
  cases e with
  | introspection => exact ⟨⟨h.text, h.hash⟩, trivial⟩
  | tracing => exact ⟨h, trivial⟩
  | custom hooks => exact absurd he id
  | complexityLimit limit =>
      obtain ⟨complexity?, hcontext⟩ := @limitComplexity_context limit service context
      refine ⟨?_, trivial⟩
      dsimp only [onContext]
      rw [hcontext]
      exact ⟨h.text, h.hash⟩
  | persistedQueries store => exact persistContext_sound he h

/-! ### Executors -/

/-- What an executor remembers of some texts. -/
structure Executor.Sound (texts : List String) (x : Executor) : Prop where
  documents  : x.documents.All (IsKeyOf x.service.schema texts)
  extensions : ∀ e ∈ x.extensions, e.Sound texts

/-- An executor with extensions of the library that remembers nothing. -/
structure Executor.Fresh (x : Executor) : Prop where
  documents  : x.documents.entries = []
  extensions : ∀ e ∈ x.extensions, e.Fresh

theorem Executor.Fresh.sound {x : Executor} (h : x.Fresh) : x.Sound texts :=
  ⟨Cache.all_of_entries_nil h.documents, fun e he => (h.extensions e he).sound⟩

theorem Executor.Sound.setExtension {x : Executor} (h : x.Sound texts) {e : Extension}
    (he : e.Sound texts) (i : Nat) :
    Executor.Sound texts { x with extensions := x.extensions.set i e } :=
  ⟨h.documents, fun e' he' => by
    rcases List.mem_or_eq_of_mem_set he' with hmem | rfl
    · exact h.extensions e' hmem
    · exact he⟩

/-! ### Stages -/

namespace Stage

/-- What a stage knows of the text of its request, and the key under which it is to keep a
document. -/
def Sound (s : Schema) (texts : List String) : Stage → Prop
  | hooking _ _ params stats     => params.Sound texts stats
  | seeking _ text context       => context.rawQuery = text ∧ context.Sound texts
  | keeping _ _ context d key?   =>
      context.Sound texts ∧ ∀ key, key? = some key → IsKeyOf s texts key d
  | checking _ context           => context.Sound texts
  | answered _                   => True

theorem sound_start {asked : Params} {s : Schema}
    (h : ∀ text, asked.query = some text → text ∈ texts) : (start asked).Sound s texts :=
  ⟨h, fun p hp => by cases hp⟩

theorem service_advance (x : Executor) (s : Stage) : (s.advance x).2.service = x.service := by
  unfold advance
  split
  · split <;> rfl
  · rfl
  · rfl
  · split <;> rfl
  · rfl

variable {x : Executor} {s : Stage}

theorem sound_hooked {asked : Params} {i : Nat} {outcome : ParamsOutcome} {s : Schema}
    (h : outcome.params.Sound texts outcome.stats) : (hooked asked i outcome).Sound s texts := by
  unfold hooked
  split
  · trivial
  · exact h

theorem sound_ready {asked params : Params} {stats : Stats} {s : Schema}
    (h : params.Sound texts stats) : (ready asked params stats).Sound s texts := by
  unfold ready
  cases hquery : params.query with
  | none => trivial
  | some text =>
      have hraw := rawQuery_contextOf asked stats hquery
      refine ⟨hraw, hraw ▸ h.text text hquery, fun p hp => ?_⟩
      obtain ⟨t, ht, hhash⟩ := h.hash p hp
      rw [hraw, ← Option.some.inj (ht.symm.trans hquery)]
      exact hhash

theorem sound_checked {i : Nat} {outcome : ContextOutcome} {s : Schema}
    (h : outcome.context.Sound texts) : (checked i outcome).Sound s texts := by
  unfold checked
  split
  · trivial
  · exact h

/-- A document that was read is kept under a key of its own. -/
theorem sound_sought {params : Params} {text : String} {context : OperationContext} {s : Schema}
    (htext : context.rawQuery = text) (h : context.Sound texts) (found : Option Executable) :
    (sought s params text context found).Sound s texts := by
  cases found with
  | some d => exact ⟨h, fun key hkey => by cases hkey⟩
  | none =>
      unfold sought
      dsimp only
      cases hread : Executor.readDocument s text with
      | error errors => trivial
      | ok d =>
          refine ⟨h, fun key hkey => ?_⟩
          cases hkey
          unfold Executor.documentKey
          cases hp : context.stats.persisted? with
          | none => exact .inl hread
          | some p =>
              have hhash : Hashes texts p.hash text := htext ▸ ⟨h.text, h.hash p hp⟩
              exact .inr ⟨p.hash, text, rfl, hhash, hread⟩

theorem sound_selected {params : Params} {d : Executable} {context : OperationContext} {s : Schema}
    (h : context.Sound texts) :
    (selected (Executor.selectOperation s params d context)).Sound s texts :=
  Executor.selected_cases (P := Stage.Sound s texts) (fun _ => trivial) fun _ _ => ⟨h.text, h.hash⟩

/-- A step keeps what stage and executor know. -/
theorem advance_sound (hx : x.Sound texts) (hs : s.Sound x.service.schema texts) :
    (s.advance x).1.Sound x.service.schema texts ∧ (s.advance x).2.Sound texts := by
  cases s with
  | hooking asked i params stats =>
      cases he : x.extensions[i]? with
      | some e =>
          obtain ⟨houtcome, he'⟩ :=
            Extension.onParams_sound (hx.extensions e (List.mem_of_getElem? he)) hs
          rw [advance_hooking he]
          exact ⟨sound_hooked houtcome, hx.setExtension he' i⟩
      | none =>
          rw [advance_hooking_none he]
          exact ⟨sound_ready hs, hx⟩
  | seeking params text context =>
      exact ⟨sound_sought hs.1 hs.2 _, ⟨hx.documents.get _, hx.extensions⟩⟩
  | keeping params text context d key? =>
      refine ⟨sound_selected hs.1, ?_, hx.extensions⟩
      cases key? with
      | none => exact hx.documents
      | some key => exact hx.documents.add (hs.2 key rfl)
  | checking i context =>
      cases he : x.extensions[i]? with
      | some e =>
          obtain ⟨houtcome, he'⟩ :=
            @Extension.onContext_sound _ _ x.service _ (hx.extensions e (List.mem_of_getElem? he)) hs
          rw [advance_checking he]
          exact ⟨sound_checked houtcome, hx.setExtension he' i⟩
      | none =>
          rw [advance_checking_none he]
          exact ⟨trivial, hx⟩
  | answered a => exact ⟨trivial, hx⟩

/-! ### What is found -/

/-- A request without a hash looks for the document of a text that is the key of a hash, and finds
one. -/
def Crosses (x : Executor) : Stage → Prop
  | seeking _ text context =>
      context.stats.persisted? = none ∧ (∃ hash, text = "apq|" ++ hash) ∧
        ∃ d, (x.documents.get text).1 = some d
  | _ => False

/-- What is found is what reading the text gives, unless the keys cross. -/
theorem Sound.read_of_found {params : Params} {text : String} {context : OperationContext}
    {d : Executable} (hx : x.Sound texts) (hcollision : NoCollision texts)
    (hs : (seeking params text context).Sound x.service.schema texts)
    (hcross : ¬ (seeking params text context).Crosses x)
    (hfound : (x.documents.get (Executor.documentKey context.stats text)).1 = some d) :
    Executor.readDocument x.service.schema text = .ok d := by
  obtain ⟨htext, hcontext⟩ := hs
  have hkey := hx.documents.found hfound
  unfold Executor.documentKey at hkey hfound
  cases hp : context.stats.persisted? with
  | none =>
      rw [hp] at hkey hfound
      rcases hkey with hread | ⟨hash, t, heq, -, -⟩
      · exact hread
      · exact absurd ⟨hp, ⟨hash, heq⟩, ⟨d, hfound⟩⟩ hcross
  | some p =>
      rw [hp] at hkey
      rcases hkey with hread | ⟨hash, t, heq, ht, hread⟩
      -- the key of a hash is the text of no document
      · obtain ⟨errors, -, -, hread'⟩ :=
          Executor.readDocument_persistedKey x.service.schema p.hash
        rw [hread'] at hread
        cases hread
      · have hhash : Hashes texts p.hash text := htext ▸ ⟨hcontext.text, hcontext.hash p hp⟩
        rw [← Executor.apq_append_injective heq] at ht
        rw [hcollision.unique hhash ht]
        exact hread

end Stage

/-! ### Whole histories -/

namespace Interleaving

/-- What the executor and every stage know. -/
structure Sound (texts : List String) (r : Interleaving) : Prop where
  executor : r.executor.Sound texts
  stages   : ∀ s ∈ r.stages, s.Sound r.executor.service.schema texts

theorem sound_start {x : Executor} {requests : List Params} (h : x.Fresh) :
    (start x requests).Sound (textsOf requests) := by
  refine ⟨h.sound, fun s hs => ?_⟩
  obtain ⟨asked, hasked, rfl⟩ := List.mem_map.mp hs
  exact Stage.sound_start fun text htext => List.mem_filterMap.mpr ⟨asked, hasked, htext⟩

theorem sound_step {r : Interleaving} (h : r.Sound texts) (j : Nat) : (r.step j).Sound texts := by
  cases hs : r.stages[j]? with
  | none => rw [step_of_none hs]; exact h
  | some s =>
      obtain ⟨hstage, hexecutor⟩ :=
        Stage.advance_sound h.executor (h.stages s (List.mem_of_getElem? hs))
      rw [step_of_some hs]
      refine ⟨hexecutor, fun s' hs' => ?_⟩
      rw [Stage.service_advance]
      rcases List.mem_or_eq_of_mem_set hs' with hmem | rfl
      · exact h.stages s' hmem
      · exact hstage

theorem sound_run {r : Interleaving} (h : r.Sound texts) (schedule : List Nat) :
    (r.run schedule).Sound texts := by
  induction schedule generalizing r with
  | nil => exact h
  | cons j rest ih => exact ih (sound_step h j)

end Interleaving

end GraphServe
