import GraphServe.Proofs.Executor.Provenance
import GraphServe.Proofs.Executor.Transparency

/-!
# Executors — what the stores hold

An executor has two stores that feed each other: persisted queries keep texts under their hashes,
and documents are kept under texts and under keys of hashes.  Of a history of requests on an
executor that starts with nothing remembered, in every order of steps:

* a text is kept under a hash that it has, and is the text of a document
  (`Executor.Verified.persisted`);
* a document under the key of a hash is the document of a text with that hash, and every other
  document is the one of its key (`Executor.Verified.documents`);
* a refusal by persisted queries leaves no trace, and a request without a text that is not refused
  has a text with the hash that it names (`OperationContext.Took.exists_hash`).

**The invariant** (`Stage.advance_vouched`).  A text is kept at the end of a preparation, long after
it was checked.  Between the two stands the document that was found: a preparation that has seen a
hash has found the document of its own text, read or kept, so that what it keeps in the end is the
text of a document (`Stage.Vouched`).
-/

namespace GraphServe

open Document
open Extension (PersistedQuery Names persistParams persistParams_spec persistContext
  persistContext_cases)

/-- The text of a document. -/
def IsReadable (s : Schema) (text : String) : Prop := ∃ d, Executor.readDocument s text = .ok d

/-- Every text that an extension keeps is the text of a document. -/
def Extension.Keeps (s : Schema) : Extension → Prop
  | persistedQueries store => store.All fun _ text => IsReadable s text
  | _                      => True

/-- The text of an operation whose hash was seen is the text of a document. -/
def OperationContext.Vouched (s : Schema) (context : OperationContext) : Prop :=
  context.stats.persisted? ≠ none → IsReadable s context.rawQuery

variable {texts : List String} {s : Schema}

theorem Extension.Fresh.keeps {e : Extension} (h : e.Fresh) : e.Keeps s := by
  cases e with
  | persistedQueries store =>
      exact Cache.all_of_entries_nil (P := fun _ text => IsReadable s text) h
  | custom hooks | introspection | tracing | complexityLimit limit => trivial

/-- The hooks on the parameters keep nothing new. -/
theorem Extension.Keeps.onParams {e : Extension} (h : e.Keeps s) (params : Params) (stats : Stats) :
    (e.onParams params stats).2.Keeps s := by
  cases e with
  | custom hooks | introspection | tracing | complexityLimit limit => trivial
  | persistedQueries store =>
      dsimp only [Extension.onParams]
      rcases persistParams_spec store params stats with
        ⟨-, heq⟩ | ⟨-, e, events, heq⟩ | ⟨hash, text, -, -, -, heq⟩ | ⟨hash, text, event, -, -, -, heq⟩
      all_goals rw [heq]
      · exact h
      · exact h
      · exact h
      · exact Cache.All.get (P := fun _ text => IsReadable s text) h hash

/-- The hooks on an operation keep its text if its hash was seen. -/
theorem Extension.Keeps.onContext {e : Extension} (h : e.Keeps s) (service : Service)
    {context : OperationContext} (hvouched : context.Vouched s) :
    (e.onContext service context).2.Keeps s := by
  cases e with
  | custom hooks | introspection | tracing | complexityLimit limit => trivial
  | persistedQueries store =>
      dsimp only [Extension.onContext]
      rcases persistContext_cases store context with ⟨hash, event, hp, heq⟩ | ⟨-, heq⟩
      · rw [heq]
        have hread : IsReadable s context.rawQuery := hvouched (by rw [hp]; exact Option.some_ne_none _)
        exact Cache.All.add (P := fun _ text => IsReadable s text) h hread
      · rw [heq]
        exact h

/-! ### Stages -/

namespace Stage

/-- A preparation that has found a document vouches for its text. -/
def Vouched (s : Schema) : Stage → Prop
  | keeping _ _ context _ _ => context.Vouched s
  | checking _ context      => context.Vouched s
  | _                       => True

variable {x : Executor}

/-- A preparation that has seen a hash finds the document of its text. -/
theorem vouched_sought {params : Params} {text : String} {context : OperationContext}
    (hx : x.Sound texts) (hcollision : NoCollision texts)
    (hs : (seeking params text context).Sound x.service.schema texts) :
    (sought x.service.schema params text context
      (x.documents.get (Executor.documentKey context.stats text)).1).Vouched x.service.schema := by
  have htext : context.rawQuery = text := hs.1
  cases hfound : (x.documents.get (Executor.documentKey context.stats text)).1 with
  | some d =>
      intro hp
      rw [htext]
      refine ⟨d, Sound.read_of_found hx hcollision hs ?_ hfound⟩
      rintro ⟨hnone, -⟩
      exact hp hnone
  | none =>
      unfold sought
      dsimp only
      cases hread : Executor.readDocument x.service.schema text with
      | error errors => trivial
      | ok d =>
          intro hp
          rw [htext]
          exact ⟨d, hread⟩

/-- A step vouches for what it keeps. -/
theorem advance_vouched {st : Stage} (hx : x.Sound texts) (hcollision : NoCollision texts)
    (hst : st.Sound x.service.schema texts) (hkeeps : ∀ e ∈ x.extensions, e.Keeps x.service.schema)
    (h : st.Vouched x.service.schema) :
    (st.advance x).1.Vouched x.service.schema ∧
      ∀ e ∈ (st.advance x).2.extensions, e.Keeps x.service.schema := by
  have hset {e : Extension} (i : Nat) (he : e.Keeps x.service.schema) :
      ∀ e' ∈ x.extensions.set i e, e'.Keeps x.service.schema := by
    intro e' he'
    rcases List.mem_or_eq_of_mem_set he' with hmem | rfl
    · exact hkeeps e' hmem
    · exact he
  cases st with
  | hooking asked i params stats =>
      cases he : x.extensions[i]? with
      | some e =>
          rw [advance_hooking he]
          refine ⟨?_, hset i ((hkeeps e (List.mem_of_getElem? he)).onParams params stats)⟩
          unfold hooked
          split <;> trivial
      | none =>
          rw [advance_hooking_none he]
          refine ⟨?_, hkeeps⟩
          unfold ready
          split <;> trivial
  | seeking params text context => exact ⟨vouched_sought hx hcollision hst, hkeeps⟩
  | keeping params text context d key? =>
      exact ⟨Executor.selected_cases (P := Stage.Vouched x.service.schema) (fun _ => trivial)
        fun _ _ => h, hkeeps⟩
  | checking i context =>
      cases he : x.extensions[i]? with
      | some e =>
          have hmem := List.mem_of_getElem? he
          obtain ⟨hraw, hpersisted⟩ := rawQuery_onContext (hx.extensions e hmem) x.service context
          rw [advance_checking he]
          refine ⟨?_, hset i ((hkeeps e hmem).onContext x.service h)⟩
          unfold checked
          split
          · trivial
          · intro hp
            rw [hraw]
            exact h (hpersisted ▸ hp)
      | none =>
          rw [advance_checking_none he]
          exact ⟨trivial, hkeeps⟩
  | answered a => exact ⟨trivial, hkeeps⟩

end Stage

/-! ### Executors -/

/-- Both stores of an executor hold verified content only. -/
structure Executor.Verified (s : Schema) (x : Executor) : Prop where
  persisted : ∀ store, .persistedQueries store ∈ x.extensions → store.All fun hash text =>
    PersistedQuery.isHashOf hash text = true ∧ IsReadable s text
  documents : x.documents.All fun key d =>
    (∃ hash text, key = "apq|" ++ hash ∧ PersistedQuery.isHashOf hash text = true ∧
      readDocument s text = .ok d) ∨
    ((∀ hash, key ≠ "apq|" ++ hash) ∧ readDocument s key = .ok d)

theorem Executor.Sound.verified {x : Executor} (h : x.Sound texts)
    (hkeeps : ∀ e ∈ x.extensions, e.Keeps x.service.schema) : x.Verified x.service.schema where
  persisted store hstore entry hentry :=
    ⟨(h.extensions _ hstore entry hentry).2, hkeeps _ hstore entry hentry⟩
  documents entry hentry := by
    obtain ⟨key, d⟩ := entry
    rcases h.documents _ hentry with hread | ⟨hash, text, hkey, hhash, hread⟩
    -- a key of a hash is the text of no document
    · refine .inr ⟨fun hash hkey => ?_, hread⟩
      obtain ⟨errors, -, -, hread'⟩ := readDocument_persistedKey x.service.schema hash
      dsimp only at hkey hread
      rw [hkey, hread'] at hread
      cases hread
    · exact .inl ⟨hash, text, hkey, hhash.2, hread⟩

/-! ### Whole histories -/

namespace Interleaving

/-- What the executor and every stage vouch for. -/
structure Vouched (r : Interleaving) : Prop where
  executor : ∀ e ∈ r.executor.extensions, e.Keeps r.executor.service.schema
  stages   : ∀ s ∈ r.stages, s.Vouched r.executor.service.schema

theorem vouched_start {x : Executor} (h : x.Fresh) (requests : List Params) :
    (start x requests).Vouched := by
  refine ⟨fun e he => (h.extensions e he).keeps, fun s hs => ?_⟩
  obtain ⟨asked, -, rfl⟩ := List.mem_map.mp hs
  trivial

theorem service_step (r : Interleaving) (j : Nat) :
    (r.step j).executor.service = r.executor.service := by
  cases hs : r.stages[j]? with
  | none => rw [step_of_none hs]
  | some s => rw [step_of_some hs]; exact Stage.service_advance r.executor s

theorem service_run (r : Interleaving) (schedule : List Nat) :
    (r.run schedule).executor.service = r.executor.service := by
  induction schedule generalizing r with
  | nil => rfl
  | cons j rest ih => rw [run_cons, ih, service_step]

theorem vouched_step {r : Interleaving} (hr : r.Sound texts) (hcollision : NoCollision texts)
    (h : r.Vouched) (j : Nat) : (r.step j).Vouched := by
  have hservice := service_step r j
  cases hs : r.stages[j]? with
  | none => rw [step_of_none hs]; exact h
  | some s =>
      have hmem := List.mem_of_getElem? hs
      obtain ⟨hstage, hexecutor⟩ := Stage.advance_vouched hr.executor hcollision
        (hr.stages s hmem) h.executor (h.stages s hmem)
      refine ⟨?_, ?_⟩ <;> rw [hservice] <;> rw [step_of_some hs]
      · exact hexecutor
      · intro s' hs'
        rcases List.mem_or_eq_of_mem_set hs' with hmem' | rfl
        · exact h.stages s' hmem'
        · exact hstage

theorem vouched_run (hcollision : NoCollision texts) (schedule : List Nat) :
    ∀ {r : Interleaving}, r.Sound texts → r.Vouched → (r.run schedule).Vouched := by
  induction schedule with
  | nil => intro r hr h; exact h
  | cons j rest ih => intro r hr h; exact ih (sound_step hr j) (vouched_step hr hcollision h j)

/-- **Both stores only ever hold verified content.**  For every history on an executor that starts
with nothing remembered, in every order of steps: what the stores hold is verified; a request that
persisted queries refuse is answered with an error, and none of its steps changes the executor; and
a request without a text that is not refused has a text with the hash that it names. -/
theorem stores_verified {x : Executor} {requests : List Params} (hfresh : x.Fresh)
    (hcollision : NoCollision (textsOf requests)) (schedule : List Nat) :
    ((start x requests).run schedule).executor.Verified x.service.schema ∧
      (∀ j, (start x requests).DeclinedIn schedule j →
        (start x requests).Leaves schedule j ∧
          ∃ refusal, ((start x requests).run schedule).answer? j = some (.error refusal)) ∧
      ∀ (j : Nat) (asked : Params) (s : Stage) (context : OperationContext),
        requests[j]? = some asked → asked.query = none →
        ((start x requests).run schedule).stages[j]? = some s → s.context? = some context →
          ∃ hash, Names asked hash ∧
            PersistedQuery.isHashOf hash context.rawQuery = true := by
  have hsound : (start x requests).Sound (textsOf requests) := sound_start hfresh
  have hfollows := follows_start x requests
  refine ⟨?_, fun j hdeclined => ?_, fun j asked s context hasked hquery hs hcontext => ?_⟩
  · have hrun := (sound_run hsound schedule).executor
    have hvouched := (vouched_run hcollision schedule hsound (vouched_start hfresh requests)).executor
    have hservice := service_run (start x requests) schedule
    have hverified := hrun.verified hvouched
    rw [hservice] at hverified
    exact hverified
  · obtain ⟨-, hleaves, refusal, hanswer⟩ := leaves_of_declinedIn schedule hsound hfollows hdeclined
    exact ⟨hleaves, refusal, by rw [answer?, hanswer]; rfl⟩
  · obtain ⟨asked', hasked', hstage⟩ := follows_run schedule hsound hfollows j s hs
    cases Option.some.inj (hasked.symm.trans hasked')
    exact (hstage.took hcontext).exists_hash hquery

end Interleaving

/-! ### A history -/

namespace Keeping

open Crossing (hash service executor fresh)

/-- What a request says to name the text with the hash. -/
def extensions : Json.Members :=
  [(PersistedQuery.key, .object [("version", .int 1), ("sha256Hash", .string hash)])]

/-- A text that comes with its hash, the hash alone, and another text with the hash. -/
def requests : List Params :=
  [{ query := some "{ a }", extensions }, { extensions }, { query := some "{ b: a }", extensions }]

/-- The last request is refused before the first takes a step; the second comes after both. -/
def schedule : List Nat := 2 :: (List.replicate 6 0 ++ List.replicate 6 1)

theorem names_hash (query : Option String) : Names { query, extensions } hash :=
  ⟨_, rfl, by rfl⟩

theorem noCollision : NoCollision (textsOf requests) :=
  noCollision_pair (by decide +kernel)

theorem declinedIn : (Interleaving.start executor requests).DeclinedIn schedule 2 :=
  .inl ⟨rfl, _, 0, _, {}, .unbounded, rfl, rfl, .mismatch (names_hash _) rfl (by decide +kernel)⟩

/-- The stores hold the text of the first request, the second takes it, and the third leaves no
trace. -/
theorem stores_verified_schedule :
    executor.Fresh ∧ NoCollision (textsOf requests) ∧
      ((Interleaving.start executor requests).run schedule).executor.Verified service.schema ∧
      (Interleaving.start executor requests).Leaves schedule 2 ∧
      ∃ s context, ((Interleaving.start executor requests).run schedule).stages[1]? = some s ∧
        s.context? = some context ∧ PersistedQuery.isHashOf hash context.rawQuery = true := by
  obtain ⟨hverified, hdeclined, hnamed⟩ :=
    Interleaving.stores_verified fresh noCollision schedule
  have hsome : (((Interleaving.start executor requests).run schedule).stages[1]?.bind
      Stage.context?).isSome = true := by
    decide +kernel
  obtain ⟨context, hbind⟩ := Option.isSome_iff_exists.mp hsome
  obtain ⟨s, hs, hcontext⟩ := Option.bind_eq_some_iff.mp hbind
  obtain ⟨hash', hnames, hhash⟩ := hnamed 1 _ s context rfl rfl hs hcontext
  cases names_unique hnames (names_hash none)
  exact ⟨fresh, noCollision, hverified, (hdeclined 2 declinedIn).1, s, context, hs, hcontext, hhash⟩

end Keeping

end GraphServe
