import GraphServe.Proofs.Executor.Admitting
import GraphServe.Proofs.Executor.Uses
import GraphServe.Proofs.Executor.Verification

/-!
# Executors — recalling a text by its hash

A request without a text that names a hash is compared with the same request with the full text, on
an executor that has some history behind it.  If the store holds the hash, both build the operation
of the same text, from the document of that text, with the same name and variables
(`Answer.Recasts`).  The store holds it exactly if the hash is among those that were used most
recently (`Interleaving.recalls_text`).

Hashes are compared in two ways.  A text that is sent is checked against any spelling of its hash,
and kept under the spelling that came; a hash without a text is looked up as it is spelled.  So each
spelling is recalled by its own uses.
-/

namespace GraphServe

open Document
open Extension (PersistedQuery Names persistParams limitComplexity limitComplexity_of_some
  limitComplexity_of_none)

/-! ### Answers for the same text -/

/-- Operations that differ at most in what their requests say to extensions, and in what hooks
record and allow. -/
def OperationContext.Recasts (c c' : OperationContext) : Prop :=
  ∃ stats extensions disableIntrospection, c' = { c with stats, extensions, disableIntrospection }

/-- The operation of an answer, as far as it was built. -/
def Answer.context : Answer → OperationContext
  | .ok c    => c
  | .error r => r.context

/-- The errors of an answer that is a refusal. -/
def Answer.refused? : Answer → Option (List Error)
  | .ok _    => none
  | .error r => some r.errors

/-- A limit that does not depend on how a text came. -/
def IsBlind (limit : OperationContext → Nat) : Prop :=
  ∀ c c' : OperationContext, c.Recasts c' → limit c = limit c'

namespace OperationContext

variable {c c' c'' : OperationContext}

theorem Recasts.symm (h : c.Recasts c') : c'.Recasts c := by
  obtain ⟨stats, extensions, disabled, rfl⟩ := h
  exact ⟨c.stats, c.extensions, c.disableIntrospection, rfl⟩

theorem Recasts.trans (h : c.Recasts c') (h' : c'.Recasts c'') : c.Recasts c'' := by
  obtain ⟨stats, extensions, disabled, rfl⟩ := h
  obtain ⟨stats', extensions', disabled', rfl⟩ := h'
  exact ⟨stats', extensions', disabled', rfl⟩

theorem Alike.recasts (h : c.Alike c') : c.Recasts c' := by
  obtain ⟨stats, disabled, rfl⟩ := h
  exact ⟨stats, c.extensions, disabled, rfl⟩

/-- What hooks make of two such operations. -/
theorem Recasts.alike {d d' : OperationContext} (h : c.Recasts c') (hd : c.Alike d)
    (hd' : c'.Alike d') : d.Recasts d' :=
  hd.recasts.symm.trans (h.trans hd'.recasts)

end OperationContext

/-! ### Hooks on operations -/

namespace Extension

variable {e e' : Extension} {service : Service} {c c' : OperationContext}

/-- Only limits refuse operations. -/
theorem error_onContext (h : e.BuiltIn) : (e.onContext service c).1.error =
    e.limit?.bind fun limit => (limitComplexity limit service c).error := by
  cases e with
  | custom hooks => exact absurd h id
  | introspection | tracing | complexityLimit limit => rfl
  | persistedQueries store =>
      dsimp only [onContext]
      rcases persistContext_cases store c with ⟨hash, event, -, heq⟩ | ⟨-, heq⟩ <;> rw [heq] <;> rfl

theorem error_limitComplexity {limit : OperationContext → Nat} (h : c.Recasts c')
    (hlimit : IsBlind limit) :
    (limitComplexity limit service c').error = (limitComplexity limit service c).error := by
  have hsame := hlimit c c' h
  obtain ⟨stats, extensions, disabled, rfl⟩ := h
  unfold limitComplexity
  rw [← hsame]
  cases c.document with
  | none => rfl
  | some d => cases c.operation <;> rfl

/-- Extensions with the same limit refuse operations alike. -/
theorem error_onContext_recasts (he : e.BuiltIn) (he' : e'.BuiltIn) (hsame : e'.limit? = e.limit?)
    (hblind : ∀ limit, e.limit? = some limit → IsBlind limit) (h : c.Recasts c') :
    (e'.onContext service c').1.error = (e.onContext service c).1.error := by
  rw [error_onContext he, error_onContext he', hsame]
  cases hlimit : e.limit? with
  | none => rfl
  | some limit => exact error_limitComplexity h (hblind limit hlimit)

end Extension

namespace Executor

variable {x x' : Executor} {c c' : OperationContext} {params params' : Params} {d : Executable}
  {texts : List String}

/-- The hooks on operations record and allow. -/
theorem alike_runContextHooks (service : Service) {extensions : List Extension}
    (h : ∀ e ∈ extensions, e.BuiltIn) (c : OperationContext) :
    c.Alike (runContextHooks service extensions c).1.context := by
  induction extensions generalizing c with
  | nil => exact .refl c
  | cons e rest ih =>
      obtain ⟨halike, -, -⟩ := @Extension.onContext_builtIn e c service (h e List.mem_cons_self)
      rw [runContextHooks]
      generalize e.onContext service c = result at halike ⊢
      obtain ⟨outcome, e'⟩ := result
      dsimp only at halike ⊢
      cases outcome.error with
      | some error => exact halike
      | none => exact halike.trans (ih (fun e he => h e (List.mem_cons_of_mem _ he)) outcome.context)

/-- Extensions with the same limits in the same places refuse operations alike, by induction on
both. -/
theorem error_runContextHooks (service : Service) {extensions : List Extension} :
    ∀ {extensions' : List Extension} {c c' : OperationContext},
      extensions'.map (·.limit?) = extensions.map (·.limit?) →
      (∀ e ∈ extensions, e.BuiltIn) → (∀ e ∈ extensions', e.BuiltIn) →
      (∀ limit, some limit ∈ extensions.map (·.limit?) → IsBlind limit) → c.Recasts c' →
      (runContextHooks service extensions' c').1.error =
        (runContextHooks service extensions c).1.error := by
  induction extensions with
  | nil =>
      intro extensions' c c' hlimits _ _ _ _
      cases List.map_eq_nil_iff.mp hlimits
      rfl
  | cons e rest ih =>
      intro extensions' c c' hlimits hbuilt hbuilt' hblind h
      obtain ⟨e', rest', rfl, hlimit, hlimits⟩ := List.map_eq_cons_iff.mp hlimits
      have he := hbuilt e List.mem_cons_self
      have he' := hbuilt' e' List.mem_cons_self
      have hsame : (e'.onContext service c').1.error = (e.onContext service c).1.error :=
        Extension.error_onContext_recasts he he' hlimit
          (fun limit heq => hblind limit (heq ▸ List.mem_cons_self)) h
      obtain ⟨halike, -, -⟩ := @Extension.onContext_builtIn e c service he
      obtain ⟨halike', -, -⟩ := @Extension.onContext_builtIn e' c' service he'
      rw [runContextHooks, runContextHooks]
      generalize e.onContext service c = result at halike hsame ⊢
      generalize e'.onContext service c' = result' at halike' hsame ⊢
      obtain ⟨outcome, after⟩ := result
      obtain ⟨outcome', after'⟩ := result'
      dsimp only at hsame halike halike' ⊢
      cases herror : outcome.error with
      | some error => simp only [hsame, herror]
      | none =>
          simp only [hsame, herror]
          exact ih hlimits (fun e he => hbuilt e (List.mem_cons_of_mem _ he))
            (fun e he => hbuilt' e (List.mem_cons_of_mem _ he))
            (fun limit hmem => hblind limit (List.mem_cons_of_mem _ hmem))
            (h.alike halike halike')

/-- Executors of one service with the same limits in the same places. -/
structure Peers (x x' : Executor) : Prop where
  service  : x'.service = x.service
  limits   : x'.limits = x.limits
  builtIn  : x.BuiltIn
  builtIn' : x'.BuiltIn

theorem context_check (hbuilt : x.BuiltIn) (c : OperationContext) :
    c.Alike (x.check c).1.context := by
  have halike := alike_runContextHooks x.service hbuilt c
  unfold check
  dsimp only
  split <;> exact halike

theorem refused?_check (x : Executor) (c : OperationContext) :
    (x.check c).1.refused? = ((runContextHooks x.service x.extensions c).1.error.map ([·])) := by
  unfold check
  dsimp only
  split
  next e he => rw [he]; rfl
  next he => rw [he]; rfl

/-- Answers for the same text: the operations are of one document and have the same name and
variables, and both are refused with the same errors or neither is, if limits are blind. -/
def Recasts (x : Executor) (a a' : Answer) : Prop :=
  a.context.Recasts a'.context ∧
    ((∀ limit, .complexityLimit limit ∈ x.extensions → IsBlind limit) → a'.refused? = a.refused?)

/-- Peers answer alike once an operation is selected. -/
theorem Peers.check (h : x.Peers x') (hc : c.Recasts c') :
    x.Recasts (x.check c).1 (x'.check c').1 := by
  refine ⟨hc.alike (context_check h.builtIn c) (context_check h.builtIn' c'), fun hblind => ?_⟩
  rw [refused?_check, refused?_check, h.service]
  congr 1
  exact error_runContextHooks x.service h.limits h.builtIn h.builtIn'
    (fun limit hmem => hblind limit (mem_limits.mp hmem)) hc

/-- Peers answer alike once the document is there. -/
theorem Peers.choose (h : x.Peers x') (params params' : Params) (hc : c.Recasts c')
    (hname : params'.operationName = params.operationName)
    (hvalues : params'.variableValues = params.variableValues) (d : Executable) :
    x.Recasts (x.choose params c d).1 (x'.choose params' c' d).1 := by
  obtain ⟨stats, extensions, disabled, rfl⟩ := hc
  unfold Executor.choose selectOperation
  rw [h.service, hname, hvalues]
  dsimp only
  cases d.select params.operationName with
  | error e => exact ⟨⟨stats, extensions, disabled, rfl⟩, fun _ => rfl⟩
  | ok o =>
      dsimp only
      cases Variables.ofRequest x.service.schema o params.variableValues with
      | error e => exact ⟨⟨stats, extensions, disabled, rfl⟩, fun _ => rfl⟩
      | ok variableValues => exact Peers.check h ⟨stats, extensions, disabled, rfl⟩

/-! ### Documents -/

/-- The document of a text that is known to have one. -/
theorem look_of_read {text : String} (params : Params) (hx : x.Sound texts)
    (hcollision : NoCollision texts) (hc : c.rawQuery = text) (hsound : c.Sound texts)
    (hread : readDocument x.service.schema text = .ok d) :
    ∃ documents, x.look params c text = { x with documents }.choose params c d := by
  have hcross : ¬ (Stage.seeking params text c).Crosses x := by
    rintro ⟨-, ⟨hash, rfl⟩, -⟩
    obtain ⟨errors, -, -, herror⟩ := readDocument_persistedKey x.service.schema hash
    rw [herror] at hread
    cases hread
  unfold look findDocument
  rcases hget : x.documents.get (documentKey c.stats text) with ⟨_ | found, documents⟩
  · dsimp only
    rw [hread]
    exact ⟨_, rfl⟩
  · have hfound : (x.documents.get (documentKey c.stats text)).1 = some found := by rw [hget]
    have hsame := Stage.Sound.read_of_found hx hcollision ⟨hc, hsound⟩ hcross hfound
    cases hread.symm.trans hsame
    exact ⟨documents, rfl⟩

/-! ### Hooks on parameters -/

/-- Parameters with a text that persisted queries accept: nothing is said of them, or a hash is named
that the text has. -/
structure Accepts (params : Params) (text : String) : Prop where
  query : params.query = some text
  named : params.extensions.get? PersistedQuery.key = none ∨
    ∃ hash, Names params hash ∧ PersistedQuery.isHashOf hash text = true

/-- A hash that was seen is one of the text. -/
def Seen (stats : Stats) (text : String) : Prop :=
  ∀ p, stats.persisted? = some p → PersistedQuery.isHashOf p.hash text = true

theorem seen_start (text : String) : Seen {} text := fun p hp => by cases hp

variable {text hash : String} {stats : Stats}

/-- A hook lets an accepted text pass and remembers nothing. -/
theorem Accepts.onParams (h : Accepts params text) {e : Extension} (he : e.BuiltIn)
    (hseen : Seen stats text) :
    ∃ stats', e.onParams params stats = ({ params, stats := stats' }, e) ∧ Seen stats' text := by
  cases e with
  | custom hooks => exact absurd he id
  | introspection | tracing | complexityLimit limit => exact ⟨stats, rfl, hseen⟩
  | persistedQueries store =>
      rcases h.named with hnone | ⟨hash, ⟨value, hvalue, hq⟩, hhash⟩
      · exact ⟨stats, by simp only [Extension.onParams, persistParams, hnone], hseen⟩
      · refine ⟨{ stats with persisted? := some ⟨hash, true⟩ }, ?_, fun p hp => ?_⟩
        · simp [Extension.onParams, persistParams, hvalue, hq, h.query, hhash]
        · cases hp
          exact hhash

/-- Where a first hook lets a request pass, the others go on. -/
theorem runParamsHooks_pass {e e' : Extension} {rest rest' : List Extension}
    {first last : ParamsOutcome} (he : e.onParams params stats = (first, e'))
    (hpass : first.error = none)
    (hrest : runParamsHooks rest first.params first.stats = (last, rest')) :
    runParamsHooks (e :: rest) params stats =
      ({ last with entries := first.entries ++ last.entries }, e' :: rest') := by
  rw [runParamsHooks, he]
  dsimp only
  rw [hpass]
  dsimp only
  rw [hrest]

theorem Accepts.runParamsHooks (h : Accepts params text) {extensions : List Extension} :
    ∀ {stats : Stats}, (∀ e ∈ extensions, e.BuiltIn) → Seen stats text →
      ∃ outcome, runParamsHooks extensions params stats = (outcome, extensions) ∧
        outcome.params = params ∧ outcome.error = none ∧ Seen outcome.stats text := by
  induction extensions with
  | nil => intro stats _ hseen; exact ⟨_, rfl, rfl, rfl, hseen⟩
  | cons e rest ih =>
      intro stats hbuilt hseen
      obtain ⟨stats', hfirst, hseen'⟩ := h.onParams (hbuilt e List.mem_cons_self) hseen
      obtain ⟨outcome, hrest, hparams, herror, hlast⟩ :=
        ih (fun e he => hbuilt e (List.mem_cons_of_mem _ he)) hseen'
      exact ⟨_, runParamsHooks_pass hfirst rfl hrest, hparams, herror, hlast⟩

/-- Hooks up to the first store let a request without a text pass.  The store has the text, and the
others accept it, or it has none, and the request is refused. -/
theorem runParamsHooks_recalled (stats : Stats) (hquery : params.query = none)
    (hnames : Names params hash) {extensions : List Extension} :
    ∀ {i : Nat} {store : Cache String}, extensions[i]? = some (.persistedQueries store) →
      (∀ j < i, ∀ store, extensions[j]? ≠ some (.persistedQueries store)) →
      (∀ e ∈ extensions, e.BuiltIn) →
      (∀ text, (store.get hash).1 = some text → PersistedQuery.isHashOf hash text = true →
        ∃ outcome, runParamsHooks extensions params stats =
            (outcome, extensions.set i (.persistedQueries (store.get hash).2)) ∧
          outcome.params = { params with query := some text } ∧ outcome.error = none ∧
          Seen outcome.stats text) ∧
      ((store.get hash).1 = none → ∃ outcome,
        runParamsHooks extensions params stats = (outcome, extensions) ∧
          outcome.error =
            some (.coded .persistedQueryNotFound "PersistedQueryNotFound")) := by
  obtain ⟨value, hvalue, hq⟩ := id hnames
  induction extensions with
  | nil => intro i store hstore; cases hstore
  | cons e rest ih =>
      intro i store hstore hfirst hbuilt
      have hrest : ∀ e ∈ rest, e.BuiltIn := fun e he => hbuilt e (List.mem_cons_of_mem _ he)
      cases i with
      | zero =>
          cases Option.some.inj hstore
          refine ⟨fun text hfound hhash => ?_, fun hmissing => ?_⟩
          · rcases hget : store.get hash with ⟨found, after⟩
            rw [hget] at hfound
            cases hfound
            have haccepts : Accepts { params with query := some text } text :=
              ⟨rfl, .inr ⟨hash, hnames, hhash⟩⟩
            have hfound : Seen { stats with persisted? := some ⟨hash, false⟩ } text :=
              fun p hp => by cases hp; exact hhash
            obtain ⟨outcome, hothers, hparams, herror, hseen⟩ :=
              haccepts.runParamsHooks hrest hfound
            have hhit : (Extension.persistedQueries store).onParams params stats =
                ({ params := { params with query := some text },
                   stats := { stats with persisted? := some ⟨hash, false⟩ },
                   entries := [Extension.persistedEvent .trace "cache hit"] },
                  .persistedQueries after) := by
              simp [Extension.onParams, persistParams, hvalue, hq, hquery, hget]
            exact ⟨_, runParamsHooks_pass hhit rfl hothers, hparams, herror, hseen⟩
          · have hget : store.get hash = (none, store) :=
              Prod.ext hmissing (Cache.get_of_none hmissing)
            exact ⟨_, by simp [Executor.runParamsHooks, Extension.onParams, persistParams, hvalue, hq,
              hquery, hget]; rfl, rfl⟩
      | succ i =>
          have hpass : e.onParams params stats = ({ params, stats }, e) := by
            cases e with
            | custom hooks => exact absurd (hbuilt _ List.mem_cons_self) id
            | introspection | tracing | complexityLimit limit => rfl
            | persistedQueries other => exact absurd rfl (hfirst 0 (Nat.succ_pos i) other)
          obtain ⟨hhit, hmiss⟩ := ih hstore
            (fun j hj => hfirst (j + 1) (Nat.succ_lt_succ hj)) hrest
          refine ⟨fun text hfound hhash => ?_, fun hmissing => ?_⟩
          · obtain ⟨outcome, hothers, hparams, herror, hseen⟩ := hhit text hfound hhash
            exact ⟨_, runParamsHooks_pass hpass rfl hothers, hparams, herror, hseen⟩
          · obtain ⟨outcome, hothers, herror⟩ := hmiss hmissing
            exact ⟨_, runParamsHooks_pass hpass rfl hothers, herror⟩

/-! ### Answers -/

theorem context_choose (hbuilt : x.BuiltIn) (params : Params) (c : OperationContext)
    (d : Executable) :
    (x.choose params c d).1.context.rawQuery = c.rawQuery ∧
      (x.choose params c d).1.context.document = some d := by
  unfold choose
  cases hselect : selectOperation x.service.schema params d c with
  | ok c' =>
      obtain ⟨o, variableValues, -, -, rfl⟩ := selectOperation_ok hselect
      obtain ⟨stats, disabled, heq⟩ := context_check hbuilt
        { c with document := some d, operation := some o, variableValues }
      dsimp only
      rw [heq]
      exact ⟨rfl, rfl⟩
  | error refusal =>
      unfold selectOperation at hselect
      dsimp only at hselect
      split at hselect
      · cases hselect; exact ⟨rfl, rfl⟩
      · split at hselect
        · cases hselect; exact ⟨rfl, rfl⟩
        · cases hselect

theorem sound_contextOf (asked : Params) (hquery : params.query = some text) (htext : text ∈ texts)
    (hseen : Seen stats text) :
    (Stage.contextOf asked params stats).rawQuery = text ∧
      (Stage.contextOf asked params stats).Sound texts := by
  have hraw := Stage.rawQuery_contextOf asked stats hquery
  exact ⟨hraw, hraw.symm ▸ htext, fun p hp => hraw.symm ▸ hseen p hp⟩

/-- A request with an accepted text is answered from the document of the text. -/
theorem answer_accepted (hx : x.Sound texts) (hbuilt : x.BuiltIn) (hcollision : NoCollision texts)
    (h : Accepts params text) (htext : text ∈ texts)
    (hread : readDocument x.service.schema text = .ok d) :
    ∃ stats documents, x.answer params =
      { x with documents }.choose params (Stage.contextOf params params stats) d := by
  obtain ⟨outcome, hhooks, hparams, herror, hseen⟩ :=
    h.runParamsHooks hbuilt (seen_start text)
  obtain ⟨hraw, hsound⟩ := sound_contextOf params h.query htext hseen
  obtain ⟨documents, hlook⟩ := look_of_read params hx hcollision hraw hsound hread
  refine ⟨outcome.stats, documents, ?_⟩
  rw [answer_of_text hhooks herror (hparams.symm ▸ h.query), hparams]
  exact hlook

/-- A request without a text that finds one in the first store is answered from the document of the
text, and leaves the extensions with their limits. -/
theorem answer_recalled {asked : Params} {i : Nat} {store : Cache String} (hx : x.Sound texts)
    (hbuilt : x.BuiltIn) (hcollision : NoCollision texts)
    (hstore : x.extensions[i]? = some (.persistedQueries store))
    (hfirst : ∀ j < i, ∀ store, x.extensions[j]? ≠ some (.persistedQueries store))
    (hquery : asked.query = none) (hnames : Names asked hash)
    (hfound : (store.get hash).1 = some text)
    (hread : readDocument x.service.schema text = .ok d) :
    ∃ stats documents extensions, x.Peers { x with extensions, documents } ∧ x.answer asked =
      { x with extensions, documents }.choose { asked with query := some text }
        (Stage.contextOf asked { asked with query := some text } stats) d := by
  have hhashes : Hashes texts hash text :=
    Cache.All.found (hx.extensions _ (List.mem_of_getElem? hstore)) hfound
  obtain ⟨outcome, hhooks, hparams, herror, hseen⟩ := (runParamsHooks_recalled {} hquery hnames
    hstore hfirst hbuilt).1 text hfound hhashes.2
  have hi := (List.getElem?_eq_some_iff.mp hstore).1
  -- the store is there still, used once more
  have hsame : x.Peers
      { x with extensions := x.extensions.set i (.persistedQueries (store.get hash).2) } := by
    refine ⟨rfl, ?_, hbuilt, fun e he => ?_⟩
    · obtain ⟨_, hget⟩ := List.getElem?_eq_some_iff.mp hstore
      have hindex : i < (x.extensions.map (·.limit?)).length := by simpa using hi
      have hlimit : (x.extensions.map (·.limit?))[i] = none := by
        rw [List.getElem_map, hget]
        rfl
      show (x.extensions.set i _).map (·.limit?) = x.extensions.map (·.limit?)
      rw [List.map_set, show (Extension.persistedQueries (store.get hash).2).limit? = none from rfl,
        ← hlimit, List.set_getElem_self]
    · rcases List.mem_or_eq_of_mem_set he with hmem | rfl
      · exact hbuilt e hmem
      · trivial
  have hstore' : (Extension.persistedQueries (store.get hash).2).Sound texts :=
    Cache.All.get (P := Hashes texts) (hx.extensions _ (List.mem_of_getElem? hstore)) hash
  have hx' := hx.setExtension hstore' i
  let params : Params := { asked with query := some text }
  obtain ⟨hraw, hsound⟩ := sound_contextOf asked (rfl : params.query = some text) hhashes.1 hseen
  obtain ⟨documents, hlook⟩ := look_of_read params hx' hcollision hraw hsound hread
  refine ⟨outcome.stats, documents, _, ⟨hsame.service, hsame.limits, hbuilt, hsame.builtIn'⟩, ?_⟩
  rw [answer_of_text hhooks herror (by rw [hparams]), hparams]
  exact hlook

/-- A request without a text that finds none in the first store is refused, and leaves no trace. -/
theorem answer_missing {asked : Params} {i : Nat} {store : Cache String} (hbuilt : x.BuiltIn)
    (hstore : x.extensions[i]? = some (.persistedQueries store))
    (hfirst : ∀ j < i, ∀ store, x.extensions[j]? ≠ some (.persistedQueries store))
    (hquery : asked.query = none) (hnames : Names asked hash)
    (hmissing : (store.get hash).1 = none) :
    ∃ refusal, x.answer asked = (.error refusal, x) ∧
      refusal.errors = [.coded .persistedQueryNotFound "PersistedQueryNotFound"] := by
  obtain ⟨outcome, hhooks, herror⟩ := (runParamsHooks_recalled {} hquery hnames hstore hfirst hbuilt).2
    hmissing
  exact ⟨_, answer_of_failed_hook hhooks herror, rfl⟩

/-- What an executor makes of a request without a text, where the uses of its store are known. -/
theorem Recalls.answer {asked : Params} {i capacity : Nat} {uses : List (String × String)}
    (h : x.Recalls i capacity uses) (hx : x.Sound texts) (hbuilt : x.BuiltIn)
    (hverified : x.Verified x.service.schema) (hcollision : NoCollision texts) (htext : text ∈ texts)
    (hhash : PersistedQuery.isHashOf hash text = true) (hquery : asked.query = none)
    (hnames : Names asked hash) :
    (IsRecent capacity uses hash →
      (∃ d, readDocument x.service.schema text = .ok d ∧
        (x.answer asked).1.context.rawQuery = text ∧
        (x.answer asked).1.context.document = some d) ∧
      ∀ extensions, Accepts { asked with query := some text, extensions } text →
        x.Recasts (x.answer asked).1
          (x.answer { asked with query := some text, extensions }).1) ∧
    (¬ IsRecent capacity uses hash → ∃ refusal, x.answer asked = (.error refusal, x) ∧
      refusal.errors = [.coded .persistedQueryNotFound "PersistedQueryNotFound"]) := by
  obtain ⟨cache, hstore, rfl, hremembers⟩ := h.store
  refine ⟨fun hrecent => ?_, fun hrecent => ?_⟩
  · obtain ⟨found, hget⟩ := hremembers.get_iff.mpr hrecent
    have hfound : ((Cache.lru cache).get hash).1 = some found := hget
    -- the store has one text under the hash, and it is this one
    have hmem := List.mem_of_getElem? hstore
    have hhashes : Hashes texts hash found := Cache.All.found (hx.extensions _ hmem) hfound
    cases hcollision.unique hhashes ⟨htext, hhash⟩
    obtain ⟨-, d, hread⟩ := (hverified.persisted _ hmem).found hfound
    obtain ⟨stats, documents, extensions, hpeers, hanswer⟩ :=
      answer_recalled hx hbuilt hcollision hstore h.first hquery hnames hfound hread
    rw [hanswer]
    refine ⟨⟨d, hread, ?_⟩, fun extensions' haccepts => ?_⟩
    · exact context_choose hpeers.builtIn' _ _ d
    · obtain ⟨stats', documents', hfull⟩ :=
        answer_accepted hx hbuilt hcollision haccepts htext hread
      rw [hfull]
      have hboth : Peers { x with extensions, documents } { x with documents := documents' } :=
        ⟨rfl, hpeers.limits.symm, hpeers.builtIn', hbuilt⟩
      let recalled : Params := { asked with query := some text }
      let full : Params := { recalled with extensions := extensions' }
      have hc : (Stage.contextOf asked recalled stats).Recasts (Stage.contextOf full full stats') :=
        ⟨stats', extensions', true, rfl⟩
      obtain ⟨hcontext, hrefused⟩ := hboth.choose recalled full hc rfl rfl d
      refine ⟨hcontext, fun hblind => hrefused fun limit hlimit => hblind limit ?_⟩
      exact mem_limits.mp (hpeers.limits ▸ mem_limits.mpr hlimit)
  · have hmissing : ((Cache.lru cache).get hash).1 = none :=
      Option.eq_none_iff_forall_ne_some.mpr fun found hfound =>
        hrecent (hremembers.get_iff.mp ⟨found, hfound⟩)
    exact answer_missing hbuilt hstore h.first hquery hnames hmissing

end Executor

/-! ### Whole histories -/

namespace Interleaving

open Executor (Accepts)

variable {x : Executor} {requests : List Params} {i : Nat} {cache : LruCache String}

theorem Fresh.builtIn (h : x.Fresh) : x.BuiltIn := fun e he => by
  cases e with
  | custom hooks => exact absurd (h.extensions _ he) id
  | introspection | tracing | complexityLimit limit | persistedQueries store => trivial

/-- A store that starts with nothing remembered. -/
theorem recalls_of_fresh (hfresh : x.Fresh)
    (hstore : x.extensions[i]? = some (.persistedQueries (.lru cache)))
    (hfirst : ∀ j < i, ∀ store, x.extensions[j]? ≠ some (.persistedQueries store)) :
    x.Recalls i cache.capacity [] :=
  ⟨⟨cache, hstore, rfl, LruCache.remembers_nil (hfresh.extensions _ (List.mem_of_getElem? hstore))⟩,
    hfirst⟩

/-- **A persisted text is recalled by the spellings of its hash that were used recently.**  For every
history on an executor that starts with nothing remembered and whose first store of persisted
queries is bounded, in every order of steps: the text of an operation that was built is among the
uses if it came with its hash.  Of a request without a text that names a hash of some text of the
history:

* if the hash was used, and the other keys used since are fewer than the capacity, the request builds
  an operation of the text and its document, as the same request with the text does;
* otherwise it is refused, and leaves no trace. -/
theorem texts_recalled (hfresh : x.Fresh) (hcollision : NoCollision (textsOf requests))
    (hstore : x.extensions[i]? = some (.persistedQueries (.lru cache)))
    (hfirst : ∀ j < i, ∀ store, x.extensions[j]? ≠ some (.persistedQueries store))
    (schedule : List Nat) :
    (∀ j context hash, ((start x requests).run schedule).answer? j = some (.ok context) →
      context.stats.persisted? = some ⟨hash, true⟩ →
      (hash, context.rawQuery) ∈ (start x requests).usesIn i schedule) ∧
    ∀ (hash text : String) (asked : Params), text ∈ textsOf requests →
      PersistedQuery.isHashOf hash text = true → asked.query = none → Names asked hash →
      (IsRecent cache.capacity ((start x requests).usesIn i schedule) hash →
        (∃ d, Executor.readDocument x.service.schema text = .ok d ∧
          (((start x requests).run schedule).executor.answer asked).1.context.rawQuery = text ∧
          (((start x requests).run schedule).executor.answer asked).1.context.document = some d) ∧
        ∀ extensions, Accepts { asked with query := some text, extensions } text →
          x.Recasts (((start x requests).run schedule).executor.answer asked).1
            (((start x requests).run schedule).executor.answer
              { asked with query := some text, extensions }).1) ∧
      (¬ IsRecent cache.capacity ((start x requests).usesIn i schedule) hash →
        ∃ refusal, ((start x requests).run schedule).executor.answer asked =
            (.error refusal, ((start x requests).run schedule).executor) ∧
          refusal.errors = [.coded .persistedQueryNotFound "PersistedQueryNotFound"]) := by
  have hrecalls := recalls_of_fresh hfresh hstore hfirst
  refine ⟨fun j context hash => mem_usesIn_of_answer hfresh hrecalls,
    fun hash text asked htext hhash hquery hnames => ?_⟩
  have hcontinues := continues_run (Fresh.builtIn hfresh)
    (Executor.remembers_of_entries_nil hfresh.documents) requests schedule
  have hafter := recalls_run (r := start x requests) schedule hrecalls
  rw [List.append_nil] at hafter
  have hverified := (stores_verified hfresh hcollision schedule).1
  rw [← hcontinues.service] at hverified ⊢
  obtain ⟨hfound, hmissing⟩ := hafter.answer (sound_run (sound_start hfresh) schedule).executor
    hcontinues.builtIn hverified hcollision htext hhash hquery hnames
  refine ⟨fun hrecent => ?_, hmissing⟩
  obtain ⟨hdocument, hfull⟩ := hfound hrecent
  refine ⟨hdocument, fun extensions haccepts => ?_⟩
  obtain ⟨hcontext, hrefused⟩ := hfull extensions haccepts
  refine ⟨hcontext, fun hblind => hrefused fun limit hlimit => hblind limit ?_⟩
  exact Executor.mem_limits.mp (hcontinues.limits ▸ Executor.mem_limits.mpr hlimit)

end Interleaving

/-! ### Two spellings of a hash -/

namespace Spelling

open Crossing (hash service)
open Executor (Accepts)

/-- The hash in capital letters. -/
def capital : String := "1C7E1E347F726166B5B1C55AFD61F278CC9B45E00C108EC33D540A566379811B"

/-- Room for two texts. -/
def store : LruCache String := { capacity := 2, capacity_pos := Nat.succ_pos 1 }

def executor : Executor where
  service
  extensions := [.persistedQueries (.lru store)]

/-- What a request says to name a text by a hash. -/
def naming (hash : String) : Json.Members :=
  [(PersistedQuery.key, .object [("version", .int 1), ("sha256Hash", .string hash)])]

/-- A text that comes with its hash. -/
def requests : List Params := [{ query := some "{ a }", extensions := naming hash }]

/-- The executor once the request is answered. -/
def later : Executor := ((Interleaving.start executor requests).run (List.replicate 6 0)).executor

theorem fresh : executor.Fresh where
  documents := rfl
  extensions e he := by
    cases List.mem_singleton.mp he
    exact rfl

theorem noCollision : NoCollision (textsOf requests) := by
  intro s hs t ht _
  rw [List.mem_singleton.mp hs, List.mem_singleton.mp ht]

theorem names_naming (hash : String) (query : Option String) :
    Names { query, extensions := naming hash } hash :=
  ⟨_, rfl, by rfl⟩

theorem isHashOf_hash : PersistedQuery.isHashOf hash "{ a }" = true := by
  decide +kernel

theorem isHashOf_capital : PersistedQuery.isHashOf capital "{ a }" = true := by
  have hlower : Headers.lower capital = Headers.lower hash := by decide +kernel
  rw [PersistedQuery.isHashOf, hlower]
  exact isHashOf_hash

theorem usesIn_requests :
    (Interleaving.start executor requests).usesIn 0 (List.replicate 6 0) = [(hash, "{ a }")] := by
  decide +kernel

/-- The spelling that was sent recalls the text. -/
theorem texts_recalled_requests :
    executor.Fresh ∧ NoCollision (textsOf requests) ∧ IsRecent 2 [(hash, "{ a }")] hash ∧
      executor.Recasts (later.answer { extensions := naming hash }).1
        (later.answer { query := some "{ a }", extensions := naming hash }).1 := by
  have hrecent : IsRecent 2 [(hash, "{ a }")] hash := ⟨[], "{ a }", [], rfl, by simp [keysOf]⟩
  obtain ⟨-, hrecalled⟩ := Interleaving.texts_recalled (i := 0) fresh noCollision rfl
    (fun j hj => absurd hj (Nat.not_lt_zero j)) (List.replicate 6 0)
  obtain ⟨hfound, -⟩ := hrecalled hash "{ a }" { extensions := naming hash } List.mem_cons_self
    isHashOf_hash rfl (names_naming hash none)
  rw [usesIn_requests] at hfound
  exact ⟨fresh, noCollision, hrecent, (hfound hrecent).2 (naming hash)
    ⟨rfl, .inr ⟨hash, names_naming hash _, isHashOf_hash⟩⟩⟩

/-- In capital letters the hash passes for the text, but does not recall it, although no other key
was used since. -/
theorem not_forall_recalled :
    executor.Fresh ∧ NoCollision (textsOf requests) ∧
      (Interleaving.start executor requests).usesIn 0 (List.replicate 6 0) = [(hash, "{ a }")] ∧
      PersistedQuery.isHashOf capital "{ a }" = true ∧
      Accepts { query := some "{ a }", extensions := naming capital } "{ a }" ∧
      ¬ executor.Recasts (later.answer { extensions := naming capital }).1
        (later.answer { query := some "{ a }", extensions := naming capital }).1 := by
  refine ⟨fresh, noCollision, usesIn_requests, isHashOf_capital,
    ⟨rfl, .inr ⟨capital, names_naming capital _, isHashOf_capital⟩⟩, fun h => ?_⟩
  have hsame := congrArg Option.isSome (h.2 fun limit hlimit => by
    cases List.mem_singleton.mp hlimit)
  have hrefused : (later.answer { extensions := naming capital }).1.refused?.isSome = true := by
    decide +kernel
  have hbuilt :
      (later.answer { query := some "{ a }", extensions := naming capital }).1.refused?.isSome =
        false := by
    decide +kernel
  rw [hrefused, hbuilt] at hsame
  cases hsame

end Spelling

end GraphServe
