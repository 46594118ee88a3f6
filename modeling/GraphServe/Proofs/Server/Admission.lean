import GraphServe.Proofs.Resolved
import GraphServe.Proofs.Transport.Parameters
import GraphServe.Server

/-!
# Servers — the admission of operations

A server is built of transports and extensions of the library, in any order, with middleware that
passes through (`Server.Built`).  It serves requests, and prepares operations in any order of their
steps; the invariant of all the servers that it comes to be (`Server.Reaches`) is that they remember
only documents that were read (`Server.Gated`).

* `Server.serve_admits`: if a resolver is called while a request is served, its operation went
  through all checks, and what was called is what executing it calls.  A request for which no
  operation is built calls none, and gets the errors met.
-/

namespace GraphServe

open Document

namespace Server

/-! ### Servers of the library -/

/-- A server of transports and extensions of the library, with middleware that passes through, that
remembers no document. -/
structure Built (s : Server) : Prop where
  transports  : ∀ t ∈ s.transports, t.BuiltIn
  extensions  : s.executor.BuiltIn
  transparent : s.executor.Transparent
  documents   : s.executor.documents.entries = []

/-- The servers that a server comes to be.  Preparations may take their steps in any order, and need
not come to their end. -/
inductive Reaches (start : Server) : Server → Prop where
  | start : Reaches start start
  | serve {s : Server} (r : Http.Request) (h : Reaches start s) : Reaches start (s.serve r).2.1
  | prepare {s : Server} (requests : List Params) (schedule : List Nat) (h : Reaches start s) :
      Reaches start
        { s with executor := ((Interleaving.start s.executor requests).run schedule).executor }

/-- The invariant of a server that serves. -/
structure Gated (s : Server) : Prop where
  transports : ∀ t ∈ s.transports, t.BuiltIn
  executor   : s.executor.Gated

theorem Built.gated {s : Server} (h : s.Built) : s.Gated :=
  ⟨h.transports, h.extensions, Executor.remembers_of_entries_nil h.documents, h.transparent⟩

/-- The parameters that the first transport which supports a request reads from it. -/
def params? (s : Server) (r : Http.Request) : Option Params :=
  (s.transports.find? (·.supports r)).bind (·.params? r)

variable {start s : Server} {r : Http.Request} {t : Transport} {params : Params}

/-! ### Setting up -/

theorem builtIn_standardTransports (settings : UploadSettings) :
    ∀ t ∈ standardTransports settings, t.BuiltIn := by
  intro t ht
  simp only [standardTransports, List.mem_cons, List.not_mem_nil, or_false] at ht
  rcases ht with rfl | rfl | rfl | rfl <;> trivial

theorem builtIn_extensionsOf (c : Configuration) : ∀ e ∈ extensionsOf c, e.BuiltIn := by
  intro e he
  simp only [extensionsOf, List.mem_append, List.mem_map, List.mem_ite_nil_right,
    List.mem_singleton] at he
  rcases he with ((⟨-, rfl⟩ | ⟨-, rfl⟩) | ⟨limit, -, rfl⟩) | ⟨-, rfl⟩ <;> trivial

/-- An extension of the library can be installed, and brings middleware that passes through. -/
theorem Built.use {e : Extension} (h : s.Built) (he : e.BuiltIn) (events : List Event) :
    ∃ s' events', Server.use e (s, events) = .ok (s', events') ∧ s'.Built := by
  have hvalid : e.validate s.executor.service = .ok () := by
    cases e with
    | custom hooks => exact absurd he id
    | introspection | tracing | persistedQueries store | complexityLimit limit => rfl
  -- an extension of the library is valid for every service
  have huse : Server.use e (s, events) = .ok
      ({ s with executor :=
          { s.executor with
            extensions := s.executor.extensions ++ [e]
            operations := s.executor.operations ++ e.operations.toList
            responses := s.executor.responses ++ e.responses.toList
            fields := s.executor.fields ++ e.fields.toList } },
        events ++ [{ severity := .debug, message := "installed extension",
                     fields := [("extension", .string e.name)] }]) := by
    simp only [Server.use, Executor.use, hvalid]
    rfl
  refine ⟨_, _, huse, h.transports, ?_, ⟨?_, ?_, h.transparent.present⟩, h.documents⟩
  · exact List.forall_mem_append.mpr ⟨h.extensions, List.forall_mem_singleton.mpr he⟩
  · intro mw hmw
    rcases List.mem_append.mp hmw with hmw | hmw
    · exact h.transparent.operations mw hmw
    · cases e with
      | custom hooks => exact absurd he id
      | introspection | tracing | persistedQueries store | complexityLimit limit =>
          exact absurd hmw List.not_mem_nil
  · intro mw hmw
    rcases List.mem_append.mp hmw with hmw | hmw
    · exact h.transparent.responses mw hmw
    · cases e with
      | custom hooks => exact absurd he id
      | tracing =>
          rw [List.mem_singleton.mp hmw]
          exact passes_traceResponses
      | introspection | persistedQueries store | complexityLimit limit =>
          exact absurd hmw List.not_mem_nil

/-- Extensions of the library can be installed in any order. -/
theorem Built.useAll {extensions : List Extension} (h : s.Built)
    (hextensions : ∀ e ∈ extensions, e.BuiltIn) :
    ∃ s' events, Server.useAll extensions s = .ok (s', events) ∧ s'.Built := by
  -- the events so far do not matter
  unfold Server.useAll
  generalize ([] : List Event) = events
  induction extensions generalizing s events with
  | nil => exact ⟨s, events, rfl, h⟩
  | cons e rest ih =>
      obtain ⟨he, hrest⟩ := List.forall_mem_cons.mp hextensions
      obtain ⟨s', events', huse, hs'⟩ := h.use he events
      obtain ⟨s'', events'', huseAll, hs''⟩ := ih hs' hrest events'
      exact ⟨s'', events'', by rw [List.foldlM_cons, huse]; exact huseAll, hs''⟩

/-- A server with transports of the library before any extension is installed. -/
theorem built_initial (settings : UploadSettings) (service : Service) (capacity : Nat) :
    Built { transports := standardTransports settings
            executor := { service, documents := .bounded capacity } } where
  transports := builtIn_standardTransports settings
  extensions _ h := absurd h List.not_mem_nil
  transparent := ⟨fun _ h => absurd h List.not_mem_nil, fun _ h => absurd h List.not_mem_nil, rfl⟩
  documents := by
    unfold Cache.bounded
    split <;> rfl

/-- The server of choice is built of what comes with the library. -/
theorem built_standard (service : Service) :
    ∃ s events, standard service = .ok (s, events) ∧ s.Built := by
  refine (built_initial {} service defaultDocumentCapacity).useAll fun e he => ?_
  simp only [List.mem_cons, List.not_mem_nil, or_false] at he
  rcases he with rfl | rfl <;> trivial

/-- So is the server of any configuration that is valid. -/
theorem built_ofConfiguration {c : Configuration} {hasDisk : Option String → Bool}
    (service : Service) (h : c.validate = .ok ()) :
    ∃ s events, ofConfiguration service c hasDisk = .ok (s, events) ∧ s.Built := by
  unfold ofConfiguration
  rw [h]
  exact (built_initial (uploadSettings c.multipart hasDisk) service c.queryCache.capacity).useAll
    (builtIn_extensionsOf c)

/-! ### Serving -/

theorem serve_of_handle {response : Http.Response} {after : Serving.State}
    (hfind : s.transports.find? (·.supports r) = some t)
    (hhandle : t.handle r { executor := s.executor } = (.ok response, after)) :
    s.serve r = (response, { s with executor := after.executor }, after.journal) := by
  have hrun : (t.handle r).run { executor := s.executor } = (.ok response, after) := hhandle
  unfold serve
  rw [hfind]
  dsimp only
  rw [hrun]

/-- A request without parameters calls no resolver, and changes nothing. -/
theorem serve_of_none (h : s.Gated) (hparams : s.params? r = none) :
    Silent (s.serve r).2.2 ∧ (s.serve r).2.1 = s := by
  unfold params? at hparams
  cases hfind : s.transports.find? (·.supports r) with
  | none =>
      unfold serve
      rw [hfind]
      exact ⟨silent_event _, rfl⟩
  | some t =>
      rw [hfind] at hparams
      obtain ⟨response, after, hhandle, hextends⟩ :=
        Transport.handle_of_none (h.transports t (List.mem_of_find?_eq_some hfind)) hparams
          { executor := s.executor }
      rw [serve_of_handle hfind hhandle]
      exact ⟨hextends.silent silent_nil, rfl⟩

/-- A request with parameters is answered by what they ask for. -/
theorem serve_of_some (h : s.Gated) (hparams : s.params? r = some params) :
    (s.serve r).2.1.Gated ∧
      Serving.Answers s.executor params [] (s.serve r).2.2 (s.serve r).1 := by
  unfold params? at hparams
  cases hfind : s.transports.find? (·.supports r) with
  | none => rw [hfind] at hparams; cases hparams
  | some t =>
      rw [hfind] at hparams
      have hexecutor : ({ executor := s.executor } : Serving.State).executor.Gated := h.executor
      obtain ⟨response, after, hhandle, hcontinues, hanswers⟩ :=
        Transport.handle_of_some (h.transports t (List.mem_of_find?_eq_some hfind)) hexecutor
          hparams
      rw [serve_of_handle hfind hhandle]
      exact ⟨⟨h.transports, h.executor.of_continues hcontinues⟩, hanswers⟩

/-- Serving keeps the invariant. -/
theorem Gated.serve (h : s.Gated) (r : Http.Request) : (s.serve r).2.1.Gated := by
  cases hparams : s.params? r with
  | none =>
      rw [(serve_of_none h hparams).2]
      exact h
  | some params => exact (serve_of_some h hparams).1

/-- Every server that is reached keeps the invariant. -/
theorem Reaches.gated (hbuilt : start.Built) (h : start.Reaches s) : s.Gated := by
  induction h with
  | start => exact hbuilt.gated
  | serve r _ ih => exact ih.serve r
  | prepare requests schedule _ ih =>
      have hcontinues := Interleaving.continues_run ih.executor.builtIn ih.executor.remembers
        requests schedule
      exact ⟨ih.transports, ih.executor.of_continues hcontinues⟩

/-- **Only admitted operations run.**  If a resolver is called while a request is served, an
operation was built of its parameters that went through all checks, it is no subscription, the
journal is that of executing it, and the answer has the status of success.  A request for which no
operation is built calls no resolver, and its answer has no data and the errors met, in order. -/
theorem serve_admits (hbuilt : start.Built) (hreaches : start.Reaches s) (r : Http.Request) :
    ((∃ e ∈ (s.serve r).2.2, e.IsCall) →
      ∃ params c d o, s.params? r = some params ∧ (s.executor.prepare params).1 = .ok c ∧
        s.executor.Admits params c d o ∧ o.type ≠ .subscription ∧
        s.executor.Ran c d o [] (s.serve r).2.2 ∧ (s.serve r).1.status = 200) ∧
    ∀ params refusal, s.params? r = some params →
      (s.executor.prepare params).1 = .error refusal →
        Silent (s.serve r).2.2 ∧
        ∃ response, (s.serve r).1 = .json (Error.status refusal.errors) response ∧
          response.data = .null ∧ response.errors = refusal.errors := by
  have hgated := hreaches.gated hbuilt
  constructor
  · rintro ⟨e, he, hcall⟩
    cases hparams : s.params? r with
    | none => exact absurd hcall ((serve_of_none hgated hparams).1 e he)
    | some params =>
        obtain ⟨-, hanswers⟩ := serve_of_some hgated hparams
        -- A silent journal has no call: only an operation that ran is left.
        have hnot (hsilent : Extends [] (s.serve r).2.2) : False :=
          hsilent.silent silent_nil e he hcall
        generalize hresponse : (s.serve r).1 = response at hanswers
        cases hanswers with
        | refused outcome data errors silent => exact absurd silent hnot
        | declined outcome silent => exact absurd silent hnot
        | @responded c d o _ outcome admits ran =>
            have hran := ran.resolve_left hnot
            exact ⟨params, c, d, o, rfl, outcome, admits, hran.not_subscription, hran, rfl⟩
  · intro params refusal hparams hrefusal
    obtain ⟨-, hanswers⟩ := serve_of_some hgated hparams
    generalize (s.serve r).1 = response at hanswers
    cases hanswers with
    -- a request is prepared to one outcome, so only the refusal is left
    | @refused refusal' response outcome data errors silent =>
        obtain rfl : refusal' = refusal := Except.error.inj (outcome.symm.trans hrefusal)
        exact ⟨silent.silent silent_nil, response, rfl, data, errors⟩
    | declined outcome silent => rw [outcome] at hrefusal; cases hrefusal
    | responded outcome admits ran => rw [outcome] at hrefusal; cases hrefusal

end Server

namespace Admission

/-- A service with one field. -/
def service : Service where
  schema :=
    { types :=
        [⟨"Int", none, [], .scalar⟩,
         ⟨"Query", none, [], .object [] [{ name := "a", type := .named "Int" false }]⟩]
      directives := []
      query := some "Query" }
  query := .uniform "Query" (.leaf (.int 1))

/-- A server with a trace and a limit of complexity. -/
def server : Server where
  transports := Server.standardTransports {}
  executor :=
    { service
      extensions := [.tracing, .complexityLimit fun _ => 1, .persistedQueries .unbounded]
      responses := [Extension.traceResponses]
      fields := [Extension.traceFields]
      documents := .unbounded }

theorem built : server.Built where
  transports := Server.builtIn_standardTransports {}
  extensions := by
    intro e he
    simp only [server, List.mem_cons, List.not_mem_nil, or_false] at he
    rcases he with rfl | rfl | rfl <;> trivial
  transparent :=
    ⟨fun _ h => absurd h List.not_mem_nil,
      fun _ h => List.mem_singleton.mp h ▸ passes_traceResponses, rfl⟩
  documents := rfl

/-- A request for the field. -/
def field : Http.Request := { method := "GET", target := { query? := some "query={a}" } }

/-- A request for a field that is not there. -/
def missing : Http.Request := { method := "GET", target := { query? := some "query={b}" } }

/-- The server once it remembers the document of a request. -/
def later : Server := (server.serve field).2.1

/-- The resolver of a field is called for an operation that is known already, and none is for a field
that is not there. -/
theorem serve_admits_field :
    server.Built ∧ server.Reaches later ∧
      (∃ params c d o, later.params? field = some params ∧
        (later.executor.prepare params).1 = .ok c ∧ later.executor.Admits params c d o ∧
        o.type ≠ .subscription ∧ later.executor.Ran c d o [] (later.serve field).2.2 ∧
        (later.serve field).1.status = 200) ∧
      ∃ params refusal, later.params? missing = some params ∧
        (later.executor.prepare params).1 = .error refusal ∧ Silent (later.serve missing).2.2 ∧
        ∃ response, (later.serve missing).1 = .json (Error.status refusal.errors) response ∧
          response.data = .null ∧ response.errors = refusal.errors := by
  have hreaches : server.Reaches later := .serve field .start
  have hcall : ∃ e ∈ (later.serve field).2.2, e.IsCall := by decide +kernel
  have hrefused : ((later.params? missing).map fun params =>
      (later.executor.prepare params).1.isOk) = some false := by decide +kernel
  refine ⟨built, hreaches, (Server.serve_admits built hreaches field).1 hcall, ?_⟩
  cases hparams : later.params? missing with
  | none => rw [hparams] at hrefused; cases hrefused
  | some params =>
      rw [hparams, Option.map_some] at hrefused
      cases hprepare : (later.executor.prepare params).1 with
      | ok c => rw [hprepare] at hrefused; cases hrefused
      | error refusal =>
          obtain ⟨hsilent, hanswer⟩ :=
            (Server.serve_admits built hreaches missing).2 params refusal hparams hprepare
          exact ⟨params, refusal, rfl, hprepare, hsilent, hanswer⟩

end Admission

end GraphServe
