import GraphServe.Proofs.Cache
import GraphServe.Proofs.Document.Adding
import GraphServe.Proofs.Executor.Stage
import GraphServe.Proofs.Extension
import GraphServe.Proofs.Journal
import GraphServe.Proofs.Validation.Acyclic

/-!
# Executors — what a prepared operation went through

An operation is admitted if its document was read and validated, now or when it was put into the
cache, it was selected from the document by its name or as the only one, its variables were coerced,
and it is within every limit of complexity (`Executor.Admits`).

What one step of a preparation can do is said here: the hooks of the library leave all but the text
and what they record alone (`Extension.onParams_builtIn`, `Extension.onContext_builtIn`), and a step
leaves an executor that continues the one before (`Executor.Continues`).
-/

namespace GraphServe

open Document

/-! ### Hooks -/

namespace Extension

/-- An extension that comes with the library. -/
def BuiltIn : Extension → Prop
  | custom _ => False
  | _        => True

end Extension

/-- Operations that differ at most in what hooks record and allow. -/
def OperationContext.Alike (c c' : OperationContext) : Prop :=
  ∃ stats disableIntrospection, c' = { c with stats, disableIntrospection }

theorem OperationContext.Alike.refl (c : OperationContext) : c.Alike c := ⟨_, _, rfl⟩

theorem OperationContext.Alike.trans {c c' c'' : OperationContext} (h : c.Alike c')
    (h' : c'.Alike c'') : c.Alike c'' := by
  obtain ⟨stats, disabled, rfl⟩ := h
  obtain ⟨stats', disabled', rfl⟩ := h'
  exact ⟨stats', disabled', rfl⟩

/-- Alike operations are of one document, and have the same variables. -/
theorem OperationContext.Alike.same {c c' : OperationContext} (h : c.Alike c') :
    c'.document = c.document ∧ c'.operation = c.operation ∧
      c'.variableValues = c.variableValues := by
  obtain ⟨stats, disabled, rfl⟩ := h
  exact ⟨rfl, rfl, rfl⟩

namespace Extension

variable {e : Extension} {params : Params} {stats : Stats} {context : OperationContext}
  {service : Service}

/-- The limit of complexity of an extension, if it is one. -/
def limit? : Extension → Option (OperationContext → Nat)
  | complexityLimit limit => some limit
  | _                     => none

theorem limit?_eq_some {limit : OperationContext → Nat} :
    e.limit? = some limit ↔ e = .complexityLimit limit := by
  cases e <;> simp [limit?]

theorem limit?_onParams : (e.onParams params stats).2.limit? = e.limit? := by
  cases e <;> rfl

theorem limit?_onContext : (e.onContext service context).2.limit? = e.limit? := by
  cases e <;> rfl

/-- The text may come from a store; nothing else of the parameters changes. -/
theorem onParams_builtIn (h : e.BuiltIn) :
    (∃ query, (e.onParams params stats).1.params = { params with query }) ∧
      Silent (e.onParams params stats).1.entries ∧ (e.onParams params stats).2.BuiltIn := by
  cases e with
  | custom hooks => exact absurd h id
  | introspection | tracing | complexityLimit limit => exact ⟨⟨_, rfl⟩, silent_nil, trivial⟩
  | persistedQueries store =>
      dsimp only [onParams]
      rcases persistParams_cases store params stats with
        heq | ⟨e, events, store', -, heq⟩ | ⟨hash, text, -, -, heq⟩ | ⟨hash, text, event, -, heq⟩
      · rw [heq]
        exact ⟨⟨_, rfl⟩, silent_nil, trivial⟩
      · rw [heq]
        exact ⟨⟨_, rfl⟩, silent_events events, trivial⟩
      · rw [heq]
        exact ⟨⟨_, rfl⟩, silent_nil, trivial⟩
      · rw [heq]
        exact ⟨⟨_, rfl⟩, silent_event event, trivial⟩

theorem onContext_builtIn (h : e.BuiltIn) :
    context.Alike (e.onContext service context).1.context ∧
      Silent (e.onContext service context).1.entries ∧ (e.onContext service context).2.BuiltIn := by
  cases e with
  | custom hooks => exact absurd h id
  | introspection => exact ⟨⟨_, _, rfl⟩, silent_nil, trivial⟩
  | tracing => exact ⟨.refl context, silent_nil, trivial⟩
  | complexityLimit limit =>
      obtain ⟨complexity?, hcontext⟩ := @limitComplexity_context limit service context
      exact ⟨⟨_, _, hcontext⟩, silent_limitComplexity, trivial⟩
  | persistedQueries store =>
      dsimp only [onContext]
      rcases persistContext_cases store context with ⟨hash, event, -, heq⟩ | ⟨-, heq⟩
      · rw [heq]
        exact ⟨.refl context, silent_event event, trivial⟩
      · rw [heq]
        exact ⟨.refl context, silent_nil, trivial⟩

end Extension

namespace Executor

variable {x x' x'' : Executor}

/-- The extensions come with the library. -/
def BuiltIn (x : Executor) : Prop := ∀ e ∈ x.extensions, e.BuiltIn

/-- The limits of complexity, each in the place of its extension. -/
def limits (x : Executor) : List (Option (OperationContext → Nat)) := x.extensions.map (·.limit?)

theorem mem_limits {limit : OperationContext → Nat} :
    some limit ∈ x.limits ↔ .complexityLimit limit ∈ x.extensions := by
  simp only [limits, List.mem_map, Extension.limit?_eq_some, exists_eq_right]

/-! ### Documents -/

/-- A document that some text gives. -/
def IsRead (s : Schema) (d : Executable) : Prop := ∃ text, readDocument s text = .ok d

/-- Every document of the cache was read and validated. -/
def Remembers (x : Executor) : Prop := x.documents.All fun _ d => IsRead x.service.schema d

theorem remembers_of_entries_nil (h : x.documents.entries = []) : x.Remembers :=
  Cache.all_of_entries_nil h

/-- The operation of a document that a name picks, the only one with this name, or the only one of
the document. -/
def Picks (d : Executable) (name? : Option String) (o : Operation FieldDefinition) : Prop :=
  (∃ name, name? = some name ∧ d.allOperations.filter (fun o' => o'.name? = some name) = [o]) ∨
    (name? = none ∧ d.allOperations = [o])

theorem IsRead.namesOperations {s : Schema} {d : Executable} (h : IsRead s d) :
    d.NamesOperations := by
  obtain ⟨text, hread⟩ := h
  unfold readDocument at hread
  cases hdefinitions : Document.read text with
  | error faults => rw [hdefinitions] at hread; cases hread
  | ok definitions =>
      rw [hdefinitions] at hread
      dsimp only at hread
      split at hread
      · cases hvalidate : Validation.validate s definitions with
        | error found => rw [hvalidate] at hread; cases hread
        | ok d' =>
            rw [hvalidate] at hread
            cases hread
            obtain ⟨rfl, -⟩ := Validation.validate_ok hvalidate
            exact Executable.namesOperations_resolve s definitions
      · cases hread

theorem picks_of_select {d : Executable} {name? : Option String} {o : Operation FieldDefinition}
    (hnames : d.NamesOperations) (h : d.select name? = .ok o) : Picks d name? o := by
  unfold Executable.select at h
  cases name? with
  | some name =>
      refine .inl ⟨name, rfl, ?_⟩
      cases ho : d.operations.lookup name with
      | none => simp only [ho] at h; cases h
      | some o' =>
          simp only [ho] at h
          cases h
          exact hnames.filter_of_lookup ho
  | none =>
      refine .inr ⟨rfl, ?_⟩
      dsimp only at h
      split at h
      next o' ho => cases h; exact ho
      next => cases h
      next => cases h

/-! ### Admission -/

/-- An operation that was selected from a document that was read, by the name or as the only one,
with its variables coerced. -/
structure Chosen (s : Schema) (params : Params) (c : OperationContext) (d : Executable)
    (o : Operation FieldDefinition) : Prop where
  document  : c.document = some d
  /-- The document was read and validated. -/
  isRead    : IsRead s d
  operation : c.operation = some o
  /-- The operation was selected by the name, or as the only one. -/
  picked    : Picks d params.operationName o
  /-- The variables were coerced. -/
  coerced   : Variables.ofRequest s o params.variableValues = .ok c.variableValues

/-- A limit of complexity saw the operation, and found it within its bound. -/
def Within (service : Service) (c : OperationContext) (d : Executable)
    (o : Operation FieldDefinition) (limit : OperationContext → Nat) : Prop :=
  o.name? = some Extension.introspectionName ∨ ∃ seen, seen.Alike c ∧
    (Complexity.ofOperation service d o c.variableValues).1 ≤ limit seen

/-- What an operation went through that was prepared from some parameters. -/
structure Admits (x : Executor) (params : Params) (c : OperationContext) (d : Executable)
    (o : Operation FieldDefinition) : Prop extends Chosen x.service.schema params c d o where
  limited : ∀ limit, .complexityLimit limit ∈ x.extensions → Within x.service c d o limit

variable {s : Schema} {service : Service} {params : Params} {c c' context : OperationContext}
  {d : Executable} {o : Operation FieldDefinition}

theorem Chosen.alike (h : Chosen s params c d o) (halike : c.Alike c') :
    Chosen s params c' d o := by
  obtain ⟨hdocument, hoperation, hvalues⟩ := halike.same
  exact ⟨hdocument.trans h.document, h.isRead, hoperation.trans h.operation, h.picked,
    hvalues.symm ▸ h.coerced⟩

theorem Within.alike {limit : OperationContext → Nat} (h : Within service c d o limit)
    (halike : c.Alike c') : Within service c' d o limit := by
  obtain ⟨-, -, hvalues⟩ := halike.same
  rcases h with hname | ⟨seen, hseen, hle⟩
  · exact .inl hname
  · exact .inr ⟨seen, hseen.trans halike, hvalues.symm ▸ hle⟩

/-- What is selected and coerced is chosen. -/
theorem chosen_of_select (hread : IsRead s d)
    (h : selectOperation s params d context = .ok c) : ∃ o, Chosen s params c d o := by
  obtain ⟨o, variableValues, ho, hv, rfl⟩ := selectOperation_ok h
  exact ⟨o, rfl, hread, rfl, picks_of_select hread.namesOperations ho, hv⟩

/-- A limit of complexity that reports no error has found the operation within its bound. -/
theorem within_of_limit {limit : OperationContext → Nat} (h : Chosen s params c d o)
    (hpass : (Extension.limitComplexity limit service c).error = none) :
    Within service c d o limit := by
  have hmeasure := (Extension.limitComplexity_of_some h.document h.operation).2.1.mp hpass
  by_cases hname : o.name? = some Extension.introspectionName
  · exact .inl hname
  · rw [Extension.measure, if_neg hname] at hmeasure
    exact .inr ⟨c, .refl c, hmeasure⟩

/-! ### Continuing -/

/-- What a preparation leaves of an executor. -/
structure Continues (x x' : Executor) : Prop where
  builtIn      : x'.BuiltIn
  remembers    : x'.Remembers
  service      : x'.service = x.service
  limits       : x'.limits = x.limits
  operations   : x'.operations = x.operations
  responses    : x'.responses = x.responses
  fields       : x'.fields = x.fields
  presentation : x'.presentation = x.presentation

theorem Continues.refl (hbuilt : x.BuiltIn) (hremembers : x.Remembers) : x.Continues x :=
  ⟨hbuilt, hremembers, rfl, rfl, rfl, rfl, rfl, rfl⟩

theorem Continues.trans (h : x.Continues x') (h' : x'.Continues x'') : x.Continues x'' :=
  ⟨h'.builtIn, h'.remembers, h'.service.trans h.service, h'.limits.trans h.limits,
    h'.operations.trans h.operations, h'.responses.trans h.responses, h'.fields.trans h.fields,
    h'.presentation.trans h.presentation⟩

/-- An operation is admitted by an executor as by one that continues it. -/
theorem Continues.admits (h : x.Continues x') (hadmits : x'.Admits params c d o) :
    x.Admits params c d o := by
  obtain ⟨hchosen, hlimited⟩ := hadmits
  rw [h.service] at hchosen hlimited
  exact ⟨hchosen, fun limit hmem => hlimited limit (mem_limits.mp (h.limits ▸ mem_limits.mpr hmem))⟩

/-- An extension of the library in the place of one with its limit. -/
theorem continues_setExtension {i : Nat} {e e' : Extension} (hbuilt : x.BuiltIn)
    (hremembers : x.Remembers) (he : x.extensions[i]? = some e) (he' : e'.BuiltIn)
    (hlimit : e'.limit? = e.limit?) :
    x.Continues { x with extensions := x.extensions.set i e' } := by
  refine ⟨fun other hother => ?_, hremembers, rfl, ?_, rfl, rfl, rfl, rfl⟩
  · rcases List.mem_or_eq_of_mem_set hother with hmem | rfl
    · exact hbuilt other hmem
    · exact he'
  · obtain ⟨hi, rfl⟩ := List.getElem?_eq_some_iff.mp he
    rw [limits, limits, List.map_set, hlimit, ← List.map_set, List.set_getElem_self]

/-- A document in the cache that was read. -/
theorem continues_setDocuments {documents : Cache Executable} (hbuilt : x.BuiltIn)
    (h : documents.All fun _ d => IsRead x.service.schema d) :
    x.Continues { x with documents } :=
  ⟨hbuilt, h, rfl, rfl, rfl, rfl, rfl, rfl⟩

end Executor

end GraphServe
