import GraphServe.Execution.Engine
import GraphServe.Proofs.Document.Declared
import GraphServe.Proofs.Document.Inlining
import GraphServe.Proofs.Execution.Collection
import GraphServe.Proofs.Resolved

/-!
# Looking for fields that tell of the schema

Before an operation is executed it is searched for a root field that tells of the schema: in its
fragments on the spot, and in the named ones, of which each is visited once.  `Searches` is that
search without a bound on its depth.

* `searches_searchSelections`: searching comes to an end for all fragments, those that reach
  themselves included, and it ends with what `isAsked` says.
* `Searches.finds_iff`: **the search misses nothing**.  It finds a field exactly if one occurs.
* `introspect_tells`: wherever such a field is collected at the root of a query, the query was
  executed for it, and what came of that is what the root is executed with.

That it finds what occurs is by the invariant of a depth-first search.  As long as nothing was
found, there is nothing to find in what is behind, up to the fragments that were visited (`Quiet`);
and each of those is done, or still open.
-/

namespace GraphServe.Introspection

open Document Document.Executable Execution

variable {d : Executable} {xs rest : List ExecutableSelection} {visited last : List String}

/-- What a named fragment selects: nothing if there is none of the name. -/
def selectedIn (d : Executable) (name : String) : List ExecutableSelection :=
  match d.fragment? name with
  | some f => f.selections
  | none   => []

/-! ### Searching without a bound -/

/-- Whether a search finds a field that tells of the schema, and the fragments visited after it.  A
fragment that is named is visited if it was not yet, and nothing is searched after a find. -/
inductive Searches (d : Executable) :
    List ExecutableSelection → List String → Bool → List String → Prop where
  | nil {visited : List String} : Searches d [] visited false visited
  | field {head : FieldHead FieldDefinition} {inner rest : List ExecutableSelection}
      {visited : List String} (h : isField head.name.node = true) :
      Searches d (.field head inner :: rest) visited true visited
  | other {head : FieldHead FieldDefinition} {inner rest : List ExecutableSelection}
      {visited last : List String} {found : Bool} (h : isField head.name.node = false)
      (next : Searches d rest visited found last) :
      Searches d (.field head inner :: rest) visited found last
  | inlineFound {on? : Option (Located String)} {ds : List Directive} {place : Nat}
      {inside rest : List ExecutableSelection} {visited last : List String}
      (below : Searches d inside visited true last) :
      Searches d (.inline on? ds place inside :: rest) visited true last
  | inline {on? : Option (Located String)} {ds : List Directive} {place : Nat}
      {inside rest : List ExecutableSelection} {visited mid last : List String} {found : Bool}
      (below : Searches d inside visited false mid) (next : Searches d rest mid found last) :
      Searches d (.inline on? ds place inside :: rest) visited found last
  | again {name : String} {ds : List Directive} {place : Nat} {rest : List ExecutableSelection}
      {visited last : List String} {found : Bool} (hm : name ∈ visited)
      (next : Searches d rest visited found last) :
      Searches d (.spread name ds place :: rest) visited found last
  | spreadFound {name : String} {ds : List Directive} {place : Nat}
      {rest : List ExecutableSelection} {visited last : List String} (hn : name ∉ visited)
      (below : Searches d (selectedIn d name) (name :: visited) true last) :
      Searches d (.spread name ds place :: rest) visited true last
  | spread {name : String} {ds : List Directive} {place : Nat} {rest : List ExecutableSelection}
      {visited mid last : List String} {found : Bool} (hn : name ∉ visited)
      (below : Searches d (selectedIn d name) (name :: visited) false mid)
      (next : Searches d rest mid found last) :
      Searches d (.spread name ds place :: rest) visited found last

/-- What was visited stays so. -/
theorem Searches.keeps {found : Bool} (h : Searches d xs visited found last) :
    ∀ name ∈ visited, name ∈ last := by
  induction h with
  | nil | field _ => exact fun _ h => h
  | other _ _ next | again _ _ next => exact next
  | inlineFound _ below => exact below
  | inline _ _ below next => exact fun name h => next name (below name h)
  | spreadFound _ _ below => exact fun name h => below name (List.mem_cons_of_mem _ h)
  | spread _ _ _ below next =>
      exact fun name h => next name (below name (List.mem_cons_of_mem _ h))

/-! ### The end -/

/-- How many fragments were not visited yet. -/
def unvisited (d : Executable) (visited : List String) : Nat :=
  weigh (fun _ => 1) visited d.fragments

/-- A bounded search is one without bound if it is within each fragment that it visits. -/
theorem searches_of_visits {n : Nat} {visit : String → List String → Bool × List String}
    (hvisit : ∀ name visited, name ∉ visited → unvisited d visited ≤ n →
      Searches d (selectedIn d name) (name :: visited) (visit name (name :: visited)).1
        (visit name (name :: visited)).2)
    (xs : List ExecutableSelection) {visited : List String} (hn : unvisited d visited ≤ n) :
    Searches d xs visited (searchSelections visit xs visited).1
      (searchSelections visit xs visited).2 := by
  induction xs using Selection.induct generalizing visited with
  | nil => exact .nil
  | field head inner rest _ next =>
      rw [searchSelections, searchSelection]
      cases hf : isField head.name.node with
      | true => exact .field hf
      | false => exact .other hf (next hn)
  | inline on? ds place inside rest below next =>
      rw [searchSelections, searchSelection]
      have hbelow := below hn
      cases hsearch : searchSelections visit inside visited with
      | mk found mid =>
          rw [hsearch] at hbelow
          cases found with
          | true => exact .inlineFound hbelow
          | false => exact .inline hbelow (next (Nat.le_trans (weigh_mono hbelow.keeps) hn))
  | spread name ds place rest next =>
      rw [searchSelections, searchSelection]
      by_cases hm : name ∈ visited
      · rw [if_pos (List.contains_iff_mem.mpr hm)]
        exact .again hm (next hn)
      · rw [if_neg (by simpa using hm)]
        have hbelow := hvisit name visited hm hn
        cases hsearch : visit name (name :: visited) with
        | mk found mid =>
            rw [hsearch] at hbelow
            cases found with
            | true => exact .spreadFound hm hbelow
            | false =>
                have hmid : ∀ other ∈ visited, other ∈ mid := fun other h =>
                  hbelow.keeps other (List.mem_cons_of_mem _ h)
                exact .spread hm hbelow (next (Nat.le_trans (weigh_mono hmid) hn))

/-- **Searching comes to an end**: with as much fuel as there are fragments that were not visited,
it is the search without a bound. -/
theorem searches_searchSelections {fuel : Nat} (xs : List ExecutableSelection)
    {visited : List String} (hn : unvisited d visited ≤ fuel) :
    Searches d xs visited (searchSelections (searchFragment d fuel) xs visited).1
      (searchSelections (searchFragment d fuel) xs visited).2 := by
  induction fuel generalizing xs visited with
  | zero =>
      refine searches_of_visits (fun name visited hm hn => ?_) xs hn
      -- no fragment is left to be visited
      have hnone : d.fragment? name = none := by
        cases hf : d.fragment? name with
        | none => rfl
        | some f =>
            obtain ⟨_, ⟨⟩, -⟩ := weigh_enter hf hm hn
      rw [selectedIn, hnone]
      exact .nil
  | succ fuel ih =>
      refine searches_of_visits (fun name visited hm hn => ?_) xs hn
      rw [selectedIn, searchFragment]
      cases hf : d.fragment? name with
      | none => exact .nil
      | some f =>
          obtain ⟨_, ⟨⟩, hless⟩ := weigh_enter hf hm hn
          exact ih f.selections hless

theorem exists_searches_isAsked (d : Executable) (xs : List ExecutableSelection) :
    ∃ last, Searches d xs [] (isAsked d xs) last := by
  have hfuel : unvisited d [] ≤ d.fragments.length + 1 := by
    rw [unvisited, weigh_one]
    omega
  exact ⟨_, searches_searchSelections xs hfuel⟩

/-! ### Nothing is missed -/

/-- A field that tells of the schema occurs in selections. -/
def Asks (d : Executable) (xs : List ExecutableSelection) : Prop :=
  ∃ head inner, d.Occurs xs head inner ∧ isField head.name.node = true

theorem Asks.mono {ys : List ExecutableSelection} (sub : ∀ x ∈ xs, x ∈ ys) (h : Asks d xs) :
    Asks d ys := by
  obtain ⟨head, inner, hocc, hfield⟩ := h
  exact ⟨head, inner, hocc.mono sub, hfield⟩

theorem Asks.tail {x : ExecutableSelection} (h : Asks d rest) : Asks d (x :: rest) :=
  h.mono fun _ => List.mem_cons_of_mem _

/-- What is found occurs. -/
theorem Searches.asks (h : Searches d xs visited true last) : Asks d xs := by
  generalize hfound : true = found at h
  induction h with
  | nil => cases hfound
  | @field head inner rest _ hfield => exact ⟨head, inner, .field List.mem_cons_self, hfield⟩
  | other _ _ next | again _ _ next => exact (next hfound).tail
  | inline _ _ _ next | spread _ _ _ _ next => exact (next hfound).tail
  | inlineFound _ below =>
      obtain ⟨head, inner, hocc, hfield⟩ := below rfl
      exact ⟨head, inner, .inline List.mem_cons_self hocc, hfield⟩
  | @spreadFound name _ _ _ _ _ _ _ below =>
      obtain ⟨head, inner, hocc, hfield⟩ := below rfl
      rw [selectedIn] at hocc
      cases hf : d.fragment? name with
      | none =>
          rw [hf] at hocc
          exact absurd hocc not_occurs_nil
      | some f =>
          rw [hf] at hocc
          exact ⟨head, inner, .spread List.mem_cons_self hf hocc, hfield⟩

/-- No field tells of the schema, but maybe in named fragments, and these were visited. -/
inductive Quiet (visited : List String) : List ExecutableSelection → Prop where
  | nil : Quiet visited []
  | field {head : FieldHead FieldDefinition} {inner rest : List ExecutableSelection}
      (h : isField head.name.node = false) (next : Quiet visited rest) :
      Quiet visited (.field head inner :: rest)
  | inline {on? : Option (Located String)} {ds : List Directive} {place : Nat}
      {inside rest : List ExecutableSelection} (below : Quiet visited inside)
      (next : Quiet visited rest) : Quiet visited (.inline on? ds place inside :: rest)
  | spread {name : String} {ds : List Directive} {place : Nat} {rest : List ExecutableSelection}
      (hm : name ∈ visited) (next : Quiet visited rest) :
      Quiet visited (.spread name ds place :: rest)

namespace Quiet

theorem mono (h : Quiet visited xs) (sub : ∀ name ∈ visited, name ∈ last) : Quiet last xs := by
  induction h with
  | nil => exact .nil
  | field h _ next => exact .field h next
  | inline _ _ below next => exact .inline below next
  | spread hm _ next => exact .spread (sub _ hm) next

/-- Each of the selections is quiet by itself. -/
theorem of_mem {x : ExecutableSelection} (h : Quiet visited xs) (hm : x ∈ xs) :
    Quiet visited [x] := by
  induction h with
  | nil => cases hm
  | field h _ next =>
      rcases List.mem_cons.mp hm with rfl | hm
      · exact .field h .nil
      · exact next hm
  | inline below _ _ next =>
      rcases List.mem_cons.mp hm with rfl | hm
      · exact .inline below .nil
      · exact next hm
  | spread hname _ next =>
      rcases List.mem_cons.mp hm with rfl | hm
      · exact .spread hname .nil
      · exact next hm

/-- If all visited fragments are quiet as well, no field tells of the schema. -/
theorem not_asks (h : Quiet visited xs) (hall : ∀ name ∈ visited, Quiet visited (selectedIn d name)) :
    ¬ Asks d xs := by
  rintro ⟨head, inner, hocc, hfield⟩
  induction hocc with
  | field hm =>
      cases h.of_mem hm with
      | field hno => exact absurd (hno.symm.trans hfield) Bool.false_ne_true
  | inline hm _ ih =>
      cases h.of_mem hm with
      | inline below => exact ih below hfield
  | @spread _ _ name _ _ _ _ hm hf _ ih =>
      cases h.of_mem hm with
      | spread hname =>
          have hquiet := hall name hname
          rw [selectedIn, hf] at hquiet
          exact ih hquiet hfield

end Quiet

/-- If nothing is found, what was searched is quiet, and so is each fragment that was visited on the
way. -/
theorem Searches.quiet (h : Searches d xs visited false last) :
    Quiet last xs ∧ ∀ name ∈ last, name ∈ visited ∨ Quiet last (selectedIn d name) := by
  generalize hfound : false = found at h
  induction h with
  | nil => exact ⟨.nil, fun _ hm => .inl hm⟩
  | field _ | inlineFound _ _ | spreadFound _ _ _ => cases hfound
  | other hno _ next =>
      obtain ⟨hrest, hall⟩ := next hfound
      exact ⟨.field hno hrest, hall⟩
  | again hm hnext next =>
      obtain ⟨hrest, hall⟩ := next hfound
      exact ⟨.spread (hnext.keeps _ hm) hrest, hall⟩
  | inline _ hnext below next =>
      obtain ⟨hinside, hbelow⟩ := below rfl
      obtain ⟨hrest, hall⟩ := next hfound
      refine ⟨.inline (hinside.mono hnext.keeps) hrest, fun other hm => ?_⟩
      rcases hall other hm with hm | hquiet
      · exact (hbelow other hm).imp id (·.mono hnext.keeps)
      · exact .inr hquiet
  | spread _ hbelow' hnext below next =>
      obtain ⟨hinside, hbelow⟩ := below rfl
      obtain ⟨hrest, hall⟩ := next hfound
      have hname := hnext.keeps _ (hbelow'.keeps _ List.mem_cons_self)
      refine ⟨.spread hname hrest, fun other hm => ?_⟩
      rcases hall other hm with hm | hquiet
      · rcases hbelow other hm with hm | hquiet
        · -- the fragment is done
          rcases List.mem_cons.mp hm with rfl | hm
          · exact .inr (hinside.mono hnext.keeps)
          · exact .inl hm
        · exact .inr (hquiet.mono hnext.keeps)
      · exact .inr hquiet

/-- **The search misses nothing**: it finds a field exactly if one occurs. -/
theorem Searches.finds_iff {found : Bool} (h : Searches d xs [] found last) :
    found = true ↔ Asks d xs := by
  cases found with
  | true => exact iff_of_true rfl h.asks
  | false =>
      obtain ⟨hquiet, hall⟩ := h.quiet
      refine iff_of_false Bool.false_ne_true (hquiet.not_asks fun name hm => ?_)
      exact (hall name hm).resolve_left List.not_mem_nil

theorem isAsked_iff : isAsked d xs = true ↔ Asks d xs := by
  obtain ⟨last, hsearch⟩ := exists_searches_isAsked d xs
  exact hsearch.finds_iff

end GraphServe.Introspection

namespace GraphServe.Execution

open Document Introspection

section

variable {service : Service} {response : ResponseContext} {d : Executable}
  {o : Operation FieldDefinition}

/-- A field that is collected occurs, be it by other conditions than those of the search. -/
theorem asks_of_mem_collect {s : Schema} {object : String} {counts : Conditions}
    {selections : List ExecutableSelection} {key : String} {fields : List CollectedField}
    {field : CollectedField} (hgroup : (key, fields) ∈ collect s d object counts [selections])
    (hfield : field ∈ fields) (htells : isField field.head.name.node = true) :
    Asks d selections := by
  obtain ⟨-, hall⟩ := mem_collect hgroup
  obtain ⟨-, set, hset, hocc⟩ := hall field hfield
  rw [List.mem_singleton.mp hset] at hocc
  exact ⟨field.head, field.selections, hocc, htells⟩

/-- An operation that asks what the schema tells is executed for it. -/
theorem introspect_of_asks (henabled : response.operation.disableIntrospection = false)
    (hquery : o.type = .query) (h : Asks d o.selections) :
    introspect service response d o = (do
      let (data, errors) := told service.schema d o response.operation.variableValues
      errors.forM fun message => response.addError none (.message message)
      return some data) := by
  rw [introspect, henabled, hquery, answer, if_pos (isAsked_iff.mpr h)]
  rfl

/-- A root field that tells of the schema is answered with what was told under its key. -/
theorem Run.executeField_told {x : Run} {data : Json.Members} {field : CollectedField}
    (hdata : x.introspection = some data) (htells : isField field.head.name.node = true)
    (execute : Path → List (List ExecutableSelection) → ExecuteObject) (type : TypeDefinition)
    (object : ObjectValue Resolved) (path : Path) (fields : List CollectedField) :
    x.executeField execute none type object path field fields =
      return some ((data.get? field.head.responseKey).getD .null) := by
  have hname : field.head.name.node ≠ "__typename" := by
    intro hname
    rw [hname] at htells
    exact absurd htells (by decide)
  simp only [executeField, if_neg hname, htells, hdata]
  rfl

/-- An operation is executed from its root with what the schema told before. -/
theorem executeOperation_of_isObject {type : TypeDefinition}
    (htype : service.schema.type? ((service.schema.root? o.type).getD "") = some type)
    (hobject : type.isObject = true) (middleware : Chain Work FieldContext FieldResult)
    (root : ObjectValue Resolved) :
    executeOperation service middleware response d o root = (do
      let introspection ← introspect service response d o
      let x : Run := { service, response, document := d, fields := middleware, introspection }
      let found ← x.executeObject (d.fieldCount + 1) none [o.selections] type root []
      return (found.map .object).getD .null) := by
  rw [executeOperation]
  refine bind_congr fun introspection => ?_
  obtain ⟨name, description, directives, body⟩ := type
  cases body with
  | object interfaces defined =>
      simp only [htype]
      refine bind_congr fun found => ?_
      cases found <;> rfl
  | _ => cases hobject

end

/-- **The search before the execution misses nothing.**  It comes to an end for all fragments, those
that reach themselves included, and finds a field exactly if one that tells of the schema occurs at
the root.  So wherever such a field is collected at the root of a query, with introspection enabled,
the query was executed for it, its errors are reported, and the field is answered with what that
execution tells; an operation is executed from its root with what comes of this. -/
theorem introspect_tells (service : Service) (response : ResponseContext) (d : Executable)
    (o : Operation FieldDefinition) :
    (∃ last, Searches d o.selections [] (isAsked d o.selections) last) ∧
    (∀ found last, Searches d o.selections [] found last → found = isAsked d o.selections) ∧
    (isAsked d o.selections = true ↔
      ∃ head inner, d.Occurs o.selections head inner ∧ isField head.name.node = true) ∧
    (response.operation.disableIntrospection = false → o.type = .query →
      let values := response.operation.variableValues
      let (data, errors) := told service.schema d o values
      ∀ root key fields, ∀ field ∈ fields,
        (key, fields) ∈ collect service.schema d root (.strict values) [o.selections] →
        isField field.head.name.node = true →
        introspect service response d o = (do
          errors.forM fun message => response.addError none (.message message)
          return some data) ∧
        ∀ x : Run, x.introspection = some data → ∀ execute type object path,
          x.executeField execute none type object path field fields =
            return some ((data.get? key).getD .null)) ∧
    ∀ type, service.schema.type? ((service.schema.root? o.type).getD "") = some type →
      type.isObject = true → ∀ middleware root,
        executeOperation service middleware response d o root = (do
          let introspection ← introspect service response d o
          let x : Run := { service, response, document := d, fields := middleware, introspection }
          let found ← x.executeObject (d.fieldCount + 1) none [o.selections] type root []
          return (found.map .object).getD .null) := by
  refine ⟨exists_searches_isAsked d o.selections, fun found last hsearch => ?_, isAsked_iff, ?_,
    fun type => executeOperation_of_isObject⟩
  · rw [Bool.eq_iff_iff, hsearch.finds_iff, isAsked_iff]
  · intro henabled hquery values
    dsimp only
    intro root key fields field hfield hgroup htells
    refine ⟨introspect_of_asks henabled hquery (asks_of_mem_collect hgroup hfield htells), ?_⟩
    intro x hdata execute type object path
    have hkey : field.head.responseKey = key := ((mem_collect hgroup).2 field hfield).1
    rw [x.executeField_told hdata htells, hkey]

namespace Cyclic

/-- A schema that only tells of itself. -/
def schema : Schema where
  types := Builtin.introspectionTypes ++ [Builtin.stringScalar, Builtin.booleanScalar,
    ⟨"Query", none, [], .object [] [{ name := "a", type := .named "String" false }]⟩]
  directives := Builtin.directives
  query := some "Query"

/-- A query of two fragments that name each other, and of a field in the one that is named last. -/
def definitions : List Definition :=
  [.query [.plain "a" 1 [], .spread "F" [] 2],
    .fragment ⟨⟨"F", 3⟩, ⟨"Query", 3⟩, [], [.spread "F" [] 4, .spread "G" [] 5], 3⟩,
    .fragment ⟨⟨"G", 6⟩, ⟨"Query", 6⟩, [], [.spread "F" [] 7, .inline none [] 8
      [.plain "__schema" 9 [.plain "description" 10 []]]], 6⟩]

/-- The document of the query. -/
def document : Executable := (Executable.resolve schema definitions).1

/-- The query. -/
def query : Operation FieldDefinition := document.anonymous.getD default

/-- A service of the schema. -/
def service : Service := { schema, query := .uniform "Query" (.leaf .null) }

/-- A context in which introspection is enabled. -/
def response : ResponseContext := ⟨{ disableIntrospection := false }, .standard⟩

/-- The field is found behind the fragments that name each other, and answered. -/
theorem introspect_tells_cyclic : isAsked document query.selections = true ∧ ∃ field,
    ("__schema", [field]) ∈ collect schema document "Query" (.strict []) [query.selections] ∧
      introspect service response document query =
        (return some [("__schema", .object [("description", .null)])]) ∧
      (∀ x : Run, x.introspection = some [("__schema", .object [("description", .null)])] →
        ∀ execute type object path, x.executeField execute none type object path field [field] =
          return some (.object [("description", .null)])) ∧
      (executeOperation service [] response document query service.query {}).1 =
        .ok (.object [("a", .null), ("__schema", .object [("description", .null)])]) := by
  obtain ⟨-, -, hfound, htells, hexecute⟩ := introspect_tells service response document query
  obtain ⟨field, hgroup, hfield⟩ : ∃ field,
      ("__schema", [field]) ∈ collect schema document "Query" (.strict []) [query.selections] ∧
        isField field.head.name.node = true :=
    ⟨_, List.mem_cons_of_mem _ List.mem_cons_self, rfl⟩
  obtain ⟨hrun, hanswer⟩ := htells rfl rfl "Query" _ _ field List.mem_cons_self hgroup hfield
  have hasks := asks_of_mem_collect hgroup List.mem_cons_self hfield
  refine ⟨hfound.mpr hasks, field, hgroup, hrun, hanswer, ?_⟩
  rw [hexecute _ rfl rfl, hrun]
  rfl

end Cyclic

end GraphServe.Execution
