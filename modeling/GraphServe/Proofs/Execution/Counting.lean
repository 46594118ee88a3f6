import GraphServe.Proofs.Execution.Asking
import GraphServe.Proofs.Execution.Fitting
import GraphServe.Proofs.Validation.Acyclic

/-!
# Calls are counted by the complexity

Every call of a resolver that execution makes is put down in the journal.  A stage `Calls` at most so
many if it adds no more of them than that, whether or not it panics.

**Complexity bounds the work** (`executeOperation_calls`).  Where no selected field is a list, an
operation makes no more calls than its complexity says, unless that is the greatest number there is.
The complexity does not count fields of the type `__Schema`, which execution never resolves where
they are the meta field, but resolves like others where a type declares them
(`executeOperation_uncounted`).
-/

namespace GraphServe

/-- The number of calls of resolvers among entries. -/
def callsIn (entries : List Entry) : Nat := entries.countP fun e => decide e.IsCall

theorem Silent.callsIn {entries : List Entry} (h : Silent entries) : callsIn entries = 0 :=
  List.countP_eq_zero.mpr fun e he => by simpa using h e he

namespace Work

variable {α β : Type}

/-- A stage that only adds to the journal, at most `n` calls of resolvers among it, with what it
gives in `Q`. -/
def Calls (w : Work α) (n : Nat) (Q : α → Prop) : Prop :=
  ∀ x, ∃ entries, (w x).2.journal = x.journal ++ entries ∧ callsIn entries ≤ n ∧
    ∀ a, (w x).1 = .ok a → Q a

namespace Calls

variable {w : Work α} {n m : Nat} {P Q : α → Prop}

theorem pure {a : α} (h : Q a) : Calls (Pure.pure a) n Q := fun x =>
  ⟨[], (List.append_nil _).symm, Nat.zero_le n, fun b hb => by cases hb; exact h⟩

theorem bind {f : α → Work β} {R : β → Prop} (hw : w.Calls n P)
    (hf : ∀ a, P a → (f a).Calls m R) : Calls (w >>= f) (n + m) R := fun x => by
  obtain ⟨entries, hx, hn, hp⟩ := hw x
  rw [bind_apply]
  rcases hr : w x with ⟨_ | a, y⟩
  · rw [hr] at hx
    exact ⟨entries, hx, Nat.le_add_right_of_le hn, fun _ h => nomatch h⟩
  · rw [hr] at hx hp
    obtain ⟨more, hy, hm, hq⟩ := hf a (hp a rfl) y
    refine ⟨entries ++ more, by rw [hy, hx, List.append_assoc], ?_, hq⟩
    rw [callsIn, List.countP_append]
    exact Nat.add_le_add hn hm

theorem mono (h : w.Calls n P) (le : n ≤ m) (sub : ∀ a, P a → Q a) : w.Calls m Q := fun x => by
  obtain ⟨entries, hx, hn, hp⟩ := h x
  exact ⟨entries, hx, Nat.le_trans hn le, fun a ha => sub a (hp a ha)⟩

/-- What follows makes no calls. -/
theorem andThen {f : α → Work β} {R : β → Prop} (hw : w.Calls n P)
    (hf : ∀ a, P a → (f a).Calls 0 R) : Calls (w >>= f) n R := hw.bind hf

/-- What comes before makes no calls. -/
theorem after {f : α → Work β} {R : β → Prop} (hw : w.Calls 0 P)
    (hf : ∀ a, P a → (f a).Calls m R) : Calls (w >>= f) m R := by
  rw [← Nat.zero_add m]
  exact hw.bind hf

/-- A stage for each of some things, none of which makes calls. -/
theorem forM {f : β → Work Unit} (h : ∀ b, (f b).Calls 0 fun _ => True) (l : List β) :
    (l.forM f).Calls 0 fun _ => True := by
  induction l with
  | nil => exact .pure trivial
  | cons b l ih => exact (h b).andThen fun _ _ => ih

theorem hold (h : w.Calls n P) : (hold w).Calls n fun outcome => ∀ a, outcome = .ok a → P a :=
  fun x => by
    obtain ⟨entries, hx, hn, hp⟩ := h x
    exact ⟨entries, hx, hn, fun outcome ho a ha => hp a (by cases ho; exact ha)⟩

end Calls

/-- A change of anything but the journal. -/
theorem calls_modify {f : Exchange → Exchange} (h : ∀ x, (f x).journal = x.journal) :
    Calls (modify f) 0 fun _ => True := fun x =>
  ⟨[], (h x).trans (List.append_nil _).symm, Nat.le_refl 0, fun _ _ => trivial⟩

theorem calls_record (entry : Entry) : (record entry).Calls 1 fun _ => True := fun _ =>
  ⟨[entry], rfl, List.countP_le_length, fun _ _ => trivial⟩

theorem calls_events (logged : List Event) : (events logged).Calls 0 fun _ => True := fun _ =>
  ⟨_, rfl, Nat.le_of_eq (silent_events logged).callsIn, fun _ _ => trivial⟩

end Work

theorem ResponseContext.calls_addError (c : ResponseContext) (path : Option Path)
    (failure : Failure) : (c.addError path failure).Calls 0 fun _ => True :=
  Work.calls_modify fun _ => rfl

namespace Execution

open Document Complexity Executable

/-! ### Values -/

section

variable {s : Schema} {response : ResponseContext} {path : Path} {n : Nat}

theorem raise_calls {α : Type} (response : ResponseContext) (path : Path) (message : String) :
    (raise (α := α) response path message).Calls 0 fun _ => True :=
  (response.calls_addError _ _).andThen fun _ _ => .pure trivial

theorem completeLeaf_calls (name : String) (v : Json) :
    (completeLeaf s response name path v).Calls 0 fun _ => True := by
  rw [completeLeaf]
  split
  · exact raise_calls response path _
  · split
    · exact .pure trivial
    · exact raise_calls response path _

/-- Completing a value that is no list makes the calls that are made for an object in it. -/
theorem complete_calls {execute : ExecuteObject} {name : String}
    (hexec : ∀ concrete object path, (Resolved.object object).Discreet →
      s.type? concrete.name = some concrete → concrete.isObject = true →
      concrete.name ∈ s.possibleTypes name → (execute concrete object path).Calls n fun _ => True)
    (required : Bool) (path : Path) {r : Resolved} (hr : r.Discreet) :
    (complete s response execute (.named name required) path r).Calls n fun _ => True := by
  have hraise := fun message =>
    (raise_calls (α := Json) response path message).mono (Nat.zero_le n) fun _ h => h
  cases hr with
  | leaf v =>
      by_cases hv : v = .null
      · subst hv
        rw [complete]
        split
        · exact hraise _
        · exact .pure trivial
      · rw [complete_leaf_named hv]
        exact (completeLeaf_calls name v).mono (Nat.zero_le n) fun _ h => h
  | list => exact hraise _
  | object adds gives =>
      rw [complete, completeObject]
      split
      · exact hraise _
      · rename_i type htype
        split
        · rename_i concrete hconcrete
          obtain ⟨hknown, hobject, hpossible⟩ := concreteType_ok htype hconcrete
          exact (hexec concrete _ path (.object adds gives) hknown hobject hpossible).andThen
            fun _ _ => .pure trivial
        · exact hraise _

end

/-! ### Fields -/

namespace Run

variable (x : Run)

/-- Without middleware one call is made for a field. -/
theorem resolveField_calls (hx : x.fields = []) {object : ObjectValue Resolved}
    (ho : (Resolved.object object).Discreet) (c : FieldContext) :
    (x.resolveField object c).Calls 1 fun found => ∀ r, found = some r → r.Discreet := by
  have hend : Work.Calls (object.call c) 1 fun result => ∀ r, result = .ok r → r.Discreet := by
    refine (Work.calls_record _).andThen fun _ _ z => ?_
    cases ho with
    | object adds gives =>
        obtain ⟨entries, hsilent, hz⟩ := adds c z
        exact ⟨entries, hz, Nat.le_of_eq hsilent.callsIn, fun result hresult r hr =>
          gives c z r (hr ▸ hresult)⟩
  rw [resolveField, hx]
  refine hend.hold.andThen fun outcome hout => ?_
  split
  · exact .pure fun r hr => Option.some.inj hr ▸ hout _ rfl _ rfl
  · exact (x.response.calls_addError _ _).andThen fun _ _ => .pure fun r hr => by cases hr
  · refine Work.Calls.andThen (P := fun _ => True) ?_ fun e _ => ?_
    · exact (Work.calls_events _).andThen fun _ _ => .pure trivial
    · exact (Work.calls_modify fun _ => rfl).andThen fun _ _ => .pure fun r hr => by cases hr

/-- A field is resolved if the concrete type declares it, and no other field is. -/
theorem executeField_calls (hx : x.fields = [])
    {execute : Path → List (List ExecutableSelection) → ExecuteObject} {n : Nat}
    (parent? : Option Path) {type : TypeDefinition} (htype : x.schema.type? type.name = some type)
    {object : ObjectValue Resolved} (ho : (Resolved.object object).Discreet) (path : Path)
    {first : CollectedField} {fields : List CollectedField}
    (hcomplete : (x.schema.declared? type.name first.head.name.node).isSome →
      ∀ r, r.Discreet → (complete x.schema x.response
        (execute path (fields.map (·.selections))) first.head.note.type path r).Calls n fun _ => True) :
    (x.executeField execute parent? type object path first fields).Calls
      (if (x.schema.declared? type.name first.head.name.node).isSome then n + 1 else 0)
      fun _ => True := by
  rw [executeField]
  split
  · exact .pure trivial
  split
  · split
    · exact .pure trivial
    · exact ((x.response.calls_addError _ _).andThen fun _ _ => .pure trivial).mono
        (Nat.zero_le _) fun _ h => h
  have hdeclared : x.schema.declared? type.name first.head.name.node =
      type.fields.find? (·.name = first.head.name.node) := by
    rw [Schema.declared?, htype]
    rfl
  rw [hdeclared] at hcomplete ⊢
  split
  · exact (raise_calls x.response path _).mono (Nat.zero_le _) fun _ h => h
  · rename_i hfind
    rw [hfind] at hcomplete ⊢
    rw [Option.isSome_some, if_pos rfl, Nat.add_comm n 1]
    refine (x.resolveField_calls hx ho _).bind fun found hfound => ?_
    split
    · exact .pure trivial
    · exact (hcomplete rfl _ (hfound _ rfl)).andThen fun _ _ => .pure trivial

/-- The calls for groups of fields are those for each of them. -/
theorem executeGroups_calls
    {execute : String → CollectedField → List CollectedField → Work Completed}
    (cost : List CollectedField → Nat) {groups : FieldGroups}
    (h : ∀ key first rest, (key, first :: rest) ∈ groups →
      (execute key first (first :: rest)).Calls (cost (first :: rest)) fun _ => True) :
    (executeGroups execute groups).Calls (groups.map fun g => cost g.2).sum fun _ => True := by
  induction groups with
  | nil => exact .pure trivial
  | cons g groups ih =>
      have hrest := ih fun key first rest hg => h key first rest (List.mem_cons_of_mem _ hg)
      rw [List.map_cons, List.sum_cons]
      obtain ⟨key, _ | ⟨first, rest⟩⟩ := g
      · exact hrest.mono (Nat.le_add_left _ _) fun _ h => h
      · refine (h key first rest List.mem_cons_self).bind fun value _ => ?_
        refine hrest.andThen fun values _ => ?_
        split
        · exact .pure trivial
        · exact .pure trivial

end Run

/-! ### Objects -/

/-- A type whose values the complexity counts. -/
def Counted (s : Schema) (type : String) : Prop := type ≠ "__Schema" ∧ s.isVacant type = false

/-- The selections of an operation ask for nothing that the complexity leaves out: no lists, and no
value of the type `__Schema` but that of the meta field.  Fields that are merged for an object are of
the type of the first of them, or of one that is counted. -/
structure Countable (s : Schema) (d : Executable) (values : Json.Members) (root : String)
    (selections : List ExecutableSelection) : Prop where
  single : ∀ head inner, d.Selects selections head inner →
    ∃ name required, head.note.type = .named name required
  schema : ∀ head inner, d.Selects selections head inner →
    head.note.type.innerName = "__Schema" → head.name.node = "__schema"
  merged : ∀ object sets key first rest, Asked s d values root selections object sets →
    (key, first :: rest) ∈ collect s d object (Conditions.strict values) sets → ∀ f ∈ rest,
      f.head.note.type.innerName = first.head.note.type.innerName ∨
        Counted s f.head.note.type.innerName

/-- Where all selected fields are of counted types, nothing is left out. -/
theorem countable_of_counted {s : Schema} {d : Executable} {values : Json.Members} {root : String}
    {selections : List ExecutableSelection}
    (h : ∀ head inner, d.Selects selections head inner →
      ∃ name required, head.note.type = .named name required ∧ Counted s name) :
    Countable s d values root selections where
  single head inner hs := by
    obtain ⟨name, required, hname, -⟩ := h head inner hs
    exact ⟨name, required, hname⟩
  schema head inner hs hschema := by
    obtain ⟨name, required, hname, hcounted⟩ := h head inner hs
    rw [hname] at hschema
    exact absurd hschema hcounted.1
  merged object sets key first rest hasked hg f hf := by
    obtain ⟨name, required, hname, hcounted⟩ :=
      h _ _ (hasked.selects hg f (List.mem_cons_of_mem _ hf))
    rw [hname]
    exact .inr hcounted

/-- What counted types have holds of all fields that are merged, if it holds of the first. -/
theorem Countable.forall_merged {s : Schema} {d : Executable} {values : Json.Members}
    {root object key : String} {selections : List ExecutableSelection}
    {sets : List (List ExecutableSelection)} {first : CollectedField} {rest : List CollectedField}
    (hcount : Countable s d values root selections)
    (hasked : Asked s d values root selections object sets)
    (hg : (key, first :: rest) ∈ collect s d object (Conditions.strict values) sets)
    {P : String → Prop} (hcounted : ∀ type, Counted s type → P type)
    (hfirst : P first.head.note.type.innerName) :
    ∀ f ∈ first :: rest, P f.head.note.type.innerName := by
  intro f hf
  rcases List.mem_cons.mp hf with rfl | hf
  · exact hfirst
  · rcases hcount.merged _ _ key first rest hasked hg f hf with hsame | hf
    · rw [hsame]
      exact hfirst
    · exact hcounted _ hf

/-- What is selected of a field is counted if the field is. -/
theorem belowCost_lt_ownCost {s : Schema} (hs : s.IsValid) {F : String → Nat} {f : CollectedField}
    (hf : Declares s f.head f.selections) (hne : f.head.note.type.innerName ≠ "__Schema") :
    belowCost s F f + 1 ≤ ownCost s F f := by
  rw [ownCost, if_neg hne]
  by_cases hnil : f.selections = []
  · have hnone : belowCost s F f = 0 := by rw [belowCost, hnil]; rfl
    omega
  · obtain ⟨t, ht, hcomposite⟩ := hf.isComposite hs hnil
    have hinside : isComposite s f.head.note.type.innerName = true := by
      rw [isComposite, ht]
      exact hcomposite
    exact Nat.le_of_eq (by rw [if_pos hinside])

/-- A group of counted fields costs more than what is selected of them. -/
theorem sum_belowCost_lt {s : Schema} {F : String → Nat} {first : CollectedField}
    {rest : List CollectedField}
    (h : ∀ f ∈ first :: rest, belowCost s F f + 1 ≤ ownCost s F f) :
    ((first :: rest).map (belowCost s F)).sum + 1 ≤ ((first :: rest).map (ownCost s F)).sum := by
  have hrest : (rest.map (belowCost s F)).sum ≤ (rest.map (ownCost s F)).sum :=
    List.sum_le_sum fun f hf => Nat.le_of_succ_le (h f (List.mem_cons_of_mem _ hf))
  have hfirst := h first List.mem_cons_self
  rw [List.map_cons, List.sum_cons, List.map_cons, List.sum_cons]
  omega

namespace Run

variable {x : Run} {root : String} {selections : List ExecutableSelection} {F : String → Nat}

/-- A group of fields makes no more calls than it costs, if the object that is resolved for it makes
no more than what is selected of the fields. -/
theorem executeGroup_calls (hx : x.fields = []) (hs : x.schema.IsValid)
    (hd : x.document.IsDeclared x.schema) (ho : AllFields (Declares x.schema) selections)
    (hcount : Countable x.schema x.document x.values root selections)
    {type : TypeDefinition} {sets : List (List ExecutableSelection)}
    (hasked : Asked x.schema x.document x.values root selections type.name sets)
    (htype : x.schema.type? type.name = some type)
    {key : String} {first : CollectedField} {rest : List CollectedField}
    (hg : (key, first :: rest) ∈
      collect x.schema x.document type.name (Conditions.strict x.values) sets)
    {execute : Path → List (List ExecutableSelection) → ExecuteObject} (parent? : Option Path)
    {object : ObjectValue Resolved} (hdiscreet : (Resolved.object object).Discreet) (path : Path)
    (hexec : (∀ f ∈ first :: rest, x.schema.isVacant f.head.note.type.innerName = false) →
      ∀ concrete object' path', (Resolved.object object').Discreet →
        x.schema.type? concrete.name = some concrete → concrete.isObject = true →
        concrete.name ∈ x.schema.possibleTypes first.head.note.type.innerName →
        (execute path ((first :: rest).map (·.selections)) concrete object' path').Calls
          ((first :: rest).map (belowCost x.schema F)).sum fun _ => True) :
    (x.executeField execute parent? type object path first (first :: rest)).Calls
      ((first :: rest).map (ownCost x.schema F)).sum fun _ => True := by
  have hselects := hasked.selects hg
  obtain ⟨name, required, hname⟩ := hcount.single _ _ (hselects first List.mem_cons_self)
  refine (x.executeField_calls hx (n := ((first :: rest).map (belowCost x.schema F)).sum)
    parent? htype hdiscreet path fun _ r hr => ?_).mono ?_ fun _ h => h
  · rw [hname]
    refine complete_calls (fun concrete object' path' hdiscreet' hknown hobject' hpossible =>
      ?_) required path hr
    have hpossible' : concrete.name ∈ x.schema.possibleTypes first.head.note.type.innerName := by
      rw [hname]
      exact hpossible
    -- the first field is on a type that stands for an object
    exact hexec (hcount.forall_merged hasked hg (fun _ h => h.2)
      (Schema.isVacant_of_mem_possibleTypes hpossible')) concrete object' path' hdiscreet' hknown
        hobject' hpossible'
  · split
    · rename_i hdeclared
      obtain ⟨definition, hdefinition⟩ := Option.isSome_iff_exists.mp hdeclared
      -- the meta field is not declared
      have hfirst : first.head.note.type.innerName ≠ "__Schema" := fun hschema => by
        have hmeta := (hs.declared hdefinition).2
        rw [hcount.schema _ _ (hselects first List.mem_cons_self) hschema] at hmeta
        cases hmeta
      have hcounted := hcount.forall_merged hasked hg (fun _ h => h.1) hfirst
      exact sum_belowCost_lt fun f hf =>
        belowCost_lt_ownCost hs (hasked.declaresField hd ho hg f hf) (hcounted f hf)
    · exact Nat.zero_le _

/-- **An object makes no more calls than what is asked of it costs**: each set of selections on its
type, and none of these types vacant. -/
theorem executeObject_calls (hx : x.fields = []) (hs : x.schema.IsValid)
    (hd : x.document.IsDeclared x.schema) (ho : AllFields (Declares x.schema) selections)
    (hcount : Countable x.schema x.document x.values root selections)
    (hF : Priced x.schema x.document F selections) (fuel : Nat) (parent? : Option Path)
    (sets : List (String × List ExecutableSelection))
    (hvacant : ∀ set ∈ sets, x.schema.isVacant set.1 = false) (type : TypeDefinition)
    (hasked : Asked x.schema x.document x.values root selections type.name (sets.map Prod.snd))
    (htype : x.schema.type? type.name = some type) (hobject : type.isObject = true)
    {object : ObjectValue Resolved} (hdiscreet : (Resolved.object object).Discreet) (path : Path) :
    (x.executeObject fuel parent? (sets.map Prod.snd) type object path).Calls
      (sets.map fun set => costIn x.schema F set.1 set.2).sum fun _ => True := by
  induction fuel generalizing parent? sets type object path with
  | zero => exact (raise_calls x.response path _).mono (Nat.zero_le _) fun _ h => h
  | succ fuel ih =>
      rw [executeObject]
      refine (executeGroups_calls (fun group => (group.map (ownCost x.schema F)).sum)
        fun key first rest hg => ?_).mono (collect_total
          (fun condition => isVacant_of_applies htype hobject) hF fun set hset =>
            ⟨hvacant set hset, hasked.part _ (List.mem_map_of_mem hset)⟩) fun _ h => h
      refine executeGroup_calls hx hs hd ho hcount hasked htype hg parent? hdiscreet _
        fun hbelow concrete object' path' hdiscreet' hknown hobject' hpossible => ?_
      -- all that is selected of the fields is asked of the object, each set on the type of its field
      have hsets : ((first :: rest).map fun f => (f.head.note.type.innerName, f.selections)).map
          Prod.snd = (first :: rest).map (·.selections) := by rw [List.map_map]; rfl
      have hobject := ih (some (path ++ [.key key]))
        ((first :: rest).map fun f => (f.head.note.type.innerName, f.selections))
        (fun set hset => by
          obtain ⟨f, hf, rfl⟩ := List.mem_map.mp hset
          exact hbelow f hf)
        concrete (hsets ▸ hasked.field hg hpossible) hknown hobject' hdiscreet' path'
      rw [hsets, List.map_map] at hobject
      exact hobject

end Run

/-! ### Operations -/

theorem introspect_calls {service : Service} {response : ResponseContext} {d : Executable}
    {o : Operation FieldDefinition} :
    (introspect service response d o).Calls 0 fun _ => True := by
  rw [introspect]
  split
  · exact .pure trivial
  · exact (Work.Calls.forM (fun _ => response.calls_addError _ _) _).andThen fun _ _ => .pure trivial

/-- An operation makes no more calls than its selections cost. -/
theorem executeOperation_calls_costIn {service : Service} {definitions : List Definition}
    {d : Executable} {o : Operation FieldDefinition} {response : ResponseContext}
    (hs : service.schema.IsValid)
    (hd : Validation.validate service.schema definitions = .ok d) (ho : o ∈ d.allOperations)
    (hcount : Countable service.schema d response.operation.variableValues
      ((service.schema.root? o.type).getD "") o.selections)
    {root : ObjectValue Resolved} (hroot : (Resolved.object root).Discreet) :
    (executeOperation service [] response d o root).Calls
      (costIn service.schema (fragmentCost service.schema d (d.fragments.length + 1))
        ((service.schema.root? o.type).getD "") o.selections) fun _ => True := by
  have hdeclared : d.IsDeclared service.schema :=
    (Validation.validate_ok hd).1 ▸ isDeclared_resolve _ _
  rw [executeOperation]
  refine introspect_calls.after fun introspection _ => ?_
  dsimp only
  split
  · rename_i name description directives interfaces defined htype
    obtain ⟨-, hname⟩ := Schema.type?_some htype
    -- the root is asked for the selections of the operation, on its own type
    have hpossible := Schema.possibleTypes_of_isObject htype rfl
    have hobject := Run.executeObject_calls
      (x := { service, response, document := d, fields := [], introspection }) rfl hs hdeclared
      (hdeclared.operations o ho) hcount
      (priced_fragmentCost (Validation.acyclic_of_validate hd ho)) (d.fieldCount + 1) none
      [((service.schema.root? o.type).getD "", o.selections)]
      (fun set hset => by
        rw [List.mem_singleton.mp hset]
        exact Schema.isVacant_of_mem_possibleTypes (hpossible ▸ List.mem_singleton_self _))
      ⟨name, description, directives, .object interfaces defined⟩
      (hname ▸ .root) (hname ▸ htype) rfl hroot []
    refine (hobject.mono (Nat.le_of_eq (by simp [Run.schema])) fun _ h => h).andThen fun data _ => ?_
    split
    · exact .pure trivial
    · exact .pure trivial
  · exact ((response.calls_addError _ _).andThen fun _ _ => .pure trivial).mono (Nat.zero_le _)
      fun _ h => h

/-- **Complexity bounds the work.**  Whatever resolvers do, an operation of a valid document whose
selections are all counted makes no more calls than its complexity says, unless that was cut off. -/
theorem executeOperation_calls {service : Service} {definitions : List Definition} {d : Executable}
    {o : Operation FieldDefinition} {response : ResponseContext} (hs : service.schema.IsValid)
    (hfree : service.OverridesNoCost)
    (hd : Validation.validate service.schema definitions = .ok d) (ho : o ∈ d.allOperations)
    (hcount : Countable service.schema d response.operation.variableValues
      ((service.schema.root? o.type).getD "") o.selections)
    {root : ObjectValue Resolved} (hroot : (Resolved.object root).Discreet)
    (hbelow : (ofOperation service d o response.operation.variableValues).1 < maximum)
    (x : Exchange) :
    ∃ entries, (executeOperation service [] response d o root x).2.journal = x.journal ++ entries ∧
      callsIn entries ≤ (ofOperation service d o response.operation.variableValues).1 := by
  obtain ⟨entries, hjournal, hle, -⟩ := executeOperation_calls_costIn hs hd ho hcount hroot x
  refine ⟨entries, hjournal, ?_⟩
  rw [ofOperation_eq hfree (Validation.acyclic_of_validate hd ho)] at hbelow ⊢
  omega

/-! ### What is counted and what is not -/

namespace Twice

/-- A service with an object that has two fields. -/
def service : Service where
  schema :=
    { types := Builtin.introspectionTypes ++ [Builtin.intScalar, Builtin.stringScalar,
        Builtin.booleanScalar,
        ⟨"A", none, [], .object []
          [{ name := "x", type := .named "Int" false }, { name := "y", type := .named "Int" false }]⟩,
        ⟨"Query", none, [], .object [] [{ name := "a", type := .named "A" false }]⟩]
      directives := Builtin.directives
      query := some "Query" }
  query := .uniform "Query" (.object (.uniform "A" (.leaf (.int 1))))

/-- A query that selects the object twice, and of it one field each time. -/
def definitions : List Definition :=
  [.query [.plain "a" 1 [.plain "x" 2 []], .plain "a" 3 [.plain "y" 4 []]]]

/-- The document of the query. -/
def document : Executable := (Executable.resolve service.schema definitions).1

/-- The query. -/
def query : Operation FieldDefinition := document.anonymous.getD default

/-- Nothing is known of the request. -/
def response : ResponseContext := ⟨{}, .standard⟩

theorem countable : Countable service.schema document response.operation.variableValues
    ((service.schema.root? query.type).getD "") query.selections := by
  have hobject : Counted service.schema "A" := ⟨by decide, rfl⟩
  have hleaf : Counted service.schema "Int" := ⟨by decide, rfl⟩
  have hall : AllFields (fun head _ => ∃ name required, head.note.type = .named name required ∧
      Counted service.schema name) query.selections :=
    ⟨⟨⟨_, _, rfl, hobject⟩, ⟨⟨_, _, rfl, hleaf⟩, trivial⟩, trivial⟩,
      ⟨⟨_, _, rfl, hobject⟩, ⟨⟨_, _, rfl, hleaf⟩, trivial⟩, trivial⟩, trivial⟩
  have hnone : ∀ name, document.fragment? name = none := fun _ => rfl
  exact countable_of_counted fun head inner hselects =>
    hselects.all (fun name f hf => by rw [hnone] at hf; cases hf) hall

end Twice

/-- What the theorem says of that query: the object is resolved once, but its cost counts twice. -/
theorem executeOperation_calls_twice :
    Twice.service.schema.IsValid ∧ Twice.service.OverridesNoCost ∧
      Validation.validate Twice.service.schema Twice.definitions = .ok Twice.document ∧
      Twice.query ∈ Twice.document.allOperations ∧
      Countable Twice.service.schema Twice.document Twice.response.operation.variableValues
        ((Twice.service.schema.root? Twice.query.type).getD "") Twice.query.selections ∧
      (Resolved.object Twice.service.query).Discreet ∧
      (ofOperation Twice.service Twice.document Twice.query
        Twice.response.operation.variableValues).1 < maximum ∧
    ∃ entries, (executeOperation Twice.service [] Twice.response Twice.document Twice.query
        Twice.service.query {}).2.journal = ({} : Exchange).journal ++ entries ∧
      callsIn entries ≤ (ofOperation Twice.service Twice.document Twice.query
        Twice.response.operation.variableValues).1 := by
  have hvalid : Twice.service.schema.IsValid := ⟨by decide, by decide⟩
  have hfree : Twice.service.OverridesNoCost := fun _ _ _ _ => rfl
  have hdocument : Validation.validate Twice.service.schema Twice.definitions =
      .ok Twice.document := rfl
  have hroot : (Resolved.object Twice.service.query).Discreet :=
    .uniform (.uniform (.leaf _))
  have hcost : (ofOperation Twice.service Twice.document Twice.query
      Twice.response.operation.variableValues).1 = 4 := rfl
  have hbelow : (ofOperation Twice.service Twice.document Twice.query
      Twice.response.operation.variableValues).1 < maximum := by
    rw [hcost]
    decide
  exact ⟨hvalid, hfree, hdocument, List.mem_cons_self, Twice.countable, hroot, hbelow,
    executeOperation_calls hvalid hfree hdocument List.mem_cons_self Twice.countable hroot hbelow {}⟩

namespace Uncounted

/-- A service with a field of the type `__Schema`. -/
def service : Service where
  schema :=
    { types := Builtin.introspectionTypes ++ [Builtin.stringScalar, Builtin.booleanScalar,
        ⟨"Query", none, [], .object [] [{ name := "s", type := .named "__Schema" false }]⟩]
      directives := Builtin.directives
      query := some "Query" }
  query := .uniform "Query" (.object (.uniform "__Schema" (.leaf (.string "x"))))

/-- A query of that field. -/
def definitions : List Definition := [.query [.plain "s" 1 [.plain "description" 2 []]]]

/-- The document of the query. -/
def document : Executable := (Executable.resolve service.schema definitions).1

/-- The query. -/
def query : Operation FieldDefinition := document.anonymous.getD default

end Uncounted

/-- A query of a field of the type `__Schema` that a type declares: its complexity is nothing, but
the field is resolved, and so is what is selected of it. -/
theorem executeOperation_uncounted :
    Uncounted.service.schema.IsValid ∧ Uncounted.service.OverridesNoCost ∧
      Validation.validate Uncounted.service.schema Uncounted.definitions = .ok Uncounted.document ∧
      Uncounted.query ∈ Uncounted.document.allOperations ∧
      (∀ head inner, Uncounted.document.Selects Uncounted.query.selections head inner →
        ∃ name required, head.note.type = .named name required) ∧
      (Resolved.object Uncounted.service.query).Discreet ∧
      (ofOperation Uncounted.service Uncounted.document Uncounted.query []).1 = 0 ∧
      callsIn (executeOperation Uncounted.service [] ⟨{}, .standard⟩ Uncounted.document
        Uncounted.query Uncounted.service.query {}).2.journal = 2 := by
  have hall : AllFields (fun head _ => ∃ name required, head.note.type = .named name required)
      Uncounted.query.selections := ⟨⟨⟨_, _, rfl⟩, ⟨⟨_, _, rfl⟩, trivial⟩, trivial⟩, trivial⟩
  have hnone : ∀ name, Uncounted.document.fragment? name = none := fun _ => rfl
  exact ⟨⟨by decide, by decide⟩, fun _ _ _ _ => rfl, rfl, List.mem_cons_self,
    fun head inner hselects =>
      hselects.all (fun name f hf => by rw [hnone] at hf; cases hf) hall,
    .uniform (.uniform (.leaf _)), rfl, rfl⟩

end Execution

end GraphServe
