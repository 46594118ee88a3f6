import GraphServe.Proofs.Execution.Observation
import GraphServe.Proofs.Execution.Typing
import GraphServe.Proofs.Resolved

/-!
# No data is lost in silence

The data of an operation and the errors that are reported on the way are two outputs of one
recursion.  The positions that are observed tell of both: their tree is after the types of the
fields that were selected (`Position.Typed`), and every failure in it has an error at its path
(`Accounts`).  Each step of the recursion keeps both, whatever the resolvers give.

* **Failures are accounted for** (`observeOperation_adds`): every failure that is observed has an
  error at its path.
* **Nulls are accounted for** (`executeOperation_accounted`): where the data has a `null` that was
  not resolved, an error was reported at or below it; no `null` stands where the type of a field
  admits none; without errors nothing is missing.
-/

namespace GraphServe.Execution

open Document

/-! ### Errors at failures -/

/-- Every failure of a position at a path has an error there. -/
def Accounts (path : Path) (t : Position) (errors : List Error) : Prop :=
  ∀ q ∈ t.failures, ∃ e ∈ errors, e.path = some (path ++ q)

theorem accounts_of_nil {path : Path} {t : Position} {errors : List Error} (ht : t.failures = []) :
    Accounts path t errors := by
  intro q hq
  rw [ht] at hq
  cases hq

theorem accounts_of_failure {path : Path} {t : Position} {errors : List Error}
    (ht : t.failures = [[]]) (he : errors.map (·.path) = [some path]) : Accounts path t errors := by
  intro q hq
  rw [ht, List.mem_singleton] at hq
  have hmem : some path ∈ errors.map (·.path) := by rw [he]; exact List.mem_singleton_self _
  obtain ⟨e, hm, hp⟩ := List.mem_map.mp hmem
  exact ⟨e, hm, by rw [hq, List.append_nil, hp]⟩

section

variable {s : Schema} {d : Executable} {values : Json.Members} {response : ResponseContext}
  {sets : List (List ExecutableSelection)} {path : Path}

theorem failAt_adds (h : response.presentation.Plain) (required : Bool) (message : String) :
    (failAt response path required message).Adds fun t es =>
      t = .failed required ∧ Accounts path t es := by
  refine Work.Adds.bind (response.adds_addError h rfl) fun _ es hes => .pure ⟨rfl, ?_⟩
  rw [List.append_nil]
  exact accounts_of_failure rfl hes

theorem failAt_typed (h : response.presentation.Plain) (type : TypeRef) (message : String) :
    (failAt response path type.isRequired message).Adds fun t es =>
      t.Typed s d values type sets ∧ Accounts path t es :=
  (failAt_adds h _ message).mono fun _ _ ht => ⟨ht.1 ▸ .failed type sets, ht.2⟩

theorem observeItems_adds {observe : Path → Resolved → Work Position}
    {P : Position → Prop} {items : List Resolved}
    (h : ∀ r ∈ items, ∀ path, (observe path r).Adds fun t es => P t ∧ Accounts path t es) (i : Nat) :
    (observeItems observe path items i).Adds fun ts es =>
      (∀ t ∈ ts, P t) ∧ ∀ q ∈ Position.itemFailures i ts, ∃ e ∈ es, e.path = some (path ++ q) := by
  induction items generalizing i with
  | nil => exact .pure ⟨fun _ h => (nomatch h), fun _ h => (nomatch h)⟩
  | cons first rest ih =>
      refine (h first List.mem_cons_self _).bind fun found es hfound => ?_
      obtain ⟨hp, he⟩ := hfound
      -- the failures of the first item, seen from the list
      have hfirst : ∀ q ∈ found.failures.map (.index i :: ·), ∃ e ∈ es, e.path = some (path ++ q) := by
        intro q hq
        obtain ⟨r, hr, rfl⟩ := List.mem_map.mp hq
        obtain ⟨e, hm, hpath⟩ := he r hr
        exact ⟨e, hm, by rw [hpath, List.append_assoc]; rfl⟩
      split
      · -- nothing stays of the item, and the others are not looked at
        refine .pure ⟨fun t ht => List.mem_singleton.mp ht ▸ hp, ?_⟩
        simpa [Position.itemFailures] using hfirst
      · refine (ih (fun r hr => h r (List.mem_cons_of_mem _ hr)) (i + 1)).bind
          fun others more hothers => .pure ?_
        obtain ⟨hps, hes⟩ := hothers
        refine ⟨fun t ht => ?_, fun q hq => ?_⟩
        · rcases List.mem_cons.mp ht with rfl | ht
          · exact hp
          · exact hps t ht
        · rw [List.append_nil]
          rcases List.mem_append.mp hq with hq | hq
          · obtain ⟨e, hm, hpath⟩ := hfirst q hq
            exact ⟨e, List.mem_append_left _ hm, hpath⟩
          · obtain ⟨e, hm, hpath⟩ := hes q hq
            exact ⟨e, List.mem_append_right _ hm, hpath⟩

theorem coerceScalar_ne_null {type : String} {v w : Json} (hv : v ≠ .null)
    (h : coerceScalar type v = .ok w) : w ≠ .null := by
  unfold coerceScalar at h
  split at h
  · split at h
    · cases h; simp
    · split at h
      · cases h; exact hv
      · cases h
  · split at h
    · cases h; exact hv
    · cases h

theorem coerceLeaf_ne_null {type : TypeDefinition} {v w : Json} (hv : v ≠ .null)
    (h : coerceLeaf type v = .ok w) : w ≠ .null := by
  rw [coerceLeaf] at h
  split at h
  · exact coerceScalar_ne_null hv h
  · split at h
    · split at h
      · cases h; exact hv
      · cases h
    · cases h
  · cases h
  · cases h

theorem completeLeaf_adds (h : response.presentation.Plain) (name : String) {v : Json}
    (hv : v ≠ .null) :
    (completeLeaf s response name path v).Adds fun found es =>
      (∀ w, found = some w → w ≠ .null) ∧ (found = none → es.map (·.path) = [some path]) := by
  have hraise : ∀ message, (raise (α := Json) response path message).Adds fun found es =>
      (∀ w, found = some w → w ≠ .null) ∧ (found = none → es.map (·.path) = [some path]) :=
    fun message => (response.adds_addError h rfl).bind fun _ es hes =>
      .pure ⟨fun _ hw => (by cases hw), fun _ => by rw [List.append_nil]; exact hes⟩
  rw [completeLeaf]
  split
  · exact hraise _
  · split
    · rename_i hw
      exact .pure ⟨fun _ he => Option.some.inj he ▸ coerceLeaf_ne_null hv hw, fun hn => (by cases hn)⟩
    · exact hraise _

theorem observe_leaf_adds (h : response.presentation.Plain) {execute : ObserveObject}
    (type : TypeRef) (v : Json) :
    (observe s response execute type path (.leaf v)).Adds fun t es =>
      t.Typed s d values type sets ∧ Accounts path t es := by
  by_cases hv : v = .null
  · subst hv
    rw [observe]
    split
    · rename_i hr
      rw [← hr]
      exact failAt_typed h type _
    · rename_i hr
      exact .pure ⟨.null (Bool.eq_false_iff.mpr hr), accounts_of_nil rfl⟩
  · cases type with
    | named name required =>
        rw [observe_leaf_named hv]
        refine Work.Adds.map ((completeLeaf_adds h name hv).mono fun found es hfound => ?_)
        cases found with
        | some w => exact ⟨.leaf (hfound.1 w rfl), accounts_of_nil rfl⟩
        | none => exact ⟨.failed (.named name required) sets, accounts_of_failure rfl (hfound.2 rfl)⟩
    | list item required =>
        rw [observe_leaf_list hv]
        exact failAt_typed h (.list item required) _

/-- **A value is accounted for**, if the objects in it are: what is observed is after the type, and
every failure in it has an error. -/
theorem observe_adds (h : response.presentation.Plain) {execute : ObserveObject}
    (hexec : ∀ name required type object path, (Resolved.object object).Tame →
      (execute required type object path).Adds fun t es =>
        t.Typed s d values (.named name required) sets ∧ Accounts path t es)
    (type : TypeRef) {r : Resolved} (hr : r.Tame) (path : Path) :
    (observe s response execute type path r).Adds fun t es =>
      t.Typed s d values type sets ∧ Accounts path t es := by
  induction type generalizing r path with
  | named name required =>
      cases hr with
      | leaf v => exact observe_leaf_adds h _ v
      | list => exact failAt_typed h (.named name required) _
      | object adds fails gives =>
          rw [observe, observeObject]
          split
          · exact failAt_typed h (.named name required) _
          · split
            · exact hexec name required _ _ path (.object adds fails gives)
            · exact failAt_typed h (.named name required) _
  | list item required ih =>
      cases hr with
      | leaf v => exact observe_leaf_adds h _ v
      | object => exact failAt_typed h (.list item required) _
      | list hr =>
          rw [observe]
          refine Work.Adds.map ?_
          refine (observeItems_adds (fun r hm path => ih (hr r hm) path) 0).mono
            fun ts es hts => ?_
          exact ⟨.list hts.1, hts.2⟩

/-! ### Fields -/

/-- What a resolver leads to: a tame value, or an error at the path of the field. -/
theorem Run.resolveField_adds (x : Run) (h : x.response.presentation.Plain)
    (hx : ∀ mw ∈ x.fields, FieldMiddleware.Tame mw) {object : ObjectValue Resolved}
    (ho : (Resolved.object object).Tame) (c : FieldContext) :
    (x.resolveField object c).Adds fun found es =>
      (∀ r, found = some r → r.Tame) ∧ (found = none → ∃ e ∈ es, e.path = some c.path) := by
  -- the innermost of the middleware only reports errors, and so do those around it
  have hend : ∀ c : FieldContext, (object.call c).Reports FieldResult.Tame :=
    fun c => (Work.reports_record _).bind fun _ _ => ho.reports c
  refine (Chain.reports_run hx hend c).hold.bind fun outcome es hout => ?_
  cases outcome with
  | error panic =>
      refine (x.response.adds_recover h).bind fun e more he => ?_
      refine Work.Adds.bind (P := fun _ es => es = [e]) (Work.adds_push rfl) fun _ es' hes' => ?_
      subst hes'
      exact .pure ⟨fun _ hr => (nomatch hr), fun _ => ⟨e, by simp, he.1⟩⟩
  | ok result =>
      cases result with
      | ok r =>
          exact .pure ⟨fun _ hr => Option.some.inj hr ▸ hout (.ok r) rfl, fun hn => (nomatch hn)⟩
      | error failure =>
          refine (x.response.adds_addError h (hout (.error failure) rfl)).bind fun _ more hmore => ?_
          obtain ⟨e, rfl, he⟩ := List.map_eq_singleton_iff.mp hmore
          exact .pure ⟨fun _ hr => (nomatch hr), fun _ => ⟨e, by simp, he⟩⟩

theorem Run.observeField_adds (x : Run) (h : x.response.presentation.Plain)
    (hx : ∀ mw ∈ x.fields, FieldMiddleware.Tame mw)
    {execute : Path → List (List ExecutableSelection) → ObserveObject}
    (hexec : ∀ path sets name required type object here, (Resolved.object object).Tame →
      (execute path sets required type object here).Adds fun t es =>
        t.Typed x.schema d x.values (.named name required) sets ∧ Accounts here t es)
    (parent? : Option Path) (type : TypeDefinition) {object : ObjectValue Resolved}
    (ho : (Resolved.object object).Tame) (path : Path) (first : CollectedField)
    (fields : List CollectedField) :
    (x.observeField execute parent? type object path first fields).Adds fun t es =>
      t.TypedField x.schema d x.values first.head (fields.map (·.selections)) ∧
        Accounts path t es := by
  rw [observeField]
  split
  · rename_i hname
    exact .pure ⟨.typename _ hname, accounts_of_nil rfl⟩
  · split
    · rename_i hintro
      split
      · exact .pure ⟨.told _ (by simp_all), accounts_of_nil rfl⟩
      · exact (failAt_typed h _ _).mono fun _ _ ht => ⟨.value ht.1, ht.2⟩
    · split
      · refine (x.response.adds_addError h rfl).bind fun _ es hes => .pure ⟨.lacking _ _, ?_⟩
        rw [List.append_nil]
        exact accounts_of_failure rfl hes
      · refine (x.resolveField_adds h hx ho _).bind fun found es hfound => ?_
        cases found with
        | none =>
            refine .pure ⟨.value (.failed _ _), fun q hq => ?_⟩
            obtain ⟨e, hm, hp⟩ := hfound.2 rfl
            rw [Position.failures, List.mem_singleton] at hq
            exact ⟨e, List.mem_append_left _ hm, by rw [hp, hq, List.append_nil]; rfl⟩
        | some r =>
            refine (observe_adds h (hexec path _) _ (hfound.1 r rfl) path).mono fun t more ht => ?_
            refine ⟨.value ht.1, fun q hq => ?_⟩
            obtain ⟨e, hm, hp⟩ := ht.2 q hq
            exact ⟨e, List.mem_append_right _ hm, hp⟩

/-- What holds of each observed field holds of all of them, and none is left out. -/
theorem Run.observeGroups_adds
    {observe : String → CollectedField → List CollectedField → Work Position}
    {P : CollectedField → List CollectedField → Position → Prop}
    (h : ∀ key first rest, (observe key first (first :: rest)).Adds fun t es =>
      P first rest t ∧ Accounts (path ++ [.key key]) t es)
    {groups : FieldGroups} (hne : ∀ g ∈ groups, g.2 ≠ []) :
    (observeGroups observe groups).Adds fun fs es =>
      fs.map Prod.fst = groups.map Prod.fst ∧
      (∀ f ∈ fs, ∃ first rest, (f.1, first :: rest) ∈ groups ∧ P first rest f.2) ∧
      ∀ q ∈ Position.fieldFailures fs, ∃ e ∈ es, e.path = some (path ++ q) := by
  induction groups with
  | nil => exact .pure ⟨rfl, fun _ h => (nomatch h), fun _ h => (nomatch h)⟩
  | cons g groups ih =>
      obtain ⟨key, _ | ⟨first, rest⟩⟩ := g
      · exact absurd rfl (hne _ List.mem_cons_self)
      refine (h key first rest).bind fun t es ht => ?_
      refine (ih fun g hg => hne g (List.mem_cons_of_mem _ hg)).bind fun fs more hfs => .pure ?_
      -- what is known of the first field stays, with the errors of the others behind its own
      obtain ⟨hp, he⟩ := ht
      obtain ⟨hkeys, hps, hes⟩ := hfs
      refine ⟨by rw [List.map_cons, hkeys, List.map_cons], fun f hf => ?_, fun q hq => ?_⟩
      · rcases List.mem_cons.mp hf with rfl | hf
        · exact ⟨first, rest, List.mem_cons_self, hp⟩
        · obtain ⟨first', rest', hm, hp'⟩ := hps f hf
          exact ⟨first', rest', List.mem_cons_of_mem _ hm, hp'⟩
      · rw [List.append_nil]
        rcases List.mem_append.mp hq with hq | hq
        · obtain ⟨r, hr, rfl⟩ := List.mem_map.mp hq
          obtain ⟨e, hm, hpath⟩ := he r hr
          exact ⟨e, List.mem_append_left _ hm, by rw [hpath, List.append_assoc]; rfl⟩
        · obtain ⟨e, hm, hpath⟩ := hes q hq
          exact ⟨e, List.mem_append_right _ hm, hpath⟩

/-- **An object is accounted for**: it has the fields that are collected, each of them after its
definition, and every failure in it has an error. -/
theorem Run.observeSelections_adds (x : Run) (h : x.response.presentation.Plain)
    (hx : ∀ mw ∈ x.fields, FieldMiddleware.Tame mw) (fuel : Nat) (parent? : Option Path)
    (sets : List (List ExecutableSelection)) (name : String) (required : Bool)
    (type : TypeDefinition) {object : ObjectValue Resolved} (path : Path)
    (ho : (Resolved.object object).Tame) :
    (x.observeSelections fuel parent? sets required type object path).Adds fun t es =>
      t.Typed x.schema x.document x.values (.named name required) sets ∧ Accounts path t es := by
  induction fuel generalizing parent? sets name required type object path with
  | zero => exact failAt_typed h (.named name required) _
  | succ fuel ih =>
      refine Work.Adds.map ?_
      have hfield := fun key first rest => x.observeField_adds (d := x.document) h hx
        (fun path sets name required type object here ho =>
          ih (some path) sets name required type here ho)
        parent? type ho (path ++ [.key key]) first (first :: rest)
      refine (observeGroups_adds hfield fun g hg => (mem_collect hg).1).mono fun fs es hfs => ?_
      obtain ⟨hkeys, hfs, hes⟩ := hfs
      refine ⟨.object hkeys fun f hf first rest hg => ?_, hes⟩
      obtain ⟨first', rest', hg', ht⟩ := hfs f hf
      cases collect_unique hg' hg
      exact ht

end

/-! ### Operations -/

section

variable {service : Service} {fields : Chain Work FieldContext FieldResult}
  {response : ResponseContext} {d : Executable} {o : Operation FieldDefinition}
  {root : ObjectValue Resolved}

theorem introspect_adds (h : response.presentation.Plain) :
    (introspect service response d o).Adds fun _ _ => True := by
  rw [introspect]
  split
  · exact .pure trivial
  · refine (Work.Adds.forM (fun message => ?_) _).bind fun _ _ _ => .pure trivial
    exact (response.adds_addError h rfl).mono fun _ _ _ => trivial

/-- **Failures are accounted for**: an operation is observed whatever the resolvers do, its
positions are after the types of the selected fields, and every failure has an error. -/
theorem observeOperation_adds (h : response.presentation.Plain)
    (hfields : ∀ mw ∈ fields, FieldMiddleware.Tame mw) (hroot : (Resolved.object root).Tame)
    (hs : HasRoot service.schema o.type) :
    (observeOperation service fields response d o root).Adds fun t es =>
      t.Typed service.schema d response.operation.variableValues
        (.named ((service.schema.root? o.type).getD "") false) [o.selections] ∧
      Accounts [] t es := by
  obtain ⟨type, -, -, heq⟩ := hs.observeOperation_eq
  rw [heq]
  refine (introspect_adds h).bind fun introspection es _ => ?_
  refine (Run.observeSelections_adds
    { service, response, document := d, fields, introspection } h hfields _ none
    [o.selections] ((service.schema.root? o.type).getD "") false type [] hroot).mono
    fun t more ht => ⟨ht.1, fun q hq => ?_⟩
  obtain ⟨e, hm, hp⟩ := ht.2 q hq
  exact ⟨e, List.mem_append_right _ hm, hp⟩

end

/-! ### Data -/

/-- How the data of some positions is accounted for by errors. -/
structure Accounted (s : Schema) (d : Executable) (values : Json.Members) (t : Position)
    (data : Json) (errors : List Error) : Prop where
  /-- There is no `null` where the type admits none. -/
  required : ∀ p u, t.at? p = some u → u.required true = true → data.getAt p ≠ some .null
  /-- A `null` was resolved, or an error was met at the position or below it. -/
  nulls : ∀ p u, t.at? p = some u → data.getAt p = some .null →
    u = .null ∨ u = .told .null ∨ ∃ e ∈ errors, ∃ q, e.path = some q ∧ p <+: q
  /-- Without errors every position is as it was found. -/
  complete : errors = [] → ∀ p u, t.at? p = some u → ∃ v, data.getAt p = some v ∧ u.IsKept v
  /-- Without errors an object has the keys that are collected, in their order. -/
  keys : errors = [] → ∀ p r type sets fields, t.at? p = some (.object r type sets fields) →
    ∃ members, data.getAt p = some (.object members) ∧
      members.map Prod.fst = (collect s d type (Conditions.strict values) sets).map Prod.fst

namespace Position

variable {s : Schema} {d : Executable} {values : Json.Members} {type : TypeRef}
  {sets : List (List ExecutableSelection)}

theorem failures_of_at? {t u : Position} (h : t.Distinct) {p : Path} (hp : t.at? p = some u)
    (hu : u.isFailure = true) : p ∈ t.failures := by
  induction p generalizing t with
  | nil => cases hp; exact nil_mem_failures.mpr hu
  | cons e r ih =>
      obtain ⟨c, hc, hr⟩ := Option.bind_eq_some_iff.mp hp
      exact (cons_mem_failures h).mpr ⟨c, hc, ih (h.child hc) hr⟩

/-- A failure turns a position around it into `null`, unless the whole tree sinks. -/
theorem nulled_of_failure {t : Position} {strict : Bool} (hs : ¬ t.Sinks strict) {q : Path}
    (hq : q ∈ t.failures) : ∃ p, p <+: q ∧ t.nulled strict p = true := by
  cases hi : innermost? strict q t with
  | none => exact absurd ⟨q, hq, hi⟩ hs
  | some p => exact ⟨p, (innermost?_some hi).1, nulled_iff.mpr ⟨q, hq, hi⟩⟩

/-- What is at a position that is `null` in the data: it is nulled, a `null` that was resolved, or a
failure that admits `null`. -/
theorem shown_null {t u : Position} (hd : t.Distinct) (hs : ¬ t.Sinks true)
    (ht : t.IsTyped s d values) {p : Path} (hp : t.at? p = some u)
    (hv : (t.shown (t.nulled true)).getAt p = some .null) :
    t.nulled true p = true ∨ u = .null ∨ u = .told .null ∨
      (u.isFailure = true ∧ u.required true = false) := by
  by_cases hn : t.nulled true p = true
  · exact .inl hn
  have hbelow := not_nulled_of_getAt hp hv
  rw [shown_getAt hp hbelow, Option.some.injEq] at hv
  have hn' : t.nulled true (p ++ []) = false := by
    rw [List.append_nil]; exact Bool.eq_false_iff.mpr hn
  have hfail : u.isFailure = true → u.required true = false := by
    -- the position nulled by the failure is the failure's own, as none around it is nulled
    intro hu
    obtain ⟨p', hp', hz⟩ := nulled_of_failure hs (failures_of_at? hd hp hu)
    by_cases heq : p' = p
    · exact absurd (heq ▸ hz) hn
    · rw [hbelow p' hp' heq] at hz
      cases hz
  cases u with
  | null => exact .inr (.inl rfl)
  | told v =>
      rw [shown, hn'] at hv
      exact .inr (.inr (.inl (congrArg _ hv)))
  | leaf r v =>
      rw [shown, hn'] at hv
      exact absurd hv (ht.at hp).leaf_ne_null
  | failed r => exact .inr (.inr (.inr ⟨rfl, hfail rfl⟩))
  | lacking r => exact .inr (.inr (.inr ⟨rfl, hfail rfl⟩))
  | list r items =>
      rw [shown, hn'] at hv
      cases hv
  | object r type sets fields =>
      rw [shown, hn'] at hv
      cases hv

/-- There is no `null` where the type of a position admits none. -/
theorem getAt_ne_null {t u : Position} (hd : t.Distinct) (hs : ¬ t.Sinks true)
    (ht : t.IsTyped s d values) {p : Path} (hp : t.at? p = some u) (hu : u.required true = true) :
    (t.shown (t.nulled true)).getAt p ≠ some .null := by
  intro hv
  rcases shown_null hd hs ht hp hv with hz | rfl | rfl | ⟨-, hf⟩
  · obtain ⟨q, -, hi⟩ := nulled_iff.mp hz
    obtain ⟨-, u', hu', hr'⟩ := innermost?_some hi
    cases hp.symm.trans hu'
    rw [hr'] at hu
    cases hu
  · cases hu
  · cases hu
  · rw [hf] at hu
    cases hu

end Position

/-- **Errors account for nulls**: if every failure of typed positions has an error, so has every
`null` of the data that was not resolved. -/
theorem accounted_of_typed {s : Schema} {d : Executable} {values : Json.Members} {t : Position}
    {type : TypeRef} {sets : List (List ExecutableSelection)} {errors : List Error}
    (ht : t.Typed s d values type sets) (hr : t.required true = false)
    (he : Accounts [] t errors) : Accounted s d values t (t.settle.getD .null) errors := by
  have hd : t.Distinct := ht.distinct
  have hs : ¬ t.Sinks true := fun hs => by simp [((Position.sinks_iff hd).mp hs).1] at hr
  have hdata : t.settle.getD .null = t.shown (t.nulled true) := by
    rw [Position.settle_of_not_required hd hr]; rfl
  rw [hdata]
  have hkept : errors = [] → ∀ p u, t.at? p = some u →
      ∃ v, (t.shown (t.nulled true)).getAt p = some v ∧ u.IsKept v := by
    intro hnone p u hp
    refine Position.shown_keeps hp fun q _ => Bool.eq_false_iff.mpr fun hz => ?_
    obtain ⟨q, hq, -⟩ := Position.nulled_iff.mp hz
    obtain ⟨e, hm, -⟩ := he q hq
    rw [hnone] at hm
    cases hm
  refine ⟨fun p u hp hu => Position.getAt_ne_null hd hs (.inl ⟨_, _, ht⟩) hp hu, fun p u hp hv => ?_,
    hkept, fun hnone p r concrete sets fields hp => ?_⟩
  · rcases Position.shown_null hd hs (.inl ⟨_, _, ht⟩) hp hv with hz | rfl | rfl | ⟨hf, -⟩
    · obtain ⟨q, hq, hi⟩ := Position.nulled_iff.mp hz
      obtain ⟨e, hm, hpath⟩ := he q hq
      exact .inr (.inr ⟨e, hm, q, hpath, (Position.innermost?_some hi).1⟩)
    · exact .inl rfl
    · exact .inr (.inl rfl)
    · obtain ⟨e, hm, hpath⟩ := he p (Position.failures_of_at? hd hp hf)
      exact .inr (.inr ⟨e, hm, p, hpath, List.prefix_rfl⟩)
  · obtain ⟨v, hv, members, rfl, hkeys⟩ := hkept hnone p _ hp
    exact ⟨members, hv, hkeys.trans (Position.IsTyped.at (.inl ⟨_, _, ht⟩) hp).keys⟩

/-- **No data is lost in silence.**  Whatever tame resolvers do, an operation has data, and the
errors it reports account for every `null` in it; the positions that it has are after the types of
the selected fields. -/
theorem executeOperation_accounted {service : Service}
    {fields : Chain Work FieldContext FieldResult} {response : ResponseContext} {d : Executable}
    {o : Operation FieldDefinition} {root : ObjectValue Resolved}
    (h : response.presentation.Plain) (hfields : ∀ mw ∈ fields, FieldMiddleware.Tame mw)
    (hroot : (Resolved.object root).Tame) (hs : HasRoot service.schema o.type) (x : Exchange) :
    ∃ t y errors,
      observeOperation service fields response d o root x = (.ok t, y) ∧
      executeOperation service fields response d o root x = (.ok (t.settle.getD .null), y) ∧
      y.errors = x.errors ++ errors ∧
      t.Typed service.schema d response.operation.variableValues
        (.named ((service.schema.root? o.type).getD "") false) [o.selections] ∧
      Accounted service.schema d response.operation.variableValues t (t.settle.getD .null)
        errors := by
  obtain ⟨t, y, errors, hobs, herr, ht, hacc⟩ := observeOperation_adds h hfields hroot hs x
  refine ⟨t, y, errors, hobs, ?_, herr, ht, ?_⟩
  · rw [executeOperation_eq]
    exact Work.map_ok hobs
  · refine accounted_of_typed ht ?_ hacc
    cases ht <;> rfl

/-- A service whose only field admits no `null` and panics. -/
def panicking : Service where
  schema :=
    { types := [⟨"Query", none, [], .object [] [{ name := "a", type := .named "Int" true }]⟩]
      directives := [], query := some "Query" }
  query := ⟨"Query", fun _ => true, fun _ => true, fun _ x => (.error .other, x)⟩

/-- The query for that field. -/
def panickingQuery : Operation FieldDefinition where
  type := .query
  name := none
  variableDefinitions := []
  directives := []
  selections :=
    [.field ⟨none, ⟨"a", 2⟩, [], [], 2, { name := "a", type := .named "Int" true }⟩ []]
  place := 0

/-- When the field panics there is no data, and one error, at the field. -/
theorem executeOperation_accounted_panicking :
    Presentation.standard.Plain ∧ (Resolved.object panicking.query).Tame ∧
      HasRoot panicking.schema panickingQuery.type ∧
    ∃ t y errors,
      observeOperation panicking [] ⟨{}, .standard⟩ { anonymous := panickingQuery } panickingQuery
        panicking.query {} = (.ok t, y) ∧
      executeOperation panicking [] ⟨{}, .standard⟩ { anonymous := panickingQuery } panickingQuery
        panicking.query {} = (.ok (t.settle.getD .null), y) ∧
      y.errors = [] ++ errors ∧
      t.Typed panicking.schema { anonymous := panickingQuery } [] (.named "Query" false)
        [panickingQuery.selections] ∧
      Accounted panicking.schema { anonymous := panickingQuery } [] t (t.settle.getD .null)
        errors ∧
      t.settle.getD .null = .null ∧ errors.map (·.path) = [some [.key "a"]] := by
  have hroot : (Resolved.object panicking.query).Tame :=
    .object (fun _ _ => List.prefix_rfl) (fun _ _ _ h => by cases h) (fun _ _ _ h => by cases h)
  have hs : HasRoot panicking.schema panickingQuery.type := ⟨_, rfl, rfl⟩
  obtain ⟨t, y, errors, hobserve, hexecute, herrors, htyped, haccounted⟩ :=
    @executeOperation_accounted panicking [] ⟨{}, .standard⟩ { anonymous := panickingQuery }
      panickingQuery panicking.query Presentation.plain_standard (List.forall_mem_nil _) hroot hs {}
  have hdata : Except.ok (t.settle.getD .null) = Except.ok .null :=
    (congrArg Prod.fst hexecute).symm
  have hpaths : y.errors.map (·.path) = [some [.key "a"]] :=
    congrArg (fun z => z.2.errors.map (·.path)) hexecute.symm
  rw [herrors] at hpaths
  exact ⟨Presentation.plain_standard, hroot, hs, t, y, errors, hobserve, hexecute, herrors, htyped,
    haccounted, Except.ok.inj hdata, hpaths⟩

end GraphServe.Execution
