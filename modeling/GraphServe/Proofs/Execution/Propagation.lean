import GraphServe.Proofs.Execution.Lacking
import GraphServe.Proofs.Execution.Reference
import GraphServe.Proofs.Execution.Searching
import GraphServe.Proofs.Validation.Acyclic

/-!
# How nulls propagate

Without middleware around fields, and with steady resolvers, what execution observes is known
beforehand: it is the tree of positions by themselves, cut where items of lists are not looked at,
and the errors are those of the failures in it, in their order (`Records`).  The bound on nested
selections is never met, as valid documents are acyclic.

* **Execution follows the positions** (`observeOperation_records`).
* **Nulls bubble** (`executeOperation_bubbles`): the data is that of the positions with the innermost
  nullable position around each failure turned into `null`, where a field that its object lacks
  counts as one that admits none.  This is the data with all fields taken after their types exactly
  if no lacking field that admits `null` shows.
* **Panics are failures** (`referenceOf_alike`): a panic in place of a failure changes neither the
  data nor the paths of the errors.
-/

namespace GraphServe.Execution

open Document

/-! ### Execution follows the positions -/

/-- What is observed at a path is a tree but for what is not looked at, and the errors are those of
its failures. -/
def Records (path : Path) (t u : Position) (errors : List Error) : Prop :=
  u = t.cut ∧ errors.map (·.path) = u.failures.map fun q => some (path ++ q)

section

variable {s : Schema} {response : ResponseContext} {path : Path}

theorem failAt_records (h : response.presentation.Plain) (required : Bool) (message : String) :
    (failAt response path required message).Adds (Records path (.failed required)) := by
  refine Work.Adds.bind (response.adds_addError h rfl) fun _ es hes => .pure ⟨rfl, ?_⟩
  rw [List.append_nil, hes, Position.failures, List.map_singleton, List.append_nil]

end

namespace Setting

variable (x : Setting) {field : Selected}

theorem completeLeaf_records (h : x.response.presentation.Plain) (name : String) (path : Path)
    (v : Json) :
    (completeLeaf x.schema x.response name path v).Adds fun found es =>
      found = x.leafOf name v ∧
        es.map (·.path) = if found.isSome then [] else [some path] := by
  have hraise : ∀ message, (raise (α := Json) x.response path message).Adds fun found es =>
      found = none ∧ es.map (·.path) = if found.isSome then [] else [some path] := fun message =>
    (x.response.adds_addError h rfl).bind fun _ es hes =>
      .pure ⟨rfl, by rw [List.append_nil]; exact hes⟩
  rw [completeLeaf, leafOf]
  cases x.schema.type? name with
  | none => exact hraise _
  | some type =>
      simp only [Option.map_some]
      cases coerceLeaf type v with
      | error message => exact hraise _
      | ok w => exact .pure ⟨rfl, rfl⟩

theorem positionOf_null (type : TypeRef) (path : Path) :
    x.positionOf (.leaf .null) field type path =
      if type.isRequired then .failed true else .null := by
  cases type <;> rfl

theorem positionOf_leaf {v : Json} (hv : v ≠ .null) (name : String) (required : Bool) (path : Path) :
    x.positionOf (.leaf v) field (.named name required) path =
      .ofLeaf required (x.leafOf name v) := by
  cases v <;> first | exact absurd rfl hv | rfl

theorem positionOf_single {v : Json} (item : TypeRef) (hv : v ≠ .null) (required : Bool)
    (path : Path) : x.positionOf (.leaf v) field (.list item required) path = .failed required := by
  cases v <;> first | exact absurd rfl hv | rfl

theorem observe_leaf_records (h : x.response.presentation.Plain) {execute : ObserveObject}
    (type : TypeRef) (path : Path) (v : Json) :
    (observe x.schema x.response execute type path (.leaf v)).Adds
      (Records path (x.positionOf (.leaf v) field type path)) := by
  by_cases hv : v = .null
  · subst hv
    rw [observe, positionOf_null]
    split
    · exact failAt_records h true _
    · exact .pure ⟨rfl, rfl⟩
  · cases type with
    | list item required =>
        rw [x.positionOf_single item hv, observe_leaf_list hv]
        exact failAt_records h required _
    | named name required =>
        rw [x.positionOf_leaf hv, observe_leaf_named hv]
        refine Work.Adds.map ((x.completeLeaf_records h name path v).mono fun found es hfound => ?_)
        obtain ⟨rfl, hes⟩ := hfound
        cases hleaf : x.leafOf name v with
        | some w => exact ⟨rfl, by rw [hes, hleaf]; rfl⟩
        | none =>
            refine ⟨rfl, ?_⟩
            rw [hes, hleaf, Position.ofLeaf, Position.failures, List.map_singleton, List.append_nil]
            rfl

theorem observeItems_records {observe : Path → Resolved → Work Position} {type : TypeRef}
    {items : List Resolved}
    (h : ∀ r ∈ items, ∀ path, (observe path r).Adds (Records path (x.positionOf r field type path)))
    (path : Path) (i : Nat) :
    (observeItems observe path items i).Adds fun us es =>
      us = Position.cutItems (x.itemsOf items field type path i) ∧
      es.map (·.path) = (Position.itemFailures i us).map fun q => some (path ++ q) := by
  induction items generalizing i with
  | nil => exact .pure ⟨rfl, rfl⟩
  | cons first rest ih =>
      refine (h first List.mem_cons_self _).bind fun found es hfound => ?_
      obtain ⟨rfl, hes⟩ := hfound
      -- the failures of the first item, seen from the list
      have hfirst : es.map (·.path) =
          ((x.positionOf first field type (path ++ [.index i])).cut.failures.map
            (.index i :: ·)).map fun q => some (path ++ q) := by
        rw [hes, List.map_map]
        refine List.map_congr_left fun q _ => ?_
        rw [Function.comp_apply, List.append_assoc]
        rfl
      rw [itemsOf, Position.cutItems, Position.settle_cut]
      split
      · refine .pure ⟨rfl, ?_⟩
        rw [List.append_nil, Position.itemFailures, Position.itemFailures, List.append_nil]
        exact hfirst
      · refine (ih (fun r hr => h r (List.mem_cons_of_mem _ hr)) (i + 1)).bind
          fun others more hothers => .pure ?_
        obtain ⟨rfl, hmore⟩ := hothers
        refine ⟨rfl, ?_⟩
        rw [List.append_nil, List.map_append, hfirst, hmore, Position.itemFailures, List.map_append]

/-- **Values are as they are by themselves**, if the objects in them are. -/
theorem observe_records (field : Selected) (h : x.response.presentation.Plain) {execute : ObserveObject}
    (hexec : ∀ required type object path, (Resolved.object object).Steady →
      (execute required type object path).Adds (Records path (.object required type.name field.sets
        (x.fieldsOf object (some field.path) type path field.sets))))
    {r : Resolved} (hr : r.Steady) (type : TypeRef) (path : Path) :
    (observe x.schema x.response execute type path r).Adds
      (Records path (x.positionOf r field type path)) := by
  induction type generalizing r path with
  | named name required =>
      cases hr with
      | leaf v => exact x.observe_leaf_records h _ path v
      | list => exact failAt_records h required _
      | @object o same quiet fails gives =>
          rw [observe, observeObject, positionOf]
          cases x.schema.type? name with
          | none => exact failAt_records h required _
          | some type =>
              simp only [Option.map_some]
              cases concreteType x.schema type o.typeName with
              | error message => exact failAt_records h required _
              | ok concrete => exact hexec required concrete o path (.object same quiet fails gives)
  | list item required ih =>
      cases hr with
      | leaf v => exact x.observe_leaf_records h _ path v
      | object => exact failAt_records h required _
      | list hr =>
          rw [observe, positionOf]
          refine Work.Adds.map ?_
          refine (x.observeItems_records (fun r hm path => ih (hr r hm) path) path 0).mono
            fun us es hus => ?_
          obtain ⟨rfl, hes⟩ := hus
          exact ⟨rfl, hes⟩

end Setting

namespace Run

variable (x : Run)

theorem resolveField_records (h : x.response.presentation.Plain) (hx : x.fields = [])
    {object : ObjectValue Resolved} (ho : (Resolved.object object).Steady) (c : FieldContext) :
    (x.resolveField object c).Adds fun found es =>
      (∀ r, object.outcome c = .ok (.ok r) → found = some r ∧ es = []) ∧
      ((∀ r, object.outcome c ≠ .ok (.ok r)) →
        found = none ∧ es.map (·.path) = [some c.path]) := by
  cases ho with
  | object same quiet fails gives =>
      -- without middleware the resolver itself is run, as its outcome says
      have hend : (Work.hold (object.call c)).Adds fun outcome es =>
          outcome = object.outcome c ∧ es = [] := by
        intro z
        refine ⟨_, _, [], rfl, ?_, same c _, rfl⟩
        rw [List.append_nil]
        exact quiet c _
      rw [resolveField, hx]
      refine hend.bind fun outcome es hout => ?_
      obtain ⟨rfl, rfl⟩ := hout
      cases hc : object.outcome c with
      | error panic =>
          refine (x.response.adds_recover h).bind fun e more he => ?_
          refine Work.Adds.bind (P := fun _ es => es = [e]) (Work.adds_push rfl) fun _ es hes => ?_
          subst hes
          obtain ⟨hpath, rfl⟩ := he
          exact .pure ⟨fun r hr => (by cases hr), fun _ => ⟨rfl, congrArg (· :: []) hpath⟩⟩
      | ok result =>
          cases result with
          | ok r =>
              refine .pure ⟨fun r' hr => ?_, fun hr => absurd rfl (hr r)⟩
              cases hr
              exact ⟨rfl, rfl⟩
          | error failure =>
              refine (x.response.adds_addError h (fails c failure hc)).bind fun _ more hmore => ?_
              refine .pure ⟨fun r hr => (by cases hr), fun _ => ⟨rfl, ?_⟩⟩
              rw [List.append_nil]
              exact hmore

theorem observeField_records (h : x.response.presentation.Plain) (hx : x.fields = [])
    {execute : Path → List (List ExecutableSelection) → ObserveObject} (parent? : Option Path)
    (type : TypeDefinition) {object : ObjectValue Resolved} (ho : (Resolved.object object).Steady)
    (path : Path) (first : CollectedField) (fields : List CollectedField)
    (hintro : (Introspection.isField first.head.name.node && parent?.isNone) = false)
    (hexec : ∀ required type object here, (Resolved.object object).Steady →
      (execute path (fields.map (·.selections)) required type object here).Adds
        (Records here (.object required type.name (fields.map (·.selections))
          (x.setting.fieldsOf object (some path) type here (fields.map (·.selections)))))) :
    (x.observeField execute parent? type object path first fields).Adds
      (Records path (x.setting.fieldOf object parent? type path first fields)) := by
  rw [observeField, Setting.fieldOf]
  split
  · exact .pure ⟨rfl, rfl⟩
  rw [if_neg (by rw [hintro]; exact Bool.false_ne_true)]
  cases type.fields.find? (·.name = first.head.name.node) with
  | none =>
      refine (x.response.adds_addError h rfl).bind fun _ es hes => .pure ⟨rfl, ?_⟩
      rw [List.append_nil, hes, Position.failures, List.map_singleton, List.append_nil]
  | some definition =>
      dsimp only
      refine (x.resolveField_records h hx ho _).bind fun found es hfound => ?_
      obtain ⟨hgives, hfails⟩ := hfound
      cases ho with
      | object same quiet fails gives =>
          -- the resolver gives a value, or panics or fails: then there is one error, at the field
          by_cases hr : ∃ r, object.outcome
              (fieldContext x.response parent? type object path first.head definition) = .ok (.ok r)
          · obtain ⟨r, hr⟩ := hr
            obtain ⟨rfl, rfl⟩ := hgives r hr
            have hout : x.setting.outcomeOf (object.resolve
                (fieldContext x.response parent? type object path first.head definition) default) =
                fun field type path => x.setting.positionOf r field type path := by
              funext field type path
              exact x.setting.outcomeOf_gives hr field type path
            rw [show x.setting.response = x.response from rfl, hout]
            exact x.setting.observe_records ⟨path, _⟩ h hexec (gives _ r hr) _ path
          · obtain ⟨rfl, hes⟩ := hfails (not_exists.mp hr)
            rw [show x.setting.response = x.response from rfl,
              x.setting.outcomeOf_fails (not_exists.mp hr)]
            refine .pure ⟨rfl, ?_⟩
            rw [List.append_nil, hes, Position.failures, List.map_singleton, List.append_nil]
            rfl

theorem observeGroups_records (path : Path)
    (position : String → CollectedField → List CollectedField → Position)
    {observe : String → CollectedField → List CollectedField → Work Position}
    {groups : FieldGroups}
    (h : ∀ key first rest, (key, first :: rest) ∈ groups →
      (observe key first (first :: rest)).Adds
        (Records (path ++ [.key key]) (position key first (first :: rest)))) :
    (observeGroups observe groups).Adds fun us es =>
      us = Position.cutFields (groups.each position) ∧
      es.map (·.path) = (Position.fieldFailures us).map fun q => some (path ++ q) := by
  induction groups with
  | nil => exact .pure ⟨rfl, rfl⟩
  | cons g groups ih =>
      have hgroups := ih fun key first rest hg => h key first rest (List.mem_cons_of_mem _ hg)
      obtain ⟨key, _ | ⟨first, rest⟩⟩ := g
      · exact hgroups
      refine (h key first rest List.mem_cons_self).bind fun t es ht => ?_
      refine hgroups.bind fun us more hus => .pure ?_
      obtain ⟨rfl, hes⟩ := ht
      obtain ⟨rfl, hmore⟩ := hus
      refine ⟨rfl, ?_⟩
      -- the errors of the first field come first, under its key
      rw [List.append_nil, List.map_append, hes, hmore, Position.fieldFailures, List.map_append,
        List.map_map]
      congr 1
      refine List.map_congr_left fun q _ => ?_
      rw [Function.comp_apply, List.append_assoc]
      rfl

/-- **Objects are as they are by themselves**, if their selections are not nested too deeply.  At
the root, no field may tell of the schema. -/
theorem observeSelections_records (h : x.response.presentation.Plain) (hx : x.fields = [])
    {fuel : Nat} {parent? : Option Path} {sets : List (List ExecutableSelection)}
    (hnest : ∀ set ∈ sets, x.document.NestsWithin fuel set)
    (hroot : parent? = none → ∀ set ∈ sets, ∀ head inner, x.document.Occurs set head inner →
      Introspection.isField head.name.node = false)
    (required : Bool) (type : TypeDefinition) {object : ObjectValue Resolved}
    (ho : (Resolved.object object).Steady) (path : Path) :
    (x.observeSelections (fuel + 1) parent? sets required type object path).Adds
      (Records path (.object required type.name sets
        (x.setting.fieldsOf object parent? type path sets))) := by
  induction fuel generalizing parent? sets required type object path with
  | zero =>
      -- nothing is selected at all
      have hnone : collect x.schema x.document type.name (Conditions.strict x.values) sets = [] := by
        refine List.eq_nil_iff_forall_not_mem.mpr fun g hg => ?_
        obtain ⟨hne, hall⟩ := mem_collect hg
        obtain ⟨first, rest, hfirst⟩ := List.exists_cons_of_ne_nil hne
        obtain ⟨-, set, hset, hocc⟩ := hall first (hfirst ▸ List.mem_cons_self)
        exact hnest set hset _ _ hocc
      have hgroups : x.setting.groups type sets = [] := hnone
      rw [observeSelections, Setting.fieldsOf_eq, hgroups]
      dsimp only
      rw [hnone]
      exact .pure ⟨rfl, rfl⟩
  | succ fuel ih =>
      rw [observeSelections, Setting.fieldsOf_eq]
      refine Work.Adds.map ?_
      refine (observeGroups_records path (fun key first fields =>
        x.setting.fieldOf object parent? type (path ++ [.key key]) first fields)
        fun key first rest hg => ?_).mono fun us es hus => ?_
      -- each group has fields that occur in the sets, one level further in
      · obtain ⟨-, hall⟩ := mem_collect hg
        have hocc := fun f (hf : f ∈ first :: rest) => (hall f hf).2
        refine x.observeField_records h hx parent? type ho _ first (first :: rest) ?_ ?_
        · cases parent? with
          | some => exact Bool.and_false _
          | none =>
              obtain ⟨set, hset, ho⟩ := hocc first List.mem_cons_self
              rw [hroot rfl set hset _ _ ho]
              rfl
        · intro required type' object' here ho'
          refine ih (fun set hset => ?_) (fun hp => ?_) required type' ho' here
          · obtain ⟨f, hf, rfl⟩ := List.mem_map.mp hset
            obtain ⟨set, hset, ho⟩ := hocc f hf
            exact hnest set hset _ _ ho
          · cases hp
      · obtain ⟨rfl, hes⟩ := hus
        exact ⟨rfl, hes⟩

end Run

/-! ### Operations -/

/-- No root field of an operation tells of the schema. -/
def TellsNothing (d : Executable) (o : Operation FieldDefinition) : Prop :=
  ∀ head inner, d.Occurs o.selections head inner → Introspection.isField head.name.node = false

/-- The positions of an operation by themselves. -/
def referenceOf (service : Service) (response : ResponseContext) (d : Executable)
    (o : Operation FieldDefinition) (root : ObjectValue Resolved) : Position :=
  match service.schema.type? ((service.schema.root? o.type).getD "") with
  | some type => .object false type.name [o.selections]
      (Setting.fieldsOf ⟨service.schema, response, d⟩ root none type [] [o.selections])
  | none      => .failed false

section

variable {service : Service} {response : ResponseContext} {d : Executable}
  {o : Operation FieldDefinition} {root : ObjectValue Resolved}

theorem isAsked_of_tellsNothing (h : TellsNothing d o) :
    Introspection.isAsked d o.selections = false := by
  rw [Bool.eq_false_iff, Ne, Introspection.isAsked_iff]
  rintro ⟨head, inner, hocc, hfield⟩
  exact absurd ((h head inner hocc).symm.trans hfield) Bool.false_ne_true

theorem introspect_quiet (h : TellsNothing d o) :
    (introspect service response d o).Adds fun _ es => es = [] := by
  rw [introspect]
  split
  · exact .pure rfl
  · rw [Introspection.answer, isAsked_of_tellsNothing h]
    exact .pure rfl

/-- **Execution follows the positions**: an operation of a valid document observes its positions but
for what is not looked at, and reports an error at each failure, in their order. -/
theorem observeOperation_records {definitions : List Definition}
    (hd : Validation.validate service.schema definitions = .ok d) (ho : o ∈ d.allOperations)
    (hs : HasRoot service.schema o.type) (hn : TellsNothing d o)
    (h : response.presentation.Plain) (hroot : (Resolved.object root).Steady) :
    (observeOperation service [] response d o root).Adds
      (Records [] (referenceOf service response d o root)) := by
  obtain ⟨type, htype, -, heq⟩ := hs.observeOperation_eq
  rw [heq, referenceOf, htype]
  refine (introspect_quiet hn).bind fun introspection es hes => ?_
  subst hes
  refine Run.observeSelections_records
    { service, response, document := d, fields := [], introspection } h rfl (fun set hset => ?_)
    (fun _ set hset head inner hocc => ?_) false type hroot []
  · rw [List.mem_singleton.mp hset]
    exact Validation.nestsWithin_of_validate hd ho
  · rw [List.mem_singleton.mp hset] at hocc
    exact hn head inner hocc

theorem referenceOf_required (hs : HasRoot service.schema o.type) :
    (referenceOf service response d o root).required true = false := by
  obtain ⟨type, htype, -⟩ := hs
  rw [referenceOf]
  simp only [htype]
  rfl

theorem referenceOf_distinct : (referenceOf service response d o root).Distinct := by
  rw [referenceOf]
  split
  · exact Setting.fieldsOf_distinct _ (fun _ r _ => Setting.positionOf_distinct _ r) _ _ _ _ _
  · exact .failed _

/-- Operations on roots that are alike have the same positions. -/
theorem referenceOf_alike {root' : ObjectValue Resolved}
    (h : (Resolved.object root).Alike (.object root')) :
    referenceOf service response d o root = referenceOf service response d o root' := by
  rw [referenceOf, referenceOf]
  split
  · have hfields := fun parent? type path first fields =>
      Setting.fieldOf_alike ⟨service.schema, response, d⟩ h
        (fun _ r r' _ hr => Setting.positionOf_alike _ hr) parent? type path first fields
    simp only [Setting.fieldsOf_eq, hfields]
  · rfl

/-- The data and the paths of the errors of an operation of a valid document, by its positions. -/
theorem executeOperation_records {definitions : List Definition}
    (hd : Validation.validate service.schema definitions = .ok d) (ho : o ∈ d.allOperations)
    (hs : HasRoot service.schema o.type) (hn : TellsNothing d o)
    (h : response.presentation.Plain) (hroot : (Resolved.object root).Steady) (x : Exchange) :
    ∃ y errors,
      executeOperation service [] response d o root x =
        (.ok ((referenceOf service response d o root).bubbled true), y) ∧
      y.errors = x.errors ++ errors ∧
      errors.map (·.path) = (referenceOf service response d o root).cut.failures.map some := by
  obtain ⟨t, y, errors, hobs, herr, rfl, hpaths⟩ :=
    observeOperation_records hd ho hs hn h hroot x
  refine ⟨y, errors, ?_, herr, ?_⟩
  · rw [executeOperation_eq, Work.map_ok hobs, Position.settle_cut,
      Position.settle_of_not_required referenceOf_distinct (referenceOf_required hs)]
    rfl
  · rw [hpaths]
    exact List.map_congr_left fun q _ => rfl

/-- **Nulls bubble.**  The data of an operation is that of its positions with the innermost nullable
position around each failure turned into `null`; a field that its object lacks counts as one that
admits none.  So it is the data with every field after its type exactly if no lacking field that
admits `null` is outside the nulled positions.  What is not at or below a nulled position is kept,
and whether a resolver panics or fails makes no difference to the data and the paths of errors. -/
theorem executeOperation_bubbles {definitions : List Definition}
    (hd : Validation.validate service.schema definitions = .ok d) (ho : o ∈ d.allOperations)
    (hs : HasRoot service.schema o.type) (hn : TellsNothing d o)
    (h : response.presentation.Plain) (hroot : (Resolved.object root).Steady) (x : Exchange) :
    ∃ data y errors,
      executeOperation service [] response d o root x = (.ok data, y) ∧
      y.errors = x.errors ++ errors ∧
      data = (referenceOf service response d o root).bubbled true ∧
      (data = (referenceOf service response d o root).bubbled false ↔
        ¬ (referenceOf service response d o root).ShowsLacking) ∧
      (∀ p u, (referenceOf service response d o root).at? p = some u →
        (∀ q, q <+: p → (referenceOf service response d o root).nulled true q = false) →
        ∃ v, data.getAt p = some v ∧ u.IsKept v) ∧
      ∀ root', (Resolved.object root').Steady → (Resolved.object root).Alike (.object root') →
        ∃ y' errors', executeOperation service [] response d o root' x = (.ok data, y') ∧
          y'.errors = x.errors ++ errors' ∧ errors'.map (·.path) = errors.map (·.path) := by
  obtain ⟨y, errors, hexec, herr, hpaths⟩ := executeOperation_records hd ho hs hn h hroot x
  have hdistinct : (referenceOf service response d o root).Distinct := referenceOf_distinct
  -- the root admits `null`, so nothing sinks through it
  have hsinks : ¬ (referenceOf service response d o root).Sinks true := fun hsinks => by
    have hreq := ((Position.sinks_iff hdistinct).mp hsinks).1
    rw [referenceOf_required hs] at hreq
    cases hreq
  refine ⟨_, y, errors, hexec, herr, rfl, Position.bubbled_strict_iff hdistinct hsinks,
    fun p u hp hq => Position.shown_keeps hp hq, fun root' hroot' ha => ?_⟩
  obtain ⟨y', errors', hexec', herr', hpaths'⟩ :=
    executeOperation_records hd ho hs hn h hroot' x
  rw [← referenceOf_alike ha] at hexec' hpaths'
  exact ⟨y', errors', hexec', herr', hpaths'.trans hpaths.symm⟩

end

/-! ### A field that its object lacks -/

namespace Crossed

/-- A field of a type that admits `null`. -/
def nullable (name type : String) : FieldDefinition := { name, type := .named type false }

/-- Two interfaces give one field different types, and one of these does not have what is selected
of the other. -/
def schema : Schema where
  types :=
    [⟨"Int", none, [], .scalar⟩,
     ⟨"A", none, [], .interface [] [nullable "x" "Int"]⟩,
     ⟨"B", none, [], .interface [] [nullable "y" "Int"]⟩,
     ⟨"C", none, [], .object ["A", "B"] [nullable "x" "Int", nullable "y" "Int"]⟩,
     ⟨"D", none, [], .object ["A"] [nullable "x" "Int"]⟩,
     ⟨"I", none, [], .interface [] [nullable "f" "A"]⟩,
     ⟨"J", none, [], .interface [] [nullable "f" "B"]⟩,
     ⟨"T", none, [], .object ["I", "J"] [nullable "f" "C"]⟩,
     ⟨"Query", none, [], .object [] [nullable "t" "T"]⟩]
  directives := []
  query := some "Query"

/-- A selected field. -/
def selected (name : String) (place : Nat) (inner : List (Selection Unit)) : Selection Unit :=
  .field ⟨none, ⟨name, place⟩, [], [], place, ()⟩ inner

/-- A query that selects the field through both interfaces. -/
def definitions : List Definition :=
  [.operation
    { type := .query, name := none, variableDefinitions := [], directives := [], place := 0
      selections := [selected "t" 1 [
        .inline (some ⟨"I", 2⟩) [] 2 [selected "f" 3 [selected "x" 4 []]],
        .inline (some ⟨"J", 5⟩) [] 5 [selected "f" 6 [selected "y" 7 []]]]] }]

/-- The document of the query. -/
def document : Executable := (Executable.resolve schema definitions).1

/-- The query. -/
def query : Operation FieldDefinition := document.anonymous.getD default

/-- A service in which the field is of the first type, and not of the second. -/
def service : Service where
  schema := schema
  query := .uniform "Query"
    (.object (.uniform "T" (.object (.uniform "D" (.leaf (.int 1))))))

/-- The positions of the query. -/
abbrev reference : Position := referenceOf service ⟨{}, .standard⟩ document query service.query

theorem steady_query : (Resolved.object service.query).Steady :=
  .uniform (.uniform (.uniform (.leaf _)))

theorem tellsNothing_query : TellsNothing document query := by
  intro head inner h
  cases h with
  | field h => cases List.mem_singleton.mp h; rfl
  | inline h => cases List.mem_singleton.mp h
  | spread h => cases List.mem_singleton.mp h

end Crossed

/-- A query whose field `y` is lacking and admits `null`: the data is not that of the positions with
every field after its type, as the object around the field is `null` instead. -/
theorem executeOperation_not_bubbled :
    Validation.validate Crossed.service.schema Crossed.definitions = .ok Crossed.document ∧
      Crossed.query ∈ Crossed.document.allOperations ∧
      TellsNothing Crossed.document Crossed.query ∧ (Resolved.object Crossed.service.query).Steady ∧
      (executeOperation Crossed.service [] ⟨{}, .standard⟩ Crossed.document Crossed.query
        Crossed.service.query {}).1 = .ok (.object [("t", .object [("f", .null)])]) ∧
      Crossed.reference.bubbled false =
        .object [("t", .object [("f", .object [("x", .int 1), ("y", .null)])])] :=
  ⟨rfl, List.mem_cons_self, Crossed.tellsNothing_query, Crossed.steady_query, rfl, rfl⟩

/-- What the theorem says of that query. -/
theorem executeOperation_bubbles_crossed :
    Validation.validate Crossed.service.schema Crossed.definitions = .ok Crossed.document ∧
      Crossed.query ∈ Crossed.document.allOperations ∧
      HasRoot Crossed.service.schema Crossed.query.type ∧
      TellsNothing Crossed.document Crossed.query ∧ Presentation.standard.Plain ∧
      (Resolved.object Crossed.service.query).Steady ∧
    ∃ data y errors,
      executeOperation Crossed.service [] ⟨{}, .standard⟩ Crossed.document Crossed.query
        Crossed.service.query {} = (.ok data, y) ∧
      y.errors = [] ++ errors ∧ data = Crossed.reference.bubbled true ∧
      (data = Crossed.reference.bubbled false ↔ ¬ Crossed.reference.ShowsLacking) ∧
      (∀ p u, Crossed.reference.at? p = some u →
        (∀ q, q <+: p → Crossed.reference.nulled true q = false) →
        ∃ v, data.getAt p = some v ∧ u.IsKept v) ∧
      ∀ root', (Resolved.object root').Steady →
        (Resolved.object Crossed.service.query).Alike (.object root') →
        ∃ y' errors', executeOperation Crossed.service [] ⟨{}, .standard⟩ Crossed.document
            Crossed.query root' {} = (.ok data, y') ∧
          y'.errors = [] ++ errors' ∧ errors'.map (·.path) = errors.map (·.path) := by
  have hvalid : Validation.validate Crossed.service.schema Crossed.definitions =
      .ok Crossed.document := rfl
  have hroot : HasRoot Crossed.service.schema Crossed.query.type := ⟨_, rfl, rfl⟩
  exact ⟨hvalid, List.mem_cons_self, hroot, Crossed.tellsNothing_query, Presentation.plain_standard,
    Crossed.steady_query, executeOperation_bubbles hvalid List.mem_cons_self hroot
      Crossed.tellsNothing_query Presentation.plain_standard Crossed.steady_query {}⟩

end GraphServe.Execution
