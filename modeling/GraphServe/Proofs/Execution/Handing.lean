import GraphServe.Proofs.Execution.Asking
import GraphServe.Proofs.Execution.Fitting
import GraphServe.Proofs.Twins

/-!
# What resolvers are handed

A context that is `Handed` to a resolver is for a field that is collected for an object, with a
definition of the object's own and the arguments of the field after it.  No resolver is ever called
in another context, as long as the middleware around fields calls on in such contexts only.

Nothing watches a call, so this is said of two roots whose resolvers agree in the contexts of a set
(`Resolved.AgreeOn`) and may do anything in others, panic or answer differently.

* `Work.Same` relates stages that leave the same exchange behind.
* **Execution can not tell them apart** (`executeOperation_congr`) if all contexts that are handed on
  are in the set.
-/

namespace GraphServe

open Document

/-! ### Stages that do the same -/

namespace Work

variable {α β : Type} {R : α → α → Prop} {w w' : Work α}

/-- Stages that leave the same exchange behind, and give related things or panic alike. -/
def Same (R : α → α → Prop) (w w' : Work α) : Prop :=
  ∀ x, Outcome.Rel Eq R (w x).1 (w' x).1 ∧ (w x).2 = (w' x).2

namespace Same

theorem pure {a a' : α} (h : R a a') : Same R (Pure.pure a) (Pure.pure a') := fun _ => ⟨.ok h, rfl⟩

theorem refl (h : ∀ a, R a a) (w : Work α) : Same R w w := fun x => by
  refine ⟨?_, rfl⟩
  cases (w x).1 with
  | ok a => exact .ok (h a)
  | error p => exact .error rfl

theorem eq (h : Same Eq w w') : w = w' := funext fun x => Prod.ext (h x).1.eq (h x).2

theorem bind {f f' : α → Work β} {S : β → β → Prop} (hw : Same R w w')
    (hf : ∀ a a', R a a' → Same S (f a) (f' a')) : Same S (w >>= f) (w' >>= f') := fun x => by
  obtain ⟨houtcome, hx⟩ := hw x
  rw [bind_apply, bind_apply]
  generalize w x = left, w' x = right at houtcome hx
  obtain ⟨outcome, y⟩ := left
  obtain ⟨outcome', y'⟩ := right
  cases hx
  cases houtcome with
  | ok h => exact hf _ _ h y
  | error h => exact ⟨.error h, rfl⟩

/-- What follows takes related things to the same. -/
theorem bind_eq {f f' : α → Work β} (hw : Same R w w') (hf : ∀ a a', R a a' → f a = f' a') :
    w >>= f = w' >>= f' :=
  (hw.bind fun a a' h => hf a a' h ▸ refl (fun _ => rfl) (f a)).eq

theorem hold (hw : Same R w w') : Same (Outcome.Rel Eq R) (hold w) (hold w') := fun x =>
  ⟨.ok (hw x).1, (hw x).2⟩

end Same

end Work

/-! ### Resolvers that agree in some contexts -/

/-- Resolved values whose resolvers do the same in the contexts of a set, and so do those of the
values that they give there. -/
inductive Resolved.AgreeOn (P : FieldContext → Prop) : Resolved → Resolved → Prop where
  | leaf (v : Json) : AgreeOn P (.leaf v) (.leaf v)
  | list {items items' : List Resolved} (h : List.Forall₂ (AgreeOn P) items items') :
      AgreeOn P (.list items) (.list items')
  | object {o o' : ObjectValue Resolved} (typeName : o'.typeName = o.typeName)
      (isMethod : o'.isMethod = o.isMethod) (isResolver : o'.isResolver = o.isResolver)
      (gives : ∀ c x, P c →
        Outcome.Rel Eq (Outcome.Rel Eq (AgreeOn P)) (o.resolve c x).1 (o'.resolve c x).1)
      (leaves : ∀ c x, P c → (o.resolve c x).2 = (o'.resolve c x).2) :
      AgreeOn P (.object o) (.object o')

/-- Answers that agree: values that do, or one failure. -/
abbrev FieldResult.AgreeOn (P : FieldContext → Prop) : FieldResult → FieldResult → Prop :=
  Outcome.Rel Eq (Resolved.AgreeOn P)

section

variable {P : FieldContext → Prop}

theorem Resolved.AgreeOn.refl (r : Resolved) : r.AgreeOn P r := by
  induction r with
  | leaf v => exact .leaf v
  | list items ih => exact .list (List.forall₂_same.mpr ih)
  | object o ih =>
      refine .object rfl rfl rfl (fun c x _ => ?_) fun _ _ _ => rfl
      rcases hr : (o.resolve c x).1 with panic | failure | r
      · exact .error rfl
      · exact .ok (.error rfl)
      · exact .ok (.ok (ih c x r hr))

theorem FieldResult.AgreeOn.refl (result : FieldResult) : result.AgreeOn P result := by
  rcases result with failure | r
  · exact .error rfl
  · exact .ok (.refl r)

theorem Resolved.AgreeOn.resolve {o o' : ObjectValue Resolved}
    (h : (Resolved.object o).AgreeOn P (.object o')) {c : FieldContext} (hc : P c) :
    Work.Same (FieldResult.AgreeOn P) (o.resolve c) (o'.resolve c) := fun x => by
  cases h with
  | object _ _ _ gives leaves => exact ⟨gives c x hc, leaves c x hc⟩

/-- An object that panics where it is called in a context outside of a set. -/
def ObjectValue.guard (P : FieldContext → Prop) [DecidablePred P] (o : ObjectValue Resolved) :
    ObjectValue Resolved :=
  { o with resolve := fun c x => if P c then o.resolve c x else (.error .other, x) }

theorem Resolved.AgreeOn.guard [DecidablePred P] (o : ObjectValue Resolved) :
    (Resolved.object o).AgreeOn P (.object (o.guard P)) := by
  have hsame (c : FieldContext) (x : Exchange) (hc : P c) :
      (o.guard P).resolve c x = o.resolve c x := if_pos hc
  refine .object rfl rfl rfl (fun c x hc => ?_) fun c x hc => congrArg Prod.snd (hsame c x hc).symm
  rw [hsame c x hc]
  rcases (o.resolve c x).1 with panic | result
  · exact .error rfl
  · exact .ok (FieldResult.AgreeOn.refl result)

/-- Middleware around fields that calls on only in contexts of a set, if it is called in one, and
does not tell answers that agree apart. -/
def FieldMiddleware.KeepsTo (P : FieldContext → Prop) (mw : FieldMiddleware) : Prop :=
  ∀ c, P c → ∀ x c' after y, mw c x = (.ok (.callOn c' after), y) →
    P c' ∧ ∀ r r', FieldResult.AgreeOn P r r' →
      Work.Same (FieldResult.AgreeOn P) (after r) (after r')

/-- A chain of middleware that keeps to a set of contexts, around endpoints that agree there. -/
theorem Chain.same_run {chain : Chain Work FieldContext FieldResult}
    (h : ∀ mw ∈ chain, FieldMiddleware.KeepsTo P mw)
    {endpoint endpoint' : FieldContext → Work FieldResult}
    (hend : ∀ c, P c → Work.Same (FieldResult.AgreeOn P) (endpoint c) (endpoint' c))
    {c : FieldContext} (hc : P c) :
    Work.Same (FieldResult.AgreeOn P) (chain.run endpoint c) (chain.run endpoint' c) := by
  induction chain generalizing c with
  | nil => exact hend c hc
  | cons mw rest ih =>
      have hinner {c : FieldContext} (hc : P c) :=
        ih (fun mw hm => h mw (List.mem_cons_of_mem _ hm)) hc
      intro x
      rw [Chain.run, Chain.run, Work.bind_apply, Work.bind_apply]
      rcases hstep : mw c x with ⟨panic | answer | ⟨c', after⟩, y⟩
      · exact ⟨.error rfl, rfl⟩
      · exact ⟨.ok (.refl answer), rfl⟩
      · obtain ⟨hc', hafter⟩ := h mw List.mem_cons_self c hc x c' after y hstep
        exact (hinner hc').bind hafter y

end

namespace Execution

/-- A context that is handed to a resolver: the field is collected for an object that may come up,
whose type declares it, and the arguments are those of the field after this declaration. -/
inductive Handed (s : Schema) (d : Executable) (values : Json.Members) (root : String)
    (selections : List ExecutableSelection) : FieldContext → Prop where
  | intro {c : FieldContext} {sets : List (List ExecutableSelection)} {key : String}
      {inner : List ExecutableSelection} {rest : List CollectedField} {definition : FieldDefinition}
      (asked : Asked s d values root selections c.object sets)
      (group : (key, ⟨c.field, inner⟩ :: rest) ∈ collect s d c.object (Conditions.strict values) sets)
      (declared : s.declared? c.object c.field.name.node = some definition)
      (arguments : c.arguments = Arguments.ofField c.field definition values) :
      Handed s d values root selections c

variable {P : FieldContext → Prop}

/-! ### Values -/

theorem completeItems_congr {complete complete' : Path → Resolved → Work Completed}
    (h : ∀ path r r', r.AgreeOn P r' → complete path r = complete' path r') (item : TypeRef)
    (path : Path) {items items' : List Resolved}
    (hitems : List.Forall₂ (Resolved.AgreeOn P) items items') (i : Nat) :
    completeItems complete item path items i = completeItems complete' item path items' i := by
  induction hitems generalizing i with
  | nil => rfl
  | cons hfirst _ ih =>
      rw [completeItems, completeItems, h _ _ _ hfirst]
      simp only [ih]

variable {s : Schema} {response : ResponseContext} {execute execute' : ExecuteObject}

/-- By the type that the value is to be of: that of its items is smaller, and of the same name. -/
theorem complete_congr (type : TypeRef)
    (hexecute : ∀ concrete o o' path, (Resolved.object o).AgreeOn P (.object o') →
      s.type? concrete.name = some concrete → concrete.name ∈ s.possibleTypes type.innerName →
      execute concrete o path = execute' concrete o' path)
    (path : Path) {r r' : Resolved} (hr : r.AgreeOn P r') :
    complete s response execute type path r = complete s response execute' type path r' := by
  induction type generalizing path r r' with
  | named name required =>
      cases hr with
      | leaf v => cases v <;> rfl
      | list => rfl
      | object typeName isMethod isResolver gives leaves =>
          rw [complete, complete, completeObject, completeObject, typeName]
          cases htype : s.type? name with
          | none => rfl
          | some type =>
              dsimp only
              split
              · rename_i concrete hconcrete
                obtain ⟨hknown, -, hpossible⟩ := concreteType_ok htype hconcrete
                rw [hexecute concrete _ _ path (.object typeName isMethod isResolver gives leaves)
                  hknown hpossible]
              · rfl
  | list item required ih =>
      cases hr with
      | leaf v => cases v <;> rfl
      | object => rfl
      | list hitems =>
          rw [complete, complete,
            completeItems_congr (fun path r r' hr => ih hexecute path hr) item path hitems 0]

/-! ### Fields -/

namespace Run

variable {x : Run} (hfields : ∀ mw ∈ x.fields, FieldMiddleware.KeepsTo P mw)
  {o o' : ObjectValue Resolved} (ho : (Resolved.object o).AgreeOn P (.object o'))
include hfields ho

theorem resolveField_same {c : FieldContext} (hc : P c) :
    Work.Same (Option.Rel (Resolved.AgreeOn P)) (x.resolveField o c) (x.resolveField o' c) := by
  have hmethod : o'.isMethod = o.isMethod := by
    cases ho with
    | object _ isMethod => exact isMethod
  have hend (c : FieldContext) (hc : P c) :
      Work.Same (FieldResult.AgreeOn P) (o.call c) (o'.call c) := by
    rw [ObjectValue.call, ObjectValue.call, hmethod]
    exact (Work.Same.refl (R := Eq) (fun _ => rfl) _).bind fun _ _ _ => ho.resolve hc
  rw [resolveField, resolveField]
  refine (Chain.same_run hfields hend hc).hold.bind fun outcome outcome' houtcome => ?_
  have hsame (w : Work (Option Resolved)) : Work.Same (Option.Rel (Resolved.AgreeOn P)) w w :=
    .refl (fun r? => by cases r? with
      | none => exact .none
      | some r => exact .some (.refl r)) w
  cases houtcome with
  | error hpanic => exact hpanic ▸ hsame _
  | ok hresult =>
      cases hresult with
      | ok hr => exact .pure (.some hr)
      | error hfailure => exact hfailure ▸ hsame _

/-- A field is resolved in the context that the declaration of the concrete type gives, if any. -/
theorem executeField_congr
    {execute execute' : Path → List (List ExecutableSelection) → ExecuteObject}
    (parent? : Option Path) {type : TypeDefinition} (htype : x.schema.type? type.name = some type)
    (path : Path) {first : CollectedField} {fields : List CollectedField}
    (hcontext : ∀ definition c, x.schema.declared? type.name first.head.name.node = some definition →
      c.object = type.name → c.field = first.head →
      c.arguments = Arguments.ofField first.head definition x.values → P c)
    (hcomplete : ∀ r r', r.AgreeOn P r' →
      complete x.schema x.response (execute path (fields.map (·.selections))) first.head.note.type
          path r =
        complete x.schema x.response (execute' path (fields.map (·.selections)))
          first.head.note.type path r') :
    x.executeField execute parent? type o path first fields =
      x.executeField execute' parent? type o' path first fields := by
  have hresolve (c : FieldContext) (hc : P c) := resolveField_same hfields ho hc
  obtain ⟨htypeName, hisMethod, hisResolver⟩ :
      o'.typeName = o.typeName ∧ o'.isMethod = o.isMethod ∧ o'.isResolver = o.isResolver := by
    cases ho with
    | object typeName isMethod isResolver => exact ⟨typeName, isMethod, isResolver⟩
  rw [executeField, executeField, htypeName, hisMethod, hisResolver]
  split
  · rfl
  split
  · rfl
  cases hfound : type.fields.find? (·.name = first.head.name.node) with
  | none => rfl
  | some definition =>
      have hdeclared : x.schema.declared? type.name first.head.name.node = some definition := by
        rw [Schema.declared?, htype]
        exact hfound
      dsimp only
      refine (hresolve _ (hcontext definition _ hdeclared rfl rfl rfl)).bind_eq fun found found' h => ?_
      cases h with
      | none => rfl
      | some hr => exact congrArg (· >>= _) (hcomplete _ _ hr)

omit hfields ho in
theorem executeGroups_congr
    {execute execute' : String → CollectedField → List CollectedField → Work Completed}
    {groups : FieldGroups} (h : ∀ key first rest, (key, first :: rest) ∈ groups →
      execute key first (first :: rest) = execute' key first (first :: rest)) :
    executeGroups execute groups = executeGroups execute' groups := by
  induction groups with
  | nil => rfl
  | cons group groups ih =>
      have hrest := ih fun key first rest hg => h key first rest (List.mem_cons_of_mem _ hg)
      obtain ⟨key, _ | ⟨first, rest⟩⟩ := group
      · exact hrest
      · rw [executeGroups, executeGroups, h key first rest List.mem_cons_self, hrest]

omit ho in
theorem executeObject_congr {root : String} {selections : List ExecutableSelection}
    (hhanded : ∀ c, Handed x.schema x.document x.values root selections c → P c) (fuel : Nat)
    (parent? : Option Path) {sets : List (List ExecutableSelection)} {type : TypeDefinition}
    (htype : x.schema.type? type.name = some type)
    (hasked : Asked x.schema x.document x.values root selections type.name sets)
    {o o' : ObjectValue Resolved} (ho : (Resolved.object o).AgreeOn P (.object o')) (path : Path) :
    x.executeObject fuel parent? sets type o path =
      x.executeObject fuel parent? sets type o' path := by
  induction fuel generalizing parent? sets type o o' path with
  | zero => rfl
  | succ fuel ih =>
      rw [executeObject]
      refine executeGroups_congr fun key first rest hg => ?_
      refine executeField_congr hfields ho parent? htype _ (fun definition c hdeclared hobject hfield
        harguments => ?_) fun r r' hr => ?_
      · obtain ⟨head, inner⟩ := first
        cases hfield
        rw [← hobject] at hasked hg hdeclared
        exact hhanded c (.intro hasked hg hdeclared harguments)
      · exact complete_congr _ (fun concrete o o' path ho hknown hpossible =>
          ih (some _) hknown (hasked.field hg hpossible) ho path) _ hr

end Run

/-! ### Operations -/

/-- **Resolvers are called in handed contexts only**: what they do in other contexts makes no
difference to an operation. -/
theorem executeOperation_congr {service : Service} {fields : Chain Work FieldContext FieldResult}
    (hfields : ∀ mw ∈ fields, FieldMiddleware.KeepsTo P mw) {response : ResponseContext}
    {d : Executable} {o : Operation FieldDefinition}
    (hhanded : ∀ c, Handed service.schema d response.operation.variableValues
      ((service.schema.root? o.type).getD "") o.selections c → P c)
    {root root' : ObjectValue Resolved} (hroot : (Resolved.object root).AgreeOn P (.object root')) :
    executeOperation service fields response d o root =
      executeOperation service fields response d o root' := by
  rw [executeOperation, executeOperation]
  refine congrArg (_ >>= ·) (funext fun introspection => ?_)
  dsimp only
  split
  · rename_i name description directives interfaces defined htype
    obtain ⟨-, hname⟩ := Schema.type?_some htype
    rw [← hname] at hhanded htype
    rw [Run.executeObject_congr (x := { service, response, document := d, fields, introspection })
      hfields hhanded (d.fieldCount + 1) none htype .root hroot []]
  · rfl

end Execution

end GraphServe
