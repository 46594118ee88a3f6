import GraphServe.Proofs.Document.Adding
import GraphServe.Proofs.Document.Nesting
import GraphServe.Proofs.Json.Value
import GraphServe.Validation.Document

/-!
# Valid documents are acyclic

Validation looks for cycles of fragments by a search with a bounded number of steps.  The bound is
never what ends it: each step takes a name off the list, and to enter a fragment takes its names off
those that are still to come.

* **The search finds every cycle** (`not_reaches_of_cycleOf`): a fragment on which it finds none
  does not reach itself.
* **Every fragment that an operation reaches is looked into** (`checkFragment_of_reaches`).
* **Valid documents are acyclic** (`acyclic_of_validate`), and so the fields of an operation are
  nested no deeper than the document has fields (`nestsWithin_of_validate`).
-/

namespace GraphServe.Validation

open Document Executable

variable {s : Schema} {d : Executable}

/-- The number of spreads in a fragment. -/
def spreadsIn (f : Fragment FieldDefinition) : Nat := (spreads f.selections).length

/-! ### The search for a cycle -/

/-- A name leads nowhere new: it is no way back to the root, and was entered if it can be. -/
def Settled (d : Executable) (root : String) (path done : List String) (name : String) : Prop :=
  name ≠ root ∧ (name ∈ path ∨ name ∈ done ∨ d.fragment? name = none)

/-- What the fragments that are done name leads nowhere new. -/
def Closed (d : Executable) (root : String) (path done : List String) : Prop :=
  ∀ name ∈ done, ∀ f, d.fragment? name = some f →
    ∀ m ∈ spreads f.selections, Settled d root path done m

theorem Settled.mono {root name : String} {path path' done done' : List String}
    (h : Settled d root path done name) (hp : ∀ m ∈ path, m ∈ path')
    (hd : ∀ m ∈ done, m ∈ done') : Settled d root path' done' name := by
  obtain ⟨hne, h | h | h⟩ := h
  · exact ⟨hne, .inl (hp _ h)⟩
  · exact ⟨hne, .inr (.inl (hd _ h))⟩
  · exact ⟨hne, .inr (.inr h)⟩

/-- A name on the path counts as done once its fragment is. -/
theorem Settled.leave {root name m : String} {path done : List String}
    (h : Settled d root (name :: path) done m) : Settled d root path (name :: done) m := by
  obtain ⟨hne, h | h | h⟩ := h
  · rcases List.mem_cons.mp h with rfl | h
    · exact ⟨hne, .inr (.inl List.mem_cons_self)⟩
    · exact ⟨hne, .inl h⟩
  · exact ⟨hne, .inr (.inl (List.mem_cons_of_mem _ h))⟩
  · exact ⟨hne, .inr (.inr h)⟩

/-- What a search that finds nothing leaves behind: all that was to be followed is settled. -/
theorem searchCycle_none {root : String} {fuel : Nat} {path names done done' : List String}
    (h : searchCycle d root fuel path names done = (.none, done'))
    (hfuel : names.length + weigh spreadsIn path d.fragments < fuel)
    (hc : Closed d root path done) :
    Closed d root path done' ∧ (∀ m ∈ done, m ∈ done') ∧
      ∀ m ∈ names, Settled d root path done' m := by
  induction fuel generalizing path names done done' with
  | zero => omega
  | succ fuel ih =>
      cases names with
      | nil =>
          cases h
          exact ⟨hc, fun _ hm => hm, fun _ hm => nomatch hm⟩
      | cons name rest =>
          -- the first name is the root, has been seen, has no fragment, or is entered
          rw [List.length_cons] at hfuel
          rw [searchCycle] at h
          split at h
          · cases h
          rename_i hroot
          -- the rest follows, whatever the first name is
          have hrest : ∀ {done₁ : List String}, searchCycle d root fuel path rest done₁ =
              (.none, done') → Closed d root path done₁ → (∀ m ∈ done, m ∈ done₁) →
              (name ∈ path ∨ name ∈ done₁ ∨ d.fragment? name = none) →
              Closed d root path done' ∧ (∀ m ∈ done, m ∈ done') ∧
                ∀ m ∈ name :: rest, Settled d root path done' m := by
            intro done₁ h hc hsub hname
            obtain ⟨hc', hsub', hall⟩ := ih h (by omega) hc
            refine ⟨hc', fun m hm => hsub' m (hsub m hm), fun m hm => ?_⟩
            rcases List.mem_cons.mp hm with rfl | hm
            · exact Settled.mono ⟨hroot, hname⟩ (fun _ h => h) hsub'
            · exact hall m hm
          split at h
          · rename_i hseen
            exact hrest h hc (fun _ hm => hm) (hseen.imp_right .inl)
          rename_i hseen
          split at h
          · rename_i hf
            exact hrest h hc (fun _ hm => hm) (.inr (.inr hf))
          · rename_i f hf
            split at h
            · cases h
            split at h
            · rename_i done₁ hinner
              -- to enter a fragment makes what is left to enter lighter by its spreads
              have hw := weigh_cons spreadsIn hf fun hm => hseen (.inl hm)
              have hc' : Closed d root (name :: path) done := fun n hn g hg m hm =>
                (hc n hn g hg m hm).mono (fun _ h => List.mem_cons_of_mem _ h) fun _ h => h
              have hlen : spreadsIn f = (spreads f.selections).length := rfl
              obtain ⟨hc₁, hsub₁, hall₁⟩ := ih hinner (by omega) hc'
              refine hrest h ?_ (fun m hm => List.mem_cons_of_mem _ (hsub₁ m hm))
                (.inr (.inl List.mem_cons_self))
              intro n hn g hg m hm
              rcases List.mem_cons.mp hn with rfl | hn
              · cases hf.symm.trans hg
                exact (hall₁ m hm).leave
              · exact (hc₁ n hn g hg m hm).leave
            · rename_i found hfound
              exact absurd h (hfound done')

/-- **The search finds every cycle**: a fragment on which it finds none does not reach itself. -/
theorem not_reaches_of_cycleOf {f : Fragment FieldDefinition} (h : cycleOf d f = .none) :
    ¬ d.Reaches f.selections f.name.node := by
  obtain ⟨done, hdone⟩ : ∃ done, searchCycle d f.name.node
      ((spreads f.selections).length + d.spreadCount + 1) [f.name.node] (spreads f.selections) [] =
        (.none, done) := ⟨_, Prod.ext h rfl⟩
  have hfuel : (spreads f.selections).length + weigh spreadsIn [f.name.node] d.fragments <
      (spreads f.selections).length + d.spreadCount + 1 := by
    have : weigh spreadsIn [f.name.node] d.fragments ≤ d.spreadCount :=
      Nat.le_trans (weigh_mono (List.forall_mem_nil _)) (Nat.le_of_eq weigh_nil)
    omega
  obtain ⟨hc, -, hall⟩ := searchCycle_none hdone hfuel fun _ h => nomatch h
  -- what is reached is done or no fragment, so it is not the root
  have hreach : ∀ selections, (∀ m ∈ spreads selections, Settled d f.name.node [f.name.node] done m) →
      ∀ m, d.Reaches selections m → m ≠ f.name.node := by
    intro selections hs m hr
    induction hr with
    | spread h => exact (hs _ h).1
    | @through selections name last g h hg _ ih =>
        obtain ⟨hne, hm | hm | hm⟩ := hs name h
        · exact absurd (List.mem_singleton.mp hm) hne
        · exact ih (hc name hm g hg)
        · rw [hg] at hm
          cases hm
  exact fun hr => hreach _ hall _ hr rfl

/-! ### Fragments that are looked into -/

theorem diagnostics_append (a b : Finding) :
    (a ++ b).diagnostics = a.diagnostics ++ b.diagnostics := rfl

theorem spreads_append (a b : Finding) : (a ++ b).spreads = a.spreads ++ b.spreads := rfl

mutual

/-- Where nothing is wrong with a selection, all the fragments that it names are followed. -/
theorem spreads_checkSelection {declared : List VariableDefinition} :
    ∀ (x : ExecutableSelection) {parent : String},
      (checkSelection s d declared parent x).diagnostics = [] →
      (checkSelection s d declared parent x).spreads = spreadsOf x
  | .field head inner, parent, h => by
      rw [checkSelection, diagnostics_append] at h
      rw [checkSelection, spreads_append, spreads_checkSelections inner (List.append_eq_nil_iff.mp h).2]
      rfl
  | .spread name ds place, parent, h => by
      rw [checkSelection] at h ⊢
      split at h
      · exact absurd (List.append_eq_nil_iff.mp h).2 (List.cons_ne_nil _ _)
      · rfl
  | .inline none ds place inner, parent, h => by
      rw [checkSelection, diagnostics_append] at h
      rw [checkSelection, spreads_append, spreads_checkSelections inner (List.append_eq_nil_iff.mp h).2]
      rfl
  | .inline (some condition) ds place inner, parent, h => by
      rw [checkSelection] at h ⊢
      by_cases hc : isFragmentType s condition.node = true
      · simp only [if_pos hc] at h ⊢
        rw [diagnostics_append] at h
        rw [spreads_append, spreads_checkSelections inner (List.append_eq_nil_iff.mp h).2]
        rfl
      · simp only [if_neg hc] at h
        exact absurd (List.append_eq_nil_iff.mp h).2 (List.cons_ne_nil _ _)

theorem spreads_checkSelections {declared : List VariableDefinition} :
    ∀ (xs : List ExecutableSelection) {parent : String},
      (checkSelections s d declared parent xs).diagnostics = [] →
      (checkSelections s d declared parent xs).spreads = spreads xs
  | [], _, _ => rfl
  | first :: rest, parent, h => by
      rw [checkSelections, diagnostics_append] at h
      obtain ⟨hfirst, hrest⟩ := List.append_eq_nil_iff.mp h
      rw [checkSelections, spreads_append, spreads_checkSelection first hfirst,
        spreads_checkSelections rest hrest, spreads]

end

theorem checkFragment_nil {declared : List VariableDefinition} {f : Fragment FieldDefinition}
    (h : (checkFragment s d declared f).diagnostics = []) :
    cycleOf d f = .none ∧ (checkFragment s d declared f).spreads = spreads f.selections := by
  rw [checkFragment, diagnostics_append] at h
  obtain ⟨hhere, hinside⟩ := List.append_eq_nil_iff.mp h
  obtain ⟨hhere, hcycle⟩ := List.append_eq_nil_iff.mp hhere
  obtain ⟨-, hcondition⟩ := List.append_eq_nil_iff.mp hhere
  have hnone : cycleOf d f = .none := by
    split at hcycle
    · assumption
    · cases hcycle
    · cases hcycle
  rw [hcycle, hcondition] at hinside
  rw [checkFragment, spreads_append, hcycle, hcondition]
  exact ⟨hnone, spreads_checkSelections f.selections hinside⟩

/-- **Every fragment that names lead to is looked into**, and leads on to others that are. -/
theorem checkFragments_nil {declared : List VariableDefinition} {fuel : Nat}
    {names seen : List String} (h : checkFragments s d declared fuel names seen = [])
    (hfuel : names.length + weigh spreadsIn seen d.fragments < fuel) :
    ∃ all : List String, (∀ m ∈ seen, m ∈ all) ∧ (∀ m ∈ names, (d.fragment? m).isSome → m ∈ all) ∧
      ∀ m ∈ all, m ∈ seen ∨ ∀ f, d.fragment? m = some f →
        (checkFragment s d declared f).diagnostics = [] ∧
          ∀ n ∈ spreads f.selections, (d.fragment? n).isSome → n ∈ all := by
  induction fuel generalizing names seen with
  | zero => omega
  | succ fuel ih =>
      cases names with
      | nil => exact ⟨seen, fun _ h => h, fun _ h => (nomatch h), fun _ h => .inl h⟩
      | cons name rest =>
          -- as in the search, what is pending and what is not yet seen is outweighed by the fuel
          rw [List.length_cons] at hfuel
          rw [checkFragments] at h
          split at h
          · rename_i hseen
            obtain ⟨all, hsub, hall, hclosed⟩ := ih h (by omega)
            refine ⟨all, hsub, fun m hm hf => ?_, hclosed⟩
            rcases List.mem_cons.mp hm with rfl | hm
            · exact hsub m hseen
            · exact hall m hm hf
          rename_i hseen
          split at h
          · rename_i hf
            obtain ⟨all, hsub, hall, hclosed⟩ := ih h (by omega)
            refine ⟨all, hsub, fun m hm hm' => ?_, hclosed⟩
            rcases List.mem_cons.mp hm with rfl | hm
            · rw [hf] at hm'
              cases hm'
            · exact hall m hm hm'
          · rename_i f hf
            obtain ⟨hfirst, hrest⟩ := List.append_eq_nil_iff.mp h
            obtain ⟨-, hspreads⟩ := checkFragment_nil hfirst
            have hw := weigh_cons spreadsIn hf hseen
            have hlen : spreadsIn f = (spreads f.selections).length := rfl
            rw [hspreads] at hrest
            obtain ⟨all, hsub, hall, hclosed⟩ := ih hrest (by rw [List.length_append]; omega)
            refine ⟨all, fun m hm => hsub m (List.mem_cons_of_mem _ hm), fun m hm hm' => ?_,
              fun m hm => ?_⟩
            · rcases List.mem_cons.mp hm with rfl | hm
              · exact hsub m List.mem_cons_self
              · exact hall m (List.mem_append_right _ hm) hm'
            · rcases hclosed m hm with hm | hm
              · rcases List.mem_cons.mp hm with rfl | hm
                · refine .inr fun g hg => ?_
                  cases hf.symm.trans hg
                  exact ⟨hfirst, fun n hn => hall n (List.mem_append_left _ hn)⟩
                · exact .inl hm
              · exact .inr hm

/-! ### Valid documents -/

/-- The fragments of a document stand under their names. -/
def NamesFragments (d : Executable) : Prop := ∀ g ∈ d.fragments, g.2.name.node = g.1

theorem namesFragments_of_added {definition : Definition} {r : Executable × List Diagnostic}
    (ha : Added s d definition r) (h : NamesFragments d) : NamesFragments r.1 := by
  cases ha with
  | refused | anonymous | named => exact h
  | fragment =>
      intro g hg
      rcases List.mem_append.mp hg with hg | hg
      · exact h g hg
      · rw [List.mem_singleton.mp hg]

theorem namesFragments_resolve (s : Schema) (definitions : List Definition) :
    NamesFragments (Executable.resolve s definitions).1 :=
  resolve_induction (fun _ h => absurd h List.not_mem_nil) namesFragments_of_added definitions

/-- What a valid document is made of: nothing is found wrong with it. -/
theorem validate_ok {definitions : List Definition} (h : validate s definitions = .ok d) :
    d = (Executable.resolve s definitions).1 ∧ check s d = [] := by
  unfold validate at h
  dsimp only at h
  split at h
  · rename_i hnil
    cases h
    exact ⟨rfl, (List.append_eq_nil_iff.mp hnil).2⟩
  · cases h

/-- Nothing is wrong with the operations of a valid document. -/
theorem checkOperation_of_validate {definitions : List Definition}
    (h : validate s definitions = .ok d) {o : Operation FieldDefinition} (ho : o ∈ d.allOperations) :
    checkOperation s d o = [] := by
  obtain ⟨-, hcheck⟩ := validate_ok h
  rw [check] at hcheck
  obtain ⟨hcheck, -⟩ := List.append_eq_nil_iff.mp hcheck
  obtain ⟨hcheck, -⟩ := List.append_eq_nil_iff.mp hcheck
  obtain ⟨hcheck, -⟩ := List.append_eq_nil_iff.mp hcheck
  exact List.flatMap_eq_nil_iff.mp hcheck o ho

/-- Nothing is wrong with the fragments that an operation of a valid document reaches. -/
theorem checkFragment_of_reaches {definitions : List Definition}
    (h : validate s definitions = .ok d) {o : Operation FieldDefinition} (ho : o ∈ d.allOperations)
    {name : String} {f : Fragment FieldDefinition} (hr : d.Reaches o.selections name)
    (hf : d.fragment? name = some f) :
    (checkFragment s d o.variableDefinitions f).diagnostics = [] := by
  have hoperation := checkOperation_of_validate h ho
  rw [checkOperation] at hoperation
  obtain ⟨hoperation, hfragments⟩ := List.append_eq_nil_iff.mp hoperation
  obtain ⟨-, hfinding⟩ := List.append_eq_nil_iff.mp hoperation
  rw [spreads_checkSelections _ hfinding] at hfragments
  obtain ⟨all, -, hall, hclosed⟩ := checkFragments_nil hfragments
    (by rw [weigh_nil]; exact Nat.lt_succ_self _)
  -- all that is reached was looked into
  have hreach : ∀ selections, (∀ m ∈ spreads selections, (d.fragment? m).isSome → m ∈ all) →
      ∀ m, d.Reaches selections m → (d.fragment? m).isSome → m ∈ all := by
    intro selections hs m hr
    induction hr with
    | spread h => exact hs _ h
    | @through selections name last g h hg _ ih =>
        have hm : name ∈ all := hs name h (by rw [hg]; rfl)
        exact ih ((hclosed name hm).resolve_left List.not_mem_nil g hg).2
  have hm : name ∈ all := hreach _ hall name hr (by rw [hf]; rfl)
  exact ((hclosed name hm).resolve_left List.not_mem_nil f hf).1

/-- **Valid documents are acyclic**: no fragment that an operation reaches reaches itself. -/
theorem acyclic_of_validate {definitions : List Definition} (h : validate s definitions = .ok d)
    {o : Operation FieldDefinition} (ho : o ∈ d.allOperations) : d.Acyclic o.selections := by
  have hnames : NamesFragments d := (validate_ok h).1 ▸ namesFragments_resolve s definitions
  intro name f hr hf
  obtain ⟨hcycle, -⟩ := checkFragment_nil (checkFragment_of_reaches h ho hr hf)
  have hname : f.name.node = name := hnames (name, f) (mem_of_lookup hf)
  exact hname ▸ not_reaches_of_cycleOf hcycle

/-- The fields of an operation of a valid document are nested no deeper than it has fields. -/
theorem nestsWithin_of_validate {definitions : List Definition} (h : validate s definitions = .ok d)
    {o : Operation FieldDefinition} (ho : o ∈ d.allOperations) :
    d.NestsWithin d.fieldCount o.selections :=
  nestsWithin_fieldCount ho (acyclic_of_validate h ho)

end GraphServe.Validation
