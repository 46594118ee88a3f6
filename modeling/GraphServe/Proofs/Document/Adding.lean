import GraphServe.Document.Executable

/-!
# Documents — adding definitions

A document is made by adding one definition after the other.  `Added` says what becomes of a document
and a definition, with what is found wrong: a definition is refused, or it is put with the
definitions of its kind, an operation without name where there is no other operation, and an
operation with a name under a name that is new (`added`).  What every addition keeps holds of every
document (`resolve_induction`); in particular what holds of each resolved operation and fragment
(`resolve_all`).

So the operations of a document stand under their names, and no name stands twice
(`NamesOperations`): the operation of a name is the only one with it
(`NamesOperations.filter_of_lookup`).
-/

namespace GraphServe.Document.Executable

open Validation

/-- What a definition makes of a document, and what is found wrong. -/
inductive Added (s : Schema) (d : Executable) : Definition → Executable × List Diagnostic → Prop where
  | refused {definition : Definition} {found : List Diagnostic} (h : found ≠ []) :
      Added s d definition (d, found)
  | anonymous {o : Operation Unit} (name : o.name = none) (alone : d.anonymous = none)
      (first : d.operations = []) :
      Added s d (.operation o)
        ({ d with anonymous := (resolveOperation s o).1 }, (resolveOperation s o).2)
  | named {o : Operation Unit} {name : Located String} (h : o.name = some name)
      (new : name.node ∉ d.operations.map (·.1)) :
      Added s d (.operation o)
        ({ d with operations :=
            d.operations ++ (resolveOperation s o).1.toList.map fun r => (name.node, r) },
          (d.anonymous.toList.map fun a => ⟨.ambiguousAnonymousOperation, a.place⟩) ++
            (resolveOperation s o).2)
  | fragment {f : Fragment Unit} {t : TypeDefinition} (h : s.type? f.condition.node = some t) :
      Added s d (.fragment f)
        ({ d with fragments := d.fragments ++ [(f.name.node,
            { name := f.name, condition := f.condition, directives := f.directives,
              selections := (resolveSelections s (some t) f.selections).1, place := f.place })] },
          (resolveSelections s (some t) f.selections).2)

variable {s : Schema} {d : Executable}

theorem added_operation (o : Operation Unit) : Added s d (.operation o) (addOperation s d o) := by
  unfold addOperation
  cases hname : o.name with
  | none =>
      dsimp only
      cases hanonymous : d.anonymous with
      | some a => exact .refused (List.cons_ne_nil _ _)
      | none =>
          dsimp only
          split
          · exact .refused (List.cons_ne_nil _ _)
          · rename_i hempty
            exact .anonymous hname hanonymous (by simpa using hempty)
  | some name =>
      dsimp only
      split
      · exact .refused (by simp)
      · rename_i hany
        refine .named hname fun hmem => hany ?_
        obtain ⟨e, he, heq⟩ := List.mem_map.mp hmem
        exact List.any_eq_true.mpr ⟨e, he, decide_eq_true heq⟩

theorem added_fragment (f : Fragment Unit) : Added s d (.fragment f) (addFragment s d f) := by
  unfold addFragment
  split
  · exact .refused (List.cons_ne_nil _ _)
  · split
    · exact .refused (List.cons_ne_nil _ _)
    · rename_i t ht
      exact .fragment ht

/-- **Adding a definition** does nothing else. -/
theorem added (s : Schema) (d : Executable) (definition : Definition) :
    Added s d definition (add s d definition) := by
  cases definition with
  | operation o => exact added_operation o
  | fragment f => exact added_fragment f
  | typeSystem found place => exact .refused (List.cons_ne_nil _ _)

/-- What holds of the empty document and goes over to what definitions make of a document holds of
every document. -/
theorem resolve_induction {P : Executable → Prop} (empty : P {})
    (step : ∀ {d definition r}, Added s d definition r → P d → P r.1) (definitions : List Definition) :
    P (resolve s definitions).1 :=
  List.foldlRecOn (motive := fun start : Executable × List Diagnostic => P start.1)
    definitions _ empty fun start h definition _ =>
      (step (added s start.1 definition) h : P (add s start.1 definition).1)

section

variable {P : Operation FieldDefinition → Prop} {Q : Fragment FieldDefinition → Prop}

theorem Added.all (operation : ∀ o r, (resolveOperation s o).1 = some r → P r)
    (fragment : ∀ (f : Fragment Unit) t, s.type? f.condition.node = some t →
      Q { name := f.name, condition := f.condition, directives := f.directives,
          selections := (resolveSelections s (some t) f.selections).1, place := f.place })
    {definition : Definition} {r : Executable × List Diagnostic} (ha : Added s d definition r)
    (h : (∀ o ∈ d.allOperations, P o) ∧ ∀ g ∈ d.fragments, Q g.2) :
    (∀ o ∈ r.1.allOperations, P o) ∧ ∀ g ∈ r.1.fragments, Q g.2 := by
  cases ha with
  | refused => exact h
  | fragment ht =>
      refine ⟨h.1, fun g hg => ?_⟩
      rcases List.mem_append.mp hg with hg | hg
      · exact h.2 g hg
      · rw [List.mem_singleton.mp hg]
        exact fragment _ _ ht
  | anonymous =>
      refine ⟨fun o' ho' => ?_, h.2⟩
      rcases List.mem_append.mp ho' with ho' | ho'
      · exact operation _ _ (Option.mem_toList.mp ho')
      · exact h.1 o' (List.mem_append_right _ ho')
  | @named o =>
      refine ⟨fun o' ho' => ?_, h.2⟩
      rw [allOperations, List.map_append, ← List.append_assoc] at ho'
      rcases List.mem_append.mp ho' with ho' | ho'
      · exact h.1 o' ho'
      · rw [List.map_map, List.mem_map] at ho'
        obtain ⟨resolved, hresolved, rfl⟩ := ho'
        exact operation _ _ (Option.mem_toList.mp hresolved)

/-- What holds of every operation and fragment as resolved holds of those of a document. -/
theorem resolve_all (operation : ∀ o r, (resolveOperation s o).1 = some r → P r)
    (fragment : ∀ (f : Fragment Unit) t, s.type? f.condition.node = some t →
      Q { name := f.name, condition := f.condition, directives := f.directives,
          selections := (resolveSelections s (some t) f.selections).1, place := f.place })
    (definitions : List Definition) :
    (∀ o ∈ (resolve s definitions).1.allOperations, P o) ∧
      ∀ g ∈ (resolve s definitions).1.fragments, Q g.2 :=
  resolve_induction (P := fun d => (∀ o ∈ d.allOperations, P o) ∧ ∀ g ∈ d.fragments, Q g.2)
    ⟨fun _ h => absurd h List.not_mem_nil, fun _ h => absurd h List.not_mem_nil⟩
    (fun ha h => ha.all operation fragment h) definitions

end

/-! ### Names -/

/-- The operations of a document stand under their names, each name once.  The anonymous one has no
name. -/
structure NamesOperations (d : Executable) : Prop where
  anonymous : ∀ o, d.anonymous = some o → o.name? = none
  named     : ∀ e ∈ d.operations, e.2.name? = some e.1
  nodup     : (d.operations.map (·.1)).Nodup

theorem namesOperations_empty : NamesOperations {} where
  anonymous _ h := by cases h
  named _ h := absurd h List.not_mem_nil
  nodup := List.nodup_nil

theorem resolveOperation_name {o : Operation Unit} {resolved : Operation FieldDefinition}
    (h : (resolveOperation s o).1 = some resolved) : resolved.name = o.name := by
  unfold resolveOperation at h
  cases hroot : s.root? o.type with
  | none => rw [hroot] at h; cases h
  | some root => rw [hroot] at h; cases h; rfl

theorem Added.namesOperations {definition : Definition} {r : Executable × List Diagnostic}
    (ha : Added s d definition r) (h : d.NamesOperations) : r.1.NamesOperations := by
  cases ha with
  | refused => exact h
  | fragment => exact ⟨h.anonymous, h.named, h.nodup⟩
  | anonymous hname =>
      refine ⟨fun resolved hresolved => ?_, h.named, h.nodup⟩
      rw [Operation.name?, resolveOperation_name hresolved, hname]
      rfl
  | @named o name hname hnew =>
      cases hresolved : (resolveOperation s o).1 with
      | none => simpa using h
      | some resolved =>
          refine ⟨h.anonymous, fun e he => ?_, ?_⟩
          · rcases List.mem_append.mp he with he | he
            · exact h.named e he
            · rw [List.mem_singleton.mp he, Operation.name?, resolveOperation_name hresolved, hname]
              rfl
          -- the name is new, so that the names stay different
          · rw [List.map_append]
            refine List.nodup_append.mpr ⟨h.nodup, List.pairwise_singleton _ _, ?_⟩
            rintro key hkey key' hkey' rfl
            obtain rfl : key = name.node := List.mem_singleton.mp hkey'
            exact hnew hkey

theorem namesOperations_resolve (s : Schema) (definitions : List Definition) :
    (resolve s definitions).1.NamesOperations :=
  resolve_induction namesOperations_empty (fun ha h => ha.namesOperations h) definitions

/-- Under distinct names, what a look for a name finds is all there is of it. -/
theorem filter_of_lookup {name : String} {o : Operation FieldDefinition}
    {operations : List (String × Operation FieldDefinition)}
    (hnamed : ∀ e ∈ operations, e.2.name? = some e.1) (hnodup : (operations.map (·.1)).Nodup)
    (h : operations.lookup name = some o) :
    (operations.map (·.2)).filter (fun o' => o'.name? = some name) = [o] := by
  have hother (others : List (String × Operation FieldDefinition))
      (hsub : ∀ e ∈ others, e ∈ operations) (hne : ∀ e ∈ others, e.1 ≠ name) :
      (others.map (·.2)).filter (fun o' => o'.name? = some name) = [] := by
    refine List.filter_eq_nil_iff.mpr fun o' ho' => ?_
    obtain ⟨e, he, rfl⟩ := List.mem_map.mp ho'
    rw [hnamed e (hsub e he)]
    simpa using hne e he
  obtain ⟨before, after, rfl, hbefore⟩ := List.lookup_eq_some_iff.mp h
  have ho : o.name? = some name := hnamed (name, o) (by simp)
  rw [List.map_append, List.map_cons, List.nodup_append, List.nodup_cons] at hnodup
  obtain ⟨-, ⟨hafter, -⟩, -⟩ := hnodup
  rw [List.map_append, List.map_cons, List.filter_append, List.filter_cons,
    if_pos (decide_eq_true ho), hother before (fun e he => by simp [he]) (fun e he heq => ?_),
    hother after (fun e he => by simp [he]) (fun e he heq => ?_), List.nil_append]
  · exact hafter (List.mem_map.mpr ⟨e, he, heq⟩)
  · simpa [heq] using hbefore e he

/-- The operation of a name is the only one that has it. -/
theorem NamesOperations.filter_of_lookup {name : String} {o : Operation FieldDefinition}
    (h : d.NamesOperations) (hlookup : d.operations.lookup name = some o) :
    d.allOperations.filter (fun o' => o'.name? = some name) = [o] := by
  have hanonymous : d.anonymous.toList.filter (fun o' => o'.name? = some name) = [] := by
    refine List.filter_eq_nil_iff.mpr fun a ha => ?_
    rw [h.anonymous a (Option.mem_toList.mp ha)]
    simp
  rw [allOperations, List.filter_append, hanonymous, List.nil_append]
  exact Executable.filter_of_lookup h.named h.nodup hlookup

end GraphServe.Document.Executable
