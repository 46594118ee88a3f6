import GraphServe.Proofs.Document.Nesting

/-!
# Fragments put on the spot

Selections may be written without names of fragments: each name is replaced by a fragment on the
spot, with the condition of the named one and what is selected in it (`Inlines`).  A name that there
is no fragment of asks for nothing and is left out.

Nothing that is inlined names a fragment (`Inlines.spreads_eq_nil`), selections are inlined in one
way at most (`Inlines.unique`), and where no fragment reaches itself in one way
(`exists_inlines_of_acyclic`).
-/

namespace GraphServe.Document

/-- Induction on selections: what is selected below the first and the selections after it are the
smaller ones. -/
theorem Selection.induct {α : Type} {P : List (Selection α) → Prop} (nil : P [])
    (field : ∀ head inner rest, P inner → P rest → P (.field head inner :: rest))
    (inline : ∀ on? ds place inner rest, P inner → P rest → P (.inline on? ds place inner :: rest))
    (spread : ∀ name ds place rest, P rest → P (.spread name ds place :: rest))
    (xs : List (Selection α)) : P xs :=
  Selection.rec_1 (motive_1 := fun x => ∀ rest, P rest → P (x :: rest)) (motive_2 := P)
    (fun head inner below rest next => field head inner rest below next)
    (fun name ds place rest next => spread name ds place rest next)
    (fun on? ds place inner below rest next => inline on? ds place inner rest below next)
    nil (fun _ rest first next => first rest next) xs

namespace Executable

/-- Selections with the fragments that they name put on the spot. -/
inductive Inlines (d : Executable) :
    List ExecutableSelection → List ExecutableSelection → Prop where
  | nil : Inlines d [] []
  | field {head : FieldHead FieldDefinition} {inner inner' rest rest' : List ExecutableSelection}
      (below : Inlines d inner inner') (next : Inlines d rest rest') :
      Inlines d (.field head inner :: rest) (.field head inner' :: rest')
  | inline {on? : Option (Located String)} {ds : List Directive} {place : Nat}
      {inner inner' rest rest' : List ExecutableSelection}
      (below : Inlines d inner inner') (next : Inlines d rest rest') :
      Inlines d (.inline on? ds place inner :: rest) (.inline on? ds place inner' :: rest')
  | spread {name : String} {ds : List Directive} {place : Nat} {f : Fragment FieldDefinition}
      {inner' rest rest' : List ExecutableSelection} (hf : d.fragment? name = some f)
      (below : Inlines d f.selections inner') (next : Inlines d rest rest') :
      Inlines d (.spread name ds place :: rest) (.inline (some f.condition) ds place inner' :: rest')
  | missing {name : String} {ds : List Directive} {place : Nat}
      {rest rest' : List ExecutableSelection} (hf : d.fragment? name = none)
      (next : Inlines d rest rest') : Inlines d (.spread name ds place :: rest) rest'

variable {d : Executable} {xs ys zs : List ExecutableSelection}

theorem Inlines.spreads_eq_nil (h : d.Inlines xs ys) : spreads ys = [] := by
  induction h with
  | nil => rfl
  | field _ _ below next | inline _ _ below next | spread _ _ _ below next =>
      rw [spreads, spreadsOf, below, next, List.append_nil]
  | missing _ _ next => exact next

theorem Inlines.unique (h : d.Inlines xs ys) (h' : d.Inlines xs zs) : ys = zs := by
  induction h generalizing zs with
  | nil => cases h'; rfl
  | field _ _ below next =>
      cases h' with
      | field below' next' => rw [below below', next next']
  | inline _ _ below next =>
      cases h' with
      | inline below' next' => rw [below below', next next']
  | spread hf _ _ below next =>
      cases h' with
      | spread hf' below' next' =>
          cases hf.symm.trans hf'
          rw [below below', next next']
      | missing hf' => cases hf.symm.trans hf'
  | missing hf _ next =>
      cases h' with
      | spread hf' => cases hf.symm.trans hf'
      | missing _ next' => exact next next'

/-- What is inlined of one of some selections is a part of what is inlined of all. -/
theorem Inlines.of_mem (h : d.Inlines xs ys) {x : ExecutableSelection} (hx : x ∈ xs) :
    ∃ zs, d.Inlines [x] zs ∧ ∀ z ∈ zs, z ∈ ys := by
  induction h with
  | nil => cases hx
  | field below _ _ next =>
      rcases List.mem_cons.mp hx with rfl | hx
      · exact ⟨_, .field below .nil, fun z hz => List.mem_cons.mpr (.inl (List.mem_singleton.mp hz))⟩
      · obtain ⟨zs, hzs, hsub⟩ := next hx
        exact ⟨zs, hzs, fun z hz => List.mem_cons_of_mem _ (hsub z hz)⟩
  | inline below _ _ next =>
      rcases List.mem_cons.mp hx with rfl | hx
      · exact ⟨_, .inline below .nil, fun z hz => List.mem_cons.mpr (.inl (List.mem_singleton.mp hz))⟩
      · obtain ⟨zs, hzs, hsub⟩ := next hx
        exact ⟨zs, hzs, fun z hz => List.mem_cons_of_mem _ (hsub z hz)⟩
  | spread hf below _ _ next =>
      rcases List.mem_cons.mp hx with rfl | hx
      · exact ⟨_, .spread hf below .nil,
          fun z hz => List.mem_cons.mpr (.inl (List.mem_singleton.mp hz))⟩
      · obtain ⟨zs, hzs, hsub⟩ := next hx
        exact ⟨zs, hzs, fun z hz => List.mem_cons_of_mem _ (hsub z hz)⟩
  | missing hf _ next =>
      rcases List.mem_cons.mp hx with rfl | hx
      · exact ⟨[], .missing hf .nil, fun z hz => nomatch hz⟩
      · exact next hx

theorem exists_inlines {xs : List ExecutableSelection}
    (h : ∀ name ∈ spreads xs, ∀ f, d.fragment? name = some f → ∃ ys, d.Inlines f.selections ys) :
    ∃ ys, d.Inlines xs ys := by
  induction xs using Selection.induct with
  | nil => exact ⟨[], .nil⟩
  | field head inner rest below next =>
      obtain ⟨inner', hinner⟩ := below fun m hm => h m (List.mem_append_left _ hm)
      obtain ⟨rest', hrest⟩ := next fun m hm => h m (mem_spreads_tail m hm)
      exact ⟨_, .field hinner hrest⟩
  | inline on? ds place inner rest below next =>
      obtain ⟨inner', hinner⟩ := below fun m hm => h m (List.mem_append_left _ hm)
      obtain ⟨rest', hrest⟩ := next fun m hm => h m (mem_spreads_tail m hm)
      exact ⟨_, .inline hinner hrest⟩
  | spread name ds place rest next =>
      obtain ⟨rest', hrest⟩ := next fun m hm => h m (mem_spreads_tail m hm)
      cases hf : d.fragment? name with
      | none => exact ⟨rest', .missing hf hrest⟩
      | some f =>
          obtain ⟨inner', hinner⟩ := h name (mem_spreads_self name) f hf
          exact ⟨_, .spread hf hinner hrest⟩

theorem exists_inlines_of_spansWithin {n : Nat} (h : d.SpansWithin n xs) :
    ∃ ys, d.Inlines xs ys := by
  induction n generalizing xs with
  | zero =>
      refine exists_inlines fun name hname f hf => ?_
      rw [h name hname] at hf
      cases hf
  | succ n ih => exact exists_inlines fun name hname f hf => ih (h name hname f hf)

/-- Where no fragment reaches itself, selections can be written without names of fragments. -/
theorem exists_inlines_of_acyclic (h : d.Acyclic xs) : ∃ ys, d.Inlines xs ys :=
  exists_inlines_of_spansWithin (spansWithin_of_acyclic h)

end Executable

end GraphServe.Document
