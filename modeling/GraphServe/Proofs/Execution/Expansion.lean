import GraphServe.Proofs.Document.Declared
import GraphServe.Proofs.Document.Inlining
import GraphServe.Proofs.Execution.Collection
import GraphServe.Proofs.Validation.Acyclic

/-!
# Collecting and expanding

What selections ask of an object is collected with the set of the fragments that were opened: a
fragment that is named again is passed over, be it done or still open.  `Collects` is that recursion
without a bound on its depth.  To expand selections is to put what each fragment that counts and
applies selects wherever it is named (`Expands`).

* `collects_collectSelections`: collecting comes to an end for all fragments, those that reach
  themselves included, and it ends with what `collect` gives.
* `Collects.expanded`: **the set of opened fragments is an optimisation only**.  Where no fragment
  reaches itself, the response keys, their order, the first field and the fields under each are
  those of the expansion.

The second is by a depth-first search's invariant: each fragment that was opened and that the
selections to come can reach is `Settled`, which is to say that all its fields were collected.  One
that is still open is not settled, but what is selected within it does not reach it.
-/

namespace GraphServe.Execution

open Document Document.Executable

variable {s : Schema} {d : Executable} {object : String} {counts : Conditions}

/-- What a fragment on the spot selects of an object: nothing if it does not apply. -/
def selectedInline (s : Schema) (object : String) (on? : Option (Located String))
    (inside : List ExecutableSelection) : List ExecutableSelection :=
  if on?.all fun on => applies s object on.node then inside else []

/-- What a named fragment selects of an object: nothing if there is none of the name or it does not
apply. -/
def selectedBy (s : Schema) (d : Executable) (object : String) (name : String) :
    List ExecutableSelection :=
  match d.fragment? name with
  | some f => if applies s object f.condition.node then f.selections else []
  | none   => []

/-! ### Expanding -/

/-- The fields that selections ask of an object, with each fragment that counts and applies put
wherever it is named. -/
inductive Expands (s : Schema) (d : Executable) (object : String) (counts : Conditions) :
    List ExecutableSelection → List CollectedField → Prop where
  | nil : Expands s d object counts [] []
  | excluded {x : ExecutableSelection} {rest : List ExecutableSelection}
      {fields : List CollectedField} (h : counts x.directives = false)
      (next : Expands s d object counts rest fields) : Expands s d object counts (x :: rest) fields
  | field {head : FieldHead FieldDefinition} {inner rest : List ExecutableSelection}
      {fields : List CollectedField} (h : counts head.directives = true)
      (next : Expands s d object counts rest fields) :
      Expands s d object counts (.field head inner :: rest) (⟨head, inner⟩ :: fields)
  | inline {on? : Option (Located String)} {ds : List Directive} {place : Nat}
      {inside rest : List ExecutableSelection} {fields fields' : List CollectedField}
      (h : counts ds = true)
      (below : Expands s d object counts (selectedInline s object on? inside) fields)
      (next : Expands s d object counts rest fields') :
      Expands s d object counts (.inline on? ds place inside :: rest) (fields ++ fields')
  | spread {name : String} {ds : List Directive} {place : Nat}
      {rest : List ExecutableSelection} {fields fields' : List CollectedField}
      (h : counts ds = true)
      (below : Expands s d object counts (selectedBy s d object name) fields)
      (next : Expands s d object counts rest fields') :
      Expands s d object counts (.spread name ds place :: rest) (fields ++ fields')

section

variable {rest : List ExecutableSelection} {fields : List CollectedField}

theorem Expands.of_excluded {x : ExecutableSelection} (h : counts x.directives = false)
    (he : Expands s d object counts (x :: rest) fields) :
    Expands s d object counts rest fields := by
  cases he with
  | excluded _ next => exact next
  | field h' | inline h' | spread h' => exact absurd (h'.symm.trans h) nofun

theorem Expands.of_field {head : FieldHead FieldDefinition} {inner : List ExecutableSelection}
    (h : counts head.directives = true)
    (he : Expands s d object counts (.field head inner :: rest) fields) :
    ∃ next, fields = ⟨head, inner⟩ :: next ∧ Expands s d object counts rest next := by
  cases he with
  | excluded h' => exact absurd (h'.symm.trans h) nofun
  | field _ next => exact ⟨_, rfl, next⟩

theorem Expands.of_inline {on? : Option (Located String)} {ds : List Directive} {place : Nat}
    {inside : List ExecutableSelection} (h : counts ds = true)
    (he : Expands s d object counts (.inline on? ds place inside :: rest) fields) :
    ∃ below next, fields = below ++ next ∧
      Expands s d object counts (selectedInline s object on? inside) below ∧
      Expands s d object counts rest next := by
  cases he with
  | excluded h' => exact absurd (h'.symm.trans h) nofun
  | inline _ below next => exact ⟨_, _, rfl, below, next⟩

theorem Expands.of_spread {name : String} {ds : List Directive} {place : Nat}
    (h : counts ds = true)
    (he : Expands s d object counts (.spread name ds place :: rest) fields) :
    ∃ below next, fields = below ++ next ∧
      Expands s d object counts (selectedBy s d object name) below ∧
      Expands s d object counts rest next := by
  cases he with
  | excluded h' => exact absurd (h'.symm.trans h) nofun
  | spread _ below next => exact ⟨_, _, rfl, below, next⟩

end

theorem exists_expands {xs : List ExecutableSelection}
    (h : ∀ name ∈ spreads xs,
      ∃ fields, Expands s d object counts (selectedBy s d object name) fields) :
    ∃ fields, Expands s d object counts xs fields := by
  induction xs using Selection.induct with
  | nil => exact ⟨[], .nil⟩
  | field head inner rest _ next =>
      obtain ⟨fields, hrest⟩ := next fun m hm => h m (mem_spreads_tail m hm)
      cases hc : counts head.directives with
      | true => exact ⟨_, .field hc hrest⟩
      | false => exact ⟨_, .excluded hc hrest⟩
  | inline on? ds place inside rest below next =>
      obtain ⟨fields, hrest⟩ := next fun m hm => h m (mem_spreads_tail m hm)
      obtain ⟨fields', hinside⟩ := below fun m hm => h m (List.mem_append_left _ hm)
      cases hc : counts ds with
      | false => exact ⟨_, .excluded hc hrest⟩
      | true =>
          have hselected : ∃ fields,
              Expands s d object counts (selectedInline s object on? inside) fields := by
            rw [selectedInline]
            split
            · exact ⟨_, hinside⟩
            · exact ⟨[], .nil⟩
          obtain ⟨_, hselected⟩ := hselected
          exact ⟨_, .inline hc hselected hrest⟩
  | spread name ds place rest next =>
      obtain ⟨fields, hrest⟩ := next fun m hm => h m (mem_spreads_tail m hm)
      obtain ⟨fields', hf⟩ := h name (mem_spreads_self name)
      cases hc : counts ds with
      | false => exact ⟨_, .excluded hc hrest⟩
      | true => exact ⟨_, .spread hc hf hrest⟩

theorem exists_expands_of_spansWithin {n : Nat} {xs : List ExecutableSelection}
    (h : d.SpansWithin n xs) : ∃ fields, Expands s d object counts xs fields := by
  induction n generalizing xs with
  | zero =>
      refine exists_expands fun name hname => ?_
      rw [selectedBy, h name hname]
      exact ⟨[], .nil⟩
  | succ n ih =>
      refine exists_expands fun name hname => ?_
      rw [selectedBy]
      split
      · rename_i f hf
        split
        · exact ih (h name hname f hf)
        · exact ⟨[], .nil⟩
      · exact ⟨[], .nil⟩

/-! ### Collecting without a bound -/

/-- What is collected of selections: a fragment that is named is opened if it was not yet, and it is
among those that were opened before it is known to apply, and while its selections are followed. -/
inductive Collects (s : Schema) (d : Executable) (object : String) (counts : Conditions) :
    List ExecutableSelection → Collected → Collected → Prop where
  | nil {found : Collected} : Collects s d object counts [] found found
  | excluded {x : ExecutableSelection} {rest : List ExecutableSelection} {found last : Collected}
      (h : counts x.directives = false) (next : Collects s d object counts rest found last) :
      Collects s d object counts (x :: rest) found last
  | field {head : FieldHead FieldDefinition} {inner rest : List ExecutableSelection}
      {found last : Collected} (h : counts head.directives = true)
      (next : Collects s d object counts rest
        { found with groups := found.groups.add ⟨head, inner⟩ } last) :
      Collects s d object counts (.field head inner :: rest) found last
  | inline {on? : Option (Located String)} {ds : List Directive} {place : Nat}
      {inside rest : List ExecutableSelection} {found mid last : Collected}
      (h : counts ds = true)
      (below : Collects s d object counts (selectedInline s object on? inside) found mid)
      (next : Collects s d object counts rest mid last) :
      Collects s d object counts (.inline on? ds place inside :: rest) found last
  | again {name : String} {ds : List Directive} {place : Nat} {rest : List ExecutableSelection}
      {found last : Collected} (h : counts ds = true) (hm : name ∈ found.opened)
      (next : Collects s d object counts rest found last) :
      Collects s d object counts (.spread name ds place :: rest) found last
  | spread {name : String} {ds : List Directive} {place : Nat} {rest : List ExecutableSelection}
      {found mid last : Collected} (h : counts ds = true) (hn : name ∉ found.opened)
      (below : Collects s d object counts (selectedBy s d object name)
        { found with opened := name :: found.opened } mid)
      (next : Collects s d object counts rest mid last) :
      Collects s d object counts (.spread name ds place :: rest) found last

namespace Collects

variable {xs ys : List ExecutableSelection} {found mid last last' : Collected}

/-- Selections are collected in one way at most. -/
theorem unique (h : Collects s d object counts xs found last)
    (h' : Collects s d object counts xs found last') : last = last' := by
  induction h generalizing last' with
  | nil => cases h'; rfl
  | excluded hc _ next =>
      cases h' with
      | excluded _ next' => exact next next'
      | field hc' | inline hc' | again hc' | spread hc' => exact absurd (hc'.symm.trans hc) nofun
  | field hc _ next =>
      cases h' with
      | excluded hc' => exact absurd (hc'.symm.trans hc) nofun
      | field _ next' => exact next next'
  | inline hc _ _ below next =>
      cases h' with
      | excluded hc' => exact absurd (hc'.symm.trans hc) nofun
      | inline _ below' next' =>
          cases below below'
          exact next next'
  | again hc hm _ next =>
      cases h' with
      | excluded hc' => exact absurd (hc'.symm.trans hc) nofun
      | again _ _ next' => exact next next'
      | spread _ hn => exact absurd hm hn
  | spread hc hn _ _ below next =>
      cases h' with
      | excluded hc' => exact absurd (hc'.symm.trans hc) nofun
      | again _ hm => exact absurd hm hn
      | spread _ _ below' next' =>
          cases below below'
          exact next next'

/-- What was opened stays so. -/
theorem opened (h : Collects s d object counts xs found last) :
    ∀ name ∈ found.opened, name ∈ last.opened := by
  induction h with
  | nil => exact fun _ h => h
  | excluded _ _ next | again _ _ _ next | field _ _ next => exact next
  | inline _ _ _ below next => exact fun name h => next name (below name h)
  | spread _ _ _ _ below next =>
      exact fun name h => next name (below name (List.mem_cons_of_mem _ h))

end Collects

/-- How many fragments were not opened yet. -/
def Collected.unopened (d : Executable) (found : Collected) : Nat :=
  weigh (fun _ => 1) found.opened d.fragments

theorem Collects.unopened_le {xs : List ExecutableSelection} {found last : Collected}
    (h : Collects s d object counts xs found last) : last.unopened d ≤ found.unopened d :=
  weigh_mono h.opened

/-- A bounded recursion collects if it does within each fragment that it opens. -/
theorem collects_of_opens {n : Nat} {openFragment : String → Collected → Collected}
    (hopen : ∀ name (found : Collected), name ∉ found.opened → found.unopened d ≤ n →
      Collects s d object counts (selectedBy s d object name)
        { found with opened := name :: found.opened }
        (openFragment name { found with opened := name :: found.opened }))
    (xs : List ExecutableSelection) {found : Collected} (hn : found.unopened d ≤ n) :
    Collects s d object counts xs found
      (collectSelections s object counts openFragment xs found) := by
  induction xs using Selection.induct generalizing found with
  | nil => exact .nil
  | field head inner rest _ next =>
      rw [collectSelections, collectSelection]
      split
      · exact .field ‹_› (next hn)
      · exact .excluded (Bool.eq_false_iff.mpr ‹_›) (next hn)
  | inline on? ds place inside rest below next =>
      rw [collectSelections, collectSelection]
      cases hc : counts ds with
      | false => exact .excluded hc (next hn)
      | true =>
          rw [Bool.true_and]
          split
          · have hbelow : Collects s d object counts (selectedInline s object on? inside) found
                (collectSelections s object counts openFragment inside found) := by
              rw [selectedInline, if_pos ‹_›]
              exact below hn
            exact .inline hc hbelow (next (Nat.le_trans hbelow.unopened_le hn))
          · have hbelow : Collects s d object counts (selectedInline s object on? inside) found
                found := by
              rw [selectedInline, if_neg ‹_›]
              exact .nil
            exact .inline hc hbelow (next hn)
  | spread name ds place rest next =>
      rw [collectSelections, collectSelection]
      cases hc : counts ds with
      | false => exact .excluded hc (next hn)
      | true =>
          rw [Bool.true_and]
          by_cases hm : name ∈ found.opened
          · rw [List.contains_iff_mem.mpr hm]
            exact .again hc hm (next hn)
          · rw [if_pos (by simpa using hm)]
            have hbelow := hopen name found hm hn
            refine .spread hc hm hbelow (next (Nat.le_trans hbelow.unopened_le ?_))
            exact Nat.le_trans (weigh_mono fun _ => List.mem_cons_of_mem _) hn

/-- **Collecting comes to an end**: with as much fuel as there are fragments that were not opened,
it is the recursion without a bound. -/
theorem collects_collectSelections {fuel : Nat} (xs : List ExecutableSelection) {found : Collected}
    (hn : found.unopened d ≤ fuel) :
    Collects s d object counts xs found (collectSelections s object counts
      (collectFragment s d object counts fuel) xs found) := by
  induction fuel generalizing xs found with
  | zero =>
      refine collects_of_opens (fun name found hm hn => ?_) xs hn
      -- no fragment is left to be opened
      have hnone : d.fragment? name = none := by
        cases hf : d.fragment? name with
        | none => rfl
        | some f =>
            obtain ⟨_, ⟨⟩, -⟩ := weigh_enter hf hm hn
      rw [selectedBy, hnone]
      exact .nil
  | succ fuel ih =>
      refine collects_of_opens (fun name found hm hn => ?_) xs hn
      rw [selectedBy, collectFragment]
      cases hf : d.fragment? name with
      | none => exact .nil
      | some f =>
          dsimp only
          split
          · obtain ⟨_, ⟨⟩, hless⟩ := weigh_enter hf hm hn
            exact ih f.selections hless
          · exact .nil

/-- What is collected is what the recursion without a bound collects. -/
theorem collects_collect (s : Schema) (d : Executable) (object : String) (counts : Conditions)
    (sets : List (List ExecutableSelection)) :
    ∃ last, Collects s d object counts sets.flatten {} last ∧
      last.groups = collect s d object counts sets := by
  have hfuel : Collected.unopened d {} ≤ d.fragments.length + 1 := by
    rw [Collected.unopened, weigh_one]
    omega
  exact ⟨_, collects_collectSelections sets.flatten hfuel, (collect_flatten sets).symm⟩

/-! ### Nothing is lost -/

/-- All that a fragment asks for is held. -/
def Settled (s : Schema) (d : Executable) (object : String) (counts : Conditions)
    (gs : FieldGroups) (name : String) : Prop :=
  ∀ fields, Expands s d object counts (selectedBy s d object name) fields →
    ∀ field ∈ fields, gs.Holds field

theorem Settled.mono {gs gs' : FieldGroups} {name : String} (h : Settled s d object counts gs name)
    (sub : ∀ field, gs.Holds field → gs'.Holds field) : Settled s d object counts gs' name :=
  fun fields he field hm => sub field (h fields he field hm)

theorem exists_of_reaches_selectedBy {name last : String}
    (h : d.Reaches (selectedBy s d object name) last) :
    ∃ f, d.fragment? name = some f ∧ d.Reaches f.selections last := by
  rw [selectedBy] at h
  split at h
  · rename_i f hf
    split at h
    · exact ⟨f, hf, h⟩
    · exact absurd h not_reaches_nil
  · exact absurd h not_reaches_nil

/-- Nothing that was found is lost, and what was opened meanwhile is settled. -/
structure Advances (s : Schema) (d : Executable) (object : String) (counts : Conditions)
    (found last : Collected) : Prop where
  holds : ∀ field, found.groups.Holds field → last.groups.Holds field
  settled : ∀ name ∈ last.opened, name ∈ found.opened ∨ Settled s d object counts last.groups name

/-- Of what was opened, the selections reach only what is settled. -/
def Clear (s : Schema) (d : Executable) (object : String) (counts : Conditions)
    (xs : List ExecutableSelection) (found : Collected) : Prop :=
  ∀ name ∈ found.opened, d.Reaches xs name → Settled s d object counts found.groups name

section

variable {xs ys : List ExecutableSelection} {found mid last : Collected}

theorem Advances.refl (found : Collected) : Advances s d object counts found found :=
  ⟨fun _ h => h, fun _ hm => .inl hm⟩

theorem Advances.trans (h : Advances s d object counts found mid)
    (h' : Advances s d object counts mid last) : Advances s d object counts found last where
  holds field hf := h'.holds field (h.holds field hf)
  settled name hm := by
    rcases h'.settled name hm with hm | hs
    · exact (h.settled name hm).imp id (·.mono h'.holds)
    · exact .inr hs

theorem Clear.mono (h : Clear s d object counts ys found)
    (sub : ∀ name ∈ spreads xs, name ∈ spreads ys) : Clear s d object counts xs found :=
  fun name hm hr => h name hm (hr.mono sub)

theorem Clear.advance (h : Clear s d object counts xs found)
    (ha : Advances s d object counts found last) : Clear s d object counts xs last := by
  intro name hm hr
  rcases ha.settled name hm with hm | hs
  · exact (h name hm hr).mono ha.holds
  · exact hs

/-- A fragment that is opened does not reach itself, so it need not be settled. -/
theorem Clear.enter (h : Clear s d object counts xs found) (ha : d.Acyclic xs) {name : String}
    (hname : name ∈ spreads xs) :
    Clear s d object counts (selectedBy s d object name)
      { found with opened := name :: found.opened } := by
  intro m hm hr
  obtain ⟨f, hf, hin⟩ := exists_of_reaches_selectedBy hr
  rcases List.mem_cons.mp hm with rfl | hm
  · exact absurd hin (ha m f (.spread hname) hf)
  · exact h m hm (.through hname hf hin)

theorem acyclic_selectedBy (ha : d.Acyclic xs) {name : String} (hname : name ∈ spreads xs) :
    d.Acyclic (selectedBy s d object name) := by
  intro m g hr
  obtain ⟨f, hf, hr⟩ := exists_of_reaches_selectedBy hr
  exact ha.fragment hname hf m g hr

theorem spreads_selectedInline {on? : Option (Located String)} {inside : List ExecutableSelection} :
    ∀ m ∈ spreads (selectedInline s object on? inside), m ∈ spreads inside := by
  intro m hm
  rw [selectedInline] at hm
  split at hm
  · exact hm
  · cases hm

/-- What is collected is alike to adding the whole expansion. -/
theorem Collects.expanded (h : Collects s d object counts xs found last) (ha : d.Acyclic xs)
    (hs : Clear s d object counts xs found) :
    Advances s d object counts found last ∧ ∀ fields, Expands s d object counts xs fields →
      last.groups.Alike (found.groups.addAll fields) := by
  -- by how the selections are collected: each part leaves the next one a clear set of fragments
  induction h with
  | nil =>
      refine ⟨.refl _, fun fields he => ?_⟩
      cases he
      exact .refl _
  | excluded hc _ next =>
      obtain ⟨hlast, halike⟩ := next (ha.mono mem_spreads_tail) (hs.mono mem_spreads_tail)
      exact ⟨hlast, fun fields he => halike fields (he.of_excluded hc)⟩
  | @field head inner rest found last hc _ next =>
      have hadd : Advances s d object counts found
          { found with groups := found.groups.add ⟨head, inner⟩ } :=
        ⟨fun field hf => hf.add _, fun _ hm => .inl hm⟩
      obtain ⟨hlast, halike⟩ := next (ha.mono mem_spreads_tail)
        ((hs.mono mem_spreads_tail).advance hadd)
      refine ⟨hadd.trans hlast, fun fields he => ?_⟩
      obtain ⟨fields, rfl, hnext⟩ := he.of_field hc
      exact halike fields hnext
  | @inline on? ds place inside rest found mid last hc _ _ below next =>
      have hin : ∀ m ∈ spreads (selectedInline s object on? inside),
          m ∈ spreads (.inline on? ds place inside :: rest) := fun m hm =>
        List.mem_append_left _ (spreads_selectedInline m hm)
      obtain ⟨hmid, hbelow⟩ := below (ha.mono hin) (hs.mono hin)
      obtain ⟨hlast, hnext⟩ := next (ha.mono mem_spreads_tail)
        ((hs.mono mem_spreads_tail).advance hmid)
      refine ⟨hmid.trans hlast, fun fields he => ?_⟩
      obtain ⟨fields, fields', rfl, he, he'⟩ := he.of_inline hc
      exact (hbelow fields he).append (hnext fields' he')
  | @again name ds place rest found last hc hm _ next =>
      obtain ⟨hlast, hnext⟩ := next (ha.mono mem_spreads_tail) (hs.mono mem_spreads_tail)
      refine ⟨hlast, fun fields he => ?_⟩
      obtain ⟨fields, fields', rfl, he, he'⟩ := he.of_spread hc
      -- it was opened and can be reached, so it is settled
      have hheld : found.groups.Alike (found.groups.addAll fields) :=
        FieldGroups.alike_addAll (hs name hm (.spread (mem_spreads_self name)) fields he)
      exact hheld.append (hnext fields' he')
  | @spread name ds place rest found mid last hc hn _ _ below next =>
      obtain ⟨hopen, hbelow⟩ := below (acyclic_selectedBy ha (mem_spreads_self name))
        (hs.enter ha (mem_spreads_self name))
      -- the fragment is done, and settled with it
      have hmid : Advances s d object counts found mid := by
        refine ⟨hopen.holds, fun m hm => ?_⟩
        rcases hopen.settled m hm with hm | hm
        · rcases List.mem_cons.mp hm with rfl | hm
          · exact .inr fun fields he field hf =>
              (hbelow fields he).holds (FieldGroups.holds_addAll hf)
          · exact .inl hm
        · exact .inr hm
      obtain ⟨hlast, hnext⟩ := next (ha.mono mem_spreads_tail)
        ((hs.mono mem_spreads_tail).advance hmid)
      refine ⟨hmid.trans hlast, fun fields he => ?_⟩
      obtain ⟨fields, fields', rfl, he, he'⟩ := he.of_spread hc
      exact (hbelow fields he).append (hnext fields' he')

end

/-- **The set of opened fragments is an optimisation only.**  Collecting the fields of an object
comes to an end for all fragments, those that reach themselves included.  Where none does, the
selections can be expanded in full, and what is collected with one set for all of them has the same
response keys in the same order, with the same first field and the same fields under each. -/
theorem collect_expands (s : Schema) (d : Executable) (object : String) (values : Json.Members)
    (sets : List (List ExecutableSelection)) :
    (∃ last, Collects s d object (.strict values) sets.flatten {} last) ∧
    (∀ last, Collects s d object (.strict values) sets.flatten {} last →
      last.groups = collect s d object (.strict values) sets) ∧
    ((∀ set ∈ sets, d.Acyclic set) →
      (∃ fields, Expands s d object (.strict values) sets.flatten fields) ∧
      ∀ fields, Expands s d object (.strict values) sets.flatten fields →
        (collect s d object (.strict values) sets).Alike (.addAll [] fields)) := by
  obtain ⟨last, hlast, hgroups⟩ := collects_collect s d object (.strict values) sets
  refine ⟨⟨last, hlast⟩, fun other hother => hlast.unique hother ▸ hgroups, fun ha => ?_⟩
  have hflat : d.Acyclic sets.flatten := acyclic_flatten ha
  refine ⟨exists_expands_of_spansWithin (spansWithin_of_acyclic hflat), fun fields he => ?_⟩
  -- nothing was opened before
  have hclear : Clear s d object (.strict values) sets.flatten {} := fun _ hm => nomatch hm
  rw [← hgroups]
  exact (hlast.expanded hflat hclear).2 fields he

namespace Merged

/-- A schema with an object that has a field of its own type. -/
def schema : Schema where
  types := [Builtin.intScalar, Builtin.booleanScalar,
    ⟨"A", none, [], .object []
      [{ name := "x", type := .named "Int" false }, { name := "next", type := .named "A" false }]⟩,
    ⟨"Query", none, [], .object [] [{ name := "a", type := .named "A" false }]⟩]
  directives := Builtin.directives
  query := some "Query"

/-- A query that selects of one field twice.  The first time `G` is named within `F`, where a
variable leaves it out. -/
def definitions : List Definition :=
  [.operation
    { type := .query, name := none, directives := [], place := 0
      variableDefinitions := [⟨"v", .named "Boolean" true, none, [], 0⟩]
      selections :=
        [.plain "a" 1 [.spread "F" [] 2, .plain "x" 3 []],
         .plain "a" 4 [.spread "G" [] 5, .spread "F" [] 6]] },
    .fragment ⟨⟨"F", 7⟩, ⟨"A", 7⟩, [], [.plain "x" 8 [],
      .spread "G" [⟨"skip", [⟨"if", ⟨.variable "v", 9⟩, 9⟩], 9⟩] 9], 7⟩,
    .fragment ⟨⟨"G", 10⟩, ⟨"A", 10⟩, [], [.plain "next" 11 [.plain "x" 12 []]], 10⟩]

/-- The document of the query. -/
def document : Executable := (Executable.resolve schema definitions).1

/-- What is selected of the one field and of the other. -/
def sets : List (List ExecutableSelection) :=
  ((document.anonymous.map (·.selections)).getD []).filterMap fun
    | .field _ inner => some inner
    | _              => none

/-- A fragment that reaches itself. -/
def looped : Executable where
  fragments := [("F", ⟨⟨"F", 0⟩, ⟨"A", 0⟩, [],
    [.field ⟨none, ⟨"x", 1⟩, [], [], 1, { name := "x", type := .named "Int" false }⟩ [],
      .spread "F" [] 2], 0⟩)]

end Merged

/-- What the theorem says of the two sets, and of a fragment that reaches itself. -/
theorem collect_expands_merged : (∀ set ∈ Merged.sets, Merged.document.Acyclic set) ∧
    (∃ fields, Expands Merged.schema Merged.document "A" (.strict [("v", .bool true)])
        Merged.sets.flatten fields ∧
      (FieldGroups.addAll [] fields).map Prod.fst = ["x", "next"]) ∧
    ∃ last, Collects Merged.schema Merged.looped "A" (.strict []) [.spread "F" [] 0] {} last ∧
      last.groups.map Prod.fst = ["x"] := by
  have hacyclic : ∀ set ∈ Merged.sets, Merged.document.Acyclic set := by
    have hvalid : Validation.validate Merged.schema Merged.definitions = .ok Merged.document := rfl
    have hquery : Merged.document.Acyclic (Merged.document.anonymous.getD default).selections :=
      Validation.acyclic_of_validate hvalid List.mem_cons_self
    intro set hset
    have hnames : ∀ set ∈ Merged.sets, ∀ m ∈ spreads set,
        m ∈ spreads (Merged.document.anonymous.getD default).selections := by decide
    exact hquery.mono (hnames set hset)
  obtain ⟨-, -, hexpand⟩ := collect_expands Merged.schema Merged.document "A"
    [("v", .bool true)] Merged.sets
  obtain ⟨⟨fields, he⟩, halike⟩ := hexpand hacyclic
  obtain ⟨⟨last, hlast⟩, hgroups, -⟩ := collect_expands Merged.schema Merged.looped "A" []
    [[.spread "F" [] 0]]
  refine ⟨hacyclic, ⟨fields, he, (halike fields he).keys.symm.trans rfl⟩, last, hlast, ?_⟩
  rw [hgroups last hlast]
  rfl

end GraphServe.Execution
