import GraphServe.Document.Executable

/-!
# Fields that selections lead to

A field occurs in selections if it stands there, in a fragment on the spot, or in a named fragment
that is spread there (`Occurs`).  What is selected of it is not looked into: following selections
from field to field goes one level deeper each time, and `NestsWithin` bounds the levels.

**Acyclic selections are finite** (`nestsWithin_fieldCount`): where no fragment that selections
reach reaches itself, fields are nested no deeper than the document has fields, and fragments no
deeper than it has fragments (`spansWithin_of_acyclic`).
-/

namespace GraphServe.Document.Executable

/-- A field, with what is selected of it, is one of those that selections ask for. -/
inductive Occurs (d : Executable) :
    List ExecutableSelection → FieldHead FieldDefinition → List ExecutableSelection → Prop where
  | field {selections : List ExecutableSelection} {head : FieldHead FieldDefinition}
      {inner : List ExecutableSelection} (h : .field head inner ∈ selections) :
      Occurs d selections head inner
  | inline {selections inside inner : List ExecutableSelection} {on? : Option (Located String)}
      {ds : List Directive} {place : Nat} {head : FieldHead FieldDefinition}
      (h : .inline on? ds place inside ∈ selections) (below : Occurs d inside head inner) :
      Occurs d selections head inner
  | spread {selections inner : List ExecutableSelection} {name : String} {ds : List Directive}
      {place : Nat} {f : Fragment FieldDefinition} {head : FieldHead FieldDefinition}
      (h : .spread name ds place ∈ selections) (hf : d.fragment? name = some f)
      (below : Occurs d f.selections head inner) : Occurs d selections head inner

theorem Occurs.mono {d : Executable} {xs ys inner : List ExecutableSelection}
    {head : FieldHead FieldDefinition} (sub : ∀ x ∈ xs, x ∈ ys) (h : Occurs d xs head inner) :
    Occurs d ys head inner := by
  cases h with
  | field h => exact .field (sub _ h)
  | inline h below => exact .inline (sub _ h) below
  | spread h hf below => exact .spread (sub _ h) hf below

theorem not_occurs_nil {d : Executable} {inner : List ExecutableSelection}
    {head : FieldHead FieldDefinition} : ¬ d.Occurs [] head inner := by
  intro h
  cases h with
  | field h => cases h
  | inline h => cases h
  | spread h => cases h

theorem Occurs.of_append {d : Executable} {xs ys inner : List ExecutableSelection}
    {head : FieldHead FieldDefinition} (h : d.Occurs (xs ++ ys) head inner) :
    d.Occurs xs head inner ∨ d.Occurs ys head inner := by
  cases h with
  | field h => exact (List.mem_append.mp h).imp .field .field
  | inline h below => exact (List.mem_append.mp h).imp (.inline · below) (.inline · below)
  | spread h hf below => exact (List.mem_append.mp h).imp (.spread · hf below) (.spread · hf below)

theorem Occurs.of_flatten {d : Executable} {sets : List (List ExecutableSelection)}
    {head : FieldHead FieldDefinition} {inner : List ExecutableSelection}
    (h : d.Occurs sets.flatten head inner) : ∃ set ∈ sets, d.Occurs set head inner := by
  induction sets with
  | nil => exact absurd h not_occurs_nil
  | cons set rest ih =>
      rcases h.of_append with h | h
      · exact ⟨set, List.mem_cons_self, h⟩
      · obtain ⟨set', hm, h⟩ := ih h
        exact ⟨set', List.mem_cons_of_mem _ hm, h⟩

/-- Fields are nested in each other at most `n` levels deep. -/
def NestsWithin (d : Executable) : Nat → List ExecutableSelection → Prop
  | 0,     selections => ∀ head inner, ¬ d.Occurs selections head inner
  | n + 1, selections => ∀ head inner, d.Occurs selections head inner → d.NestsWithin n inner

/-! ### Fragments that selections reach -/

/-- A fragment is named in selections, at any depth, or in a fragment that they reach. -/
inductive Reaches (d : Executable) : List ExecutableSelection → String → Prop where
  | spread {selections : List ExecutableSelection} {name : String} (h : name ∈ spreads selections) :
      Reaches d selections name
  | through {selections : List ExecutableSelection} {name last : String}
      {f : Fragment FieldDefinition} (h : name ∈ spreads selections)
      (hf : d.fragment? name = some f) (below : Reaches d f.selections last) :
      Reaches d selections last

theorem not_reaches_nil {d : Executable} {name : String} : ¬ d.Reaches [] name := by
  intro h
  cases h with
  | spread h | through h => exact List.not_mem_nil h

/-- No fragment that selections reach reaches itself. -/
def Acyclic (d : Executable) (selections : List ExecutableSelection) : Prop :=
  ∀ name f, d.Reaches selections name → d.fragment? name = some f → ¬ d.Reaches f.selections name

variable {d : Executable}

theorem mem_spreads_tail {x : ExecutableSelection} {rest : List ExecutableSelection} (name : String)
    (h : name ∈ spreads rest) : name ∈ spreads (x :: rest) := List.mem_append_right _ h

theorem mem_spreads_self (name : String) {ds : List Directive} {place : Nat}
    {rest : List ExecutableSelection} : name ∈ spreads (.spread name ds place :: rest) :=
  List.mem_append_left _ (List.mem_singleton_self name)

theorem Reaches.mono {xs ys : List ExecutableSelection} {name : String}
    (sub : ∀ m ∈ spreads xs, m ∈ spreads ys) (h : d.Reaches xs name) : d.Reaches ys name := by
  cases h with
  | spread h => exact .spread (sub _ h)
  | through h hf below => exact .through (sub _ h) hf below

theorem Reaches.trans {xs : List ExecutableSelection} {name last : String}
    {f : Fragment FieldDefinition} (h : d.Reaches xs name) (hf : d.fragment? name = some f)
    (hl : d.Reaches f.selections last) : d.Reaches xs last := by
  induction h with
  | spread h => exact .through h hf hl
  | through h hg _ ih => exact .through h hg (ih hf)

theorem Acyclic.mono {xs ys : List ExecutableSelection} (h : d.Acyclic ys)
    (sub : ∀ m ∈ spreads xs, m ∈ spreads ys) : d.Acyclic xs := fun name f hr =>
  h name f (hr.mono sub)

/-- What a named fragment selects is acyclic as well. -/
theorem Acyclic.fragment {xs : List ExecutableSelection} (h : d.Acyclic xs) {name : String}
    (hname : name ∈ spreads xs) {f : Fragment FieldDefinition} (hf : d.fragment? name = some f) :
    d.Acyclic f.selections := fun other g hr => h other g (.through hname hf hr)

/-- A fragment is entered once: what it selects does not reach it again. -/
theorem Acyclic.unseen {xs : List ExecutableSelection} (h : d.Acyclic xs) {seen : List String}
    (hs : ∀ name ∈ seen, ¬ d.Reaches xs name) {name : String} (hname : name ∈ spreads xs)
    {f : Fragment FieldDefinition} (hf : d.fragment? name = some f) :
    ∀ m ∈ name :: seen, ¬ d.Reaches f.selections m := by
  intro m hm hr
  rcases List.mem_cons.mp hm with rfl | hm
  · exact h m f (.spread hname) hf hr
  · exact hs m hm (.through hname hf hr)

theorem spreads_of_mem {xs : List ExecutableSelection} {x : ExecutableSelection} (h : x ∈ xs) :
    ∀ m ∈ spreadsOf x, m ∈ spreads xs := by
  induction xs with
  | nil => cases h
  | cons first rest ih =>
      intro m hm
      rw [spreads, List.mem_append]
      rcases List.mem_cons.mp h with rfl | h
      · exact .inl hm
      · exact .inr (ih h m hm)

theorem exists_of_mem_spreads {xs : List ExecutableSelection} {name : String}
    (h : name ∈ spreads xs) : ∃ x ∈ xs, name ∈ spreadsOf x := by
  induction xs with
  | nil => cases h
  | cons x rest ih =>
      rcases List.mem_append.mp h with h | h
      · exact ⟨x, List.mem_cons_self, h⟩
      · obtain ⟨y, hy, h⟩ := ih h
        exact ⟨y, List.mem_cons_of_mem _ hy, h⟩

theorem fieldsIn_of_mem {xs : List ExecutableSelection} {x : ExecutableSelection} (h : x ∈ xs) :
    fieldsInSelection x ≤ fieldsIn xs := by
  induction xs with
  | nil => cases h
  | cons first rest ih =>
      rw [fieldsIn]
      rcases List.mem_cons.mp h with rfl | h
      · omega
      · have := ih h
        omega

theorem exists_of_mem_spreads_flatten {sets : List (List ExecutableSelection)} {name : String}
    (h : name ∈ spreads sets.flatten) : ∃ set ∈ sets, name ∈ spreads set := by
  obtain ⟨x, hx, hname⟩ := exists_of_mem_spreads h
  obtain ⟨set, hset, hx⟩ := List.mem_flatten.mp hx
  exact ⟨set, hset, spreads_of_mem hx name hname⟩

/-- Sets of selections, each of them acyclic, are acyclic together. -/
theorem acyclic_flatten {sets : List (List ExecutableSelection)}
    (h : ∀ set ∈ sets, d.Acyclic set) : d.Acyclic sets.flatten := by
  intro name f hr
  have : ∃ set ∈ sets, d.Reaches set name := by
    cases hr with
    | spread hname =>
        obtain ⟨set, hset, hname⟩ := exists_of_mem_spreads_flatten hname
        exact ⟨set, hset, .spread hname⟩
    | through hname hf below =>
        obtain ⟨set, hset, hname⟩ := exists_of_mem_spreads_flatten hname
        exact ⟨set, hset, .through hname hf below⟩
  obtain ⟨set, hset, hr⟩ := this
  exact h set hset name f hr

/-- What is selected of a field reaches no more than the selections that the field occurs in. -/
theorem Occurs.reaches {xs inner : List ExecutableSelection} {head : FieldHead FieldDefinition}
    (h : d.Occurs xs head inner) {name : String} (hr : d.Reaches inner name) :
    d.Reaches xs name := by
  induction h with
  | field h => exact hr.mono fun m hm => spreads_of_mem h m (by rwa [spreadsOf])
  | inline h _ ih => exact (ih hr).mono fun m hm => spreads_of_mem h m (by rwa [spreadsOf])
  | spread h hf _ ih => exact .through (spreads_of_mem h _ (by simp [spreadsOf])) hf (ih hr)

/-! ### A measure -/

/-- The weight of the fragments that are not among those `seen`. -/
def weigh (weight : Fragment FieldDefinition → Nat) (seen : List String) :
    List (String × Fragment FieldDefinition) → Nat
  | []                => 0
  | (name, f) :: rest => (if name ∈ seen then 0 else weight f) + weigh weight seen rest

variable {weight : Fragment FieldDefinition → Nat}
  {fragments : List (String × Fragment FieldDefinition)} {seen : List String}

theorem weigh_nil : weigh weight [] fragments = fragments.foldr (fun f n => weight f.2 + n) 0 := by
  induction fragments with
  | nil => rfl
  | cons f rest ih => rw [weigh, ih, if_neg List.not_mem_nil]; rfl

theorem weigh_one : weigh (fun _ => 1) [] fragments = fragments.length := by
  induction fragments with
  | nil => rfl
  | cons f rest ih => rw [weigh, ih, if_neg List.not_mem_nil, List.length_cons, Nat.add_comm]

theorem weigh_mono {seen' : List String} (sub : ∀ name ∈ seen, name ∈ seen') :
    weigh weight seen' fragments ≤ weigh weight seen fragments := by
  induction fragments with
  | nil => exact Nat.le_refl _
  | cons f rest ih =>
      obtain ⟨key, g⟩ := f
      rw [weigh, weigh]
      by_cases h : key ∈ seen
      · rw [if_pos h, if_pos (sub key h)]
        omega
      · rw [if_neg h]
        split <;> omega

/-- To see a fragment takes its weight away. -/
theorem weigh_cons (weight : Fragment FieldDefinition → Nat) {name : String} {f : Fragment FieldDefinition}
    (hf : fragments.lookup name = some f) (hn : name ∉ seen) :
    weight f + weigh weight (name :: seen) fragments ≤ weigh weight seen fragments := by
  induction fragments with
  | nil => cases hf
  | cons first rest ih =>
      obtain ⟨key, g⟩ := first
      rw [List.lookup_cons] at hf
      rw [weigh, weigh]
      by_cases hk : name = key
      · subst hk
        rw [beq_self_eq_true, Option.some.injEq] at hf
        subst hf
        have : weigh weight (name :: seen) rest ≤ weigh weight seen rest :=
          weigh_mono fun _ => List.mem_cons_of_mem _
        rw [if_pos List.mem_cons_self, if_neg hn]
        omega
      · rw [beq_false_of_ne hk] at hf
        have := ih hf
        by_cases hs : key ∈ seen
        · rw [if_pos (List.mem_cons_of_mem _ hs), if_pos hs]
          omega
        · rw [if_neg hs]
          split <;> omega

/-- Once a fragment is seen, there is one less to be seen. -/
theorem weigh_enter {name : String} {f : Fragment FieldDefinition} {n : Nat}
    (hf : fragments.lookup name = some f) (hn : name ∉ seen)
    (h : weigh (fun _ => 1) seen fragments ≤ n) :
    ∃ m, n = m + 1 ∧ weigh (fun _ => 1) (name :: seen) fragments ≤ m := by
  have := weigh_cons (fun _ => 1) hf hn
  exact ⟨n - 1, by omega, by omega⟩

/-- The number of fields in selections and in the fragments not yet `seen`: it gets smaller with
each level of fields. -/
def depthBound (d : Executable) (seen : List String) (selections : List ExecutableSelection) : Nat :=
  fieldsIn selections + weigh (fun f => fieldsIn f.selections) seen d.fragments

/-- To go from selections to what is selected of a field in them takes a field away. -/
theorem Occurs.descends {xs inner : List ExecutableSelection} {head : FieldHead FieldDefinition}
    (h : d.Occurs xs head inner) {seen : List String} (ha : d.Acyclic xs)
    (hs : ∀ name ∈ seen, ¬ d.Reaches xs name) :
    ∃ seen', (∀ name ∈ seen', ¬ d.Reaches inner name) ∧
      d.depthBound seen' inner < d.depthBound seen xs := by
  -- by how the field occurs: `seen` are the fragments entered on the way to it
  induction h generalizing seen with
  | @field xs head inner h =>
      have hsub : ∀ m ∈ spreads inner, m ∈ spreads xs := fun m hm =>
        spreads_of_mem h m (by rwa [spreadsOf])
      refine ⟨seen, fun name hm hr => hs name hm (hr.mono hsub), ?_⟩
      have := fieldsIn_of_mem h
      rw [fieldsInSelection] at this
      unfold depthBound
      omega
  | @inline xs inside inner _ _ _ _ h _ ih =>
      have hsub : ∀ m ∈ spreads inside, m ∈ spreads xs := fun m hm =>
        spreads_of_mem h m (by rwa [spreadsOf])
      obtain ⟨seen', hs', hlt⟩ := ih (ha.mono hsub) fun name hm hr => hs name hm (hr.mono hsub)
      have := fieldsIn_of_mem h
      rw [fieldsInSelection] at this
      refine ⟨seen', hs', Nat.lt_of_lt_of_le hlt ?_⟩
      unfold depthBound
      omega
  | @spread xs inner name _ _ f _ h hf _ ih =>
      have hname : name ∈ spreads xs := spreads_of_mem h _ (by simp [spreadsOf])
      have hnot : name ∉ seen := fun hm => hs name hm (.spread hname)
      obtain ⟨seen', hs', hlt⟩ := ih (ha.fragment hname hf) (ha.unseen hs hname hf)
      refine ⟨seen', hs', Nat.lt_of_lt_of_le hlt ?_⟩
      have := weigh_cons (fun f => fieldsIn f.selections) hf hnot
      unfold depthBound
      omega

theorem nestsWithin_of_acyclic {n : Nat} {xs : List ExecutableSelection} {seen : List String}
    (ha : d.Acyclic xs) (hs : ∀ name ∈ seen, ¬ d.Reaches xs name)
    (hn : d.depthBound seen xs ≤ n) : d.NestsWithin n xs := by
  induction n generalizing xs seen with
  | zero =>
      intro head inner ho
      obtain ⟨seen', -, hlt⟩ := ho.descends ha hs
      omega
  | succ n ih =>
      intro head inner ho
      obtain ⟨seen', hs', hlt⟩ := ho.descends ha hs
      exact ih (fun name f hr => ha name f (ho.reaches hr)) hs' (by omega)

theorem fieldsIn_le_foldr {operations : List (Operation FieldDefinition)}
    {o : Operation FieldDefinition} (ho : o ∈ operations) :
    fieldsIn o.selections ≤ operations.foldr (fun o n => fieldsIn o.selections + n) 0 := by
  induction operations with
  | nil => cases ho
  | cons first rest ih =>
      rw [List.foldr_cons]
      rcases List.mem_cons.mp ho with rfl | ho
      · omega
      · have := ih ho
        omega

/-- **Acyclic selections are finite**: fields are nested no deeper than the document has fields. -/
theorem nestsWithin_fieldCount {o : Operation FieldDefinition} (ho : o ∈ d.allOperations)
    (ha : d.Acyclic o.selections) : d.NestsWithin d.fieldCount o.selections := by
  have hbound : d.depthBound [] o.selections ≤ d.fieldCount := by
    have := fieldsIn_le_foldr ho
    rw [depthBound, weigh_nil, fieldCount]
    omega
  exact nestsWithin_of_acyclic ha (List.forall_mem_nil _) hbound

/-! ### Fragments inside each other -/

/-- Named fragments are nested at most `n` deep. -/
def SpansWithin (d : Executable) : Nat → List ExecutableSelection → Prop
  | 0,     selections => ∀ name ∈ spreads selections, d.fragment? name = none
  | n + 1, selections => ∀ name ∈ spreads selections, ∀ f, d.fragment? name = some f →
      d.SpansWithin n f.selections

theorem SpansWithin.fragment? {n : Nat} {selections : List ExecutableSelection}
    (h : d.SpansWithin n selections) {name : String} (hname : name ∈ spreads selections)
    {f : Fragment FieldDefinition} (hf : d.fragment? name = some f) :
    ∃ m, n = m + 1 ∧ d.SpansWithin m f.selections := by
  cases n with
  | zero => rw [h name hname] at hf; cases hf
  | succ m => exact ⟨m, rfl, h name hname f hf⟩

theorem SpansWithin.mono {n : Nat} {xs ys : List ExecutableSelection}
    (sub : ∀ m ∈ spreads xs, m ∈ spreads ys) (h : d.SpansWithin n ys) : d.SpansWithin n xs := by
  cases n with
  | zero => exact fun m hm => h m (sub m hm)
  | succ n => exact fun m hm => h m (sub m hm)

theorem spansWithin_of_weigh {n : Nat} {xs : List ExecutableSelection} {seen : List String}
    (ha : d.Acyclic xs) (hs : ∀ name ∈ seen, ¬ d.Reaches xs name)
    (hn : weigh (fun _ => 1) seen d.fragments ≤ n) : d.SpansWithin n xs := by
  induction n generalizing xs seen with
  | zero =>
      intro name hname
      cases hf : d.fragment? name with
      | none => rfl
      | some f =>
          obtain ⟨_, ⟨⟩, -⟩ := weigh_enter hf (fun hm => hs name hm (.spread hname)) hn
  | succ n ih =>
      intro name hname f hf
      obtain ⟨_, ⟨⟩, hless⟩ := weigh_enter hf (fun hm => hs name hm (.spread hname)) hn
      exact ih (ha.fragment hname hf) (ha.unseen hs hname hf) hless

/-- Where no fragment reaches itself, they are nested no deeper than there are fragments. -/
theorem spansWithin_of_acyclic {xs : List ExecutableSelection} (ha : d.Acyclic xs) :
    d.SpansWithin d.fragments.length xs :=
  spansWithin_of_weigh ha (List.forall_mem_nil _) (Nat.le_of_eq weigh_one)

end GraphServe.Document.Executable
