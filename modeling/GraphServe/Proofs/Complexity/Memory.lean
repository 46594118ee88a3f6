import GraphServe.Complexity
import GraphServe.Proofs.Document.Inlining
import GraphServe.Proofs.Json.Value

/-!
# What an operation costs without memory

The walk that computes a cost remembers what each named fragment costs.  The plain recursion has no
memory (`Complexity.plainIn`): it is for selections that name no fragments, because these stand on
the spot.

**Memory makes no difference** (`ofOperation_plain`).  Whatever costs a service has of its own, the
walk through an operation comes to the cost of the plain recursion through the operation with its
fragments put on the spot.  What carries the proof is what is remembered (`Remembers`): it is always
the cost of the fragment by the plain recursion, wherever the fragment was met first.
-/

namespace GraphServe.Complexity

open Document Executable

variable {service : Service} {values : Json.Members} {d : Executable}

/-! ### The plain recursion -/

mutual

/-- The cost of a selection on a type, computed without memory; the name of a fragment costs
nothing. -/
def plainOf (service : Service) (values : Json.Members) (type : String) : ExecutableSelection → Nat
  | .spread _ _ _         => 0
  | .inline on? _ _ inner => plainIn service values ((on?.map (·.node)).getD type) inner
  | .field head inner     =>
      let inside := head.note.type.innerName
      if inside = "__Schema" then 0
      else
        fieldCost service type head.name.node
          (if isComposite service.schema inside then plainIn service values inside inner else 0)
          (Arguments.ofField head head.note values)

/-- The cost of selections on a type, computed without memory. -/
def plainIn (service : Service) (values : Json.Members) (type : String) :
    List ExecutableSelection → Nat
  | []            => 0
  | first :: rest => add (plainOf service values type first) (plainIn service values type rest)

end

theorem plainIn_le_maximum (type : String) (xs : List ExecutableSelection) :
    plainIn service values type xs ≤ maximum := by
  cases xs with
  | nil => exact Nat.zero_le _
  | cons first rest => exact Nat.min_le_right _ _

/-- Nothing is added by what costs nothing. -/
theorem zero_add_plainIn (type : String) (xs : List ExecutableSelection) :
    add 0 (plainIn service values type xs) = plainIn service values type xs := by
  rw [add, Nat.zero_add]
  exact Nat.min_eq_left (plainIn_le_maximum type xs)

/-! ### What is remembered -/

/-- What is remembered of fragments is what they cost by the plain recursion. -/
def Remembers (service : Service) (values : Json.Members) (d : Executable) (p : Progress) : Prop :=
  ∀ e ∈ p.fragments, ∃ f inner, d.fragment? e.1 = some f ∧ d.Inlines f.selections inner ∧
    e.2 = plainIn service values f.condition.node inner

theorem remembers_nil (service : Service) (values : Json.Members) (d : Executable) :
    Remembers service values d {} := fun _ he => nomatch he

/-- What is remembered of a fragment is found again. -/
theorem Remembers.lookup {p : Progress} (h : Remembers service values d p) {name : String}
    {cost : Nat} (hcost : p.fragments.lookup name = some cost) :
    ∃ f inner, d.fragment? name = some f ∧ d.Inlines f.selections inner ∧
      cost = plainIn service values f.condition.node inner :=
  h (name, cost) (mem_of_lookup hcost)

theorem Remembers.cons {p : Progress} (h : Remembers service values d p) {name : String}
    {f : Fragment FieldDefinition} {inner : List ExecutableSelection}
    (hf : d.fragment? name = some f) (hinner : d.Inlines f.selections inner) :
    Remembers service values d { p with
      fragments := (name, plainIn service values f.condition.node inner) :: p.fragments } :=
  fun e he => by
    rcases List.mem_cons.mp he with rfl | he
    · exact ⟨f, inner, hf, hinner, rfl⟩
    · exact h e he

/-- A part of the walk comes to a cost, and what is remembered stays right. -/
def Computes (service : Service) (values : Json.Members) (d : Executable)
    (walk : StateM Progress Nat) (cost : Nat) : Prop :=
  ∀ p, Remembers service values d p →
    (walk p).1 = cost ∧ Remembers service values d (walk p).2

namespace Computes

theorem pure (cost : Nat) : Computes service values d (Pure.pure cost) cost := fun _ hp => ⟨rfl, hp⟩

theorem add {walk next : StateM Progress Nat} {a b : Nat} (h : Computes service values d walk a)
    (h' : Computes service values d next b) :
    Computes service values d (do let cost ← walk; return Complexity.add cost (← next))
      (Complexity.add a b) := fun p hp => by
  obtain ⟨ha, hp⟩ := h p hp
  obtain ⟨hb, hp⟩ := h' _ hp
  exact ⟨by rw [← ha, ← hb]; rfl, hp⟩

/-- An event may be put down for a cost made of another. -/
theorem event {walk : StateM Progress Nat} {a : Nat} (h : Computes service values d walk a)
    (next : Nat → Nat) (event : Nat → Event) :
    Computes service values d (do
      let cost ← walk
      modify fun p => { p with events := p.events ++ [event cost] }
      return next cost) (next a) := fun p hp => by
  obtain ⟨ha, hp⟩ := h p hp
  exact ⟨by rw [← ha]; rfl, hp⟩

end Computes

/-! ### The walk -/

theorem ofFragment_apply (service : Service) (d : Executable) (values : Json.Members) (fuel : Nat)
    (name : String) (p : Progress) :
    ofFragment service d values (fuel + 1) name p =
      match p.fragments.lookup name, d.fragment? name with
      | some cost, _      => (cost, p)
      | none,      none   => (0, p)
      | none,      some f =>
          let (cost, q) := ofSelections service values (ofFragment service d values fuel)
            f.condition.node f.selections p
          (cost, { q with fragments := (name, cost) :: q.fragments }) := by
  change (match p.fragments.lookup name, d.fragment? name with
    | some _, _ => _ | none, none => _ | none, some _ => _ : StateM Progress Nat) p = _
  cases p.fragments.lookup name with
  | some cost => rfl
  | none => cases d.fragment? name <;> rfl

/-- A fragment that there is none of costs nothing. -/
theorem ofFragment_missing {name : String} (hf : d.fragment? name = none) (fuel : Nat) :
    Computes service values d (ofFragment service d values fuel name) 0 := fun p hp => by
  cases fuel with
  | zero => exact ⟨rfl, hp⟩
  | succ fuel =>
      rw [ofFragment_apply]
      cases hknown : p.fragments.lookup name with
      | some cost =>
          obtain ⟨f, -, hf', -⟩ := hp.lookup hknown
          cases hf.symm.trans hf'
      | none =>
          rw [hf]
          exact ⟨rfl, hp⟩

/-- A fragment costs what it costs on the spot, whether it is remembered or not. -/
theorem ofFragment_computes {name : String} {f : Fragment FieldDefinition}
    {inner : List ExecutableSelection} (hf : d.fragment? name = some f)
    (hinner : d.Inlines f.selections inner) {fuel : Nat}
    (h : Computes service values d
      (ofSelections service values (ofFragment service d values fuel) f.condition.node f.selections)
      (plainIn service values f.condition.node inner)) :
    Computes service values d (ofFragment service d values (fuel + 1) name)
      (plainIn service values f.condition.node inner) := fun p hp => by
  rw [ofFragment_apply]
  cases hknown : p.fragments.lookup name with
  | some cost =>
      obtain ⟨g, inner', hg, hinner', hcost⟩ := hp.lookup hknown
      cases hf.symm.trans hg
      rw [hinner.unique hinner']
      exact ⟨hcost, hp⟩
  | none =>
      rw [hf]
      obtain ⟨hcost, hq⟩ := h p hp
      have hcons := hq.cons hf hinner
      rw [← hcost] at hcons
      exact ⟨hcost, hcons⟩

/-- The walk through selections comes to their cost with the fragments on the spot, if it may enter
as many fragments inside each other as there are. -/
theorem ofSelections_computes {xs ys : List ExecutableSelection} (h : d.Inlines xs ys)
    {n fuel : Nat} (hspan : d.SpansWithin n xs) (hfuel : n ≤ fuel) (type : String) :
    Computes service values d
      (ofSelections service values (ofFragment service d values fuel) type xs)
      (plainIn service values type ys) := by
  -- by how the fragments are put on the spot: one that is entered takes one from the fuel
  induction h generalizing n fuel type with
  | nil => exact .pure 0
  | @field head inner inner' rest rest' _ _ below next =>
      refine .add ?_ (next (hspan.mono mem_spreads_tail) hfuel type)
      rw [ofSelection, plainOf]
      dsimp only
      have hbelow := below (hspan.mono fun _ => List.mem_append_left _) hfuel
        head.note.type.innerName
      split
      · exact .pure 0
      split
      · exact hbelow.event _ _
      · exact (Computes.pure 0).event _ _
  | inline _ _ below next =>
      exact .add (below (hspan.mono fun _ => List.mem_append_left _) hfuel _)
        (next (hspan.mono mem_spreads_tail) hfuel type)
  | spread hf hinner _ below next =>
      refine .add ?_ (next (hspan.mono mem_spreads_tail) hfuel type)
      obtain ⟨m, rfl, hm⟩ := hspan.fragment? (mem_spreads_self _) hf
      cases fuel with
      | zero => exact absurd hfuel (Nat.not_succ_le_zero m)
      | succ fuel =>
          exact ofFragment_computes hf hinner (below hm (Nat.le_of_succ_le_succ hfuel) _)
  | missing hf _ next =>
      rw [← zero_add_plainIn]
      exact .add (ofFragment_missing hf fuel) (next (hspan.mono mem_spreads_tail) hfuel type)

/-- **Memory makes no difference**: an operation costs what it costs by the plain recursion with its
fragments on the spot. -/
theorem ofOperation_plain {o : Operation FieldDefinition} (ha : d.Acyclic o.selections)
    {inlined : List ExecutableSelection} (h : d.Inlines o.selections inlined) :
    (ofOperation service d o values).1 =
      plainIn service values ((service.schema.root? o.type).getD "") inlined :=
  (ofSelections_computes h (spansWithin_of_acyclic ha) (Nat.le_succ _) _ {}
    (remembers_nil service values d)).1

end GraphServe.Complexity
