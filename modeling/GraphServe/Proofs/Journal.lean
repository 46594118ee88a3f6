import GraphServe.Exchange

/-!
# Journals — calls of resolvers

A journal is silent if no entry of it is of a resolver (`Silent`).  A stage that calls none extends
the journal by silent entries (`Extends`).
-/

namespace GraphServe

/-- The entry of a resolver that was called. -/
def Entry.IsCall : Entry → Prop
  | .call _ _ => True
  | _         => False

instance : DecidablePred Entry.IsCall
  | .call _ _ => .isTrue trivial
  | .note _   => .isFalse id
  | .event _  => .isFalse id

/-- Entries of which none is of a resolver. -/
def Silent (entries : List Entry) : Prop := ∀ e ∈ entries, ¬ e.IsCall

theorem silent_nil : Silent [] := fun _ he => absurd he List.not_mem_nil

theorem Silent.append {before after : List Entry} (h : Silent before) (h' : Silent after) :
    Silent (before ++ after) := fun e he => (List.mem_append.mp he).elim (h e) (h' e)

theorem silent_events (events : List Event) : Silent (events.map .event) := fun e he hcall => by
  obtain ⟨event, -, rfl⟩ := List.mem_map.mp he
  exact hcall

theorem silent_event (event : Event) : Silent [.event event] := silent_events [event]

/-- Entries of no resolver were added to a journal. -/
def Extends (journal journal' : List Entry) : Prop :=
  ∃ entries, Silent entries ∧ journal' = journal ++ entries

namespace Extends

variable {j j' j'' : List Entry}

theorem refl (j : List Entry) : Extends j j := ⟨[], silent_nil, (List.append_nil j).symm⟩

theorem add (j : List Entry) {entries : List Entry} (h : Silent entries) :
    Extends j (j ++ entries) :=
  ⟨entries, h, rfl⟩

theorem trans (h : Extends j j') (h' : Extends j' j'') : Extends j j'' := by
  obtain ⟨entries, hsilent, rfl⟩ := h
  obtain ⟨more, hsilent', rfl⟩ := h'
  exact ⟨entries ++ more, hsilent.append hsilent', List.append_assoc _ _ _⟩

theorem silent (h : Extends j j') (hj : Silent j) : Silent j' := by
  obtain ⟨entries, hsilent, rfl⟩ := h
  exact hj.append hsilent

end Extends

end GraphServe
