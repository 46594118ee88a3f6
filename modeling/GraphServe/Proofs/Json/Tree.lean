import GraphServe.Json.Decode
import GraphServe.Proofs.Json.Value

/-!
# Reading JSON — trees that hold a value

A tree without faults holds one value (`Json.Node.Holds`).  What a decoder makes of such a tree is
told by the value: any value that is not nested deeper than is allowed is read as it is
(`Decoder.value_of_holds`), and so are members (`Decoder.members_of_holds`), lists of texts
(`Decoder.list_of_holds`) and dictionaries of them (`Decoder.dictionary_of_holds`).  A record is read
member by member, whatever their order (`Decoder.record_of_holds`).

A decoder `Decoder.Restores` what was written as a value if it makes that of every tree that holds
the value.  Each way to build decoders has a rule for it.
-/

namespace GraphServe.Json

/-- Neither a list nor an object. -/
def IsScalar : Json → Prop
  | list _   => False
  | object _ => False
  | _        => True

/-- Lists and objects are not nested deeper than some levels. -/
inductive NestsWithin : Nat → Json → Prop where
  | scalar {depth : Nat} {v : Json} (h : v.IsScalar) : NestsWithin depth v
  | list {depth : Nat} {items : List Json} (below : ∀ v ∈ items, NestsWithin depth v) :
      NestsWithin (depth + 1) (.list items)
  | object {depth : Nat} {members : Members} (below : ∀ m ∈ members, NestsWithin depth m.2) :
      NestsWithin (depth + 1) (.object members)

theorem nestsWithin_null (depth : Nat) : null.NestsWithin depth := .scalar trivial

theorem nestsWithin_int (depth : Nat) (n : Int) : (int n).NestsWithin depth := .scalar trivial

theorem nestsWithin_string (depth : Nat) (s : String) : (string s).NestsWithin depth :=
  .scalar trivial

theorem nestsWithin_list_iff {depth : Nat} {items : List Json} :
    (list items).NestsWithin (depth + 1) ↔ ∀ v ∈ items, v.NestsWithin depth := by
  constructor
  · intro h
    cases h with
    | scalar h => exact h.elim
    | list below => exact below
  · exact .list

theorem nestsWithin_object_iff {depth : Nat} {members : Members} :
    (object members).NestsWithin (depth + 1) ↔ ∀ m ∈ members, m.2.NestsWithin depth := by
  constructor
  · intro h
    cases h with
    | scalar h => exact h.elim
    | object below => exact below
  · exact .object

mutual

/-- A tree holds a value. -/
inductive Node.Holds : Node → Json → Prop where
  | scalar {v : Json} (h : v.IsScalar) (finish : Position) : Node.Holds (.scalar (.ok v) finish) v
  | list {items : Node.Items} {values : List Json} (start : Position)
      (h : ItemsHold items values) : Node.Holds (.list start items) (.list values)
  | object {entries : Node.Entries} {members : Members} (start : Position)
      (distinct : (members.map Prod.fst).Nodup) (h : EntriesHold entries members) :
      Node.Holds (.object start entries) (.object members)

/-- The rest of a list holds some items. -/
inductive ItemsHold : Node.Items → List Json → Prop where
  | close (after : Position) : ItemsHold (.close after) []
  | item {node : Node} {v : Json} {rest : Node.Items} {values : List Json} (resume : Position)
      (first : Node.Holds node v) (h : ItemsHold rest values) :
      ItemsHold (.item node resume rest) (v :: values)

/-- The rest of an object holds some members. -/
inductive EntriesHold : Node.Entries → Members → Prop where
  | close (after : Position) : EntriesHold (.close after) []
  | entry {key : String} {node : Node} {v : Json} {rest : Node.Entries} {members : Members}
      (keyResume resume : Position) (first : Node.Holds node v) (h : EntriesHold rest members) :
      EntriesHold (.entry (.ok key) keyResume node resume rest) ((key, v) :: members)

end

/-- Bytes spell a value: they are read as a tree that holds it, and nothing follows. -/
def Spells (bytes : List UInt8) (v : Json) : Prop :=
  ∃ node, Document.read bytes = ⟨node, none⟩ ∧ node.Holds v

namespace Decoder

/-- A decoder reads from bytes what it makes of trees that hold what they spell. -/
theorem run_of_spells {α : Type} {decoder : Decoder α} {bytes : List UInt8} {v : Json}
    (h : Spells bytes v) {a : α} (ha : ∀ node : Node, node.Holds v → decoder depthLimit node = .ok a) :
    run decoder bytes = .ok a := by
  obtain ⟨node, hread, hholds⟩ := h
  rw [run, hread]
  simp only [ha node hholds]

mutual

/-- A value is read as it is. -/
theorem value_of_holds {node : Node} {v : Json} {depth : Nat} (h : node.Holds v)
    (hdepth : v.NestsWithin depth) : value depth node = .ok v := by
  cases h with
  | scalar h finish => rw [value]
  | list start h =>
      cases hdepth with
      | scalar h => exact h.elim
      | list below =>
          rw [value, enter, valueItems_of_hold h below]
          rfl
  | object start distinct h =>
      cases hdepth with
      | scalar h => exact h.elim
      | object below =>
          rw [value, enter, valueEntries_of_hold [] h below (by simpa using distinct)]
          rfl

theorem valueItems_of_hold {items : Node.Items} {values : List Json} {depth : Nat}
    (h : ItemsHold items values) (hdepth : ∀ v ∈ values, v.NestsWithin depth) :
    valueItems depth items = .ok values := by
  cases h with
  | close after => rw [valueItems]
  | item resume first h =>
      obtain ⟨hv, hvalues⟩ := List.forall_mem_cons.mp hdepth
      rw [valueItems, value_of_holds first hv, valueItems_of_hold h hvalues]
      rfl

/-- Members with keys of their own, which go to the end of what is done. -/
theorem valueEntries_of_hold {entries : Node.Entries} {members : Members} {depth : Nat}
    (done : Members) (h : EntriesHold entries members) (hdepth : ∀ m ∈ members, m.2.NestsWithin depth)
    (distinct : ((done ++ members).map Prod.fst).Nodup) :
    valueEntries depth done entries = .ok (done ++ members) := by
  cases h with
  | close after => rw [valueEntries, List.append_nil]
  | @entry key node v rest members keyResume resume first h =>
      obtain ⟨hv, hmembers⟩ := List.forall_mem_cons.mp hdepth
      have hnew : done.get? key = none := Members.get?_eq_none.mpr fun hmem => by
        rw [List.map_append, List.map_cons, List.nodup_append] at distinct
        exact distinct.2.2 _ hmem _ List.mem_cons_self rfl
      rw [List.append_cons] at distinct ⊢
      rw [valueEntries, value_of_holds first hv]
      exact (congrArg (valueEntries depth · rest) (Members.insert_of_get? hnew v)).trans
        (valueEntries_of_hold _ h hmembers distinct)

end

theorem members_of_holds {node : Node} {members : Members} {depth : Nat}
    (h : node.Holds (.object members)) (hdepth : (Json.object members).NestsWithin depth) :
    Decoder.members depth node = .ok members := by
  cases h with
  | scalar h => exact h.elim
  | object start distinct h =>
      cases hdepth with
      | scalar h => exact h.elim
      | object below =>
          rw [Decoder.members, enter, valueEntries_of_hold [] h below (by simpa using distinct)]
          rfl

theorem string_of_holds {node : Node} {s : String} (h : node.Holds (.string s)) (depth : Nat) :
    string depth node = .ok s := by
  cases h with
  | scalar => rfl

/-- A value that is there. -/
theorem option_of_holds {α : Type} {inner : Decoder α} {node : Node} {v : Json} {depth : Nat}
    {a : α} (h : node.Holds v) (present : v ≠ .null) (ha : inner depth node = .ok a) :
    option inner depth node = .ok (some a) := by
  have hnode (finish : Position) : node = .scalar (.ok .null) finish → False := by
    rintro rfl
    cases h
    exact present rfl
  rw [option, ha]
  · rfl
  · exact hnode

theorem option_of_null {α : Type} {inner : Decoder α} {node : Node} (h : node.Holds .null)
    (depth : Nat) : option inner depth node = .ok none := by
  cases h with
  | scalar => rfl

/-! ### Lists and dictionaries -/

variable {α : Type} {inner : Decoder α} {write : α → Json}

theorem items_of_hold {items : Node.Items} {depth : Nat} {as : List α}
    (h : ItemsHold items (as.map write))
    (hinner : ∀ a ∈ as, ∀ node : Node, node.Holds (write a) → inner depth node = .ok a) :
    Decoder.items inner depth items = .ok as := by
  induction as generalizing items with
  | nil =>
      cases h with
      | close after => rw [Decoder.items]
  | cons a as ih =>
      cases h with
      | item resume first h =>
          obtain ⟨ha, has⟩ := List.forall_mem_cons.mp hinner
          rw [Decoder.items, ha _ first, ih h has]
          rfl

/-- A list, of which each item is read as what was written. -/
theorem list_of_holds {node : Node} {depth : Nat} {as : List α}
    (h : node.Holds (.list (as.map write)))
    (hinner : ∀ a ∈ as, ∀ node : Node, node.Holds (write a) → inner depth node = .ok a) :
    list inner (depth + 1) node = .ok as := by
  cases h with
  | scalar h => exact h.elim
  | list start h =>
      rw [list, enter]
      exact items_of_hold h hinner

theorem entries_of_hold {entries : Node.Entries} {depth : Nat} {pairs : List (String × α)}
    (done : List (String × α)) (h : EntriesHold entries (pairs.map fun (key, a) => (key, write a)))
    (distinct : ((done ++ pairs).map Prod.fst).Nodup)
    (hinner : ∀ p ∈ pairs, ∀ node : Node, node.Holds (write p.2) → inner depth node = .ok p.2) :
    Decoder.entries inner depth done entries = .ok (done ++ pairs) := by
  induction pairs generalizing done entries with
  | nil =>
      cases h with
      | close after => rw [Decoder.entries, List.append_nil]
  | cons p pairs ih =>
      obtain ⟨key, a⟩ := p
      cases h with
      | entry keyResume resume first h =>
          obtain ⟨ha, hpairs⟩ := List.forall_mem_cons.mp hinner
          have hnew : done.any (·.1 = key) = false := by
            rw [List.map_append, List.map_cons, List.nodup_append] at distinct
            simp only [List.any_eq_false, decide_eq_true_eq]
            exact fun d hd hkey => distinct.2.2 _ (List.mem_map_of_mem hd) _ List.mem_cons_self hkey
          rw [List.append_cons] at distinct ⊢
          rw [Decoder.entries, ha _ first]
          simp only [placed, pure_bind]
          refine Eq.trans ?_ (ih _ h distinct hpairs)
          exact congrArg (Decoder.entries inner depth · _) (if_neg (Bool.eq_false_iff.mp hnew))

/-- An object with keys of their own, of which each value is read as what was written. -/
theorem dictionary_of_holds {node : Node} {depth : Nat} {pairs : List (String × α)}
    (h : node.Holds (.object (pairs.map fun (key, a) => (key, write a))))
    (hinner : ∀ p ∈ pairs, ∀ node : Node, node.Holds (write p.2) → inner depth node = .ok p.2) :
    dictionary inner (depth + 1) node = .ok pairs := by
  cases h with
  | scalar h => exact h.elim
  | object start distinct h =>
      rw [dictionary, enter]
      exact entries_of_hold [] h (by simpa [Function.comp_def] using distinct) hinner

/-! ### Records -/

namespace Record

/-- The members of an object change a record, one after the other: each is read by the reader of its
name. -/
inductive Reads (r : Record α) (depth : Nat) : α → Members → α → Prop where
  | nil (a : α) : Reads r depth a [] a
  | cons {a b c : α} {name : String} {v : Json} {members : Members} {read : α → Decoder α}
      (reader : r.reader? name = some read)
      (first : ∀ node : Node, node.Holds v → read a depth node = .ok b)
      (rest : Reads r depth b members c) : Reads r depth a ((name, v) :: members) c

variable {r : Record α} {depth : Nat} {a b c : α} {members others : Members}

theorem Reads.append (h : r.Reads depth a members b) (h' : r.Reads depth b others c) :
    r.Reads depth a (members ++ others) c := by
  induction h with
  | nil a => exact h'
  | cons reader first _ ih => exact .cons reader first (ih h')

theorem readEntries_of_reads (hreads : r.Reads depth a members b) {entries : Node.Entries}
    (h : EntriesHold entries members) (distinct : (members.map Prod.fst).Nodup) (seen : List String)
    (hseen : ∀ name ∈ members.map Prod.fst, name ∉ seen)
    (hrequired : ∀ name ∈ r.required, name ∈ seen ∨ name ∈ members.map Prod.fst) :
    r.readEntries depth seen a entries = .ok b := by
  induction hreads generalizing entries seen with
  | nil a =>
      cases h with
      | close after =>
          have hnone : r.required.find? (· ∉ seen) = none := by
            rw [List.find?_eq_none]
            intro name hname
            simpa using hrequired name hname
          rw [readEntries, hnone]
  | @cons a b c name v members read reader first _ ih =>
      obtain ⟨hnew, hdistinct⟩ := List.nodup_cons.mp distinct
      obtain ⟨hfirst, hothers⟩ := List.forall_mem_cons.mp hseen
      cases h with
      | entry keyResume resume hnode h =>
          rw [readEntries]
          simp only [pure, Except.pure, bind, Except.bind, reader, if_neg hfirst, first _ hnode,
            placed]
          refine ih h hdistinct _ ?_ ?_
          · intro other hother hmem
            rcases List.mem_cons.mp hmem with rfl | hmem
            · exact hnew hother
            · exact hothers other hother hmem
          · intro other hother
            rcases hrequired other hother with hmem | hmem
            · exact .inl (List.mem_cons_of_mem name hmem)
            · rcases List.mem_cons.mp hmem with rfl | hmem
              · exact .inl List.mem_cons_self
              · exact .inr hmem

end Record

/-- A record is read from the members that change it, if none is missing that it must have. -/
theorem record_of_holds {r : Record α} {depth : Nat} {a b : α} {members : Members} {node : Node}
    (h : node.Holds (.object members)) (hreads : r.Reads depth a members b)
    (hrequired : ∀ name ∈ r.required, name ∈ members.map Prod.fst) :
    record r a (depth + 1) node = .ok b := by
  cases h with
  | scalar h => exact h.elim
  | object start distinct h =>
      rw [record, enter]
      exact Record.readEntries_of_reads hreads h distinct [] (fun _ _ => List.not_mem_nil)
        fun name hname => .inr (hrequired name hname)

/-! ### What was written -/

/-- A decoder makes this of every tree that holds a value, as deep as the value is nested. -/
def Restores (decoder : Decoder α) (v : Json) (a : α) : Prop :=
  ∀ (depth : Nat) (node : Node), node.Holds v → v.NestsWithin depth → decoder depth node = .ok a

namespace Restores

variable {v : Json} {a b : α} {β : Type}

theorem value (v : Json) : Restores Decoder.value v v :=
  fun _ _ h nests => value_of_holds h nests

theorem string (s : String) : Restores Decoder.string (.string s) s :=
  fun depth _ h _ => string_of_holds h depth

theorem members (members : Members) : Restores Decoder.members (.object members) members :=
  fun _ _ h nests => members_of_holds h nests

theorem unsigned (name : String) {bits n : Nat} (hn : Word.isUnsigned bits n = true) :
    Restores (Decoder.unsigned name bits) (.int n) n := by
  intro depth node h _
  cases h with
  | scalar h finish => rw [Decoder.unsigned, if_pos hn, Int.toNat_natCast]

theorem option (present : v ≠ .null) (h : Restores inner v a) :
    Restores (Decoder.option inner) v (some a) := by
  intro depth node hnode nests
  exact option_of_holds hnode present (h depth node hnode nests)

/-- What is made of what a decoder restores. -/
theorem map (h : Restores inner v a) (f : α → β) :
    Restores (fun depth node => do return f (← inner depth node)) v (f a) := by
  intro depth node hnode nests
  dsimp only
  rw [h depth node hnode nests]
  rfl

theorem list {as : List α} (h : ∀ a ∈ as, Restores inner (write a) a) :
    Restores (Decoder.list inner) (.list (as.map write)) as := by
  intro depth node hnode nests
  cases nests with
  | scalar h => exact h.elim
  | @list depth _ below =>
      refine list_of_holds hnode ?_
      intro a ha node hnode
      exact h a ha depth node hnode (below _ (List.mem_map_of_mem ha))

/-! A record is put together from its parts: members that are there, and members that are left out
because the record has by itself what they would say. -/

/-- Members put into one record what another has. -/
def Part (r : Record α) (a : α) (members : Members) (b : α) : Prop :=
  ∀ depth, (∀ m ∈ members, m.2.NestsWithin depth) → r.Reads depth a members b

variable {r : Record α} {name : String} {c : α} {fields others : Members} {field : Decoder β} {x : β}

theorem Part.none (r : Record α) (a : α) : Part r a [] a := fun _ _ => .nil a

/-- A member that is there is put into the record. -/
theorem Part.member (set : α → β → α)
    (reader : r.reader? name = some fun a depth node => do return set a (← field depth node))
    (h : Restores field v x) (a : α) : Part r a [(name, v)] (set a x) := by
  intro depth nests
  refine .cons reader ?_ (.nil _)
  intro node hnode
  exact h.map (set a) depth node hnode (nests _ (List.mem_singleton_self _))

/-- A member is left out if the record has by itself what it would say. -/
theorem Part.omitted (set : α → β → α) {p : Prop} [Decidable p]
    (reader : r.reader? name = some fun a depth node => do return set a (← field depth node))
    (h : Restores field v x) (a : α) (absent : p → set a x = a) :
    Part r a (if p then [] else [(name, v)]) (set a x) := by
  by_cases hp : p
  · rw [if_pos hp, absent hp]
    exact .none r a
  · rw [if_neg hp]
    exact .member set reader h a

theorem Part.append (h : Part r a fields b) (h' : Part r b others c) :
    Part r a (fields ++ others) c := by
  intro depth nests
  refine (h depth ?_).append (h' depth ?_)
  · exact fun m hm => nests m (List.mem_append_left _ hm)
  · exact fun m hm => nests m (List.mem_append_right _ hm)

theorem record (h : Part r a fields b)
    (hrequired : ∀ name ∈ r.required, name ∈ fields.map Prod.fst) :
    Restores (Decoder.record r a) (.object fields) b := by
  intro depth node hnode nests
  cases nests with
  | scalar h => exact h.elim
  | @object depth _ below => exact record_of_holds hnode (h depth below) hrequired

end Restores

end Decoder

end GraphServe.Json
