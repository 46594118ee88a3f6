import GraphServe.Proofs.Json.Value

/-!
# JSON values — replacing at paths

`Json.getAt` and `Json.setAt` are a lens (`Json.setAt_lawful`).

* **Success** (`exists_setAt_iff`): a value can be replaced at a path exactly if the path is empty, or
  leads to an object without its last element, or to a list of which that element is an item
  (`Takes`).
* **Put and get** (`getAt_setAt`), **put and put** (`setAt_setAt`), **get and put**
  (`setAt_of_getAt`): what was put is found, what was put first is of no matter, and putting what
  is there already changes nothing, the order of members included.
* **Frame** (`getAt_setAt_of_diverges`): what stands at a path that parts from that of a replacement,
  at two elements that are written in different ways, stays.

A replacement is done in place, on the way down: `Json.overwrite` keeps what each step has left of
the value, failures included.  It fails without a trace (`overwrite_eq`).

Two of the laws hold of replacements one after the other, if any two of their paths part.

* `Json.getAt_setAll`: each value that was put is found.
* `Json.getAt_setAll_of_diverges`: what stands apart from all of the paths stays.
-/

namespace GraphServe

/-- Two paths part: neither is the start of the other, by the texts of their elements. -/
def Path.Diverges (p q : Path) : Prop :=
  ¬ p.map PathElement.text <+: q.map PathElement.text ∧
    ¬ q.map PathElement.text <+: p.map PathElement.text

instance (p q : Path) : Decidable (p.Diverges q) := inferInstanceAs (Decidable (_ ∧ _))

namespace Path.Diverges

variable {e f : PathElement} {p q : Path}

theorem symm (h : Diverges p q) : Diverges q p := ⟨h.2, h.1⟩

theorem not_nil_left (q : Path) : ¬ Diverges [] q := fun h => h.1 List.nil_prefix

theorem not_nil_right (p : Path) : ¬ Diverges p [] := fun h => h.2 List.nil_prefix

/-- Paths that part do so at their first elements, or after elements that are written alike. -/
theorem cons_iff : Diverges (e :: p) (f :: q) ↔ e.text ≠ f.text ∨ e.text = f.text ∧ Diverges p q := by
  unfold Diverges
  simp only [List.map_cons, List.cons_prefix_cons]
  by_cases h : e.text = f.text
  · simp [h]
  · simp [h, Ne.symm h]

end Path.Diverges

namespace Json

open GraphServe.Path

variable {v w x y u : Json} {e f : PathElement} {p q : Path}

/-! ### One step down -/

/-- Below a member of an object. -/
theorem setAt_member {members : Members} (h : members.get? e.text = some u) (hp : p ≠ []) :
    setAt x (e :: p) (object members) =
      (setAt x p u).map fun w => object (members.insert e.text w) := by
  have hlast : ¬ p.isEmpty = true := by simpa using hp
  rw [setAt, if_neg hlast, h]

/-- Below an item of a list. -/
theorem setAt_item {items : List Json} {i : Nat} (h : items[i]? = some u) :
    setAt x (.index i :: p) (list items) = (setAt x p u).map fun w => list (items.set i w) := by
  rw [setAt, h]

/-- The last element of a path names a member, which may be new. -/
theorem setAt_last (members : Members) (e : PathElement) (x : Json) :
    setAt x [e] (object members) = some (object (members.insert e.text x)) := by
  rw [setAt, List.isEmpty_nil, if_pos rfl]

/-- What has a child is an object or a list that has it. -/
theorem child?_cases (h : v.child? e = some u) :
    (∃ members : Members, v = object members ∧ members.get? e.text = some u) ∨
      ∃ items i, v = list items ∧ e = .index i ∧ items[i]? = some u := by
  cases v with
  | object members => exact .inl ⟨members, rfl, h⟩
  | list items =>
      cases e with
      | index i => exact .inr ⟨items, i, rfl, rfl, h⟩
      | key k => cases h
  | _ => cases e <;> cases h

/-- What a replacement does to an object: it puts a value under the text of the first element. -/
theorem setAt_object {members : Members} (h : setAt x (e :: p) (object members) = some w) :
    ∃ u, w = object (members.insert e.text u) ∧
      (p = [] ∧ u = x ∨ ∃ child, members.get? e.text = some child ∧ setAt x p child = some u) := by
  rw [setAt] at h
  split at h
  · rename_i hlast
    cases h
    exact ⟨x, rfl, .inl ⟨List.isEmpty_iff.mp hlast, rfl⟩⟩
  · split at h
    · cases h
    · rename_i child hchild
      obtain ⟨u, hset, rfl⟩ := Option.map_eq_some_iff.mp h
      exact ⟨u, rfl, .inr ⟨child, hchild, hset⟩⟩

/-- What a replacement does to a list: it puts a value in the place of an item. -/
theorem setAt_list {items : List Json} (h : setAt x (e :: p) (list items) = some w) :
    ∃ i child u, e = .index i ∧ items[i]? = some child ∧ setAt x p child = some u ∧
      w = list (items.set i u) := by
  cases e with
  | key k => cases h
  | index i =>
      rw [setAt] at h
      split at h
      · cases h
      · rename_i child hchild
        obtain ⟨u, hset, rfl⟩ := Option.map_eq_some_iff.mp h
        exact ⟨i, child, u, rfl, hchild, hset, rfl⟩

/-- A replacement inside of a value leaves an object or a list. -/
theorem setAt_cons (h : setAt x (e :: p) v = some w) :
    (∃ members, v = object members) ∨ ∃ items, v = list items := by
  cases v with
  | object members => exact .inl ⟨members, rfl⟩
  | list items => exact .inr ⟨items, rfl⟩
  | _ => cases e <;> cases h

/-! ### Put and get, and what stays -/

/-- What was put at a path is found there. -/
theorem getAt_setAt (h : setAt x p v = some w) : w.getAt p = some x := by
  induction p generalizing v w with
  | nil =>
      cases h
      rfl
  | cons e p ih =>
      obtain ⟨members, rfl⟩ | ⟨items, rfl⟩ := setAt_cons h
      · obtain ⟨u, rfl, hu⟩ := setAt_object h
        have hchild : (object (Members.insert members e.text u)).child? e = some u := by
          rw [child?, Members.get?_insert, if_pos rfl]
        rw [getAt_cons_of_child? hchild]
        obtain ⟨rfl, rfl⟩ | ⟨child, -, hset⟩ := hu
        · rfl
        · exact ih hset
      · obtain ⟨i, child, u, rfl, hitem, hset, rfl⟩ := setAt_list h
        have hchild : (list (items.set i u)).child? (.index i) = some u :=
          List.getElem?_set_self (List.getElem?_eq_some_iff.mp hitem).1
        rw [getAt_cons_of_child? hchild]
        exact ih hset

/-- What stands at a path that parts from that of a replacement stays. -/
theorem getAt_setAt_of_diverges (hpq : p.Diverges q) (h : setAt x p v = some w) :
    w.getAt q = v.getAt q := by
  induction p generalizing v w q with
  | nil => exact absurd hpq (Path.Diverges.not_nil_left q)
  | cons e p ih =>
      cases q with
      | nil => exact absurd hpq (Path.Diverges.not_nil_right _)
      | cons f q =>
          have hparts := Path.Diverges.cons_iff.mp hpq
          obtain ⟨members, rfl⟩ | ⟨items, rfl⟩ := setAt_cons h
          · obtain ⟨u, rfl, hu⟩ := setAt_object h
            rw [getAt, getAt, child?, child?, Members.get?_insert]
            rcases hparts with hne | ⟨heq, hpq⟩
            · rw [if_neg hne]
            · obtain ⟨rfl, -⟩ | ⟨child, hchild, hset⟩ := hu
              · exact absurd hpq (Path.Diverges.not_nil_left q)
              · rw [if_pos heq, ← heq, hchild, Option.bind_some, Option.bind_some, ih hpq hset]
          · obtain ⟨i, child, u, rfl, hitem, hset, rfl⟩ := setAt_list h
            cases f with
            | key k => rfl
            | index j =>
                rw [getAt, getAt, child?, child?]
                by_cases hij : i = j
                · subst hij
                  obtain hne | ⟨-, hpq⟩ := hparts
                  · exact absurd rfl hne
                  · rw [List.getElem?_set_self (List.getElem?_eq_some_iff.mp hitem).1, hitem,
                      Option.bind_some, Option.bind_some, ih hpq hset]
                · rw [List.getElem?_set_ne hij]

/-- A replacement at a path that leads into an object leaves an object. -/
theorem setAt_isObject {members : Members} (hp : p ≠ []) (h : setAt x p (object members) = some w) :
    ∃ members', w = object members' := by
  cases p with
  | nil => exact absurd rfl hp
  | cons e p =>
      obtain ⟨u, rfl, -⟩ := setAt_object h
      exact ⟨_, rfl⟩

/-! ### Success -/

/-- A value takes a replacement at a path: it is replaced itself, or a member of an object in it, old
or new, or an item that a list in it has. -/
inductive Takes (v : Json) : Path → Prop where
  | whole : Takes v []
  | member {p : Path} {members : Members} (leads : v.getAt p = some (object members))
      (e : PathElement) : Takes v (p ++ [e])
  | item {p : Path} {items : List Json} {i : Nat} (leads : v.getAt p = some (list items))
      (inside : i < items.length) : Takes v (p ++ [.index i])

/-- What a child takes, its value takes. -/
theorem Takes.below (h : v.child? e = some u) (htakes : u.Takes p) : v.Takes (e :: p) := by
  cases htakes with
  | whole =>
      obtain ⟨members, rfl, -⟩ | ⟨items, i, rfl, rfl, hitem⟩ := child?_cases h
      · exact .member (p := []) rfl e
      · exact .item (p := []) rfl (List.getElem?_eq_some_iff.mp hitem).1
  | member leads f =>
      rw [← List.cons_append]
      exact .member ((getAt_cons_of_child? h _).trans leads) f
  | item leads inside =>
      rw [← List.cons_append]
      exact .item ((getAt_cons_of_child? h _).trans leads) inside

theorem takes_of_setAt (h : setAt x p v = some w) : v.Takes p := by
  induction p generalizing v w with
  | nil => exact .whole
  | cons e p ih =>
      obtain ⟨members, rfl⟩ | ⟨items, rfl⟩ := setAt_cons h
      · obtain ⟨u, -, ⟨rfl, -⟩ | ⟨child, hchild, hset⟩⟩ := setAt_object h
        · exact .member (p := []) rfl e
        · exact (ih hset).below hchild
      · obtain ⟨i, child, u, rfl, hitem, hset, -⟩ := setAt_list h
        exact (ih hset).below hitem

/-- A path leads on from where another leads. -/
theorem exists_setAt_append (h : v.getAt p = some u) (hq : q ≠ [])
    (hset : ∃ w, setAt x q u = some w) : ∃ w, setAt x (p ++ q) v = some w := by
  induction p generalizing v with
  | nil =>
      cases h
      exact hset
  | cons e p ih =>
      rw [getAt] at h
      obtain ⟨child, hchild, hbelow⟩ := Option.bind_eq_some_iff.mp h
      obtain ⟨w, hw⟩ := ih hbelow
      obtain ⟨members, rfl, hmember⟩ | ⟨items, i, rfl, rfl, hitem⟩ := child?_cases hchild
      · have hp : p ++ q ≠ [] := List.append_ne_nil_of_right_ne_nil p hq
        exact ⟨_, by rw [List.cons_append, setAt_member hmember hp, hw, Option.map_some]⟩
      · exact ⟨_, by rw [List.cons_append, setAt_item hitem, hw, Option.map_some]⟩

/-- **When a value can be replaced.** -/
theorem exists_setAt_iff : (∃ w, setAt x p v = some w) ↔ v.Takes p := by
  constructor
  · rintro ⟨w, h⟩
    exact takes_of_setAt h
  · intro h
    cases h with
    | whole => exact ⟨x, by rw [setAt]⟩
    | member leads e =>
        exact exists_setAt_append leads (List.cons_ne_nil _ _) ⟨_, setAt_last _ e x⟩
    | @item p items i leads inside =>
        refine exists_setAt_append leads (List.cons_ne_nil _ _) ⟨list (items.set i x), ?_⟩
        rw [setAt_item (List.getElem?_eq_getElem inside), setAt, Option.map_some]

/-! ### Put and put, get and put -/

/-- What was put first is of no matter. -/
theorem setAt_setAt (h : setAt x p v = some w) (y : Json) : setAt y p w = setAt y p v := by
  induction p generalizing v w with
  | nil => rw [setAt, setAt]
  | cons e p ih =>
      obtain ⟨members, rfl⟩ | ⟨items, rfl⟩ := setAt_cons h
      · obtain ⟨u, rfl, ⟨rfl, -⟩ | ⟨child, hchild, hset⟩⟩ := setAt_object h
        · rw [setAt_last, setAt_last, Members.insert_insert]
        · by_cases hp : p = []
          · rw [hp, setAt_last, setAt_last, Members.insert_insert]
          · have hnew : (Members.insert members e.text u).get? e.text = some u := by
              rw [Members.get?_insert, if_pos rfl]
            rw [setAt_member hnew hp, setAt_member hchild hp, ih hset]
            simp only [Members.insert_insert]
      · obtain ⟨i, child, u, rfl, hitem, hset, rfl⟩ := setAt_list h
        have hnew : (items.set i u)[i]? = some u :=
          List.getElem?_set_self (List.getElem?_eq_some_iff.mp hitem).1
        rw [setAt_item hnew, setAt_item hitem, ih hset]
        simp only [List.set_set]

/-- Putting what is there already changes nothing. -/
theorem setAt_of_getAt (h : v.getAt p = some x) : setAt x p v = some v := by
  induction p generalizing v with
  | nil =>
      cases h
      rw [setAt]
  | cons e p ih =>
      rw [getAt] at h
      obtain ⟨child, hchild, hbelow⟩ := Option.bind_eq_some_iff.mp h
      obtain ⟨members, rfl, hmember⟩ | ⟨items, i, rfl, rfl, hitem⟩ := child?_cases hchild
      · by_cases hp : p = []
        · subst hp
          rw [getAt, Option.some_inj] at hbelow
          subst hbelow
          rw [setAt_last, Members.insert_of_get?_eq_some hmember]
        · rw [setAt_member hmember hp, ih hbelow, Option.map_some,
            Members.insert_of_get?_eq_some hmember]
      · obtain ⟨hi, rfl⟩ := List.getElem?_eq_some_iff.mp hitem
        rw [setAt_item hitem, ih hbelow, Option.map_some, List.set_getElem_self]

/-! ### In place -/

/-- A replacement in place: whether it was done, and what it has left of the value.  A child keeps
what was done to it, whether all of it could be done or not. -/
def overwrite (replacement : Json) : Path → Json → Bool × Json
  | [],        _        => (true, replacement)
  | e :: rest, object m =>
      if rest.isEmpty then (true, object (Members.insert m e.text replacement))
      else
        match Members.get? m e.text with
        | none       => (false, object m)
        | some child =>
            let (done, left) := overwrite replacement rest child
            (done, object (Members.insert m e.text left))
  | .index i :: rest, list items =>
      match items[i]? with
      | none       => (false, list items)
      | some child =>
          let (done, left) := overwrite replacement rest child
          (done, list (items.set i left))
  | _ :: _, v => (false, v)

/-- **A replacement is done, or it leaves no trace.**  By the path: a child that is left as it was is
put back where it was. -/
theorem overwrite_eq (x : Json) (p : Path) (v : Json) :
    overwrite x p v = ((setAt x p v).isSome, (setAt x p v).getD v) := by
  fun_induction overwrite x p v with
  | case1 v => rw [setAt]; rfl
  | case2 e rest m hlast => rw [setAt, if_pos hlast]; rfl
  | case3 e rest m hlast hnone => rw [setAt, if_neg hlast, hnone]; rfl
  | case4 e rest m hlast child hchild done left hleft ih =>
      -- a member
      rw [hleft, Prod.mk.injEq] at ih
      obtain ⟨rfl, rfl⟩ := ih
      have hrest : rest ≠ [] := by simpa using hlast
      rw [setAt_member hchild hrest]
      cases setAt x rest child with
      | none => simp [Members.insert_of_get?_eq_some hchild]
      | some w => rfl
  | case5 i rest items hnone => rw [setAt, hnone]; rfl
  | case6 i rest items child hchild done left hleft ih =>
      -- an item
      rw [hleft, Prod.mk.injEq] at ih
      obtain ⟨rfl, rfl⟩ := ih
      obtain ⟨hi, hitem⟩ := List.getElem?_eq_some_iff.mp hchild
      rw [setAt_item hchild]
      cases setAt x rest child with
      | none => simp [← hitem]
      | some w => rfl
  | case7 e rest v hobject hlist =>
      rw [setAt]
      · rfl
      · exact hobject
      · exact hlist

/-! ### One after the other -/

/-- Put values at paths, one after the other. -/
def setAll : List (Path × Json) → Json → Option Json
  | [],             v => some v
  | (p, x) :: rest, v => (setAt x p v).bind (setAll rest)

variable {writes : List (Path × Json)}

theorem setAll_append (writes more : List (Path × Json)) (v : Json) :
    setAll (writes ++ more) v = (setAll writes v).bind (setAll more) := by
  induction writes generalizing v with
  | nil => rfl
  | cons write writes ih =>
      rw [List.cons_append, setAll, setAll, Option.bind_assoc]
      exact congrArg _ (funext ih)

/-- What stands at a path that parts from those of all replacements stays. -/
theorem getAt_setAll_of_diverges (hq : ∀ write ∈ writes, write.1.Diverges q)
    (h : setAll writes v = some w) : w.getAt q = v.getAt q := by
  induction writes generalizing v with
  | nil =>
      cases h
      rfl
  | cons write writes ih =>
      obtain ⟨u, hset, hrest⟩ := Option.bind_eq_some_iff.mp h
      obtain ⟨hfirst, hothers⟩ := List.forall_mem_cons.mp hq
      rw [ih hothers hrest, getAt_setAt_of_diverges hfirst hset]

/-- Each value that was put is found, if any two of the paths part. -/
theorem getAt_setAll (hparts : (writes.map Prod.fst).Pairwise Path.Diverges)
    (h : setAll writes v = some w) (hmem : (p, x) ∈ writes) : w.getAt p = some x := by
  induction writes generalizing v with
  | nil => cases hmem
  | cons write writes ih =>
      obtain ⟨u, hset, hrest⟩ := Option.bind_eq_some_iff.mp h
      obtain ⟨hfirst, hothers⟩ := List.pairwise_cons.mp hparts
      rcases List.mem_cons.mp hmem with rfl | hmem
      · have hlater : ∀ write ∈ writes, write.1.Diverges p := fun write hwrite =>
          (hfirst _ (List.mem_map_of_mem hwrite)).symm
        rw [getAt_setAll_of_diverges hlater hrest, getAt_setAt hset]
      · exact ih hothers hrest hmem

/-- Replacements at paths that lead into an object leave an object. -/
theorem setAll_isObject {members : Members} (hpaths : ∀ write ∈ writes, write.1 ≠ [])
    (h : setAll writes (object members) = some w) : ∃ members', w = object members' := by
  induction writes generalizing members with
  | nil =>
      cases h
      exact ⟨members, rfl⟩
  | cons write writes ih =>
      obtain ⟨u, hset, hrest⟩ := Option.bind_eq_some_iff.mp h
      obtain ⟨hfirst, hothers⟩ := List.forall_mem_cons.mp hpaths
      obtain ⟨members', rfl⟩ := setAt_isObject hfirst hset
      exact ih hothers hrest

/-! ### The laws -/

/-- **Replacing is lawful.**  It succeeds exactly where it can, and fails without a trace.  What was
put is found, what was put first is of no matter, and what stands at paths that part stays; putting
what is there already changes nothing. -/
theorem setAt_lawful (v : Json) (p : Path) (x y : Json) :
    ((∃ w, setAt x p v = some w) ↔ v.Takes p) ∧
      (setAt x p v = none → overwrite x p v = (false, v)) ∧
      (∀ w, setAt x p v = some w →
        overwrite x p v = (true, w) ∧ w.getAt p = some x ∧ setAt y p w = setAt y p v ∧
          ∀ q : Path, p.Diverges q → w.getAt q = v.getAt q) ∧
      (v.getAt p = some x → setAt x p v = some v) := by
  refine ⟨exists_setAt_iff, ?failure, ?success, setAt_of_getAt⟩
  case failure =>
    intro h
    rw [overwrite_eq, h]
    rfl
  case success =>
    intro w h
    refine ⟨by rw [overwrite_eq, h]; rfl, getAt_setAt h, setAt_setAt h y, ?_⟩
    intro q hq
    exact getAt_setAt_of_diverges hq h

namespace Lens

/-- A value with a list and a member that is named by a number. -/
def value : Json :=
  object [("a", list [int 1, object [("b", null)]]), ("0", int 2)]

/-- The value with a text put into the list. -/
def changed : Json :=
  object [("a", list [int 1, object [("b", string "x")]]), ("0", int 2)]

/-- The path to the place of the text. -/
def place : Path := [.key "a", .index 1, .key "b"]

/-- A text that is put below an item stays apart from a member, which is read by a number; below a
key that is not there nothing can be put. -/
theorem setAt_lawful_value :
    setAt (string "x") place value = some changed ∧ value.Takes place ∧
      overwrite (string "x") place value = (true, changed) ∧
      changed.getAt place = some (string "x") ∧
      setAt null place changed = setAt null place value ∧
      changed.getAt [.index 0] = value.getAt [.index 0] ∧
      setAt (int 2) [.index 0] value = some value ∧
      overwrite null [.key "c", .key "d"] value = (false, value) := by
  have hset : setAt (string "x") place value = some changed := rfl
  have hapart : place.Diverges [.index 0] := by decide
  obtain ⟨htakes, -, hsuccess, -⟩ := setAt_lawful value place (string "x") null
  obtain ⟨hplace, hfound, htwice, hframe⟩ := hsuccess changed hset
  obtain ⟨-, -, -, hsame⟩ := setAt_lawful value [.index 0] (int 2) null
  obtain ⟨-, hfailure, -, -⟩ := setAt_lawful value [.key "c", .key "d"] null null
  exact ⟨hset, htakes.mp ⟨changed, hset⟩, hplace, hfound, htwice, hframe _ hapart, hsame rfl,
    hfailure rfl⟩

end Lens

end Json

end GraphServe
