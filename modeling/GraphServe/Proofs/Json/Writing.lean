import GraphServe.Client.Outgoing
import GraphServe.Proofs.Json.RoundTrip

/-!
# JSON values — writing at paths

A value can be written at a path without a loss if what is on the way fits: a list under an index,
an object under a key, or nothing (`HasRoom`).  Then the value is found at the path
(`getAt_insertAt`), what stands apart from the path stays (`sameAt_insertAt`), and where the path
leads to something already, replacing that is the same (`setAt_eq_insertAt`).

Writes at several paths do not get in each other's way if any two of the paths part at two indexes
or at two keys (`Parts`).

* `getAt_writeAll`: every value that was written is found.
* `sameAt_writeAll`: what stands apart from all of the paths stays.
* `isWritable_writeAll`, `nestsWithin_writeAll`: what is written can still be read from its text.
-/

namespace GraphServe

/-- Whether an element is an index. -/
def PathElement.isIndex : PathElement → Bool
  | index _ => true
  | key _   => false

theorem PathElement.text_ne {e f : PathElement} (kind : e.isIndex = f.isIndex) (h : e ≠ f) :
    e.text ≠ f.text := by
  cases e with
  | index i =>
      cases f with
      | index j =>
          exact fun htext => h (congrArg index (Json.toString_injective htext))
      | key k => cases kind
  | key k =>
      cases f with
      | index j => cases kind
      | key l => exact fun htext => h (congrArg key htext)

namespace Path

/-- Two paths part at two indexes, or at two keys. -/
inductive Parts : Path → Path → Prop where
  | here {e f : PathElement} (kind : e.isIndex = f.isIndex) (h : e ≠ f) (p q : Path) :
      Parts (e :: p) (f :: q)
  | beyond (e : PathElement) {p q : Path} (h : Parts p q) : Parts (e :: p) (e :: q)

/-- Two paths part at elements that are written in different ways. -/
inductive Apart : Path → Path → Prop where
  | here {e f : PathElement} (h : e.text ≠ f.text) (p q : Path) : Apart (e :: p) (f :: q)
  | beyond (e : PathElement) {p q : Path} (h : Apart p q) : Apart (e :: p) (e :: q)

variable {p q : Path}

theorem Parts.symm (h : Parts p q) : Parts q p := by
  induction h with
  | here kind h p q => exact .here kind.symm h.symm q p
  | beyond e _ ih => exact .beyond e ih

theorem Parts.apart (h : Parts p q) : Apart p q := by
  induction h with
  | here kind h p q => exact .here (PathElement.text_ne kind h) p q
  | beyond e _ ih => exact .beyond e ih

theorem Apart.ne_nil (h : Apart p q) : q ≠ [] := by
  cases h <;> exact List.cons_ne_nil _ _

end Path

namespace Json

open GraphServe.Path

variable {v w x : Json} {e f : PathElement} {p q : Path}

/-! ### One step -/

/-- What stands under an element, or `null`: an index is one of a list, a key one of an object. -/
def under (v : Json) : PathElement → Json
  | .index i => (v.list?.getD []).getD i null
  | .key k   => ((v.object?.getD []).get? k).getD null

/-- Put a value under an element; what is no list or no object is lost. -/
def put (v : Json) (e : PathElement) (w : Json) : Json :=
  match e with
  | .index i =>
      let items := v.list?.getD []
      list ((items ++ List.replicate (i + 1 - items.length) null).set i w)
  | .key k   => object ((v.object?.getD []).insert k w)

/-- A value in which something can be put under an element without a loss. -/
inductive Fits : Json → PathElement → Prop where
  | null (e : PathElement) : Fits null e
  | list (items : List Json) (i : Nat) : Fits (list items) (.index i)
  | object (members : Members) (k : String) : Fits (object members) (.key k)

theorem under_null (e : PathElement) : null.under e = null := by
  cases e <;> rfl

theorem getD_append_replicate (items : List Json) (n i : Nat) :
    (items ++ List.replicate n null).getD i null = items.getD i null := by
  simp only [List.getD_eq_getElem?_getD, List.getElem?_append, List.getElem?_replicate]
  split
  · rfl
  · rename_i h
    rw [List.getElem?_eq_none (Nat.not_lt.mp h)]
    split <;> rfl

theorem insertAt_cons (x : Json) (e : PathElement) (p : Path) (v : Json) :
    insertAt x (e :: p) v = v.put e (insertAt x p (v.under e)) := by
  cases e with
  | index i =>
      rw [insertAt, getD_append_replicate]
      rfl
  | key k => rw [insertAt]; rfl

theorem lt_length_room (items : List Json) (i : Nat) :
    i < (items ++ List.replicate (i + 1 - items.length) null).length := by
  rw [List.length_append, List.length_replicate]
  omega

theorem under_put_self (v : Json) (e : PathElement) (w : Json) : (v.put e w).under e = w := by
  cases e with
  | index i =>
      simp only [put, under, list?, Option.getD_some, List.getD_eq_getElem?_getD,
        List.getElem?_set_self (lt_length_room _ i)]
  | key k => simp only [put, under, object?, Option.getD_some, Members.get?_insert, if_true]

theorem under_put_of_ne (hkind : e.isIndex = f.isIndex) (h : e ≠ f) (v w : Json) :
    (v.put e w).under f = v.under f := by
  cases e with
  | index i =>
      cases f with
      | index j =>
          have hij : i ≠ j := fun hij => h (congrArg _ hij)
          simp only [put, under, list?, Option.getD_some]
          rw [List.getD_eq_getElem?_getD, List.getElem?_set_ne hij, ← List.getD_eq_getElem?_getD,
            getD_append_replicate]
      | key k => cases hkind
  | key k =>
      cases f with
      | index j => cases hkind
      | key l =>
          have hkl : k ≠ l := fun hkl => h (congrArg _ hkl)
          simp only [put, under, object?, Option.getD_some, Members.get?_insert, if_neg hkl]

theorem fits_put (h : e.isIndex = f.isIndex) (v w : Json) : (v.put e w).Fits f := by
  cases e with
  | index i =>
      cases f with
      | index j => exact .list _ j
      | key k => cases h
  | key k =>
      cases f with
      | index j => cases h
      | key l => exact .object _ l

theorem child?_put_self (v : Json) (e : PathElement) (w : Json) :
    (v.put e w).child? e = some w := by
  cases e with
  | index i => exact List.getElem?_set_self (lt_length_room _ i)
  | key k => simp only [put, child?, PathElement.text, Members.get?_insert, if_true]

/-- What stands under an element is its child, if it has one. -/
theorem child?_of_fits (h : v.Fits e) :
    v.child? e = some (v.under e) ∨ v.child? e = none ∧ v.under e = null := by
  cases h with
  | null e => exact .inr ⟨by cases e <;> rfl, under_null e⟩
  | list items i =>
      simp only [child?, under, list?, Option.getD_some, List.getD_eq_getElem?_getD]
      cases items[i]? with
      | some u => exact .inl rfl
      | none => exact .inr ⟨rfl, rfl⟩
  | object members k =>
      simp only [child?, under, object?, Option.getD_some, PathElement.text]
      cases members.get? k with
      | some u => exact .inl rfl
      | none => exact .inr ⟨rfl, rfl⟩

/-- What stands under another element stays, but `null` fills a list up. -/
theorem child?_put_of_ne (hfits : v.Fits e) (h : e.text ≠ f.text) (w : Json) :
    (v.put e w).child? f = v.child? f ∨
      v.child? f = none ∧ (v.put e w).child? f = some null ∧ ∃ i, f = .index i := by
  have hobject (members : Members) (k : String) (hk : k ≠ f.text) :
      (object (members.insert k w)).child? f = (object members).child? f := by
    simp only [child?, Members.get?_insert, if_neg hk]
  have hlist (items : List Json) (i : Nat) (hi : toString i ≠ f.text) :
      ((list items).put (.index i) w).child? f = (list items).child? f ∨
        (list items).child? f = none ∧ ((list items).put (.index i) w).child? f = some null ∧
          ∃ j, f = .index j := by
    cases f with
    | key k => exact .inl rfl
    | index j =>
        have hij : i ≠ j := fun hij => hi (congrArg toString hij)
        simp only [put, list?, Option.getD_some, child?, List.getElem?_set_ne hij,
          List.getElem?_append, List.getElem?_replicate]
        by_cases hj : j < items.length
        · rw [if_pos hj]
          exact .inl rfl
        · rw [if_neg hj, List.getElem?_eq_none (Nat.not_lt.mp hj)]
          split
          · exact .inr ⟨rfl, rfl, j, rfl⟩
          · exact .inl rfl
  cases hfits with
  | list items i => exact hlist items i h
  | object members k => exact .inl (hobject members k h)
  | null e =>
      have hnone : null.child? f = none := by cases f <;> rfl
      cases e with
      | index i =>
          have hempty : (list []).child? f = null.child? f := by cases f <;> rfl
          exact hempty ▸ hlist [] i h
      | key k => exact .inl ((hobject [] k h).trans (by rw [hnone]; rfl))

/-! ### Paths -/

/-- A value can be written at a path without a loss. -/
def HasRoom : Json → Path → Prop
  | _, []     => True
  | v, e :: p => v.Fits e ∧ (v.under e).HasRoom p

theorem hasRoom_null (p : Path) : null.HasRoom p := by
  induction p with
  | nil => trivial
  | cons e p ih => exact ⟨.null e, (under_null e).symm ▸ ih⟩

theorem getAt_insertAt (x : Json) (p : Path) (v : Json) : (insertAt x p v).getAt p = some x := by
  induction p generalizing v with
  | nil => rw [insertAt, getAt]
  | cons e p ih => rw [insertAt_cons, getAt, child?_put_self, Option.bind_some, ih]

/-- After a write at one path there is still room at another. -/
theorem hasRoom_insertAt (h : Parts p q) (hv : v.HasRoom q) (x : Json) :
    (insertAt x p v).HasRoom q := by
  induction h generalizing v with
  | here kind h p q =>
      rw [insertAt_cons]
      exact ⟨fits_put kind v _, (under_put_of_ne kind h v _).symm ▸ hv.2⟩
  | beyond e _ ih =>
      rw [insertAt_cons]
      exact ⟨fits_put rfl v _, (under_put_self v e _).symm ▸ ih hv.2⟩

/-- What is written at a path can be replaced. -/
theorem hasRoom_insertAt_self (x : Json) (p : Path) (v : Json) : (insertAt x p v).HasRoom p := by
  induction p generalizing v with
  | nil => trivial
  | cons e p ih =>
      rw [insertAt_cons]
      exact ⟨fits_put rfl v _, (under_put_self v e _).symm ▸ ih _⟩

/-- Two values have the same at a path, or the path leads past the end of a list that the second has
filled up with `null`. -/
def SameAt (q : Path) (v w : Json) : Prop :=
  w.getAt q = v.getAt q ∨
    v.getAt q = none ∧ w.getAt q = some null ∧ ∃ before i, q = before ++ [.index i]

theorem SameAt.refl (q : Path) (v : Json) : SameAt q v v := .inl rfl

theorem SameAt.trans (h : SameAt q v w) (h' : SameAt q w x) : SameAt q v x := by
  rcases h with h | ⟨hnone, hnull, hindex⟩
  · rcases h' with h' | ⟨hnone', hnull'⟩
    · exact .inl (h'.trans h)
    · exact .inr ⟨h.symm.trans hnone', hnull'⟩
  · rcases h' with h' | ⟨hnone', -⟩
    · exact .inr ⟨hnone, h'.trans hnull, hindex⟩
    · exact absurd (hnull.symm.trans hnone') nofun

theorem SameAt.of_some (h : SameAt q v w) (hv : v.getAt q = some x) : w.getAt q = some x := by
  rcases h with h | ⟨hnone, -⟩
  · exact h.trans hv
  · exact absurd (hv.symm.trans hnone) nofun

/-- What stands apart from a path stays when the path is written at. -/
theorem sameAt_insertAt (h : Apart p q) (hroom : v.HasRoom p) (x : Json) :
    SameAt q v (insertAt x p v) := by
  induction h generalizing v with
  | @here e f h p q =>
      rw [insertAt_cons]
      rcases child?_put_of_ne hroom.1 h (insertAt x p (v.under e)) with hsame | ⟨hnone, hnull, i, rfl⟩
      · exact .inl (by rw [getAt, getAt, hsame])
      · cases q with
        | nil => exact .inr ⟨by rw [getAt, hnone]; rfl, by rw [getAt, hnull]; rfl, [], i, rfl⟩
        | cons g q => exact .inl (by rw [getAt, getAt, hnone, hnull]; cases g <;> rfl)
  | @beyond e p q h ih =>
      have hbelow := ih hroom.2
      have hput : (insertAt x (e :: p) v).getAt (e :: q) =
          (insertAt x p (v.under e)).getAt q := by
        rw [insertAt_cons, getAt, child?_put_self, Option.bind_some]
      have hbefore : v.getAt (e :: q) = (v.under e).getAt q := by
        rw [getAt]
        rcases child?_of_fits hroom.1 with hsome | ⟨hnone, hnull⟩
        · rw [hsome, Option.bind_some]
        · -- nothing stands there, and nothing below `null`
          obtain ⟨g, q, rfl⟩ := List.exists_cons_of_ne_nil h.ne_nil
          rw [hnone, hnull]
          cases g <;> rfl
      rw [SameAt, hput, hbefore]
      rcases hbelow with hsame | ⟨hnone, hnull, before, i, hq⟩
      · exact .inl hsame
      · exact .inr ⟨hnone, hnull, e :: before, i, congrArg (e :: ·) hq⟩

/-- Replacing what a path leads to is writing at the path. -/
theorem setAt_eq_insertAt (hroom : v.HasRoom p) {w : Json} (hw : v.getAt p = some w) (x : Json) :
    setAt x p v = some (insertAt x p v) := by
  induction p generalizing v with
  | nil => rw [setAt, insertAt]
  | cons e p ih =>
      obtain ⟨hfits, hbelow⟩ := hroom
      rw [getAt] at hw
      obtain ⟨u, hu, hw⟩ := Option.bind_eq_some_iff.mp hw
      have hunder : v.under e = u := by
        rcases child?_of_fits hfits with h | ⟨h, -⟩
        · exact Option.some_inj.mp (h.symm.trans hu)
        · exact absurd (h.symm.trans hu).symm (Option.some_ne_none u)
      rw [hunder] at hbelow
      have hset := ih hbelow hw
      rw [insertAt_cons, hunder]
      cases hfits with
      | null e => cases e <;> cases hu
      | list items i =>
          have hu : items[i]? = some u := hu
          have hi : i + 1 - items.length = 0 := by
            have := (List.getElem?_eq_some_iff.mp hu).1
            omega
          simp only [setAt, hu, hset, Option.map_some, put, list?, Option.getD_some, hi,
            List.replicate_zero, List.append_nil]
      | object members k =>
          have hu : members.get? k = some u := hu
          simp only [setAt, PathElement.text, hu, hset, Option.map_some, put, object?,
            Option.getD_some]
          split
          · rename_i hempty
            rw [List.isEmpty_iff.mp hempty, insertAt]
          · rfl

/-! ### What is written can be read -/

theorem mem_room {items : List Json} {n i : Nat}
    (h : x ∈ (items ++ List.replicate n null).set i w) : x ∈ items ∨ x = null ∨ x = w := by
  rcases List.mem_or_eq_of_mem_set h with h | h
  · exact (List.mem_append.mp h).imp_right fun h => .inl (List.eq_of_mem_replicate h)
  · exact .inr (.inr h)

theorem isWritable_under (h : v.IsWritable) (e : PathElement) : (v.under e).IsWritable := by
  cases e with
  | index i =>
      cases h with
      | @list items below =>
          simp only [under, list?, Option.getD_some, List.getD_eq_getElem?_getD]
          cases hi : items[i]? with
          | none => exact .null
          | some u => exact below u (List.mem_of_getElem? hi)
      | _ => exact .null
  | key k =>
      cases h with
      | @object members distinct below =>
          simp only [under, object?, Option.getD_some]
          cases hk : members.get? k with
          | none => exact .null
          | some u => exact below _ (Members.mem_of_get? hk)
      | _ => exact .null

theorem isWritable_put (h : v.IsWritable) (e : PathElement) (hw : w.IsWritable) :
    (v.put e w).IsWritable := by
  cases e with
  | index i =>
      have hitems : ∀ u ∈ v.list?.getD [], u.IsWritable := by
        cases h with
        | list below => exact below
        | _ => exact fun u hu => nomatch hu
      refine .list fun u hu => ?_
      rcases mem_room hu with hu | rfl | rfl
      · exact hitems u hu
      · exact .null
      · exact hw
  | key k =>
      have hmembers : ((v.object?.getD []).map Prod.fst).Nodup ∧
          ∀ m ∈ v.object?.getD [], m.2.IsWritable := by
        cases h with
        | object distinct below => exact ⟨distinct, below⟩
        | _ => exact ⟨List.nodup_nil, fun m hm => nomatch hm⟩
      refine .object (Members.nodup_insert hmembers.1 k w) fun m hm => ?_
      rcases Members.mem_insert hm with hm | hm
      · exact hmembers.2 m hm
      · rw [hm]
        exact hw

theorem isWritable_insertAt (h : v.IsWritable) (hx : x.IsWritable) (p : Path) :
    (insertAt x p v).IsWritable := by
  induction p generalizing v with
  | nil => rw [insertAt]; exact hx
  | cons e p ih =>
      rw [insertAt_cons]
      exact isWritable_put h e (ih (isWritable_under h e))

variable {n : Nat}

theorem nestsWithin_under (h : v.NestsWithin (n + 1)) (e : PathElement) :
    (v.under e).NestsWithin n := by
  have hnull : null.NestsWithin n := .scalar trivial
  cases e with
  | index i =>
      cases v with
      | list items =>
          cases h with
          | scalar h => exact h.elim
          | list below =>
              simp only [under, list?, Option.getD_some, List.getD_eq_getElem?_getD]
              cases hi : items[i]? with
              | none => exact hnull
              | some u => exact below u (List.mem_of_getElem? hi)
      | _ => exact hnull
  | key k =>
      cases v with
      | object members =>
          cases h with
          | scalar h => exact h.elim
          | object below =>
              simp only [under, object?, Option.getD_some]
              cases hk : Members.get? members k with
              | none => exact hnull
              | some u => exact below _ (Members.mem_of_get? hk)
      | _ => exact hnull

theorem nestsWithin_put (h : v.NestsWithin (n + 1)) (e : PathElement) (hw : w.NestsWithin n) :
    (v.put e w).NestsWithin (n + 1) := by
  cases e with
  | index i =>
      have hitems : ∀ u ∈ v.list?.getD [], u.NestsWithin n := by
        cases v with
        | list items =>
            cases h with
            | scalar h => exact h.elim
            | list below => exact below
        | _ => exact fun u hu => nomatch hu
      refine .list fun u hu => ?_
      rcases mem_room hu with hu | rfl | rfl
      · exact hitems u hu
      · exact .scalar trivial
      · exact hw
  | key k =>
      have hmembers : ∀ m ∈ v.object?.getD [], m.2.NestsWithin n := by
        cases v with
        | object members =>
            cases h with
            | scalar h => exact h.elim
            | object below => exact below
        | _ => exact fun u hu => nomatch hu
      refine .object fun m hm => ?_
      rcases Members.mem_insert hm with hm | hm
      · exact hmembers m hm
      · rw [hm]
        exact hw

theorem nestsWithin_insertAt (h : v.NestsWithin (p.length + n)) (hx : x.NestsWithin n) :
    (insertAt x p v).NestsWithin (p.length + n) := by
  induction p generalizing v with
  | nil =>
      rw [insertAt, List.length_nil, Nat.zero_add]
      exact hx
  | cons e p ih =>
      rw [List.length_cons, Nat.add_right_comm] at h ⊢
      rw [insertAt_cons]
      exact nestsWithin_put h e (ih (nestsWithin_under h e))

/-! ### Several writes -/

/-- Write values at paths, one after the other. -/
def writeAll (writes : List (Path × Json)) (v : Json) : Json :=
  writes.foldl (fun v write => insertAt write.2 write.1 v) v

theorem writeAll_cons (p : Path) (x : Json) (writes : List (Path × Json)) (v : Json) :
    writeAll ((p, x) :: writes) v = writeAll writes (insertAt x p v) := rfl

variable {writes : List (Path × Json)}

theorem hasRoom_writeAll (hparts : ∀ write ∈ writes, Parts write.1 q) (hv : v.HasRoom q) :
    (writeAll writes v).HasRoom q := by
  induction writes generalizing v with
  | nil => exact hv
  | cons write writes ih =>
      obtain ⟨hfirst, hparts⟩ := List.forall_mem_cons.mp hparts
      exact ih hparts (hasRoom_insertAt hfirst hv write.2)

/-- What stands apart from paths that are written at stays. -/
theorem sameAt_writeAll (hparts : (writes.map Prod.fst).Pairwise Parts)
    (hroom : ∀ write ∈ writes, v.HasRoom write.1) (h : ∀ write ∈ writes, Apart write.1 q) :
    SameAt q v (writeAll writes v) := by
  induction writes generalizing v with
  | nil => exact .refl q v
  | cons write writes ih =>
      obtain ⟨hfirst, hparts⟩ := List.pairwise_cons.mp hparts
      obtain ⟨hv, hroom⟩ := List.forall_mem_cons.mp hroom
      obtain ⟨hapart, h⟩ := List.forall_mem_cons.mp h
      refine (sameAt_insertAt hapart hv write.2).trans (ih hparts (fun other hother => ?_) h)
      exact hasRoom_insertAt (hfirst _ (List.mem_map_of_mem hother)) (hroom other hother) write.2

/-- Every value that is written at a path of its own is found there. -/
theorem getAt_writeAll (hparts : (writes.map Prod.fst).Pairwise Parts)
    (hroom : ∀ write ∈ writes, v.HasRoom write.1) (h : (p, x) ∈ writes) :
    (writeAll writes v).getAt p = some x := by
  induction writes generalizing v with
  | nil => cases h
  | cons write writes ih =>
      obtain ⟨hfirst, hrest⟩ := List.pairwise_cons.mp hparts
      have hroom' : ∀ other ∈ writes, (insertAt write.2 write.1 v).HasRoom other.1 :=
        fun other hother => hasRoom_insertAt (hfirst _ (List.mem_map_of_mem hother))
          (hroom other (List.mem_cons_of_mem _ hother)) write.2
      rcases List.mem_cons.mp h with rfl | h
      · have hstays : SameAt p (insertAt x p v) (writeAll writes (insertAt x p v)) :=
          sameAt_writeAll hrest hroom' fun other hother =>
            (hfirst _ (List.mem_map_of_mem hother)).symm.apart
        exact hstays.of_some (getAt_insertAt x p v)
      · exact ih hrest hroom' h

/-- An object stays one when values are written below it. -/
theorem writeAll_object {members : Members} (hparts : (writes.map Prod.fst).Pairwise Parts)
    (hroom : ∀ write ∈ writes, (object members).HasRoom write.1)
    (hbelow : ∀ write ∈ writes, write.1 ≠ []) :
    ∃ written, writeAll writes (object members) = object written := by
  induction writes generalizing members with
  | nil => exact ⟨members, rfl⟩
  | cons write writes ih =>
      obtain ⟨p, x⟩ := write
      obtain ⟨hfirst, hparts⟩ := List.pairwise_cons.mp hparts
      obtain ⟨hv, hroom⟩ := List.forall_mem_cons.mp hroom
      obtain ⟨hp, hbelow⟩ := List.forall_mem_cons.mp hbelow
      have hwrite : ∃ written, insertAt x p (object members) = object written := by
        obtain ⟨e, p, rfl⟩ := List.exists_cons_of_ne_nil hp
        cases hv.1 with
        | object members k => exact ⟨_, insertAt_cons x (.key k) p _⟩
      obtain ⟨written, hwritten⟩ := hwrite
      rw [writeAll_cons, hwritten]
      refine ih hparts (fun other hother => ?_) hbelow
      rw [← hwritten]
      exact hasRoom_insertAt (hfirst _ (List.mem_map_of_mem hother)) (hroom other hother) x

theorem writeAll_append (writes others : List (Path × Json)) (v : Json) :
    writeAll (writes ++ others) v = writeAll others (writeAll writes v) := List.foldl_append

/-- Paths of their own that lead to something which can be replaced. -/
structure Awaits (v : Json) (paths : List Path) : Prop where
  parts : paths.Pairwise Parts
  room  : ∀ p ∈ paths, v.HasRoom p
  there : ∀ p ∈ paths, ∃ w, v.getAt p = some w

theorem Awaits.insertAt {paths : List Path} (h : v.Awaits (p :: paths)) (x : Json) :
    (insertAt x p v).Awaits paths := by
  obtain ⟨hparts, hrest⟩ := List.pairwise_cons.mp h.parts
  refine ⟨hrest, fun q hq => ?_, fun q hq => ?_⟩
  · exact hasRoom_insertAt (hparts q hq) (h.room q (List.mem_cons_of_mem p hq)) x
  · obtain ⟨w, hw⟩ := h.there q (List.mem_cons_of_mem p hq)
    have hstays := sameAt_insertAt (hparts q hq).apart (h.room p List.mem_cons_self) x
    exact ⟨w, hstays.of_some hw⟩

theorem Awaits.writeAll {paths : List Path} (h : v.Awaits (writes.map Prod.fst ++ paths)) :
    (writeAll writes v).Awaits paths := by
  induction writes generalizing v with
  | nil => exact h
  | cons write writes ih => exact ih (h.insertAt write.2)

theorem hasRoom_writeAll_of_mem (hparts : (writes.map Prod.fst).Pairwise Parts)
    (hroom : ∀ write ∈ writes, v.HasRoom write.1) :
    ∀ p ∈ writes.map Prod.fst, (writeAll writes v).HasRoom p := by
  induction writes generalizing v with
  | nil => exact fun p hp => nomatch hp
  | cons write writes ih =>
      obtain ⟨hfirst, hparts⟩ := List.pairwise_cons.mp hparts
      have hself : (writeAll writes (insertAt write.2 write.1 v)).HasRoom write.1 :=
        hasRoom_writeAll (fun other hother => (hfirst _ (List.mem_map_of_mem hother)).symm)
          (hasRoom_insertAt_self write.2 write.1 v)
      refine List.forall_mem_cons.mpr ⟨hself, ih hparts fun other hother => ?_⟩
      exact hasRoom_insertAt (hfirst _ (List.mem_map_of_mem hother))
        (hroom other (List.mem_cons_of_mem _ hother)) write.2

/-- Where values were written at paths of their own, others can take their places. -/
theorem awaits_writeAll (hparts : (writes.map Prod.fst).Pairwise Parts)
    (hroom : ∀ write ∈ writes, v.HasRoom write.1) :
    (writeAll writes v).Awaits (writes.map Prod.fst) where
  parts := hparts
  room := hasRoom_writeAll_of_mem hparts hroom
  there p hp := by
    obtain ⟨⟨p, x⟩, hwrite, rfl⟩ := List.mem_map.mp hp
    exact ⟨x, getAt_writeAll hparts hroom hwrite⟩

theorem isWritable_writeAll (h : v.IsWritable) (hx : ∀ write ∈ writes, write.2.IsWritable) :
    (writeAll writes v).IsWritable := by
  induction writes generalizing v with
  | nil => exact h
  | cons write writes ih =>
      obtain ⟨hfirst, hx⟩ := List.forall_mem_cons.mp hx
      exact ih (isWritable_insertAt h hfirst write.1) hx

theorem nestsWithin_writeAll (h : v.NestsWithin n) (hlength : ∀ write ∈ writes, write.1.length ≤ n)
    (hx : ∀ write ∈ writes, write.2.NestsWithin (n - write.1.length)) :
    (writeAll writes v).NestsWithin n := by
  induction writes generalizing v with
  | nil => exact h
  | cons write writes ih =>
      obtain ⟨hp, hlength⟩ := List.forall_mem_cons.mp hlength
      obtain ⟨hfirst, hx⟩ := List.forall_mem_cons.mp hx
      refine ih ?_ hlength hx
      have hn : n = write.1.length + (n - write.1.length) := by omega
      rw [hn] at h ⊢
      exact nestsWithin_insertAt h hfirst

end Json

end GraphServe
