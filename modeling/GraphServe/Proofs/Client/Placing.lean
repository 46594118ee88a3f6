import GraphServe.Proofs.Client.Grouping
import GraphServe.Proofs.Json.Dotted
import GraphServe.Proofs.Json.Replacing
import GraphServe.Proofs.Json.Writing

/-!
# Forms that clients send — the places of files

A client writes an empty object at the path of each file (`Json.insertAt`), and a server replaces
what stands there (`Json.setAt`).  The two agree on a path that suits the value, and on no other
(`Json.insertAt_eq_iff_suits`): on the way of the path, no object stands under an index and no list
under a key.  The server takes the index for a key of the object, and the client puts a list in the
place of the object.

If the variables of a request suit the paths of its files, then the form that is sent has all of the
variables that stand apart from these paths (`ClientForm.encode_keeps`): one write after the other
keeps the way to such a variable (`Json.Keeps`).
-/

namespace GraphServe

namespace Json

open GraphServe.Path

variable {v w x u : Json} {e : PathElement} {p q : Path}

/-! ### Paths that suit a value -/

/-- An element is for a value: an index for a list, a key for an object, any for one that is
neither. -/
def Admits : Json → PathElement → Prop
  | object _, e => e.isIndex = false
  | list _,   e => e.isIndex = true
  | _,        _ => True

/-- A path is for a value, and for what it leads through. -/
def Suits : Json → Path → Prop
  | _, []     => True
  | v, e :: p => v.Admits e ∧ ∀ child, v.child? e = some child → child.Suits p

theorem suits_nil (v : Json) : v.Suits [] := trivial

/-- Where there is a child, the rest of the path has to suit that one. -/
theorem suits_cons_iff (h : v.child? e = some u) : v.Suits (e :: p) ↔ v.Admits e ∧ u.Suits p := by
  constructor
  · rintro ⟨hadmits, hbelow⟩
    exact ⟨hadmits, hbelow u h⟩
  · rintro ⟨hadmits, hbelow⟩
    refine ⟨hadmits, ?_⟩
    intro child hchild
    rw [h] at hchild
    cases hchild
    exact hbelow

theorem insertAt_object (h : e.isIndex = false) (x : Json) (p : Path) (members : Members) :
    insertAt x (e :: p) (object members) =
      object (members.insert e.text (insertAt x p ((members.get? e.text).getD null))) := by
  cases e with
  | index i => cases h
  | key k => rw [insertAt, object?, Option.getD_some, PathElement.text]

theorem insertAt_item {items : List Json} {i : Nat} (h : items[i]? = some u) (x : Json)
    (p : Path) : insertAt x (.index i :: p) (list items) = list (items.set i (insertAt x p u)) := by
  have hroom : i + 1 - items.length = 0 := by
    have := (List.getElem?_eq_some_iff.mp h).1
    omega
  rw [insertAt, list?, Option.getD_some, hroom, List.replicate_zero, List.append_nil,
    List.getD_eq_getElem?_getD, h, Option.getD_some]

theorem set_inj {items : List Json} {i : Nat} {a b : Json} (h : items[i]? = some u) :
    items.set i a = items.set i b ↔ a = b := by
  constructor
  · intro hset
    have hget := congrArg (·[i]?) hset
    have hi := (List.getElem?_eq_some_iff.mp h).1
    simpa only [List.getElem?_set_self hi, Option.some_inj] using hget
  · intro hab
    rw [hab]

/-- **Writing is replacing on a path that suits the value**, and on no other. -/
theorem insertAt_eq_iff_suits (h : setAt x p v = some w) : insertAt x p v = w ↔ v.Suits p := by
  induction p generalizing v w with
  | nil =>
      rw [setAt, Option.some_inj] at h
      rw [insertAt]
      exact iff_of_true h (suits_nil v)
  | cons e p ih =>
      obtain ⟨members, rfl⟩ | ⟨items, rfl⟩ := setAt_cons h
      · obtain ⟨a, rfl, hbelow⟩ := setAt_object h
        by_cases hindex : e.isIndex = false
        · rw [insertAt_object hindex, object.injEq, Members.insert_inj]
          obtain ⟨rfl, rfl⟩ | ⟨child, hchild, hset⟩ := hbelow
          · rw [insertAt]
            exact iff_of_true rfl ⟨hindex, fun child _ => suits_nil child⟩
          · have hmember : (object members).child? e = some child := hchild
            have hsuits : (object members).Suits (e :: p) ↔ child.Suits p :=
              (suits_cons_iff hmember).trans (and_iff_right hindex)
            rw [hchild, Option.getD_some, ih hset, hsuits]
        · -- the client makes a list of the object
          refine iff_of_false ?_ fun hsuits => hindex hsuits.1
          cases e with
          | index i =>
              rw [insertAt]
              exact fun h => Json.noConfusion h
          | key k => exact absurd rfl hindex
      · obtain ⟨i, child, a, rfl, hitem, hset, rfl⟩ := setAt_list h
        have hchild : (list items).child? (.index i) = some child := hitem
        have hsuits : (list items).Suits (.index i :: p) ↔ child.Suits p :=
          (suits_cons_iff hchild).trans (and_iff_right rfl)
        rw [insertAt_item hitem, list.injEq, set_inj hitem, ih hset, hsuits]

/-! ### What writes keep -/

/-- Two values have the same at the end of a path, and on the way containers of one kind. -/
inductive Keeps : Path → Json → Json → Prop where
  | here (v : Json) : Keeps [] v v
  | member {q : Path} {e : PathElement} {members others : Members} {u v : Json}
      (old : members.get? e.text = some u) (new : others.get? e.text = some v) (below : Keeps q u v) :
      Keeps (e :: q) (object members) (object others)
  | item {q : Path} {i : Nat} {items others : List Json} {u v : Json}
      (old : items[i]? = some u) (new : others[i]? = some v) (below : Keeps q u v) :
      Keeps (.index i :: q) (list items) (list others)

namespace Keeps

/-- What is found at a path is kept if nothing is done. -/
theorem of_getAt (h : v.getAt q = some x) : Keeps q v v := by
  induction q generalizing v with
  | nil => exact .here v
  | cons e q ih =>
      rw [getAt] at h
      obtain ⟨child, hchild, hbelow⟩ := Option.bind_eq_some_iff.mp h
      obtain ⟨members, rfl, hmember⟩ | ⟨items, i, rfl, rfl, hitem⟩ := child?_cases hchild
      · exact .member hmember hmember (ih hbelow)
      · exact .item hitem hitem (ih hbelow)

theorem getAt_eq (h : Keeps q v w) : w.getAt q = v.getAt q := by
  induction h with
  | here v => rfl
  | member old new _ ih => rw [getAt, getAt, child?, child?, old, new, Option.bind_some,
      Option.bind_some, ih]
  | item old new _ ih => rw [getAt, getAt, child?, child?, old, new, Option.bind_some,
      Option.bind_some, ih]

/-- **A write keeps what stands apart from its path**, if the path suits the value as it was. -/
theorem insertAt (h : Keeps q v w) (hpq : p.Diverges q) (hsuits : v.Suits p) (x : Json) :
    Keeps q v (insertAt x p w) := by
  induction h generalizing p with
  | here v => exact absurd hpq (Path.Diverges.not_nil_right p)
  | @member q f members others u c old new below ih =>
      cases p with
      | nil => exact absurd hpq (Path.Diverges.not_nil_left _)
      | cons e p =>
          rw [insertAt_object hsuits.1]
          rcases Path.Diverges.cons_iff.mp hpq with hne | ⟨heq, hbelow⟩
          · refine .member old ?_ below
            rw [Members.get?_insert, if_neg hne]
            exact new
          · have hchild : (object members).child? e = some u := by
              rw [child?, heq]
              exact old
            rw [heq, new, Option.getD_some]
            refine .member old ?_ (ih hbelow (hsuits.2 u hchild))
            rw [Members.get?_insert, if_pos rfl]
  | @item q j items others u c old new below ih =>
      cases p with
      | nil => exact absurd hpq (Path.Diverges.not_nil_left _)
      | cons e p =>
          cases e with
          | key k => exact absurd hsuits.1 Bool.noConfusion
          | index i =>
              have hj := (List.getElem?_eq_some_iff.mp new).1
              rcases Path.Diverges.cons_iff.mp hpq with hne | ⟨heq, hbelow⟩
              · have hij : i ≠ j := fun hij => hne (hij ▸ rfl)
                rw [Json.insertAt, list?, Option.getD_some]
                refine .item old ?_ below
                rw [List.getElem?_set_ne hij, List.getElem?_append_left hj]
                exact new
              · obtain rfl : i = j := toString_injective heq
                have hchild : (list items).child? (.index i) = some u := old
                rw [insertAt_item new]
                refine .item old ?_ (ih hbelow (hsuits.2 u hchild))
                exact List.getElem?_set_self hj

/-- Writes one after the other keep what stands apart from all of their paths. -/
theorem writeAll (h : Keeps q v w) {writes : List (Path × Json)}
    (hwrites : ∀ write ∈ writes, write.1.Diverges q ∧ v.Suits write.1) :
    Keeps q v (writeAll writes w) := by
  induction writes generalizing w with
  | nil => exact h
  | cons write writes ih =>
      obtain ⟨⟨hpq, hsuits⟩, hwrites⟩ := List.forall_mem_cons.mp hwrites
      rw [writeAll_cons]
      exact ih (h.insertAt hpq hsuits write.2) hwrites

theorem exists_object {members : Members} (h : Keeps q (object members) w) :
    ∃ others, w = object others := by
  cases h with
  | here => exact ⟨members, rfl⟩
  | member => exact ⟨_, rfl⟩

end Keeps

end Json

/-! ### The places of files -/

namespace ClientForm

variable {files : List (String × ClientFile)} {groups : List (ClientFile × List String)}

/-- The paths that files in groups go to. -/
def pathsOf (groups : List (ClientFile × List String)) : List Path :=
  groups.flatMap fun group => group.2.map Path.parseDotted

/-- An empty object at each path of a file. -/
def places (groups : List (ClientFile × List String)) : List (Path × Json) :=
  (pathsOf groups).map fun path => (path, .object [])

theorem map_fst_places (groups : List (ClientFile × List String)) :
    (places groups).map Prod.fst = pathsOf groups := by
  rw [places, List.map_map]
  exact List.map_id _

theorem pathsOf_eq (groups : List (ClientFile × List String)) :
    pathsOf groups = (groups.flatMap (·.2)).map Path.parseDotted := by
  rw [pathsOf, List.map_flatMap]

/-- The paths that files are written at are those that they come with. -/
theorem perm_pathsOf (files : List (String × ClientFile)) :
    (pathsOf (group files)).Perm (files.map fun f => Path.parseDotted f.1) := by
  have hmap : (files.map fun f => Path.parseDotted f.1) =
      (files.map Prod.fst).map Path.parseDotted := by
    rw [List.map_map]
    rfl
  rw [pathsOf_eq, hmap]
  exact (perm_paths_group files).map _

theorem exists_of_mem_pathsOf {path : Path} (h : path ∈ pathsOf (group files)) :
    ∃ f ∈ files, Path.parseDotted f.1 = path :=
  List.mem_map.mp ((perm_pathsOf files).mem_iff.mp h)

theorem mem_places {path : Path} {x : Json} (h : (path, x) ∈ places groups) :
    path ∈ pathsOf groups ∧ x = .object [] := by
  obtain ⟨p, hp, heq⟩ := List.mem_map.mp h
  cases heq
  exact ⟨hp, rfl⟩

theorem writePlaces_eq (groups : List (ClientFile × List String)) (v : Json) :
    writePlaces (groups.flatMap (·.2)) v = Json.writeAll (places groups) v := by
  rw [writePlaces, Json.writeAll, places, pathsOf_eq, List.map_map, List.foldl_map]
  rfl

/-- What is found apart from the paths of all files is still found when the places are written, if the
paths suit the values. -/
theorem getAt_withPlaces {r : Outgoing}
    (hsuits : ∀ f ∈ r.files, (Json.object r.variableValues).Suits (Path.parseDotted f.1))
    {q : Path} {y : Json} (hapart : ∀ f ∈ r.files, (Path.parseDotted f.1).Diverges q)
    (hy : (Json.object r.variableValues).getAt q = some y) :
    (Json.object (withPlaces r (group r.files)).variableValues).getAt q = some y := by
  have hkeeps : Json.Keeps q (.object r.variableValues)
      (writePlaces ((group r.files).flatMap (·.2)) (.object r.variableValues)) := by
    rw [writePlaces_eq]
    refine (Json.Keeps.of_getAt hy).writeAll ?_
    rintro ⟨path, x⟩ hwrite
    obtain ⟨f, hf, rfl⟩ := exists_of_mem_pathsOf (mem_places hwrite).1
    exact ⟨hapart f hf, hsuits f hf⟩
  obtain ⟨others, hothers⟩ := hkeeps.exists_object
  rw [withPlaces, hothers, Json.object?, Option.getD_some, ← hothers, hkeeps.getAt_eq]
  exact hy

/-- The form of a request begins with the operation. -/
theorem exists_encode_eq (boundary : String) (r : Outgoing) :
    ∃ rest, encode boundary r =
      part boundary "name=\"operations\"" none
        (Text.bytes (withPlaces r (group r.files)).toRequest.toJson.render) ++ rest := by
  rw [encode, List.append_assoc, List.append_assoc]
  exact ⟨_, rfl⟩

/-- **Where the client and the server write alike.**  If the server can replace at a path, then the
client writes the same exactly if the path suits the value.  If the paths of all files suit the
variables, the form of a request brings every variable that stands apart from these paths. -/
theorem encode_keeps (x : Json) (p : Path) (boundary : String) (r : Outgoing) :
    (∀ v w : Json, Json.setAt x p v = some w → (Json.insertAt x p v = w ↔ v.Suits p)) ∧
      ((∀ f ∈ r.files, (Json.object r.variableValues).Suits (Path.parseDotted f.1)) →
        ∃ (sent : Outgoing) (rest : List UInt8),
          encode boundary r =
              part boundary "name=\"operations\"" none (Text.bytes sent.toRequest.toJson.render)
                ++ rest ∧
            ∀ (q : Path) (y : Json), (∀ f ∈ r.files, (Path.parseDotted f.1).Diverges q) →
              (Json.object r.variableValues).getAt q = some y →
              (Json.object sent.variableValues).getAt q = some y) := by
  constructor
  · intro v w h
    exact Json.insertAt_eq_iff_suits h
  · intro hsuits
    obtain ⟨rest, hrest⟩ := exists_encode_eq boundary r
    refine ⟨withPlaces r (group r.files), rest, hrest, ?_⟩
    intro q y hapart hy
    exact getAt_withPlaces hsuits hapart hy

/-- Variables with an object that has a number for a key. -/
def numbered : Json.Members := [("input", .object [("0", .null), ("b", .int 1)])]

/-- A request that sends a file at a path. -/
def posting (path : String) : Outgoing where
  variableValues := numbered
  files := [(path, ⟨"a", "a.txt", []⟩)]

/-- A file that takes the place of a member leaves the others. -/
theorem encode_keeps_beside :
    Json.setAt (.object []) [.key "input", .key "b"] (.object numbered) =
        some (.object [("input", .object [("0", .null), ("b", .object [])])]) ∧
      Json.insertAt (.object []) [.key "input", .key "b"] (.object numbered) =
        .object [("input", .object [("0", .null), ("b", .object [])])] ∧
      (∀ f ∈ (posting "input.b").files,
        (Json.object numbered).Suits (Path.parseDotted f.1)) ∧
      ∃ (sent : Outgoing) (rest : List UInt8),
        encode "0" (posting "input.b") =
            part "0" "name=\"operations\"" none (Text.bytes sent.toRequest.toJson.render) ++ rest ∧
          (Json.object sent.variableValues).getAt [.key "input", .key "0"] = some .null := by
  have hpath : Path.parseDotted "input.b" = [.key "input", .key "b"] := by decide
  have hsuits : (Json.object numbered).Suits [.key "input", .key "b"] := by
    refine ⟨rfl, ?_⟩
    intro child hchild
    cases hchild
    exact ⟨rfl, fun _ _ => Json.suits_nil _⟩
  have hapart : Path.Diverges [.key "input", .key "b"] [.key "input", .key "0"] := by decide
  have hfiles : ∀ f ∈ (posting "input.b").files,
      (Json.object numbered).Suits (Path.parseDotted f.1) :=
    List.forall_mem_singleton.mpr (hpath ▸ hsuits)
  have hset : Json.setAt (.object []) [.key "input", .key "b"] (.object numbered) =
      some (.object [("input", .object [("0", .null), ("b", .object [])])]) := rfl
  obtain ⟨hwrites, hforms⟩ :=
    encode_keeps (.object []) [.key "input", .key "b"] "0" (posting "input.b")
  obtain ⟨sent, rest, hencode, hkeeps⟩ := hforms hfiles
  refine ⟨hset, (hwrites _ _ hset).mpr hsuits, hfiles, sent, rest, hencode, ?_⟩
  exact hkeeps _ _ (List.forall_mem_singleton.mpr (hpath ▸ hapart)) rfl

/-- An object that gets a file under a number becomes a list, and what stands beside is lost. -/
theorem encode_not_keeps :
    Json.setAt (.object []) [.key "input", .index 0] (.object numbered) =
        some (.object [("input", .object [("0", .object []), ("b", .int 1)])]) ∧
      Json.insertAt (.object []) [.key "input", .index 0] (.object numbered) =
        .object [("input", .list [.object []])] ∧
      Path.Diverges (Path.parseDotted "input.0") [.key "input", .key "b"] ∧
      (Json.object numbered).getAt [.key "input", .key "b"] = some (.int 1) ∧
      (Json.object (withPlaces (posting "input.0")
          (group (posting "input.0").files)).variableValues).getAt
        [.key "input", .key "b"] = none := by
  have hpath : Path.parseDotted "input.0" = [.key "input", .index 0] := by decide
  refine ⟨rfl, rfl, ?_, rfl, ?_⟩
  · rw [hpath]
    decide
  · have hgroup : (group (posting "input.0").files).flatMap (·.2) = ["input.0"] := rfl
    rw [withPlaces, hgroup, writePlaces, List.foldl_cons, List.foldl_nil, hpath]
    rfl

end ClientForm

end GraphServe
