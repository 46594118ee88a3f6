import Mathlib.Data.List.Nodup
import GraphServe.Introspection
import GraphServe.Proofs.Execution.Bubbling
import GraphServe.Proofs.Execution.Collection

/-!
# Typed positions

Positions are after the types of the fields that were selected (`Position.Typed`): a list has items
after its item type, and an object has the fields that are collected for its concrete type, each of
them after its definition (`Position.TypedField`).  So are the positions below (`IsTyped.at`), and
the keys of every object are different (`Typed.distinct`).
-/

namespace GraphServe.Execution

open Document

namespace Position

mutual

/-- Positions that are after a type, with sets of selections for the objects in them. -/
inductive Typed (s : Schema) (d : Executable) (values : Json.Members) :
    TypeRef → List (List ExecutableSelection) → Position → Prop where
  | null {type : TypeRef} {sets : List (List ExecutableSelection)} (h : type.isRequired = false) :
      Typed s d values type sets .null
  | leaf {name : String} {required : Bool} {sets : List (List ExecutableSelection)} {value : Json}
      (h : value ≠ .null) : Typed s d values (.named name required) sets (.leaf required value)
  | failed (type : TypeRef) (sets : List (List ExecutableSelection)) :
      Typed s d values type sets (.failed type.isRequired)
  | list {item : TypeRef} {required : Bool} {sets : List (List ExecutableSelection)}
      {items : List Position} (below : ∀ c ∈ items, Typed s d values item sets c) :
      Typed s d values (.list item required) sets (.list required items)
  /-- An object has the fields that are collected for its concrete type. -/
  | object {name concrete : String} {required : Bool} {sets : List (List ExecutableSelection)}
      {fields : List (String × Position)}
      (keys : fields.map Prod.fst =
        (collect s d concrete (Conditions.strict values) sets).map Prod.fst)
      (below : ∀ f ∈ fields, ∀ first rest,
        (f.1, first :: rest) ∈ collect s d concrete (Conditions.strict values) sets →
          TypedField s d values first.head ((first :: rest).map (·.selections)) f.2) :
      Typed s d values (.named name required) sets (.object required concrete sets fields)

/-- Positions that are after the definition of a selected field. -/
inductive TypedField (s : Schema) (d : Executable) (values : Json.Members) :
    FieldHead FieldDefinition → List (List ExecutableSelection) → Position → Prop where
  | typename {head : FieldHead FieldDefinition} {sets : List (List ExecutableSelection)}
      (name : String) (h : head.name.node = "__typename") :
      TypedField s d values head sets (.leaf true (.string name))
  | told {head : FieldHead FieldDefinition} {sets : List (List ExecutableSelection)} (value : Json)
      (h : Introspection.isField head.name.node = true) : TypedField s d values head sets (.told value)
  | lacking (head : FieldHead FieldDefinition) (sets : List (List ExecutableSelection)) :
      TypedField s d values head sets (.lacking head.note.type.isRequired)
  | value {head : FieldHead FieldDefinition} {sets : List (List ExecutableSelection)} {t : Position}
      (h : Typed s d values head.note.type sets t) : TypedField s d values head sets t

end

variable {s : Schema} {d : Executable} {values : Json.Members}

/-- Every key that is collected has fields. -/
theorem exists_group {object key : String} {counts : Conditions}
    {sets : List (List ExecutableSelection)}
    (h : key ∈ (collect s d object counts sets).map Prod.fst) :
    ∃ first rest, (key, first :: rest) ∈ collect s d object counts sets := by
  obtain ⟨⟨key, group⟩, hg, rfl⟩ := List.mem_map.mp h
  obtain ⟨first, rest, rfl⟩ := List.exists_cons_of_ne_nil (mem_collect hg).1
  exact ⟨first, rest, hg⟩

theorem Typed.distinct {t : Position} {type : TypeRef} {sets : List (List ExecutableSelection)}
    (h : t.Typed s d values type sets) : t.Distinct := by
  induction t generalizing type sets with
  | null => exact .null
  | leaf r v => exact .leaf r v
  | told v => exact .told v
  | failed r => exact .failed r
  | lacking r => exact .lacking r
  | list r items ih =>
      cases h with
      | list below => exact .list fun c hc => ih c hc (below c hc)
  | object r concrete sets fields ih =>
      cases h with
      | object keys below =>
          refine .object (keys ▸ collect_keys_nodup sets) fun f hf => ?_
          obtain ⟨first, rest, hg⟩ := exists_group (keys ▸ List.mem_map_of_mem hf)
          have hbelow := below f hf first rest hg
          -- the position as a variable, so that the cases on its type go through
          revert hbelow
          generalize hu : f.2 = u
          intro hbelow
          cases hbelow with
          | typename => exact .leaf _ _
          | told => exact .told _
          | lacking => exact .lacking _
          | value h => exact hu ▸ ih f hf (hu ▸ h)

/-- Positions after some type, or after the definition of some field. -/
def IsTyped (s : Schema) (d : Executable) (values : Json.Members) (t : Position) : Prop :=
  (∃ type sets, t.Typed s d values type sets) ∨ ∃ head sets, t.TypedField s d values head sets

theorem Typed.child {t c : Position} {type : TypeRef} {sets : List (List ExecutableSelection)}
    (h : t.Typed s d values type sets) {e : PathElement} (hc : t.child? e = some c) :
    c.IsTyped s d values := by
  cases h with
  | null | leaf | failed => simp [child?] at hc
  | list below =>
      cases e with
      | key => simp [child?] at hc
      | index i => exact .inl ⟨_, _, below c (List.mem_of_getElem? hc)⟩
  | @object _ concrete _ _ fields keys below =>
      cases e with
      | index => simp [child?] at hc
      | key k =>
          have hf : (k, c) ∈ fields := (lookup_eq_some_iff (keys ▸ collect_keys_nodup _)).mp hc
          obtain ⟨first, rest, hg⟩ := exists_group (keys ▸ List.mem_map_of_mem hf)
          exact .inr ⟨_, _, below _ hf first rest hg⟩

theorem IsTyped.child {t c : Position} (h : t.IsTyped s d values) {e : PathElement}
    (hc : t.child? e = some c) : c.IsTyped s d values := by
  rcases h with ⟨type, sets, h⟩ | ⟨head, sets, h⟩
  · exact h.child hc
  · cases h with
    | typename | told | lacking => simp [child?] at hc
    | value h => exact h.child hc

theorem IsTyped.at {t u : Position} (h : t.IsTyped s d values) {p : Path}
    (hp : t.at? p = some u) : u.IsTyped s d values :=
  at?_induction (fun h hc => h.child hc) h hp

theorem Typed.leaf_ne_null {r : Bool} {v : Json} {type : TypeRef}
    {sets : List (List ExecutableSelection)} (h : (Position.leaf r v).Typed s d values type sets) :
    v ≠ .null := by
  cases h with
  | leaf hv => exact hv

/-- What a resolver gave as a leaf is no `null`. -/
theorem IsTyped.leaf_ne_null {r : Bool} {v : Json}
    (h : (Position.leaf r v).IsTyped s d values) : v ≠ .null := by
  rcases h with ⟨type, sets, h⟩ | ⟨head, sets, h⟩
  · exact h.leaf_ne_null
  · cases h with
    | typename => simp
    | value h => exact h.leaf_ne_null

theorem Typed.keys {r : Bool} {concrete : String} {fields : List (String × Position)}
    {type : TypeRef} {sets sets' : List (List ExecutableSelection)}
    (h : (Position.object r concrete sets fields).Typed s d values type sets') :
    fields.map Prod.fst = (collect s d concrete (Conditions.strict values) sets).map Prod.fst := by
  cases h with
  | object keys _ => exact keys

theorem IsTyped.keys {r : Bool} {concrete : String} {fields : List (String × Position)}
    {sets : List (List ExecutableSelection)}
    (h : (Position.object r concrete sets fields).IsTyped s d values) :
    fields.map Prod.fst = (collect s d concrete (Conditions.strict values) sets).map Prod.fst := by
  rcases h with ⟨type, sets', h⟩ | ⟨head, sets', h⟩
  · exact h.keys
  · cases h with
    | value h => exact h.keys

end Position

end GraphServe.Execution
