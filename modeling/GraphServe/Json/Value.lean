import GraphServe.Number.Double
import GraphServe.Number.Word

/-!
# JSON values

Values as requests and responses carry them.  Integers and doubles are told apart, and an object
is the list of its members in the order they were written, each key once.

* `Json.Members` is the map inside an object: `get?`, `insert`, `erase`.
* `Json.Kind` names what a value is.
-/

namespace GraphServe

/-- A JSON value. -/
inductive Json where
  | null
  | bool (value : Bool)
  | int (value : Int)
  | float (value : Double)
  | string (value : String)
  | list (items : List Json)
  | object (members : List (String × Json))
deriving Inhabited, Repr

namespace Json

/-- The members of an object, in their order. -/
abbrev Members := List (String × Json)

namespace Members

/-- The value under a key. -/
def get? : Members → String → Option Json
  | [], _ => none
  | (k, v) :: rest, key => if k = key then some v else get? rest key

/-- Whether a key has a value. -/
def contains (m : Members) (key : String) : Bool := (m.get? key).isSome

/-- Put a value under a key: in the place of the key if it is there, else at the end. -/
def insert : Members → String → Json → Members
  | [], key, value => [(key, value)]
  | (k, v) :: rest, key, value =>
      if k = key then (k, value) :: rest else (k, v) :: insert rest key value

/-- Put a value under a key that has none. -/
def insertNew (m : Members) (key : String) (value : Json) : Members :=
  if m.contains key then m else m ++ [(key, value)]

/-- Without a key. -/
def erase (m : Members) (key : String) : Members := m.filter (·.1 ≠ key)

/-- Members read one after the other: a key that comes again replaces the value it had. -/
def ofList (entries : List (String × Json)) : Members :=
  entries.foldl (fun m (k, v) => m.insert k v) []

@[simp] theorem get?_nil (key : String) : get? [] key = none := rfl

@[simp] theorem get?_cons (k : String) (v : Json) (rest : Members) (key : String) :
    get? ((k, v) :: rest) key = if k = key then some v else get? rest key := rfl

/-- A value put under a key is found there, and no other key changes. -/
theorem get?_insert (m : Members) (key : String) (value : Json) (other : String) :
    (m.insert key value).get? other = if key = other then some value else m.get? other := by
  induction m with
  | nil => rfl
  | cons head rest ih =>
      obtain ⟨k, v⟩ := head
      by_cases h : k = key
      · subst h; by_cases ho : k = other <;> simp [insert, ho]
      · by_cases ho : k = other
        · subst ho; simp [insert, h, Ne.symm h]
        · simp [insert, h, ho, ih]

end Members

/-- What a value is. -/
inductive Kind where
  | null
  | bool
  | float
  | int
  | string
  | list
  | object
deriving DecidableEq, Repr

/-- The name of a kind in messages. -/
def Kind.name : Kind → String
  | .null   => "null"
  | .bool   => "bool"
  | .float  => "float"
  | .int    => "int"
  | .string => "string"
  | .list   => "list"
  | .object => "object"

/-- The kind of a value. -/
def kind : Json → Kind
  | null     => .null
  | bool _   => .bool
  | int _    => .int
  | float _  => .float
  | string _ => .string
  | list _   => .list
  | object _ => .object

/-- Whether a value is `null`. -/
def isNull : Json → Bool
  | null => true
  | _    => false

/-- The text of a string. -/
def string? : Json → Option String
  | string s => some s
  | _        => none

/-- The number of an integer. -/
def int? : Json → Option Int
  | int n => some n
  | _     => none

/-- The number of an integer that is not negative. -/
def nat? : Json → Option Nat
  | int n => if 0 ≤ n then some n.toNat else none
  | _     => none

/-- The truth value of a boolean. -/
def bool? : Json → Option Bool
  | bool b => some b
  | _      => none

/-- The items of a list. -/
def list? : Json → Option (List Json)
  | list items => some items
  | _          => none

/-- The members of an object. -/
def object? : Json → Option Members
  | object members => some members
  | _              => none

/-- The value under a key of an object. -/
def field? (value : Json) (key : String) : Option Json :=
  value.object?.bind (·.get? key)

/-- A text or `null`. -/
def ofString? : Option String → Json
  | some s => string s
  | none   => null

instance : Coe String Json := ⟨string⟩
instance : Coe Bool Json := ⟨bool⟩
instance : Coe Nat Json := ⟨fun n => int n⟩

end Json

end GraphServe
