import GraphServe.Json.Decode

/-!
# The context of a request

Values that the stages of one request share, each stored as JSON under a key and read at a type.  A
type is known by its `Codec`: reading may fail, and so may writing.

* `Context.get`, `insert` and `upsert` are the operations on the map.
* `Codec.json`, `unsigned32`, `signed64`, `bool`, `string`, `strings` are types.
-/

namespace GraphServe

/-- How values of a type are stored: both ways may fail with a message. -/
structure Codec (α : Type) where
  read  : Json → Except String α
  write : α → Except String Json

namespace Codec

/-- How a stored value is named where another type was expected.  A number is named as a floating
point number. -/
def found : Json → String
  | .int n => Json.unexpected (.float (Double.ofInt n))
  | v      => Json.unexpected v

/-- The message for a stored value of another type. -/
def mismatch {α : Type} (expected : String) (v : Json) : Except String α :=
  .error (Text.invalidType (found v) expected)

/-- Any value. -/
def json : Codec Json := ⟨.ok, .ok⟩

/-- The integers that fit a type. -/
def integer (name : String) (fits : Int → Bool) : Codec Int where
  read
    | .int n =>
        if fits n then .ok n
        else .error (Text.invalidValue (Json.unexpected (.int n)) name)
    | v      => mismatch name v
  write n := .ok (.int n)

/-- Natural numbers of thirty-two bits. -/
def unsigned32 : Codec Int := integer "u32" (Word.isUnsigned 32)

/-- Integers of sixty-four bits. -/
def signed64 : Codec Int := integer "i64" (Word.isSigned 64)

/-- Truth values. -/
def bool : Codec Bool where
  read
    | .bool b => .ok b
    | v       => mismatch "a boolean" v
  write b := .ok (.bool b)

/-- Texts. -/
def string : Codec String where
  read
    | .string s => .ok s
    | v         => mismatch "a string" v
  write s := .ok (.string s)

/-- Lists of texts. -/
def strings : Codec (List String) where
  read
    | .list items => items.mapM string.read
    | v           => mismatch "a sequence" v
  write items := .ok (.list (items.map .string))

end Codec

/-- The values of a request. -/
structure Context where
  values : Json.Members := []
deriving Inhabited, Repr

namespace Context

variable {α : Type}

/-- The value under a key. -/
def get (c : Context) (codec : Codec α) (key : String) : Except String (Option α) :=
  match c.values.get? key with
  | none   => .ok none
  | some v => (codec.read v).map some

/-- Store a value and answer the one there was.  It is stored also when the previous one cannot be
read. -/
def insert (c : Context) (codec : Codec α) (key : String) (value : α) :
    Except String (Option α) × Context :=
  match codec.write value with
  | .error e => (.error e, c)
  | .ok v    => (c.get codec key, ⟨c.values.insert key v⟩)

/-- What an update is of: the value under a key, or a default where there is none or `null`. -/
def seen (c : Context) (codec : Codec α) (key : String) (default : α) : Except String α :=
  match c.values.get? key with
  | none | some .null => .ok default
  | some v            => codec.read v

/-- Replace the value under a key by an update of what is seen there. -/
def upsert (c : Context) (codec : Codec α) (key : String) (update : α → α) (default : α) :
    Except String Unit × Context :=
  let values := c.values.insertNew key .null
  match seen ⟨values⟩ codec key default with
  | .error e => (.error e, ⟨values⟩)
  | .ok a    =>
      match codec.write (update a) with
      | .error e => (.error e, ⟨values⟩)
      | .ok v    => (.ok (), ⟨values.insert key v⟩)

/-- Whether a key has a value. -/
def contains (c : Context) (key : String) : Bool := c.values.contains key

end Context

end GraphServe
