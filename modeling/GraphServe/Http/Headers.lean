/-!
# Header fields

Header fields in the order they came.  Names are compared without case, and a name may come more
than once.

* `Headers.get?` is the first value of a name, `Headers.insert` puts one value in place of all.
-/

namespace GraphServe

/-- Header fields; names are held in lower case. -/
structure Headers where
  fields : List (String × String) := []
deriving Inhabited, Repr

namespace Headers

/-- An ASCII text in lower case. -/
def lower (text : String) : String := String.ofList (text.toList.map Char.toLower)

/-- The fields of a list. -/
def ofList (fields : List (String × String)) : Headers := ⟨fields.map fun (n, v) => (lower n, v)⟩

/-- The first value of a name. -/
def get? (h : Headers) (name : String) : Option String := h.fields.lookup (lower name)

/-- Whether a name has a value. -/
def contains (h : Headers) (name : String) : Bool := (h.get? name).isSome

/-- Add a value to those of a name. -/
def append (h : Headers) (name value : String) : Headers := ⟨h.fields ++ [(lower name, value)]⟩

/-- Without a name. -/
def erase (h : Headers) (name : String) : Headers := ⟨h.fields.filter (·.1 ≠ lower name)⟩

/-- Put a value in place of all values of a name. -/
def insert (h : Headers) (name value : String) : Headers := (h.erase name).append name value

end Headers

end GraphServe
