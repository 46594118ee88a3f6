import GraphServe.Document.Token

/-!
# Values and types in documents

Literals, variables and type references as documents write them.  A literal keeps the text of its
numbers and the places of the values inside it; the places do not count when two values are
compared.

* `Value.agree` compares two values, `Value.render` writes one,
  `Value.variableNames` lists its variables.
* `TypeRef` is a type: a named one or a list, each either admitting `null` or not.
-/

namespace GraphServe

namespace Document

/-- Something with the place where it starts. -/
structure Located (α : Type) where
  node  : α
  place : Nat
deriving Repr, Inhabited

/-- A value. -/
inductive Value where
  | null
  | bool (value : Bool)
  /-- An integer, by its text. -/
  | int (text : String)
  /-- A number with a fraction or exponent, by its text. -/
  | float (text : String)
  | string (value : String)
  | enum (name : String)
  | variable (name : String)
  | list (items : List (Located Value))
  | object (fields : List (String × Located Value))
deriving Repr, Inhabited

namespace Value

/-- Whether a value is `null`. -/
def isNull : Value → Bool
  | .null => true
  | _    => false

mutual

/-- The variables in a value, in order. -/
def variableNames : Value → List String
  | .variable name => [name]
  | .list items    => variablesOfItems items
  | .object fields => variablesOfFields fields
  | _             => []

/-- The variables in some items. -/
def variablesOfItems : List (Located Value) → List String
  | []                => []
  | ⟨item, _⟩ :: rest => variableNames item ++ variablesOfItems rest

/-- The variables in some fields. -/
def variablesOfFields : List (String × Located Value) → List String
  | []                     => []
  | (_, ⟨item, _⟩) :: rest => variableNames item ++ variablesOfFields rest

end

mutual

/-- Whether two values agree: with the fields of objects in any order, and lists as far as both
go. -/
def agree : Value → Value → Bool
  | .null,       .null       => true
  | .bool a,     .bool b     => a == b
  | .int a,      .int b      => a == b
  | .float a,    .float b    => a == b
  | .string a,   .string b   => a == b
  | .enum a,     .enum b     => a == b
  | .variable a, .variable b => a == b
  | .list a,     .list b     => agreeItems a b
  | .object a,   .object b   => a.length == b.length && agreeFields a b
  | _,          _          => false

/-- Whether the items of two lists agree, as far as both go. -/
def agreeItems : List (Located Value) → List (Located Value) → Bool
  | ⟨a, _⟩ :: as, ⟨b, _⟩ :: bs => agree a b && agreeItems as bs
  | _,            _            => true

/-- Whether each field agrees with one of an object. -/
def agreeFields : List (String × Located Value) → List (String × Located Value) → Bool
  | [],                  _  => true
  | (k, ⟨a, _⟩) :: rest, bs =>
      (match bs.lookup k with
        | some b => agree a b.node
        | none   => false) && agreeFields rest bs

end

/-- A character inside a quoted literal. -/
def escapeChar (c : Char) : List Char :=
  if c = '"' then ['\\', '"']
  else if c = '\\' then ['\\', '\\']
  else if c = '\n' then ['\\', 'n']
  else if c = '\r' then ['\\', 'r']
  else if c.toNat = 8 then ['\\', 'b']
  else if c.toNat = 12 then ['\\', 'f']
  else if c.toNat < 32 ∧ c ≠ '\t' then
    let digit (n : Nat) : Char := "0123456789ABCDEF".toList.getD n '0'
    ['\\', 'u', '0', '0', digit (c.toNat / 16), digit (c.toNat % 16)]
  else [c]

mutual

/-- The text of a value. -/
def render : Value → String
  | .null          => "null"
  | .bool b        => if b then "true" else "false"
  | .int text      => text
  | .float text    => text
  | .string s      => String.ofList ('"' :: (s.toList.flatMap escapeChar ++ ['"']))
  | .enum name     => name
  | .variable name => "$" ++ name
  | .list items    => "[" ++ renderItems items ++ "]"
  | .object fields => "\x7b" ++ renderFields fields ++ "\x7d"

/-- The text of some items. -/
def renderItems : List (Located Value) → String
  | []                => ""
  | [⟨item, _⟩]       => render item
  | ⟨item, _⟩ :: rest => render item ++ ", " ++ renderItems rest

/-- The text of some fields. -/
def renderFields : List (String × Located Value) → String
  | []                     => ""
  | [(k, ⟨item, _⟩)]       => k ++ ": " ++ render item
  | (k, ⟨item, _⟩) :: rest => k ++ ": " ++ render item ++ ", " ++ renderFields rest

end

/-- What a value is called in a message. -/
def describe : Value → String
  | .null       => "null"
  | .bool _     => "a boolean"
  | .int _      => "an integer"
  | .float _    => "a float"
  | .string _   => "a string"
  | .enum _     => "an enum"
  | .variable _ => "a variable"
  | .list _     => "a list"
  | .object _   => "an input object"

end Value

/-! ### Strings -/

/-- The lines of some characters; a carriage return with or without a line feed ends one too. -/
def splitLines : List Char → List Char → List (List Char)
  | current, []                  => [current.reverse]
  | current, '\r' :: '\n' :: rest => current.reverse :: splitLines [] rest
  | current, c :: rest           =>
      if Escape.isLineEnd c then current.reverse :: splitLines [] rest
      else splitLines (c :: current) rest

/-- A blank inside a line. -/
def isIndent (c : Char) : Bool := c = ' ' || c = '\t'

/-- The quotes that a block string may hold when escaped. -/
def unescapeBlock : List Char → List Char
  | []                                => []
  | '\\' :: '"' :: '"' :: '"' :: rest => '"' :: '"' :: '"' :: unescapeBlock rest
  | c :: rest                         => c :: unescapeBlock rest

/-- The characters of a block string: without the indentation that its lines but the first have in
common, and without blank lines at either end. -/
def blockString (inside : List Char) : List Char :=
  let lines := splitLines [] inside
  let isBlankLine (line : List Char) : Bool := line.all isIndent
  let indents := ((lines.drop 1).filter (!isBlankLine ·)).map fun l => (l.takeWhile isIndent).length
  let common := indents.min?.getD 0
  let lines := lines.take 1 ++ (lines.drop 1).map (·.drop common)
  let lines := ((lines.dropWhile isBlankLine).reverse.dropWhile isBlankLine).reverse
  unescapeBlock (['\n'].intercalate lines)

end Document

/-! ### Types -/

/-- A type: `required` when it does not admit `null`. -/
inductive TypeRef where
  | named (name : String) (required : Bool)
  | list (item : TypeRef) (required : Bool)
deriving DecidableEq, Repr, Inhabited

namespace TypeRef

/-- Whether a type does not admit `null`. -/
def isRequired : TypeRef → Bool
  | named _ required => required
  | list _ required  => required

/-- The same type, admitting `null`. -/
def nullable : TypeRef → TypeRef
  | named name _ => named name false
  | list item _  => list item false

/-- Whether a type is a list. -/
def isList : TypeRef → Bool
  | named _ _ => false
  | list _ _  => true

/-- The named type inside all lists. -/
def innerName : TypeRef → String
  | named name _ => name
  | list item _  => item.innerName

/-- The type of the items; a type that is no list is its own. -/
def itemType : TypeRef → TypeRef
  | named name required => named name required
  | list item _         => item

/-- The text of a type. -/
def render : TypeRef → String
  | named name required => name ++ if required then "!" else ""
  | list item required  => "[" ++ item.render ++ "]" ++ if required then "!" else ""

instance : ToString TypeRef := ⟨render⟩

/-- Whether every value of a type is one of the other: the same up to `null` being admitted. -/
def isAssignableTo : TypeRef → TypeRef → Bool
  | named a ra, named b rb => a == b && (ra || !rb)
  | list a ra,  list b rb  => a.isAssignableTo b && (ra || !rb)
  | _,          _          => false

end TypeRef

end GraphServe
