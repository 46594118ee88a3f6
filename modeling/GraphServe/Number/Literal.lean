import GraphServe.Number.Shortest

/-!
# Number literals

The number that a literal with a sign, digits, a fraction and an exponent spells.
-/

namespace GraphServe

/-- A literal: `± digits · 10 ^ exponent`. -/
structure NumberLiteral where
  negative : Bool
  decimal  : Decimal
deriving DecidableEq, Repr

namespace NumberLiteral

/-- The natural number that digits spell. -/
def natOf (digits : List Char) : Nat :=
  digits.foldl (fun n d => n * 10 + (d.toNat - '0'.toNat)) 0

/-- The integer that an optional sign and digits spell. -/
def intOf : List Char → Int
  | '-' :: digits => -(natOf digits : Int)
  | '+' :: digits => natOf digits
  | digits        => natOf digits

/-- The literal that a text spells, which is taken to be well-formed. -/
def ofText (text : String) : NumberLiteral :=
  let (negative, chars) := match text.toList with
    | '-' :: rest => (true, rest)
    | all         => (false, all)
  let whole := chars.takeWhile Char.isDigit
  let rest := chars.drop whole.length
  let places := match rest with
    | '.' :: more => more.takeWhile Char.isDigit
    | _           => []
  let power := ((rest.dropWhile fun c => c ≠ 'e' ∧ c ≠ 'E').drop 1)
  ⟨negative, natOf (whole ++ places), intOf power - places.length⟩

/-- The double nearest to a literal. -/
def toDouble (l : NumberLiteral) : Double :=
  Double.ofDecimal l.negative l.decimal.digits l.decimal.exponent

end NumberLiteral

end GraphServe
