import GraphServe.Number.Double

/-!
# Shortest decimals

The decimal of fewest digits that rounds to a given double, and its text.  A finite double is the
nearest one to every number between the midpoints to its two neighbours, ends included when its
mantissa is even.  Grids of one, two, … digits are tried in turn; on each only the two points
around the double can lie in that interval.

* `Double.shortest` gives the digits and the power of ten.
* `Decimal.Style` says where positional notation ends, and `Decimal.render` writes by it.
-/

namespace GraphServe

/-- The number `digits · 10 ^ exponent`. -/
structure Decimal where
  digits   : Nat
  exponent : Int
deriving DecidableEq, Repr, Inhabited

namespace Double

/-- A positive double with the ends of its rounding interval, over one common denominator. -/
structure Interval where
  low         : Nat
  value       : Nat
  high        : Nat
  denominator : Nat
  closed      : Bool

/-- The numbers that round to the positive finite double `x`. -/
def interval (x : Double) : Interval :=
  let m := x.mantissa
  let up := Nat.pow 2 x.scale.toNat
  let down := 4 * Nat.pow 2 (-x.scale).toNat
  let below := if m = Nat.pow 2 52 ∧ 1 < x.exponentField then 1 else 2
  { low := (4 * m - below) * up, value := 4 * m * up, high := (4 * m + 2) * up,
    denominator := down, closed := m % 2 = 0 }

/-- Whether `digits · 10 ^ exponent` lies in the interval. -/
def Interval.contains (i : Interval) (d : Decimal) : Bool :=
  let point := d.digits * Nat.pow 10 d.exponent.toNat * i.denominator
  let unit := Nat.pow 10 (-d.exponent).toNat
  if i.closed then i.low * unit ≤ point ∧ point ≤ i.high * unit
  else i.low * unit < point ∧ point < i.high * unit

/-- The point of the grid `10 ^ exponent` in the interval that is nearest to its value, the even
one of two equally near. -/
def Interval.nearest? (i : Interval) (exponent : Int) : Option Decimal :=
  let unit := i.denominator * Nat.pow 10 exponent.toNat
  let scaled := i.value * Nat.pow 10 (-exponent).toNat
  let below := scaled / unit
  let nearer := roundDiv scaled unit
  let other := if nearer = below then below + 1 else below
  if i.contains ⟨nearer, exponent⟩ then some ⟨nearer, exponent⟩
  else if i.contains ⟨other, exponent⟩ then some ⟨other, exponent⟩
  else none

/-- The power of ten of the first digit of `numerator / denominator`. -/
def leadingExponent (numerator denominator : Nat) : Int :=
  if denominator ≤ numerator then
    ((Nat.toDigits 10 (numerator / denominator)).length : Int) - 1
  else
    -((Nat.toDigits 10 ((denominator - 1) / numerator)).length : Int)

/-- The first grid of one digit, two, … that has a point in the interval. -/
def Interval.search (i : Interval) : Nat → Int → Decimal
  | 0,        exponent => ⟨i.value * Nat.pow 10 (-exponent).toNat / i.denominator, exponent⟩
  | more + 1, exponent =>
      match i.nearest? exponent with
      | some d => d
      | none   => i.search more (exponent - 1)

/-- Without trailing zeros, each of which raises the exponent by one. -/
def stripZeros : Nat → Decimal → Decimal
  | 0,        d => d
  | more + 1, d =>
      if d.digits ≠ 0 ∧ d.digits % 10 = 0 then
        stripZeros more ⟨d.digits / 10, d.exponent + 1⟩
      else d

/-- The decimal of fewest digits that rounds to the magnitude of the finite double `x`. -/
def shortest (x : Double) : Decimal :=
  if x.isZero then ⟨0, 0⟩
  else
    let i := x.interval
    stripZeros 20 (i.search 18 (leadingExponent i.value i.denominator))

end Double

namespace Decimal

/-- How a decimal is spelled: positional from `10 ^ least` up to below `10 ^ limit`, with `.0`
after an integer, and otherwise in scientific notation with a signed exponent. -/
structure Style where
  least : Int
  limit : Int

/-- The digits of a positional number with `exponent` below zero, divided by a point. -/
def withPoint (digits : List Char) (places : Nat) : List Char :=
  let padded := List.replicate (places + 1 - digits.length) '0' ++ digits
  padded.take (padded.length - places) ++ '.' :: padded.drop (padded.length - places)

/-- The text of a magnitude. -/
def render (style : Style) (d : Decimal) : List Char :=
  let digits := Nat.toDigits 10 d.digits
  let leading : Int := d.exponent + digits.length - 1
  if d.digits = 0 then ['0', '.', '0']
  else if style.least ≤ leading ∧ leading < style.limit then
    if 0 ≤ d.exponent then digits ++ List.replicate d.exponent.toNat '0' ++ ['.', '0']
    else withPoint digits (-d.exponent).toNat
  else
    let mantissa := match digits with
      | []      => []
      | [c]     => [c]
      | c :: cs => c :: '.' :: cs
    let sign := if leading < 0 then '-' else '+'
    mantissa ++ 'e' :: sign :: Nat.toDigits 10 leading.natAbs

end Decimal

end GraphServe
