/-!
# Double-precision numbers

A double is its sixty-four bits: a sign, eleven bits of exponent and fifty-two of fraction.  The
finite ones are the numbers `± mantissa · 2 ^ scale`.

* `Double.ofRatio` rounds a quotient of naturals to the nearest double, a tie to the even one.
* `Double.ofDecimal` does so for `digits · 10 ^ exponent`, the form a decimal literal has.
* `Double.toNatTrunc` drops the fraction of a non-negative double.
-/

namespace GraphServe

/-- A double-precision number, told apart by its bits: `0.0` and `-0.0` differ. -/
structure Double where
  bits : UInt64
deriving DecidableEq, Repr, Inhabited

namespace Double

/-- Whether the sign bit is set. -/
def isNegative (x : Double) : Bool := Nat.pow 2 63 ≤ x.bits.toNat

/-- The eleven bits of the exponent. -/
def exponentField (x : Double) : Nat := x.bits.toNat / Nat.pow 2 52 % Nat.pow 2 11

/-- The fifty-two bits of the fraction. -/
def fractionField (x : Double) : Nat := x.bits.toNat % Nat.pow 2 52

/-- Neither an infinity nor a NaN. -/
def isFinite (x : Double) : Bool := x.exponentField ≠ 2047

/-- The integer of a finite double `mantissa · 2 ^ scale`. -/
def mantissa (x : Double) : Nat :=
  if x.exponentField = 0 then x.fractionField else Nat.pow 2 52 + x.fractionField

/-- The power of two of a finite double `mantissa · 2 ^ scale`. -/
def scale (x : Double) : Int := (max x.exponentField 1 : Nat) - 1075

/-- Either of the two zeros. -/
def isZero (x : Double) : Bool := x.bits.toNat % Nat.pow 2 63 = 0

/-- The magnitude with these bits, under the given sign. -/
def ofMagnitude (negative : Bool) (magnitude : Nat) : Double :=
  ⟨UInt64.ofNat (magnitude + if negative then Nat.pow 2 63 else 0)⟩

/-- The infinity of the given sign. -/
def infinity (negative : Bool) : Double := ofMagnitude negative (2047 * Nat.pow 2 52)

/-- The zero of the given sign. -/
def zero (negative : Bool) : Double := ofMagnitude negative 0

/-- `⌊a / b⌋` or its successor, whichever is nearer to `a / b`; of two equally near the even
one. -/
def roundDiv (a b : Nat) : Nat :=
  let q := a / b
  let twice := 2 * (a % b)
  if twice < b ∨ (twice = b ∧ q % 2 = 0) then q else q + 1

/-- The scale at which `numerator / denominator` has a mantissa of fifty-three bits, or the least
scale there is. -/
def scaleOf (numerator denominator : Nat) : Int :=
  let guess : Int := (Nat.log2 numerator : Int) - Nat.log2 denominator - 52
  let fits : Bool :=
    if 0 ≤ guess then denominator * Nat.pow 2 (guess.toNat + 52) ≤ numerator
    else denominator * Nat.pow 2 52 ≤ numerator * Nat.pow 2 (-guess).toNat
  max (if fits then guess else guess - 1) (-1074)

/-- The double nearest to `numerator / denominator`, with the given sign; an infinity when it lies
past every finite double. -/
def ofRatio (negative : Bool) (numerator denominator : Nat) : Double :=
  if numerator = 0 then zero negative
  else
    let scale := scaleOf numerator denominator
    let rounded :=
      if 0 ≤ scale then roundDiv numerator (denominator * Nat.pow 2 scale.toNat)
      else roundDiv (numerator * Nat.pow 2 (-scale).toNat) denominator
    ofMagnitude negative (min (rounded + (scale + 1074).toNat * Nat.pow 2 52) (2047 * Nat.pow 2 52))

/-- The double nearest to `digits · 10 ^ exponent`.  An exponent far outside the range of doubles
is decided by its size alone. -/
def ofDecimal (negative : Bool) (digits : Nat) (exponent : Int) : Double :=
  let magnitude : Int := exponent + (Nat.log2 digits : Int) / 3
  if digits = 0 ∨ magnitude < -400 then zero negative
  else if 400 < exponent then infinity negative
  else if 0 ≤ exponent then ofRatio negative (digits * Nat.pow 10 exponent.toNat) 1
  else ofRatio negative digits (Nat.pow 10 (-exponent).toNat)

/-- The double nearest to an integer. -/
def ofInt (n : Int) : Double := ofRatio (n < 0) n.natAbs 1

/-- The double nearest to the product of a finite double and a natural number. -/
def mulNat (x : Double) (n : Nat) : Double :=
  if 0 ≤ x.scale then ofRatio x.isNegative (x.mantissa * Nat.pow 2 x.scale.toNat * n) 1
  else ofRatio x.isNegative (x.mantissa * n) (Nat.pow 2 (-x.scale).toNat)

/-- The magnitude of a finite double without its fraction. -/
def toNatTrunc (x : Double) : Nat :=
  if 0 ≤ x.scale then x.mantissa * Nat.pow 2 x.scale.toNat
  else x.mantissa / Nat.pow 2 (-x.scale).toNat

end Double

end GraphServe
