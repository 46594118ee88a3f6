import GraphServe.Number.Literal
import GraphServe.Number.Word
import GraphServe.Text.Mismatch
import GraphServe.Text.Quoted
import GraphServe.Yaml.Token

/-!
# What scalars stand for

A plain scalar without a tag stands for what it looks like: nothing, a truth value, a number or a
text. A tag of the core types asks for one of them, and any other scalar is a text.

* `Atom.ofScalar` gives the value of a scalar.
* `Atom.name` is what a value is called in messages.
-/

namespace GraphServe.Yaml

/-- A number that may be no number or past all numbers. -/
inductive FloatValue where
  | finite (x : Double)
  | infinite (negative : Bool)
  | notANumber
deriving DecidableEq, Repr

/-- What a scalar stands for. -/
inductive Atom where
  | unit
  | bool (b : Bool)
  | int (n : Int)
  | float (x : FloatValue)
  | text (s : String)
deriving DecidableEq, Repr

/-- A scalar that is not what its tag says. -/
structure TagMismatch where
  text     : String
  expected : String
deriving DecidableEq, Repr

/-! ### Integers -/

/-- The value of a digit to a base. -/
def digit? (base : Nat) (c : Char) : Option Nat := (hexValue? c).filter (· < base)

/-- The number that digits to a base spell. -/
def natural? (base : Nat) (digits : List Char) : Option Nat := do
  guard !digits.isEmpty
  return (← digits.mapM (digit? base)).foldl (fun n d => n * base + d) 0

/-- The number that digits spell after an optional plus sign. -/
def signless? (base : Nat) : List Char → Option Nat
  | '+' :: digits => natural? base digits
  | digits        => natural? base digits

/-- The integer that digits with an optional sign spell. -/
def integer? (base : Nat) : List Char → Option Int
  | '-' :: digits => (natural? base digits).map fun n => -(n : Int)
  | chars         => (signless? base chars).map Int.ofNat

/-- A natural number of sixty-four bits to a base, after a mark like `0x`. -/
def marked? (base : Nat) (mark : String) (chars : List Char) : Option Int :=
  if mark.toList.isPrefixOf chars then
    (signless? base (chars.drop mark.length)).bind fun n =>
      if Word.isUnsigned 64 n then some (n : Int) else none
  else none

/-- A negative number of sixty-four bits to a base, after a mark like `-0x`. -/
def negativeMarked? (base : Nat) (mark : String) (chars : List Char) : Option Int :=
  if mark.toList.isPrefixOf chars then
    (natural? base (chars.drop mark.length)).bind fun n =>
      if Word.isSigned 64 (-n) then some (-(n : Int)) else none
  else none

/-- A number with a mark for its base. -/
def basedInteger? (chars : List Char) : Option Int :=
  [(16, "0x", "+0x", "-0x"), (8, "0o", "+0o", "-0o"), (2, "0b", "+0b", "-0b")].findSome?
    fun (base, mark, plus, minus) =>
      (marked? base mark chars).or ((marked? base plus chars).or (negativeMarked? base minus chars))

/-- Whether digits, with signs before them, begin with a zero that is not the only digit. -/
def hasLeadingZero (chars : List Char) : Bool :=
  match chars.dropWhile fun c => c = '-' ∨ c = '+' with
  | '0' :: rest => !rest.isEmpty && rest.all Char.isDigit
  | _           => false

/-- An integer of at most 128 bits. -/
def decimalInteger? (chars : List Char) : Option Int :=
  (integer? 10 chars).filter fun n => Word.isSigned 128 n || Word.isUnsigned 128 n

/-! ### Other numbers -/

/-- Digits with a point among them or none and with an exponent or none; one digit is there at
least. -/
def isDecimal (chars : List Char) : Bool :=
  let mantissa := chars.takeWhile fun c => c.isDigit || c == '.'
  let exponent := match chars.drop mantissa.length with
    | []        => true
    | e :: rest =>
        let digits := match rest with
          | '+' :: ds => ds
          | '-' :: ds => ds
          | ds        => ds
        (e == 'e' || e == 'E') && !digits.isEmpty && digits.all Char.isDigit
  mantissa.any Char.isDigit && mantissa.count '.' ≤ 1 && exponent

/-- The finite or infinite number that a decimal with an optional sign spells. -/
def decimal? (chars : List Char) : Option FloatValue :=
  let (negative, rest) : Bool × List Char := match chars with
    | '-' :: rest => (true, rest)
    | '+' :: rest => (false, rest)
    | rest        => (false, rest)
  if isDecimal rest then
    let x := (NumberLiteral.ofText (String.ofList rest)).toDouble
    some <|
      if x.isFinite then .finite (if negative then Double.ofMagnitude true x.bits.toNat else x)
      else .infinite negative
  else
    match String.ofList (rest.map Char.toLower) with
    | "inf" | "infinity" => some (.infinite negative)
    | "nan"              => some .notANumber
    | _                  => none

/-- The words for what is no finite number. -/
def specialFloat? (chars : List Char) : Option FloatValue :=
  if [".inf", ".Inf", ".INF"].contains (String.ofList (chars.dropWhile (· = '+'))) then
    some (.infinite false)
  else if ["-.inf", "-.Inf", "-.INF"].contains (String.ofList chars) then some (.infinite true)
  else if [".nan", ".NaN", ".NAN"].contains (String.ofList chars) then some .notANumber
  else none

/-- A number that is finite. -/
def finite? (chars : List Char) : Option FloatValue :=
  match decimal? chars with
  | some (.finite x) => some (.finite x)
  | _                => none

namespace Atom

/-! ### Values -/

/-- The value of a plain scalar without a tag. -/
def ofPlain (text : String) : Atom :=
  let chars := text.toList
  if text = "~" ∨ text = "null" then .unit
  else if text = "true" then .bool true
  else if text = "false" then .bool false
  else
    match basedInteger? chars with
    | some n => .int n
    | none   =>
        if hasLeadingZero chars then .text text
        else
          match decimalInteger? chars, (specialFloat? chars).or (finite? chars) with
          | some n, _      => .int n
          | none,   some x => .float x
          | none,   none   => .text text

/-- The value that a tag of the core types asks for. -/
def ofTagged (kind text : String) : Except TagMismatch Atom :=
  let orElse (expected : String) : Option Atom → Except TagMismatch Atom
    | some a => .ok a
    | none   => .error ⟨text, expected⟩
  match kind with
  | "bool"  => orElse "a boolean" (
      if text = "true" then some (.bool true)
      else if text = "false" then some (.bool false)
      else none)
  | "int"   => orElse "an integer" <|
      ((integer? 10 text.toList).filter (Word.isSigned 64)).map .int
  | "float" => orElse "a float" ((decimal? text.toList).map .float)
  | "null"  => orElse "null" (if text = "~" ∨ text = "null" then some .unit else none)
  | _       => .ok (.text text)

/-- The value of a scalar. -/
def ofScalar (style : Style) (tag? : Option Tag) (text : String) : Except TagMismatch Atom :=
  match tag? with
  | some tag => if tag.handle = "!!" then ofTagged tag.suffix text else .ok (.text text)
  | none     => .ok (if style = .plain then ofPlain text else .text text)

/-! ### Names -/

/-- Every double is shown positionally. -/
def floatStyle : Decimal.Style := ⟨-400, 400⟩

/-- The text of a number that may be no number. -/
def floatText : FloatValue → String
  | .finite x          =>
      String.ofList ((if x.isNegative then ['-'] else []) ++ x.shortest.render floatStyle)
  | .infinite negative => if negative then "-inf" else "inf"
  | .notANumber        => "NaN"

/-- What an integer is called when it was not expected; those of more than sixty-four bits tell how
they were read. -/
def intName (n : Int) : String :=
  "integer `" ++ toString n ++ "`"
    ++ (if Word.isSigned 64 n || Word.isUnsigned 64 n then ""
        else if 0 ≤ n then " as u128"
        else " as i128")

/-- What a value is called when it was not expected. -/
def name : Atom → String
  | .unit    => "unit value"
  | .bool b  => Text.boolName b
  | .int n   => intName n
  | .float x => "floating point `" ++ floatText x ++ "`"
  | .text s  => "string " ++ Text.quoted s

end Atom

end GraphServe.Yaml
