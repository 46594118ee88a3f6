/-!
# Words

The integers that fit a machine word of some bits, with or without a sign.

* `Word.count` is the number of words of some bits.
* `Word.isUnsigned` and `Word.isSigned` tell which integers are words.
-/

namespace GraphServe.Word

/-- The number of words of some bits. -/
def count (bits : Nat) : Nat := Nat.pow 2 bits

/-- The greatest word of some bits without a sign. -/
def greatest (bits : Nat) : Nat := count bits - 1

/-- Whether an integer is a word of some bits without a sign. -/
def isUnsigned (bits : Nat) (n : Int) : Bool := 0 ≤ n && n < count bits

/-- Whether an integer is a word of some bits of which one is the sign. -/
def isSigned (bits : Nat) (n : Int) : Bool :=
  -(count (bits - 1) : Int) ≤ n && n < count (bits - 1)

end GraphServe.Word
