/-!
# Numbers of a limited width

The numbers that a given count of binary digits can write: the natural numbers, or the integers when
the first digit counts negatively.

## Main definitions

* `Imprint.Decimal.patterns`: the number of rows of some binary digits.
* `Imprint.Decimal.fitsUnsigned`, `Imprint.Decimal.fitsSigned`: which numbers can be written.
-/

namespace Imprint.Decimal

/-- The number of rows of `bits` binary digits. -/
def patterns (bits : Nat) : Nat :=
  Nat.pow 2 bits

/-- Whether a natural number can be written with `bits` binary digits. -/
def fitsUnsigned (bits n : Nat) : Bool :=
  decide (n < patterns bits)

/-- The least integer of `bits` binary digits, the first of which counts negatively. -/
def leastSigned (bits : Nat) : Int :=
  -(patterns (bits - 1) : Int)

/-- The greatest integer of `bits` binary digits, the first of which counts negatively. -/
def greatestSigned (bits : Nat) : Int :=
  (patterns (bits - 1) : Int) - 1

/-- Whether an integer can be written with `bits` binary digits, the first of which counts
negatively. -/
def fitsSigned (bits : Nat) (n : Int) : Bool :=
  decide (leastSigned bits ≤ n) && decide (n ≤ greatestSigned bits)

end Imprint.Decimal
