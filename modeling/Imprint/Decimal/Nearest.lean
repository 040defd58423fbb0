/-!
# Nearest binary numbers

Numbers with a significand of 53 binary digits and an exponent of at least -1074. A quotient is
rounded to the nearest of them, and of two equally near ones to the one whose significand is even.
There is a greatest such number; what is rounded beyond it counts as infinite.

## Main definitions

* `Imprint.Decimal.Binary`: a significand and an exponent.
* `Imprint.Decimal.roundDiv`: a quotient rounded to a whole number.
* `Imprint.Decimal.nearest`: a quotient rounded to a binary number.
-/

namespace Imprint.Decimal

/-- The number `significand * 2 ^ exponent`. -/
structure Binary where
  significand : Nat
  exponent : Int
  deriving DecidableEq, Repr

/-- The quotient `num / den` rounded to the nearest whole number, a half to the even one. -/
def roundDiv (num den : Nat) : Nat :=
  let q := num / den
  let r := num % den
  if 2 * r < den then q
  else if den < 2 * r then q + 1
  else if q % 2 = 0 then q else q + 1

/-- Numerator and denominator of `num / den` divided by `2 ^ e`. -/
def scale (num den : Nat) (e : Int) : Nat × Nat :=
  if 0 ≤ e then (num, den * Nat.pow 2 e.toNat) else (num * Nat.pow 2 (-e).toNat, den)

/-- The least exponent. -/
def leastExponent : Int := -1074

/-- The binary number nearest to `num / den`. -/
def nearest (num den : Nat) : Binary :=
  if num = 0 then ⟨0, 0⟩
  else
    let guess : Int := (Nat.log2 num : Int) - Nat.log2 den - 53
    let (n, d) := scale num den guess
    let e := max (if n / d < Nat.pow 2 53 then guess else guess + 1) leastExponent
    let (n, d) := scale num den e
    let significand := roundDiv n d
    if significand = Nat.pow 2 53 then ⟨Nat.pow 2 52, e + 1⟩ else ⟨significand, e⟩

/-- The whole part of a binary number. -/
def Binary.floor (b : Binary) : Nat :=
  let (n, d) := scale b.significand 1 (-b.exponent)
  n / d

/-- Whether a binary number lies beyond the greatest. -/
def Binary.isInfinite (b : Binary) : Bool :=
  decide (Nat.pow 2 1024 ≤ b.floor)

end Imprint.Decimal
