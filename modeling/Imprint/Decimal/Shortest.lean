import Imprint.Decimal.Nearest

/-!
# The shortest decimal that reads back

A binary number stands for all real numbers that are rounded to it. Among the decimal numbers in
that interval the ones with the fewest digits are of interest, and of those the nearest to the
number itself. The ends of the interval belong to it when the significand is even.

## Main definitions

* `Imprint.Decimal.Digits`: a decimal number, `0.d₁d₂… * 10 ^ exponent`.
* `Imprint.Decimal.shortest`: the shortest decimal number that is rounded to a binary number.
* `Imprint.Decimal.Digits.positional`: its text, without an exponent.
-/

namespace Imprint.Decimal

/-- The decimal number `significand * 10 ^ exponent`. -/
structure Digits where
  significand : Nat
  exponent : Int
  deriving DecidableEq, Repr

/-- Four times a binary number and four times the ends of its interval, as whole multiples of
`1 / den`. Below a power of two the interval is half as wide. -/
structure Interval where
  low : Nat
  middle : Nat
  high : Nat
  den : Nat
  closed : Bool
  deriving DecidableEq, Repr

/-- The interval of the numbers that are rounded to `b`. -/
def interval (b : Binary) : Interval :=
  let (num, den) := scale 1 1 (-b.exponent)
  let m := 4 * b.significand
  let down := if b.significand = Nat.pow 2 52 ∧ leastExponent < b.exponent then 1 else 2
  ⟨(m - down) * num, m * num, (m + 2) * num, den, b.significand % 2 = 0⟩

/-- Whether `n * 10 ^ e` lies in an interval. -/
def Interval.contains (i : Interval) (n : Nat) (e : Int) : Bool :=
  let v := 4 * n * Nat.pow 10 e.toNat * i.den
  let unit := Nat.pow 10 (-e).toNat
  let low := i.low * unit
  let high := i.high * unit
  if i.closed then decide (low ≤ v) && decide (v ≤ high) else decide (low < v) && decide (v < high)

/-- The greatest whole number `n` for which `n * 10 ^ e` does not exceed the middle. -/
def Interval.below (i : Interval) (e : Int) : Nat :=
  i.middle * Nat.pow 10 (-e).toNat / (4 * i.den * Nat.pow 10 e.toNat)

/-- Whether `(n + 1) * 10 ^ e` is nearer to the middle than `n * 10 ^ e`. -/
def Interval.upperNearer (i : Interval) (n : Nat) (e : Int) : Bool :=
  let twice := 4 * (2 * n + 1) * Nat.pow 10 e.toNat * i.den
  decide (twice < 2 * i.middle * Nat.pow 10 (-e).toNat)

/-- The nearest of the two neighbours of the middle among the multiples of `10 ^ e`, as far as they
lie in the interval. -/
def Interval.nearest? (i : Interval) (e : Int) : Option Digits :=
  let n := i.below e
  match i.contains n e && n != 0, i.contains (n + 1) e with
  | true, true => some ⟨if i.upperNearer n e then n + 1 else n, e⟩
  | true, false => some ⟨n, e⟩
  | false, true => some ⟨n + 1, e⟩
  | false, false => none

/-- The number of digits of a number. -/
def digitCount (n : Nat) : Nat :=
  (Nat.toDigits 10 n).length

/-- An exponent for which the middle of an interval has at most one digit. -/
def Interval.topExponent (i : Interval) : Int :=
  if 4 * i.den ≤ i.middle then digitCount (i.middle / (4 * i.den))
  else -(digitCount (4 * i.den / i.middle) : Int) + 1

/-- The shortest decimal number that is rounded to a binary number; of several the nearest to it. -/
def shortest (b : Binary) : Digits :=
  if b.significand = 0 then ⟨0, 0⟩
  else
    let i := interval b
    let top := i.topExponent
    ((List.range 20).findSome? fun (k : Nat) => i.nearest? (top - k)).getD ⟨0, 0⟩

/-- The text of a decimal number, without an exponent and without a point that nothing follows. -/
def Digits.positional (d : Digits) : List Char :=
  let ds := Nat.toDigits 10 d.significand
  if 0 ≤ d.exponent then
    if d.significand = 0 then ['0'] else ds ++ List.replicate d.exponent.toNat '0'
  else
    let places := (-d.exponent).toNat
    let padded := List.replicate (places + 1 - ds.length) '0' ++ ds
    padded.take (padded.length - places) ++ '.' :: padded.drop (padded.length - places)

end Imprint.Decimal
