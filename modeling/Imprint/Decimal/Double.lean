import Imprint.Decimal.Shortest
import Imprint.Decimal.Width

/-!
# Numbers of binary precision

A number of binary precision has a magnitude and a sign, which zero has too. Sums, products,
quotients and remainders are formed exactly and rounded once. What lies beyond the greatest number
is none, and so is what is no number at all.

A number is written with the fewest digits that read back. Very large and very small numbers are
written with an exponent, but for the form in which templates are rendered.

## Main definitions

* `Imprint.Decimal.Double`: a number of binary precision.
* `Imprint.Decimal.Double.ofRat?`: the number nearest to a quotient.
* `Imprint.Decimal.Double.add?`, `Imprint.Decimal.Double.mul?`, `Imprint.Decimal.Double.div?`,
  `Imprint.Decimal.Double.mod?`: arithmetic.
* `Imprint.Decimal.Double.text`, `Imprint.Decimal.Double.jsonText`,
  `Imprint.Decimal.Double.describedText`: its written forms.
-/

namespace Imprint.Decimal

/-! ### Decimal numbers with an exponent -/

namespace Digits

/-- The power of ten below which a decimal number lies. -/
def size (d : Digits) : Int :=
  digitCount d.significand + d.exponent

/-- The text of a decimal number with a point that digits follow. -/
def withPoint (d : Digits) : List Char :=
  if 0 ≤ d.exponent then d.positional ++ ['.', '0'] else d.positional

/-- The text of a decimal number with one digit in front of the point, and an exponent. -/
def scientific (d : Digits) : List Char :=
  let exponent := 'e' :: (toString (d.size - 1)).toList
  match Nat.toDigits 10 d.significand with
  | c :: [] => c :: exponent
  | c :: rest => c :: '.' :: rest ++ exponent
  | [] => exponent

/-- The greatest number of digits in front of a point. -/
def mostPlaces : Int := 16

/-- The text of a decimal number, with an exponent when its size is not above `least` or too large
for a point. -/
def written (least : Int) (d : Digits) : List Char :=
  if least < d.size ∧ d.size ≤ mostPlaces then d.withPoint else d.scientific

end Digits

/-! ### Numbers with a sign -/

/-- A finite number of binary precision. -/
structure Double where
  negative : Bool := false
  magnitude : Binary := ⟨0, 0⟩
  deriving Repr, Inhabited

namespace Double

/-- The value of a number. -/
def toRat (x : Double) : Rat :=
  let (num, den) := scale x.magnitude.significand 1 (-x.magnitude.exponent)
  let q : Rat := num / den
  if x.negative then -q else q

/-- Two numbers are equal when their values are; the sign of zero does not count. -/
instance : BEq Double := ⟨fun x y => x.toRat == y.toRat⟩

/-- The number nearest to `q`, where `sign` is the sign of zero, or none beyond the greatest one. -/
def ofRat? (sign : Bool) (q : Rat) : Option Double :=
  let b := nearest q.num.natAbs q.den
  if b.isInfinite then none else some ⟨if q.num = 0 then sign else decide (q.num < 0), b⟩

/-- The number nearest to an integer of at most 64 binary digits. -/
def ofInt (n : Int) : Double :=
  ⟨decide (n < 0), nearest n.natAbs 1⟩

/-- The value without its sign and without what follows the point, with the sign put back. -/
def whole (x : Double) : Int :=
  Int.tdiv x.toRat.num x.toRat.den

/-- Whether nothing follows the point. -/
def isWhole (x : Double) : Bool :=
  x.toRat.den == 1

/-- Whether a number is zero, of whatever sign. -/
def isZero (x : Double) : Bool :=
  x.magnitude.significand == 0

/-- The number with the other sign. -/
def neg (x : Double) : Double :=
  { x with negative := !x.negative }

/-- The sum. A zero has a sign only when both numbers have it. -/
def add? (x y : Double) : Option Double :=
  ofRat? (x.negative && y.negative) (x.toRat + y.toRat)

/-- The difference. -/
def sub? (x y : Double) : Option Double :=
  add? x y.neg

/-- The product. -/
def mul? (x y : Double) : Option Double :=
  ofRat? (x.negative != y.negative) (x.toRat * y.toRat)

/-- The quotient, which is none by zero. -/
def div? (x y : Double) : Option Double :=
  if y.isZero then none else ofRat? (x.negative != y.negative) (x.toRat / y.toRat)

/-- The remainder, which has the sign of the first number; it is none by zero. -/
def mod? (x y : Double) : Option Double :=
  if y.isZero then none
  else
    let q := x.toRat / y.toRat
    ofRat? x.negative (x.toRat - Int.tdiv q.num q.den * y.toRat)

/-- The digits of a number behind its sign. -/
def signed (form : Digits → List Char) (x : Double) : List Char :=
  let digits := form (shortest x.magnitude)
  if x.negative then '-' :: digits else digits

/-- The text of a number, without an exponent and without a point that nothing follows. -/
def text : Double → List Char :=
  signed Digits.positional

/-- The text of a number in the JSON format. -/
def jsonText : Double → List Char :=
  signed (Digits.written (-5))

/-- The text of a number in messages that show the kind of every part. -/
def describedText : Double → List Char :=
  signed (Digits.written (-4))

end Double

end Imprint.Decimal
