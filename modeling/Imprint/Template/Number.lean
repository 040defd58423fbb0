import Imprint.Template.Expr
import Imprint.Template.Filter

/-!
# Numbers of expressions

Arithmetic is done on integers as long as both numbers are, and otherwise on numbers of binary
precision. A quotient is always formed to binary precision, and is an integer again when nothing
follows the point. What cannot be written as a number is none; where that was not foreseen, the run
breaks off.

## Main definitions

* `Imprint.Template.Number`: a number of an expression.
* `Imprint.Template.Arithmetic.apply`: the result of an operation.
* `Imprint.Template.Comparison.holds`: the order of two numbers.
-/

namespace Imprint.Template

open Decimal (Double)

/-- A number of an expression. -/
inductive Number where
  | int (n : Int)
  | float (x : Double)

namespace Number

/-- A number to binary precision. -/
def toDouble : Number → Double
  | int n => .ofInt n
  | float x => x

/-- A number as a value. -/
def toValue : Number → Value
  | int n => .int n
  | float x => .float x

/-- The number that a value is. -/
def ofValue? : Value → Option Number
  | .int n => some (int n)
  | .float x => some (float x)
  | _ => none

end Number

/-- The number that decimal digits with a point stand for, none beyond the greatest one. -/
def literalValue? (written : List Char) : Option Double :=
  let negative := written.head? == some '-'
  let (whole, fraction) := (Text.cutAt? '.' (written.filter (· != '-'))).getD (written, [])
  let q : Rat := Reader.decimalValue (whole ++ fraction) / Nat.pow 10 fraction.length
  Double.ofRat? negative (if negative then -q else q)

/-- The text of decimal digits with a point, read to binary precision. -/
def literalText (form : Double → List Char) (written : List Char) : List Char :=
  match literalValue? written with
  | some x => form x
  | none => if written.head? == some '-' then "-inf".toList else "inf".toList

/-! ### Arithmetic -/

/-- The sign of an operation in messages. -/
def Arithmetic.sign : Arithmetic → String
  | .add => "+"
  | .sub => "-"
  | .mul => "x"
  | .div => "/"
  | .mod => "%"

/-- The quotient of two numbers. -/
def quotient? (x y : Double) : Option Number :=
  (x.div? y).map fun z => if z.isWhole then .int (Filter.clamp z.whole) else .float z

/-- The integer that an operation gives, when it is one of the language. -/
def Arithmetic.within (o : Arithmetic) (a b n : Int) : Except Fault (Option Number) :=
  if Reader.inRange n then .ok (some (.int n)) else .error (.outOfBounds a o.sign b)

/-- The number that an operation has to give. -/
def expected (x : Option Double) : Except Fault (Option Number) :=
  match x with
  | some x => .ok (some (.float x))
  | none => .error (.panic .noValue)

/-- The result of an operation. The remainder has the sign of the left number. -/
def Arithmetic.apply (o : Arithmetic) (a b : Number) : Except Fault (Option Number) :=
  match o, a, b with
  | .div, a, b => .ok (quotient? a.toDouble b.toDouble)
  | .add, .int a, .int b => o.within a b (a + b)
  | .sub, .int a, .int b => o.within a b (a - b)
  | .mul, .int a, .int b => o.within a b (a * b)
  | .mod, .int a, .int b =>
    if a = Decimal.leastSigned 64 ∧ b = -1 then .error (.panic .remainder)
    else .ok (some (.int (Int.tmod a b)))
  | .add, a, b => expected (a.toDouble.add? b.toDouble)
  | .sub, a, b => expected (a.toDouble.sub? b.toDouble)
  | .mul, a, b => .ok ((a.toDouble.mul? b.toDouble).map .float)
  | .mod, a, b => .ok ((a.toDouble.mod? b.toDouble).map .float)

/-! ### Order and equality -/

/-- Whether two numbers are ordered as a comparison says. -/
def Comparison.holds (c : Comparison) (a b : Double) : Bool :=
  match c with
  | .less => decide (a.toRat < b.toRat)
  | .lessOrEqual => decide (a.toRat ≤ b.toRat)
  | .greater => decide (b.toRat < a.toRat)
  | .greaterOrEqual => decide (b.toRat ≤ a.toRat)

/-- Whether two values are equal; a number and something else are neither equal nor different. -/
def areEqual (a b : Value) : Option Bool :=
  match Number.ofValue? a, Number.ofValue? b with
  | some x, some y => some (x.toDouble == y.toDouble)
  | none, none => some (a == b)
  | _, _ => none

end Imprint.Template
