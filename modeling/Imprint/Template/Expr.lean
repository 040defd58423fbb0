/-!
# Expressions

The expressions of the template language. An expression is an operand, to which filters are applied
from left to right, and which may be negated in the end. The values of filters and functions are
asked for by calls with named arguments.

## Main definitions

* `Imprint.Template.Expr`, `Imprint.Template.Operand`, `Imprint.Template.Call`: expressions.
-/

namespace Imprint.Template

/-- An operation on numbers. -/
inductive Arithmetic where
  | add
  | sub
  | mul
  | div
  | mod
  deriving DecidableEq, Repr

/-- A comparison of numbers by their order. -/
inductive Comparison where
  | less
  | lessOrEqual
  | greater
  | greaterOrEqual
  deriving DecidableEq, Repr

mutual

/-- An operand with its filters. -/
inductive Expr where
  | mk (operand : Operand) (filters : List Call) (negated : Bool)

/-- The name of a filter or a function, with its arguments. -/
inductive Call where
  | mk (name : String) (arguments : List (String × Expr))

/-- An expression without filters. -/
inductive Operand where
  | text (s : List Char)
  | int (n : Int)
  /-- A number with a point, as it is written. -/
  | float (written : List Char)
  | bool (b : Bool)
  /-- A variable, with the parts of it that are asked for. -/
  | variable (path : String)
  | array (items : List Expr)
  | arithmetic (operation : Arithmetic) (left right : Expr)
  | order (comparison : Comparison) (left right : Expr)
  /-- Whether two values are equal, or, when `negated`, different. -/
  | equality (negated : Bool) (left right : Expr)
  | and (left right : Expr)
  | or (left right : Expr)
  /-- Whether the left value is in the right one, or, when `negated`, is not. -/
  | member (negated : Bool) (left right : Expr)
  /-- Texts, numbers, variables and calls put together to one text. -/
  | joined (parts : List Operand)
  | test (path : String) (negated : Bool) (name : String) (arguments : List Expr)
  | call (function : Call)
  | macroCall (origin name : String) (arguments : List (String × Expr))

end

instance : Inhabited Operand := ⟨.int 0⟩

instance : Inhabited Expr := ⟨.mk default [] false⟩

namespace Call

/-- The name of what is called. -/
def name : Call → String
  | mk name _ => name

/-- The named arguments, of which the last with a name counts. -/
def arguments : Call → List (String × Expr)
  | mk _ arguments => arguments

/-- The argument with a name. -/
def argument? (c : Call) (name : String) : Option Expr :=
  c.arguments.reverse.lookup name

end Call

namespace Expr

/-- The expression without its filters. -/
def operand : Expr → Operand
  | mk operand _ _ => operand

/-- The filters, in the order in which they are applied. -/
def filters : Expr → List Call
  | mk _ filters _ => filters

/-- Whether the value is negated in the end. -/
def negated : Expr → Bool
  | mk _ _ negated => negated

/-- An operand as an expression. -/
def ofOperand (operand : Operand) : Expr :=
  mk operand [] false

/-- The expression, negated. -/
def negate : Expr → Expr
  | mk operand filters _ => mk operand filters true

/-- The expression, not negated. -/
def withoutNegation : Expr → Expr
  | mk operand filters _ => mk operand filters false

/-- The filter that gives a value to an undefined variable; it counts only as the first one. -/
def fallback? (e : Expr) : Option Call :=
  e.filters.head?.filter (·.name == "default")

end Expr

end Imprint.Template
