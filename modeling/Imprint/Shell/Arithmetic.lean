import Imprint.Shell.Machine
import Imprint.Shell.Token

/-!
# Arithmetic in scripts

An arithmetic expression is made of integers, names, signs and parentheses. A name stands for the
number that its value is, a truth for one or zero. Numbers are decimal, octal or hexadecimal.

## Main definitions

* `Imprint.Shell.ArithmeticFault`: why an expression has no value.
* `Imprint.Shell.number`: a number as expressions and formats write it.
* `Imprint.Shell.evaluate`: the value of an expression.
-/

namespace Imprint.Shell


/-- An integer that is written with a sign or without. -/
def integer? (s : String) : Option Int :=
  match s.toList with
  | '-' :: ds => if ds.isEmpty || !ds.all Char.isDigit then none else s.toInt?
  | ds => if ds.isEmpty || !ds.all Char.isDigit then none else s.toInt?

/-- Why an arithmetic expression has no value. -/
inductive ArithmeticFault where
  /-- A number, a name or a parenthesis is missing. -/
  | noOperand
  /-- The expression goes on where it should end. -/
  | noEnd
  | divisionByZero
  deriving DecidableEq, Repr

/-- The message of a fault in an expression. -/
def ArithmeticFault.text (expression : List Char) (fault : ArithmeticFault) : String :=
  let reason := match fault with
    | .noOperand => "expecting primary"
    | .noEnd => "expecting EOF"
    | .divisionByZero => "division by zero"
  "arithmetic expression: " ++ reason ++ ": \"" ++ String.ofList expression ++ "\""

/-- A part of an arithmetic expression. -/
inductive Term where
  | number (n : Int)
  | sign (text : String)
  /-- Something that has no meaning in an expression. -/
  | other
  deriving DecidableEq, Repr

/-- The signs of arithmetic expressions, the longer ones first. -/
def signs : List String :=
  ["<=", ">=", "==", "!=", "&&", "||", "+", "-", "*", "/", "%", "(", ")", "<", ">", "!"]

/-- The value of a digit; letters count on from ten. -/
def digit? (base : Nat) (c : Char) : Option Nat :=
  let v := if c.isDigit then c.toNat - '0'.toNat
    else if c.isAlpha then c.toLower.toNat - 'a'.toNat + 10
    else base
  if v < base then some v else none

/-- The number at the start of a text in some base, and what follows it. -/
def numberIn (base : Nat) (s : List Char) : Nat × List Char :=
  let isDigit := fun c => (digit? base c).isSome
  ((s.takeWhile isDigit).foldl (fun n c => base * n + (digit? base c).getD 0) 0,
    s.dropWhile isDigit)

/-- The number at the start of a text, and what follows it. A zero in front makes it octal, a zero
and an `x` make it hexadecimal. -/
def number (s : List Char) : Nat × List Char :=
  match s with
  | '0' :: x :: c :: r =>
    if (x == 'x' || x == 'X') && (digit? 16 c).isSome then numberIn 16 (c :: r) else numberIn 8 s
  | '0' :: _ => numberIn 8 s
  | _ => numberIn 10 s

/-- The value of a name in an expression. A name without a value counts as zero. -/
def Machine.number? (m : Machine) (name : List Char) : Option Int :=
  match (m.value (String.ofList name)).toList with
  | [] => some 0
  | '-' :: ds => match number ds with
    | (n, []) => if ds.isEmpty then none else some (-n)
    | _ => none
  | ds => match number ds with
    | (n, []) => some n
    | _ => none

/-- The parts of an expression, at most `n`. -/
def terms (m : Machine) : Nat → List Char → List Term
  | 0, _ => [.other]
  | n + 1, s =>
    match s with
    | [] => []
    | c :: r =>
      if c == '$' then terms m n r
      else if isBlank c || c == '\n' || c == '\x7b' || c == '\x7d' then terms m n r
      else if c.isDigit then
        let (v, rest) := number s
        .number v :: terms m n rest
      else if isNameStart c then
        match m.number? (s.takeWhile isNameChar) with
        | some v => .number v :: terms m n (s.dropWhile isNameChar)
        | none => [.other]
      else match signs.find? fun op => Text.startsWith op.toList s with
        | some op => .sign op :: terms m n (s.drop op.length)
        | none => [.other]

/-- How strongly a sign between two numbers binds. -/
def binding? (op : String) : Option Nat :=
  match op with
  | "*" | "/" | "%" => some 6
  | "+" | "-" => some 5
  | "<" | ">" | "<=" | ">=" => some 4
  | "==" | "!=" => some 3
  | "&&" => some 2
  | "||" => some 1
  | _ => none

/-- The value of a truth. -/
def truthValue (b : Bool) : Int :=
  if b then 1 else 0

/-- The value of two numbers with a sign between them. Nothing can be divided by zero. -/
def combine (op : String) (a b : Int) : Except ArithmeticFault Int :=
  match op with
  | "*" => .ok (a * b)
  | "/" => if b = 0 then .error .divisionByZero else .ok (a.tdiv b)
  | "%" => if b = 0 then .error .divisionByZero else .ok (a.tmod b)
  | "+" => .ok (a + b)
  | "-" => .ok (a - b)
  | "<" => .ok (truthValue (a < b))
  | ">" => .ok (truthValue (b < a))
  | "<=" => .ok (truthValue (a ≤ b))
  | ">=" => .ok (truthValue (b ≤ a))
  | "==" => .ok (truthValue (a = b))
  | "!=" => .ok (truthValue (a ≠ b))
  | "&&" => .ok (truthValue (a ≠ 0 ∧ b ≠ 0))
  | "||" => .ok (truthValue (a ≠ 0 ∨ b ≠ 0))
  | _ => .error .noEnd

mutual

/-- The value of a number, a signed one, or an expression in parentheses. -/
def operand : Nat → List Term → Except ArithmeticFault (Int × List Term)
  | 0, _ => .error .noOperand
  | n + 1, ts =>
    match ts with
    | .number v :: r => .ok (v, r)
    | .sign "-" :: r => do
      let (v, r) ← operand n r
      return (-v, r)
    | .sign "+" :: r => operand n r
    | .sign "!" :: r => do
      let (v, r) ← operand n r
      return (truthValue (v = 0), r)
    | .sign "(" :: r => do
      match ← operation n 1 r with
      | (v, .sign ")" :: r) => return (v, r)
      | _ => throw .noEnd
    | _ => .error .noOperand

/-- The value of an expression whose signs bind at least as strongly as `least`. -/
def operation : Nat → (least : Nat) → List Term → Except ArithmeticFault (Int × List Term)
  | 0, _, _ => .error .noOperand
  | n + 1, least, ts => do
    let (v, r) ← operand n ts
    more n least v r

/-- The value of an expression that goes on behind the value `v`. -/
def more : Nat → (least : Nat) → Int → List Term → Except ArithmeticFault (Int × List Term)
  | 0, _, _, _ => .error .noEnd
  | n + 1, least, v, ts =>
    match ts with
    | .sign op :: r =>
      match (binding? op).filter (least ≤ ·) with
      | some strength => do
        let (w, r) ← operation n (strength + 1) r
        more n least (← combine op v w) r
      | none => .ok (v, ts)
    | _ => .ok (v, ts)

end

/-- The value of an arithmetic expression. -/
def evaluate (m : Machine) (expression : List Char) : Except ArithmeticFault Int := do
  let ts := terms m (expression.length + 1) expression
  if ts.isEmpty then return 0
  let (v, rest) ← operation (3 * ts.length + 3) 1 ts
  if rest.isEmpty then return v else throw .noEnd

end Imprint.Shell
