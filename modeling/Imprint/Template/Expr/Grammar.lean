import Imprint.Template.Expr
import Imprint.Template.Reading

/-!
# The grammar of expressions

Each rule of the grammar is a reader. Rules that contain themselves, through brackets and
parentheses, are given the readers for what they contain, and the knot is tied by the depth of the
nesting, which the length of the text bounds.

The binding strength of operators is, from strong to weak: `* / %`, `+ -`, comparison, `and`, `or`.

## Main definitions

* `Imprint.Template.Nested`: the readers for what stands in brackets.
* `Imprint.Template.nested`: the knot.
* `Imprint.Template.expression`: a whole expression or an array.
-/

namespace Imprint.Template

open Reader

/-- Readers for what stands inside brackets and parentheses. -/
structure Nested where
  /-- An argument of a call. -/
  argument : Reader Expr
  /-- Operands combined by `and` and `or`. -/
  logical : Reader Expr
  /-- One operand of `and` and `or`. -/
  condition : Reader Expr
  /-- Operands combined by arithmetic, without filters. -/
  sum : Reader Expr
  /-- A variable as it is written. -/
  path : Reader (List Char)

/-! ### Variables -/

/-- A name with further names after points. -/
def dottedName : Reader (List Char) := do
  let n ← name
  let more ← many do
    chars ['.']
    return '.' :: (← atLeastOne isNameChar)
  return n ++ more.flatten

/-- A quoted text with its quotes. -/
def quotedIndex : Reader (List Char) := do
  let (q, s) ← quoted
  return q :: s ++ [q]

/-- A variable as it is written: a dotted name with indices in brackets. -/
def pathOf (r : Nested) : Reader (List Char) := do
  let n ← dottedName
  let more ← many (firstOf [
    (do
      chars ['.']
      return '.' :: (← atLeastOne isNameChar)),
    (do
      chars ['[']
      let index ← firstOf [signedDigits, quotedIndex, r.path]
      chars [']']
      return '[' :: index ++ [']'])])
  return n ++ more.flatten

/-- A variable with the blanks after it. -/
def variableToken (r : Nested) : Reader String :=
  String.ofList <$> token (pathOf r)

/-! ### Calls and filters -/

/-- Named arguments of which only the last with a name is kept. -/
def lastWins (arguments : List (String × Expr)) : List (String × Expr) :=
  arguments.foldl (fun kept a => kept.filter (·.1 != a.1) ++ [a]) []

/-- The operators of arithmetic. -/
def arithmeticSign : Reader Arithmetic :=
  firstOf [means (symbol "+") (Arithmetic.add), means (symbol "-") (Arithmetic.sub),
    means (symbol "*") (Arithmetic.mul), means (symbol "/") (Arithmetic.div),
    means (symbol "%") (Arithmetic.mod)]

/-- A named argument. -/
def namedArgument (value : Reader Expr) : Reader (String × Expr) := do
  let n ← nameToken
  symbol "="
  return (n, ← value)

/-- Named arguments between parentheses; a comma may follow the last. -/
def namedArguments (value : Reader Expr) : Reader (List (String × Expr)) := do
  symbol "("
  let arguments ← optional do
    let arguments ← separated (namedArgument value) (symbol ",")
    discard (optional (symbol ","))
    return arguments
  symbol ")"
  return lastWins (arguments.getD [])

/-- A name with arguments. -/
def callOf (value : Reader Expr) : Reader Call := do
  let n ← nameToken
  return .mk n (← namedArguments value)

/-- A filter: a bar and a name, perhaps with arguments. -/
def filterOf (value : Reader Expr) : Reader Call := do
  symbol "|"
  callOf value <|> ((Call.mk · []) <$> nameToken)

/-- An operand with filters. -/
def withFilters (value : Reader Expr) (operand : Reader Operand) : Reader Expr := do
  let o ← operand
  return .mk o (← many (filterOf value)) false

/-- An array; a comma may follow its last item. -/
def array (r : Nested) : Reader Operand := do
  symbol "["
  let items ← many do
    let e ← r.condition
    symbol ","
    return e
  let last ← optional r.condition
  symbol "]"
  return .array (items ++ last.toList)

/-- An array with filters. -/
def arrayWithFilters (r : Nested) : Reader Expr :=
  withFilters r.argument (array r)

/-! ### Operands -/

/-- The words for truth values. -/
def truthValue : Reader Operand :=
  firstOf [means (symbol "true") (.bool true), means (symbol "false") (.bool false),
    means (symbol "True") (.bool true), means (symbol "False") (.bool false)]

/-- The name of a test and its arguments. An array among them has no filters. -/
def testCall (r : Nested) : Reader (String × List Expr) := do
  let n ← nameToken
  let arguments ← optional do
    symbol "("
    let arguments ← separated (r.logical <|> (.ofOperand <$> array r)) (symbol ",")
    symbol ")"
    return arguments
  return (n, arguments.getD [])

/-- A test of a variable. -/
def test (r : Nested) : Reader Operand := do
  let p ← variableToken r
  symbol "is"
  let negative := do
    symbol "not"
    let (n, arguments) ← testCall r
    return .test p true n arguments
  let positive := do
    let (n, arguments) ← testCall r
    return .test p false n arguments
  negative <|> positive

/-- A call of a macro. -/
def macroCall (r : Nested) : Reader Operand := do
  let origin ← nameToken
  symbol "::"
  let n ← nameToken
  return .macroCall origin n (← namedArguments (r.argument))

/-- The smallest operands of arithmetic. -/
def simple (r : Nested) : Reader Operand :=
  firstOf [truthValue, test r, macroCall r, .call <$> callOf (r.argument),
    .variable <$> variableToken r, .float <$> token pointed, .int <$> integer]

/-- Whether an operator binds as strongly as multiplication. -/
def Arithmetic.isStrong : Arithmetic → Bool
  | .mul | .div | .mod => true
  | .add | .sub => false

/-- Operands combined from left to right, strong operators first: what was put together so far, the
product that is being put together, and what follows. -/
def combine : Option (Expr × Arithmetic) → Expr → List (Arithmetic × Expr) → Expr
  | none, product, [] => product
  | some (e, o), product, [] => .ofOperand (.arithmetic o e product)
  | before, product, (o, e) :: rest =>
    if o.isStrong then combine before (.ofOperand (.arithmetic o product e)) rest
    else combine (some (combine before product [], o)) e rest
termination_by _ _ rest => rest.length

/-- Operands of one kind with operators of arithmetic between them. -/
def arithmeticOf (operand : Reader Expr) : Reader Expr := do
  let e ← operand
  let more ← many do
    let o ← arithmeticSign
    return (o, ← operand)
  return combine none e more

/-- Arithmetic on operands without filters. -/
def sumOf (r : Nested) : Reader Expr :=
  arithmeticOf (parenthesised <|> (.ofOperand <$> simple r))
where
  /-- Arithmetic between parentheses. -/
  parenthesised : Reader Expr := do
    symbol "("
    let e ← r.sum
    symbol ")"
    return e

/-- Arithmetic with filters. -/
def filteredSum (r : Nested) : Reader Expr :=
  withFilters (r.argument) (Expr.operand <$> sumOf r)

/-- A part of a joined text. -/
def joinedPart (r : Nested) : Reader Operand :=
  firstOf [.call <$> callOf (r.argument), .float <$> token pointed, .int <$> integer,
    .text <$> quotedToken, .variable <$> variableToken r]

/-- Parts with neighbouring texts put together. -/
def mergeTexts : List Operand → List Operand
  | [] => []
  | .text s :: rest =>
    match mergeTexts rest with
    | .text t :: rest => .text (s ++ t) :: rest
    | rest => if s.isEmpty then rest else .text s :: rest
  | o :: rest => o :: mergeTexts rest

/-- Joined parts as one operand: a text, when all of them are. -/
def join (parts : List Operand) : Operand :=
  match mergeTexts parts with
  | [] => .text []
  | [.text s] => .text s
  | parts => .joined parts

/-- A joined or a quoted text with filters. -/
def filteredText (r : Nested) : Reader Expr :=
  withFilters (r.argument) (joined <|> (.text <$> quotedToken))
where
  /-- At least two parts. -/
  joined : Reader Operand := do
    let first ← joinedPart r
    symbol "~"
    return join (first :: (← separated (joinedPart r) (symbol "~")))

/-! ### Comparison and logic -/

/-- One side of a comparison. -/
def side (r : Nested) : Reader Expr :=
  filteredText r <|> arithmeticOf (filteredSum r)

/-- The operators of comparison. -/
def comparisonSign : Reader (Expr → Expr → Operand) :=
  firstOf [means (symbol "<=") (Operand.order .lessOrEqual),
    means (symbol ">=") (Operand.order .greaterOrEqual),
    means (symbol "<") (Operand.order .less), means (symbol ">") (Operand.order .greater),
    means (symbol "==") (Operand.equality false), means (symbol "!=") (Operand.equality true)]

/-- A comparison, or one side alone. -/
def comparison (r : Nested) : Reader Expr := do
  let left ← side r
  let more ← optional do
    let sign ← comparisonSign
    return (sign, ← side r)
  match more with
  | some (sign, right) => return .ofOperand (sign left right)
  | none => return left

/-- Whether a value is in another. -/
def membership (r : Nested) : Reader Expr := do
  let left ← filteredText r <|> filteredSum r
  let negative ← optional (keyword "not")
  symbol "in"
  let right ← firstOf [filteredText r, arrayWithFilters r,
    (.ofOperand <$> .variable <$> variableToken r)]
  return .ofOperand (.member negative.isSome left right)

/-- One operand of `and` and `or`. -/
def conditionOf (r : Nested) : Reader Expr :=
  plain <|> parenthesised
where
  /-- A membership or a comparison, perhaps negated. -/
  plain : Reader Expr := do
    let negative ← optional (keyword "not")
    let e ← membership r <|> comparison r
    return if negative.isSome then e.negate else e
  /-- A whole expression between parentheses. A negation of all that stands between them does not
  reach through them. -/
  parenthesised : Reader Expr := do
    symbol "("
    let e ← r.logical
    symbol ")"
    return e.withoutNegation

/-- Operands combined from left to right by one operator. -/
def chain (operator : Expr → Expr → Operand) (operand : Reader Expr) (sign : Reader Unit) :
    Reader Expr := do
  let e ← operand
  let more ← many do
    sign
    operand
  return more.foldl (fun left right => .ofOperand (operator left right)) e

/-- A whole expression. -/
def logical (r : Nested) : Reader Expr :=
  chain .or (chain .and (conditionOf r) (keyword "and")) (keyword "or")

/-- An expression or an array. -/
def argument (r : Nested) : Reader Expr :=
  logical r <|> arrayWithFilters r

/-- The readers for what is nested at most `n` deep. -/
def nested : Nat → Nested
  | 0 => ⟨failure, failure, failure, failure, failure⟩
  | n + 1 =>
    let r := nested n
    ⟨argument r, logical r, conditionOf r, sumOf r, pathOf r⟩

/-- Readers for whatever is nested in the text that is left. -/
def nestedHere : Reader Nested := do
  return nested ((← get).rest.length + 1)

/-- An expression or an array, with all that is nested in it. -/
def expression : Reader Expr := do
  argument (← nestedHere)

end Imprint.Template
