import Imprint.Template.Number
import Imprint.Text.Quoted

/-!
# Expressions in messages

Some messages show an expression with the kind of every part and the name of every field.

## Main definitions

* `Imprint.Template.Expr.described`, `Imprint.Template.Operand.described`: the shown forms.
-/

namespace Imprint.Template

/-- A text in quotes. -/
def quotedText (s : List Char) : String :=
  String.ofList (Text.Quoted.visible s)

/-- Fields with their names, as the record of a kind. -/
def recordText (kind : String) (fields : List (String × String)) : String :=
  kind ++ " \x7b " ++ ", ".intercalate (fields.map fun f => f.1 ++ ": " ++ f.2) ++ " \x7d"

/-- Items in brackets. -/
def listText (items : List String) : String :=
  "[" ++ ", ".intercalate items ++ "]"

/-- Named items in braces. -/
def mapText (items : List String) : String :=
  "\x7b" ++ ", ".intercalate items ++ "\x7d"

/-- The name of an operation. -/
def Arithmetic.label : Arithmetic → String
  | add => "Add"
  | sub => "Sub"
  | mul => "Mul"
  | div => "Div"
  | mod => "Modulo"

/-- The name of a comparison. -/
def Comparison.label : Comparison → String
  | less => "Lt"
  | lessOrEqual => "Lte"
  | greater => "Gt"
  | greaterOrEqual => "Gte"

/-- Two expressions with something between them. -/
def binaryText (kind record left right operator : String) : String :=
  kind ++ "(" ++
    recordText record [("lhs", left), ("rhs", right), ("operator", operator)] ++ ")"

mutual

/-- The shown form of an expression. -/
def Expr.described : Expr → String
  | .mk operand filters negated =>
    recordText "Expr" [("val", operand.described), ("negated", toString negated),
      ("filters", listText (describedCalls filters))]

/-- The shown form of a call. -/
def Call.described : Call → String
  | .mk name arguments =>
    recordText "FunctionCall" [("name", quotedText name.toList),
      ("args", mapText (describedArguments arguments))]

/-- The shown form of an operand. -/
def Operand.described : Operand → String
  | .text s => "String(" ++ quotedText s ++ ")"
  | .int n => s!"Int({n})"
  | .float written =>
    "Float(" ++ String.ofList (literalText Decimal.Double.describedText written) ++ ")"
  | .bool b => s!"Bool({b})"
  | .variable path => "Ident(" ++ quotedText path.toList ++ ")"
  | .array items => "Array(" ++ listText (describedAll items) ++ ")"
  | .arithmetic o left right => binaryText "Math" "MathExpr" left.described right.described o.label
  | .order c left right => binaryText "Logic" "LogicExpr" left.described right.described c.label
  | .equality negated left right =>
    binaryText "Logic" "LogicExpr" left.described right.described
      (if negated then "NotEq" else "Eq")
  | .and left right => binaryText "Logic" "LogicExpr" left.described right.described "And"
  | .or left right => binaryText "Logic" "LogicExpr" left.described right.described "Or"
  | .member negated left right =>
    "In(" ++ recordText "In" [("lhs", left.described), ("rhs", right.described),
      ("negated", toString negated)] ++ ")"
  | .joined parts =>
    "StringConcat(" ++ recordText "StringConcat" [("values", listText (describedOperands parts))] ++
      ")"
  | .test path negated name arguments =>
    "Test(" ++ recordText "Test" [("ident", quotedText path.toList), ("negated", toString negated),
      ("name", quotedText name.toList), ("args", listText (describedAll arguments))] ++ ")"
  | .call function => "FunctionCall(" ++ function.described ++ ")"
  | .macroCall origin name arguments =>
    "MacroCall(" ++ recordText "MacroCall" [("namespace", quotedText origin.toList),
      ("name", quotedText name.toList), ("args", mapText (describedArguments arguments))] ++ ")"

/-- The shown forms of some expressions. -/
def describedAll : List Expr → List String
  | [] => []
  | e :: es => e.described :: describedAll es

/-- The shown forms of some operands. -/
def describedOperands : List Operand → List String
  | [] => []
  | o :: os => o.described :: describedOperands os

/-- The shown forms of some calls. -/
def describedCalls : List Call → List String
  | [] => []
  | c :: cs => c.described :: describedCalls cs

/-- The shown forms of some named expressions. -/
def describedArguments : List (String × Expr) → List String
  | [] => []
  | (name, e) :: rest => (quotedText name.toList ++ ": " ++ e.described) :: describedArguments rest

end

end Imprint.Template
