import Imprint.Template.Expr.Grammar

/-!
# Tags

What can stand between the delimiters of a tag. Each tag is read as a whole: nothing may follow it.

## Main definitions

* `Imprint.Template.Tag`: a tag.
* `Imprint.Template.Tag.read`: its reader.
-/

namespace Imprint.Template

open Reader

/-- The parameters of a macro, some with a value that counts when no argument is given. -/
abbrev Parameters := List (String × Option Expr)

/-- A tag. -/
inductive Tag where
  /-- Another template is put here, the first of the named ones that is there. -/
  | insertion (names : List String) (optional : Bool)
  /-- The macros of another template get a name. -/
  | importation (template origin : String)
  /-- The template fills the blocks of another one. -/
  | extension (parent : String)
  | openBlock (name : String)
  | closeBlock
  | openMacro (name : String) (parameters : Parameters)
  | closeMacro
  | openIf (condition : Expr)
  | elseIf (condition : Expr)
  | otherwise
  | closeIf
  | openLoop (key : Option String) (value : String) (container : Expr)
  | closeLoop
  | openFilter (filter : Call)
  | closeFilter
  | assignment (everywhere : Bool) (name : String) (value : Expr)
  | stop
  | skip

/-- The word that starts a tag, followed by a gap. -/
def opening (w : String) : Reader Unit :=
  keyword w

/-- The word that is all of a tag. -/
def only (w : String) (t : Tag) : Reader Tag :=
  means (symbol w) t

/-- The names of templates: one, or several in brackets. -/
def templateNames : Reader (List String) :=
  several <|> ((fun s => [String.ofList s]) <$> quotedToken)
where
  /-- Names in brackets; a comma may follow the last. -/
  several : Reader (List String) := do
    symbol "["
    let names ← many do
      let n ← quotedToken
      symbol ","
      return n
    let last ← optional quotedToken
    symbol "]"
    return (names ++ last.toList).map String.ofList

/-- A tag that puts another template here. -/
def insertionTag : Reader Tag := do
  opening "include"
  let names ← templateNames
  let optional ← optional do
    symbol "ignore"
    symbol "missing"
  return .insertion names optional.isSome

/-- A tag that names the macros of another template. -/
def importationTag : Reader Tag := do
  opening "import"
  let (_, template) ← quoted
  gap
  keyword "as"
  return .importation (String.ofList template) (← nameToken)

/-- A tag that names the template whose blocks are filled. -/
def extensionTag : Reader Tag := do
  opening "extends"
  return .extension (String.ofList (← quotedToken))

/-- A tag that starts a block. -/
def blockTag : Reader Tag := do
  opening "block"
  return .openBlock (← nameToken)

/-- A tag that ends something and may repeat its name. -/
def closingTag (w : String) (t : Tag) : Reader Tag := do
  symbol w
  discard (optional nameToken)
  return t

/-- The value of a parameter that counts when no argument is given. -/
def parameterValue : Reader Expr :=
  .ofOperand <$> firstOf [truthValue, .text <$> quotedToken, .int <$> integer]

/-- A parameter of a macro. No blanks stand around the sign between its name and its value. -/
def parameter : Reader (String × Option Expr) := do
  let n ← name
  let value ← optional do
    chars ['=']
    parameterValue
  spaces
  return (String.ofList n, value)

/-- Parameters of which only the last with a name is kept. -/
def lastParameters (parameters : Parameters) : Parameters :=
  parameters.foldl (fun kept p => kept.filter (·.1 != p.1) ++ [p]) []

/-- A tag that starts a macro. -/
def macroTag : Reader Tag := do
  opening "macro"
  let n ← nameToken
  symbol "("
  let parameters ← optional (separated parameter (symbol ","))
  symbol ")"
  return .openMacro n (lastParameters (parameters.getD []))

/-- A tag that starts a conditional part, or an alternative of one. -/
def conditionalTag (r : Nested) (w : String) (t : Expr → Tag) : Reader Tag := do
  opening w
  return t (← logical r)

/-- A tag that starts a loop. -/
def loopTag (r : Nested) : Reader Tag := do
  opening "for"
  let first ← name
  let second ← optional do
    symbol ","
    name
  gap
  keyword "in"
  let container ← filteredSum r <|> arrayWithFilters r
  return match second with
    | some value => .openLoop (some (String.ofList first)) (String.ofList value) container
    | none => .openLoop none (String.ofList first) container

/-- A tag that starts a filtered part. -/
def filterTag (r : Nested) : Reader Tag := do
  opening "filter"
  return .openFilter (← callOf r.argument <|> ((Call.mk · []) <$> nameToken))

/-- A tag that gives a value to a variable. -/
def assignmentTag (r : Nested) (w : String) (everywhere : Bool) : Reader Tag := do
  opening w
  let n ← nameToken
  symbol "="
  return .assignment everywhere n (← argument r)

/-- A tag, with nothing before or after it. -/
def Tag.read : Reader Tag := do
  spaces
  let r ← nestedHere
  let t ← firstOf [insertionTag, importationTag, extensionTag, blockTag,
    closingTag "endblock" .closeBlock, macroTag, closingTag "endmacro" .closeMacro,
    conditionalTag r "if" .openIf, conditionalTag r "elif" .elseIf, only "else" .otherwise,
    only "endif" .closeIf, loopTag r, only "endfor" .closeLoop, filterTag r,
    only "endfilter" .closeFilter,
    assignmentTag r "set" false, assignmentTag r "set_global" true, only "break" .stop,
    only "continue" .skip]
  finish
  return t

/-- The expression of an output, with nothing before or after it. -/
def outputExpression : Reader Expr := do
  spaces
  let e ← expression
  finish
  return e

end Imprint.Template
