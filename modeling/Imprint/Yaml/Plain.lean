import Imprint.Yaml.Quoted

/-!
# Plain values

A plain value is written without quotes. It consists of words with gaps between them and ends before
a comment, a document mark, a colon that ends a word, or, outside of flow collections, a line that
is indented too little. Inside flow collections it also ends before their punctuation, and a colon
right before such punctuation is refused.

## Main definitions

* `Imprint.Yaml.plainWord`: one word of a plain value.
* `Imprint.Yaml.plain`: reads a plain value.
-/

namespace Imprint.Yaml

/-- The punctuation of flow collections. -/
def isFlowMark (c : Char) : Bool :=
  c == ',' || c == '[' || c == ']' || c == '{' || c == '}'

/-- The characters up to the end of a word. -/
def plainWord (flow : Bool) : List Char → Option (List Char)
  | [] => some []
  | c :: r =>
    if isGap c then some []
    else if flow && c == ':' && r.head?.any (fun d => isFlowMark d || d == '?') then none
    else if c == ':' && endsWord r then some []
    else if flow && isFlowMark c then some []
    else (plainWord flow r).map (c :: ·)

/-- Moves over a word. -/
def scanWord (flow : Bool) : Scan (List Char) := do
  let w ← plainWord flow (← Scan.rest)
  Scan.skip w.length
  return w

/-- Whether a gap has a line, after the first, with a tab in front of the column `margin`. -/
def abusesTab (margin : Nat) : List Char → Option Nat → Bool
  | [], _ => false
  | c :: r, column =>
    if isBreak c then abusesTab margin r (some 0)
    else match column with
      | some k => (c == '\t' && decide (k < margin)) || abusesTab margin r (some (k + 1))
      | none => abusesTab margin r none

/-- A part of a plain value: the characters and the line on which they end. -/
structure PlainPart where
  text : List Char
  line : Nat
  deriving Repr

/-- The line on which the cursor stands. -/
def Scan.line : Scan Nat :=
  return (← get).mark.line

/-- A gap and the word after it, when the value goes on; else only a gap is moved over. -/
def plainMore (flow : Bool) (margin : Nat) : Scan (Option PlainPart) := do
  let gap ← Scan.all isGap
  guard !abusesTab margin gap none
  let column ← Scan.column
  let rest ← Scan.rest
  if gap.isEmpty || (!flow && decide (column < margin)) || (column == 0 && seesDocumentMark rest) ||
      rest.head? == some '#' then
    return none
  else
    let w ← scanWord flow
    if w.isEmpty then return none else return some ⟨gap ++ w, ← Scan.line⟩

/-- A plain value, whose lines after the first have to reach the column `margin`. The second result
tells whether the cursor has moved on to another line behind the value. -/
def plain (flow : Bool) (margin : Nat) : Scan (List Char × Bool) := do
  let first : PlainPart := ⟨← scanWord flow, ← Scan.line⟩
  let more ← Scan.repeated (plainMore flow margin)
  let last := more.getLast?.getD first
  return (fold (Piece.ofText (first.text ++ more.flatMap PlainPart.text)),
    (← Scan.line) != last.line)

end Imprint.Yaml
