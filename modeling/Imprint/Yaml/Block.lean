import Imprint.Yaml.Cursor

/-!
# Block values

A value whose lines stand below its mark, indented alike. After a bar the lines are kept as they
are; after a greater-than sign a line break between two lines that start with no blank becomes
a space. What happens to the line breaks at the end is chosen by a sign.

## Main definitions

* `Imprint.Yaml.Ending`: what happens to the line breaks at the end.
* `Imprint.Yaml.BlockLine`, `Imprint.Yaml.blockValue`: the lines of a block and their value.
* `Imprint.Yaml.block`: reads a block value.
-/

namespace Imprint.Yaml

/-- What happens to the line breaks at the end of a block. -/
inductive Ending where
  /-- All are dropped. -/
  | strip
  /-- The first is kept. -/
  | clip
  /-- All are kept. -/
  | keep
  deriving DecidableEq, Repr

/-- The sign that chooses an ending. -/
def endingSign : Scan (Option Ending) := do
  if ← Scan.accept '-' then return some .strip
  else if ← Scan.accept '+' then return some .keep
  else return none

/-- The digit that chooses an indentation, which cannot be zero. -/
def indentDigit : Scan (Option Nat) := do
  match (← Scan.rest).head? with
  | some c =>
    if c.isDigit then
      guard (c != '0')
      Scan.skip 1
      return some (c.toNat - '0'.toNat)
    else return none
  | none => return none

/-- The sign and the digit after the mark of a block, in any order. -/
def blockHeader : Scan (Ending × Option Nat) := do
  match ← endingSign with
  | some e => return (e, ← indentDigit)
  | none =>
    match ← indentDigit with
    | some n => return ((← endingSign).getD .clip, some n)
    | none => return (.clip, none)

/-- The rest of a line, which may only hold a comment. -/
def finishLine : Scan Unit := do
  discard (Scan.all isBlank)
  Scan.comment
  guard ((← Scan.rest).head?.all isBreak)
  discard Scan.lineBreak

/-- An empty line: the column at which it ends and its line break. Blanks belong to the
indentation as long as they stand before the column `limit`, where only spaces may stand. -/
def emptyLine (limit : Option Nat) : Scan (Option (Nat × Char)) := do
  let start ← Scan.column
  let length := (← Scan.rest).length
  let room := (limit.map (· - start)).getD length
  discard (Scan.atMost room (· == ' '))
  let column ← Scan.column
  let inIndentation := limit.all fun n => decide (column < n)
  guard !(inIndentation && (← Scan.sees (· == '\t')))
  return (← Scan.lineBreak).map fun c => (column, c)

/-- One line of a block: its characters, its line break and the empty lines after it. -/
structure BlockLine where
  text : List Char
  ending : Option Char
  after : List Char
  deriving Repr

/-- A line that is indented to the column `indent`. -/
def blockLine (indent : Nat) : Scan (Option BlockLine) := do
  if (← Scan.column) == indent && !(← Scan.rest).isEmpty then
    let text ← Scan.all (!isBreak ·)
    let ending ← Scan.lineBreak
    let after ← Scan.repeated (emptyLine (some indent))
    return some ⟨text, ending, after.map (·.2)⟩
  else return none

/-- Whether a line of a block starts with a blank. -/
def BlockLine.isIndented (l : BlockLine) : Bool :=
  l.text.head?.any isBlank

/-- What the line break between two lines contributes, with the empty lines after it. -/
def BlockLine.between (folded : Bool) (l next : BlockLine) : List Char :=
  if folded && l.ending == some '\n' && !l.isIndented && !next.isIndented then
    if l.after.isEmpty then [' '] else l.after
  else l.ending.toList ++ l.after

/-- What the end of the last line contributes. -/
def BlockLine.last (e : Ending) (l : BlockLine) : List Char :=
  match e with
  | .strip => []
  | .clip => l.ending.toList
  | .keep => l.ending.toList ++ l.after

/-- The value of some lines. -/
def blockLines (folded : Bool) (e : Ending) : List BlockLine → List Char
  | [] => []
  | [l] => l.text ++ l.last e
  | l :: next :: r => l.text ++ l.between folded next ++ blockLines folded e (next :: r)

/-- The value of a block: the empty lines in front, then the lines. Without lines the empty ones
count only when all line breaks are kept. -/
def blockValue (folded : Bool) (e : Ending) (before : List Char) (lines : List BlockLine) :
    List Char :=
  if lines.isEmpty then (if e == .keep then before else [])
  else before ++ blockLines folded e lines

/-- A block value with its mark; the first result tells whether it is folded. The lines have to
reach the column `margin` at least. Without a digit the first of them choose the indentation. -/
def block (margin : Nat) : Scan (Bool × List Char) := do
  let folded ← Scan.sees (· == '>')
  Scan.skip 1
  let (ending, digit) ← blockHeader
  finishLine
  let limit := digit.map (margin - 1 + ·)
  let before ← Scan.repeated (emptyLine limit)
  let widest := (before.map (·.1)).foldl max (← Scan.column)
  let indent := limit.getD (max widest (max margin 1))
  let lines ← Scan.repeated (blockLine indent)
  return (folded, blockValue folded ending (before.map (·.2)) lines)

end Imprint.Yaml
