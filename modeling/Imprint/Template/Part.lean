import Imprint.Template.Reading
import Imprint.Template.Value

/-!
# Parts of a value

An item of an array or a field of a record is reached by a path: positions and names with points
between them, some of them in quotes.

## Main definitions

* `Imprint.Template.partsOf`: the parts that a path asks for.
* `Imprint.Template.Value.at?`: the value that a path reaches.

## Main results

* `Imprint.Template.Value.at?_nil`: the empty path reaches the value itself.
-/

namespace Imprint.Template

/-- How the quotes of a path stand: which of the two are open, and whether a backslash came last. -/
structure Quotes where
  double : Bool := false
  single : Bool := false
  escaped : Bool := false

/-- The parts of a path behind the reversed characters of a part that has begun. Quotes and points
end a part and are left out; a point between quotes, or a character after a backslash, is one of the
part. -/
def partsFrom (q : Quotes) (begun : List Char) : List Char → List (List Char)
  | [] => finished []
  | c :: r =>
    if c = '"' && !q.escaped then finished (partsFrom { q with double := !q.double } [] r)
    else if c = '\'' && !q.escaped then finished (partsFrom { q with single := !q.single } [] r)
    else if c = '.' && !q.double && !q.single && !q.escaped then finished (partsFrom q [] r)
    else partsFrom { q with escaped := c == '\\' } (c :: begun) r
where
  /-- The part that has begun, if it has, before other parts. -/
  finished (rest : List (List Char)) : List (List Char) :=
    if begun.isEmpty then rest else begun.reverse :: rest

/-- A text in which `~1` stands for a slash and `~0` for a tilde. -/
def unescapePart (s : List Char) : List Char :=
  Text.replaceAll ['~', '0'] ['~'] (Text.replaceAll ['~', '1'] ['/'] s)

/-- The parts that a path asks for, outermost first. -/
def partsOf (path : List Char) : List (List Char) :=
  (partsFrom {} [] path).map unescapePart

/-- The position in an array that a part stands for. -/
def position? (part : List Char) : Option Nat :=
  match part with
  | [] => none
  | ['0'] => some 0
  | '0' :: _ => none
  | ds => if ds.all Char.isDigit then some (Reader.decimalValue ds) else none

namespace Value

/-- The value that is reached through some parts. -/
def part? : Value → List (List Char) → Option Value
  | v, [] => some v
  | .array items, p :: ps => (position? p).bind fun i => items[i]?.bind (·.part? ps)
  | .record fields, p :: ps => (fields.lookup (String.ofList p)).bind (·.part? ps)
  | _, _ :: _ => none

/-- The value that a path reaches from a value. -/
def at? (v : Value) (path : List Char) : Option Value :=
  v.part? (partsOf path)

end Value

/-! ### Small facts -/

@[simp] theorem partsOf_nil : partsOf [] = [] := rfl

@[simp] theorem Value.part?_nil (v : Value) : v.part? [] = some v := by
  cases v <;> rfl

/-- The empty path reaches the value itself. -/
@[simp] theorem Value.at?_nil (v : Value) : v.at? [] = some v := by
  simp [Value.at?]

end Imprint.Template
