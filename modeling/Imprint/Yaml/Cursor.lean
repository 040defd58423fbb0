import Imprint.Text.Search

/-!
# Walking through a YAML text

A cursor stands somewhere in a text and knows where that is: how many characters lie behind it, on
which line and in which column it stands. Reading moves it forward; a reading that is not possible
fails.

A line ends at a line feed, a carriage return, the two of them together, or one of three further
break characters. Only the last two of those are kept when a line break belongs to a value; all
others count as a line feed.

## Main definitions

* `Imprint.Yaml.Mark`, `Imprint.Yaml.Cursor`: a place in a text.
* `Imprint.Yaml.Scan`: a reading that moves a cursor.
* `Imprint.Yaml.isAllowed`: the characters that a YAML text may hold.
-/

namespace Imprint.Yaml

/-! ### Kinds of characters -/

/-- The characters that a YAML text may hold. -/
def isAllowed (c : Char) : Bool :=
  c == '\t' || c == '\n' || c == '\r' || (' ' ≤ c && c ≤ '~') || c == '\u0085' ||
    ('\u00A0' ≤ c && c ≤ '\uFFFD') || 0x10000 ≤ c.toNat

/-- A space or a tab. -/
def isBlank (c : Char) : Bool :=
  c == ' ' || c == '\t'

/-- A character that ends a line. -/
def isBreak (c : Char) : Bool :=
  c == '\n' || c == '\r' || c == '\u0085' || c == '\u2028' || c == '\u2029'

/-- A space, a tab, or a character that ends a line. -/
def isGap (c : Char) : Bool :=
  isBlank c || isBreak c

/-- What a line break contributes to a value. -/
def breakValue (c : Char) : Char :=
  if c == '\u2028' || c == '\u2029' then c else '\n'

/-- A character of a name: a letter, a digit, a dash or an underscore. -/
def isNameChar (c : Char) : Bool :=
  c.isAlphanum || c == '-' || c == '_'

/-- Whether nothing but a gap or the end follows. -/
def endsWord (rest : List Char) : Bool :=
  rest.head?.all isGap

/-! ### Places -/

/-- Where something stands, counted from zero. -/
structure Mark where
  index : Nat := 0
  line : Nat := 0
  column : Nat := 0
  deriving DecidableEq, Repr

/-- The mark behind some characters. -/
def Mark.after (m : Mark) : List Char → Mark
  | [] => m
  | '\r' :: '\n' :: r => Mark.after ⟨m.index + 2, m.line + 1, 0⟩ r
  | c :: r =>
    if isBreak c then Mark.after ⟨m.index + 1, m.line + 1, 0⟩ r
    else Mark.after ⟨m.index + 1, m.line, m.column + 1⟩ r

/-- The mark at the start of the next line; a line without characters does not count. -/
def Mark.lineEnd (m : Mark) : Mark :=
  if m.column == 0 then m else ⟨m.index, m.line + 1, 0⟩

/-- A place in a text and what follows it. -/
structure Cursor where
  rest : List Char
  mark : Mark := {}
  deriving Repr

/-- A reading: it moves a cursor forward, or fails. -/
abbrev Scan (α : Type) := StateT Cursor Option α

namespace Scan

variable {α : Type}

/-- What follows the cursor. -/
def rest : Scan (List Char) :=
  return (← get).rest

/-- The column of the cursor. -/
def column : Scan Nat :=
  return (← get).mark.column

/-- Moves over the next `n` characters. -/
def skip (n : Nat) : Scan Unit :=
  modify fun c => ⟨c.rest.drop n, c.mark.after (c.rest.take n)⟩

/-- Moves over the characters of a kind and gives them. -/
def all (kind : Char → Bool) : Scan (List Char) := do
  let s := (← rest).takeWhile kind
  skip s.length
  return s

/-- Moves over at most `n` characters of a kind and gives their number. -/
def atMost (n : Nat) (kind : Char → Bool) : Scan Nat := do
  let k := (((← rest).take n).takeWhile kind).length
  skip k
  return k

/-- Whether a character follows that has the given kind. -/
def sees (kind : Char → Bool) : Scan Bool :=
  return (← rest).head?.any kind

/-- Moves over the character `c` when it follows, and tells whether it did. -/
def accept (c : Char) : Scan Bool := do
  if ← sees (· == c) then
    skip 1
    return true
  else return false

/-- Moves over the character `c`, which has to follow. -/
def expect (c : Char) : Scan Unit := do
  guard (← accept c)

/-- Moves over a line break when one follows, and gives what it contributes to a value. -/
def lineBreak : Scan (Option Char) := do
  match ← rest with
  | '\r' :: '\n' :: _ =>
    skip 2
    return some '\n'
  | c :: _ =>
    if isBreak c then
      skip 1
      return some (breakValue c)
    else return none
  | [] => return none

/-- Moves over a comment when one follows. -/
def comment : Scan Unit := do
  if ← sees (· == '#') then discard (all (!isBreak ·))

/-- What a reading gives each time, until it gives nothing; at most `n` times. -/
def upTo (p : Scan (Option α)) : Nat → Scan (List α)
  | 0 => return []
  | n + 1 => do
    match ← p with
    | some a => return a :: (← upTo p n)
    | none => return []

/-- What a reading gives each time, until it gives nothing. It moves the cursor each time. -/
def repeated (p : Scan (Option α)) : Scan (List α) := do
  upTo p ((← rest).length + 1)

end Scan

/-! ### Small facts -/

@[simp] theorem Mark.after_nil (m : Mark) : m.after [] = m := rfl

theorem isGap_of_isBreak {c : Char} (h : isBreak c = true) : isGap c = true := by
  simp [isGap, h]

end Imprint.Yaml
