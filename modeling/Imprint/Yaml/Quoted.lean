import Imprint.Yaml.Folding

/-!
# Quoted values

A value between single quotes, where a quote is written twice, or between double quotes, where a
backslash introduces an escape. Both may run over several lines, which are folded. A line inside
a quoted value may not look like a document mark.

## Main definitions

* `Imprint.Yaml.Quote`: the two kinds of quotes.
* `Imprint.Yaml.quoted`: reads a quoted value.
-/

namespace Imprint.Yaml

/-- Whether a document mark follows: three dashes or three dots that end a word. -/
def seesDocumentMark (rest : List Char) : Bool :=
  match rest with
  | '-' :: '-' :: '-' :: r => endsWord r
  | '.' :: '.' :: '.' :: r => endsWord r
  | _ => false

/-- The two kinds of quotes. -/
inductive Quote where
  | single
  | double
  deriving DecidableEq, Repr

/-- The character of a quote. -/
def Quote.char : Quote → Char
  | .single => '\''
  | .double => '"'

/-- The value of a hexadecimal digit. -/
def hexValue? (c : Char) : Option Nat :=
  if c.isDigit then some (c.toNat - '0'.toNat)
  else if 'a' ≤ c && c ≤ 'f' then some (c.toNat - 'a'.toNat + 10)
  else if 'A' ≤ c && c ≤ 'F' then some (c.toNat - 'A'.toNat + 10)
  else none

/-- The value of `n` hexadecimal digits. -/
def hexNumber (n : Nat) : Scan Nat := do
  let ds := (← Scan.rest).take n
  guard (ds.length = n)
  Scan.skip n
  ds.foldlM (fun v c => (16 * v + ·) <$> hexValue? c) 0

/-- The character with a number, when there is one. -/
def charOfNumber? (n : Nat) : Option Char :=
  if n.isValidChar then some (Char.ofNat n) else none

/-- The character that a backslash and `c` stand for, unless `c` introduces a number. -/
def escaped? (c : Char) : Option Char :=
  match c with
  | '0' => some '\x00'
  | 'a' => some '\x07'
  | 'b' => some '\x08'
  | 't' => some '\t'
  | '\t' => some '\t'
  | 'n' => some '\n'
  | 'v' => some '\x0b'
  | 'f' => some '\x0c'
  | 'r' => some '\r'
  | 'e' => some '\x1b'
  | ' ' => some ' '
  | '"' => some '"'
  | '/' => some '/'
  | '\\' => some '\\'
  | 'N' => some '\u0085'
  | '_' => some '\u00a0'
  | 'L' => some '\u2028'
  | 'P' => some '\u2029'
  | _ => none

/-- The number of digits of the numbers that `c` introduces. -/
def numberWidth? (c : Char) : Option Nat :=
  match c with
  | 'x' => some 2
  | 'u' => some 4
  | 'U' => some 8
  | _ => none

/-- What stands behind a backslash. -/
def escape : Scan Piece := do
  match ← Scan.lineBreak with
  | some _ => return .joint
  | none =>
    let c ← (← Scan.rest).head?
    Scan.skip 1
    match numberWidth? c with
    | some width => .char <$> charOfNumber? (← hexNumber width)
    | none => .char <$> escaped? c

/-- One piece of a quoted value, or nothing at the closing quote. -/
def quotedPiece (q : Quote) : Scan (Option Piece) := do
  let rest ← Scan.rest
  guard !((← Scan.column) == 0 && seesDocumentMark rest)
  let c ← rest.head?
  if c == q.char then
    if q == .single && rest.tail.head? == some c then
      Scan.skip 2
      return some (.char c)
    else return none
  else if isBreak c then return (← Scan.lineBreak).map .lineBreak
  else
    Scan.skip 1
    if isBlank c then return some (.blank c)
    else if q == .double && c == '\\' then some <$> escape
    else return some (.char c)

/-- A quoted value with its quotes. -/
def quoted (q : Quote) : Scan (List Char) := do
  Scan.expect q.char
  let pieces ← Scan.repeated (quotedPiece q)
  Scan.expect q.char
  return fold pieces

end Imprint.Yaml
