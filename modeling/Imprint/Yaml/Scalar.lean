import Imprint.Decimal.Shortest
import Imprint.Decimal.Width
import Imprint.Text.Quoted
import Imprint.Yaml.Node

/-!
# What a plain value says

A value without quotes may be nothing, a truth value, an integer or a number with a point; if it is
none of these it is a text. A tag can ask for one of the kinds. Integers are written in base ten, or
behind `0x`, `0o` and `0b` in the bases sixteen, eight and two; a row of decimal digits that starts
with a zero is a text.

## Main definitions

* `Imprint.Yaml.Meaning`, `Imprint.Yaml.Meaning.ofPlain`: what a plain value says.
* `Imprint.Yaml.truth?`, `Imprint.Yaml.natural?`: the values of two kinds.
* `Imprint.Yaml.Node.found?`: how messages name what was found.
-/

namespace Imprint.Yaml

/-- What a value says. -/
inductive Meaning where
  | nothing
  | truth (b : Bool)
  | integer (n : Int)
  | real (text : List Char)
  | text (s : List Char)
  deriving DecidableEq, Repr

/-- Whether a text is a word for nothing. -/
def isNothing (s : List Char) : Bool :=
  ["null", "Null", "NULL", "~"].contains (String.ofList s)

/-- The truth value that a text stands for. -/
def truth? (s : List Char) : Option Bool :=
  if ["true", "True", "TRUE"].contains (String.ofList s) then some true
  else if ["false", "False", "FALSE"].contains (String.ofList s) then some false
  else none

/-! ### Integers -/

/-- The value of a digit in bases up to sixteen. -/
def digitValue? (base : Nat) (c : Char) : Option Nat :=
  (hexValue? c).filter (· < base)

/-- The number that some digits stand for, when there are digits. -/
def digitsValue? (base : Nat) (ds : List Char) : Option Nat :=
  if ds.isEmpty then none
  else ds.foldlM (fun n c => (base * n + ·) <$> digitValue? base c) 0

/-- A text without the sign at its start, if it has one of the given. -/
def dropSign (signs : List Char) (s : List Char) : List Char :=
  match s with
  | c :: r => if signs.contains c then r else s
  | [] => []

/-- Whether a text is a row of digits, perhaps behind a sign, that starts with an idle zero. -/
def hasIdleZero (s : List Char) : Bool :=
  match dropSign ['-', '+'] s with
  | '0' :: ds => !ds.isEmpty && ds.all Char.isDigit
  | _ => false

/-- A number written behind the mark of its base. -/
def marked? (s : List Char) : Option Nat :=
  match s with
  | '0' :: 'x' :: ds => digitsValue? 16 ds
  | '0' :: 'o' :: ds => digitsValue? 8 ds
  | '0' :: 'b' :: ds => digitsValue? 2 ds
  | _ => none

/-- The natural number that a text stands for, perhaps behind a plus sign. -/
def natural? (s : List Char) : Option Nat :=
  let r := dropSign ['+'] s
  match marked? r with
  | some n => some n
  | none => if hasIdleZero s then none else digitsValue? 10 r

/-- The number whose negative a text stands for. -/
def negative? (s : List Char) : Option Nat :=
  match s with
  | '-' :: r =>
    match marked? r with
    | some n => some n
    | none => if hasIdleZero s then none else digitsValue? 10 r
  | _ => none

/-- The integer that a text stands for. Beyond 128 bits there is none. -/
def integer? (s : List Char) : Option Int :=
  match natural? s, negative? s with
  | some n, _ => if Decimal.fitsUnsigned 128 n then some n else none
  | none, some n => if Decimal.fitsSigned 128 (-(n : Int)) then some (-(n : Int)) else none
  | none, none => none

/-- How messages name an integer: one of more than 64 bits with its width. -/
def integerName (n : Int) : String :=
  if Decimal.fitsSigned 64 n || (0 ≤ n && Decimal.fitsUnsigned 64 n.toNat) then s!"integer `{n}`"
  else if 0 ≤ n then s!"integer `{n}` as u128"
  else s!"integer `{n}` as i128"

/-! ### Numbers with a point -/

/-- A number as it is written: digits before and after the point, and an exponent. -/
structure Written where
  whole : List Char
  fraction : List Char
  exponent : Int
  deriving Repr

/-- The exponent that some characters stand for; none counts as zero. -/
def exponent? (s : List Char) : Option Int :=
  match s with
  | [] => some 0
  | e :: r =>
    if e == 'e' || e == 'E' then
      let n := digitsValue? 10 (dropSign ['-', '+'] r)
      if r.head? == some '-' then n.map fun k => -(k : Int) else n.map Int.ofNat
    else none

/-- A number without a sign, as it is written. -/
def written? (s : List Char) : Option Written := do
  let whole := s.takeWhile Char.isDigit
  let rest := s.dropWhile Char.isDigit
  let (fraction, rest) := match rest with
    | '.' :: r => (r.takeWhile Char.isDigit, r.dropWhile Char.isDigit)
    | _ => ([], rest)
  guard !(whole.isEmpty && fraction.isEmpty)
  return ⟨whole, fraction, ← exponent? rest⟩

/-- The text of the nearest binary number. None is near enough to a number of more than 310
digits, and one with 330 zeros behind the point is nearest to zero. -/
def Written.nearest? (w : Written) : Option (List Char) :=
  let n := (digitsValue? 10 (w.whole ++ w.fraction)).getD 0
  let e := w.exponent - w.fraction.length
  let size := (Decimal.digitCount n : Int) + e
  if n = 0 || size < -330 then some ['0']
  else if 310 < size then none
  else
    let b := Decimal.nearest (n * Nat.pow 10 e.toNat) (Nat.pow 10 (-e).toNat)
    if b.isInfinite then none else some (Decimal.shortest b).positional

/-- A number that always shows a point. -/
def withPoint (s : List Char) : List Char :=
  if s.contains '.' then s else s ++ ['.', '0']

/-- The number with a point that a text stands for, as messages show it. -/
def real? (s : List Char) : Option (List Char) :=
  let unsigned := dropSign ['+'] s
  if [".inf", ".Inf", ".INF"].contains (String.ofList unsigned) then some ['i', 'n', 'f']
  else if ["-.inf", "-.Inf", "-.INF"].contains (String.ofList s) then some ['-', 'i', 'n', 'f']
  else if [".nan", ".NaN", ".NAN"].contains (String.ofList s) then some ['N', 'a', 'N']
  else match unsigned with
    | '-' :: r =>
      if s.head? == some '+' then none
      else ((written? r).bind Written.nearest?).map fun t => '-' :: withPoint t
    | _ => ((written? unsigned).bind Written.nearest?).map withPoint

/-! ### Meanings -/

/-- What a value without quotes and without a tag says. -/
def Meaning.ofPlain (s : List Char) : Meaning :=
  if s.isEmpty || isNothing s then .nothing
  else match truth? s with
    | some b => .truth b
    | none =>
      match integer? s with
      | some n => .integer n
      | none =>
        match if hasIdleZero s then none else real? s with
        | some t => .real t
        | none => .text s

/-- How messages name a meaning. -/
def Meaning.name : Meaning → String
  | .nothing => "unit value"
  | .truth b => s!"boolean `{b}`"
  | .integer n => integerName n
  | .real t => s!"floating point `{String.ofList t}`"
  | .text s => "string " ++ String.ofList (Text.Quoted.visible s)

/-- The beginning of the tags that the language defines. -/
def ownTag (kind : String) : String :=
  "tag:yaml.org,2002:" ++ kind

/-- What a value says: a tag of the language asks for its kind, and the value has to have it. Any
other tag leaves a plain value as it is when it starts with an exclamation mark, and makes a text of
it when it does not. -/
def Meaning.ofScalar? (tag : Option String) (style : Style) (s : List Char) : Option Meaning :=
  let asWritten := if style == .plain then .ofPlain s else .text s
  match tag with
  | none => some asWritten
  | some t =>
    if t == ownTag "bool" then (truth? s).map .truth
    else if t == ownTag "int" then (integer? s).map .integer
    else if t == ownTag "float" then (real? s).map .real
    else if t == ownTag "null" then if isNothing s then some .nothing else none
    else if t.startsWith "!" then some asWritten
    else some (.text s)

/-- How messages name what stands at a node; none when the node cannot be read at all. -/
def Node.found? : Node → Option String
  | .scalar _ tag style text => (Meaning.ofScalar? tag style text.toList).map Meaning.name
  | .sequence .. => some "sequence"
  | .mapping .. => some "map"
  | .alias _ | .absent | .broken => none

end Imprint.Yaml
