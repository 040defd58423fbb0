import Imprint.Template.Fault
import Imprint.Template.Part
import Imprint.Text.Casing

/-!
# Filters

A filter makes a value from a value and some named arguments. Arguments that a filter does not know
are passed over. Further filters, such as those for dates and markup, come with the surroundings of
a rendering.

## Main definitions

* `Imprint.Template.Arguments`: named values.
* `Imprint.Template.Filter`: a filter.
* `Imprint.Template.filter?`: the filter with a name.
-/

namespace Imprint.Template

/-- Named values. -/
abbrev Arguments := List (String × Value)

/-- A filter. -/
abbrev Filter := Value → Arguments → Except Fault Value

namespace Value

/-- The value as a text. -/
def text? : Value → Option (List Char)
  | text s => some s
  | _ => none

/-- The value as an array. -/
def array? : Value → Option (List Value)
  | array items => some items
  | _ => none

/-- The value as a record. -/
def record? : Value → Option (List (String × Value))
  | record fields => some fields
  | _ => none

/-- The value as a truth value. -/
def bool? : Value → Option Bool
  | bool b => some b
  | _ => none

/-- The value as an integer. -/
def int? : Value → Option Int
  | int n => some n
  | _ => none

/-- The value as a number of binary precision. -/
def double? : Value → Option Decimal.Double
  | int n => some (.ofInt n)
  | float x => some x
  | _ => none

/-- The value as a count. -/
def count? : Value → Option Nat
  | int n => if 0 ≤ n then some n.toNat else none
  | _ => none

/-- The value as a count of at most 32 bits. -/
def shortCount? (v : Value) : Option Nat :=
  v.count?.filter (Decimal.fitsUnsigned 32 ·)

end Value

namespace Filter

/-- The value to be filtered, as a kind. -/
def subject {α : Type} (filter : String) (expected : Kind) (view : Value → Option α) (v : Value) :
    Except Fault α :=
  match view v with
  | some a => .ok a
  | none => .error (.wrongValue filter v expected)

/-- An argument as a kind, when it is given. -/
def argument? {α : Type} (filter name : String) (expected : Kind) (view : Value → Option α)
    (args : Arguments) : Except Fault (Option α) :=
  match args.lookup name with
  | none => .ok none
  | some v =>
    match view v with
    | some a => .ok (some a)
    | none => .error (.wrongArgument filter name v expected)

/-- A text argument that has to be given. -/
def textArgument (filter name : String) (args : Arguments) : Except Fault (List Char) := do
  match ← argument? filter name .text Value.text? args with
  | some s => .ok s
  | none => .error (.noArgument filter name)

/-- A text in which the two characters of a line feed or a tab, as they are written in a program,
stand for the one character that they mean. -/
def unescape (s : List Char) : List Char :=
  Text.replaceAll ['\\', 't'] ['\t'] (Text.replaceAll ['\\', 'n'] ['\n'] s)

/-- A filter on texts without arguments. -/
def onText (name : String) (f : List Char → List Char) : Filter := fun v _ => do
  .ok (.text (f (← subject name .text Value.text? v)))

/-- A filter on texts with a pattern. -/
def withPattern (name : String) (f : List Char → List Char → Value) : Filter := fun v args => do
  let s ← subject name .text Value.text? v
  .ok (f (unescape (← textArgument name "pat" args)) s)

/-- Every occurrence of one text replaced by another. -/
def replace : Filter := fun v args => do
  let s ← subject "replace" .text Value.text? v
  let old ← textArgument "replace" "from" args
  let new ← textArgument "replace" "to" args
  .ok (.text (Text.replaceAll old new s))

/-- A character in a text of marked-up characters. -/
def escapeChar (c : Char) : List Char :=
  match c with
  | '&' => "&amp;".toList
  | '<' => "&lt;".toList
  | '>' => "&gt;".toList
  | '"' => "&quot;".toList
  | '\'' => "&#x27;".toList
  | '/' => "&#x2F;".toList
  | c => [c]

/-! ### Arrays -/

/-- The items of the array to be filtered. -/
def items (name : String) (v : Value) : Except Fault (List Value) :=
  subject name .array Value.array? v

/-- The first item, or the empty text. -/
def first : Filter := fun v _ => do
  .ok ((← items "first" v).head?.getD (.text []))

/-- The last item, or the empty text. -/
def last : Filter := fun v _ => do
  .ok ((← items "last" v).getLast?.getD (.text []))

/-- The item at a position, or the empty text. -/
def nth : Filter := fun v args => do
  let vs ← items "nth" v
  if vs.isEmpty then .ok (.text [])
  else
    match ← argument? "nth" "n" .count Value.count? args with
    | some n => .ok (vs[n]?.getD (.text []))
    | none => .error (.neededArgument "nth" "n")

/-- The rendered items with a text between any two of them. -/
def join : Filter := fun v args => do
  let vs ← items "join" v
  let separator ← argument? "truncate" "sep" .text Value.text? args
  .ok (.text (List.intercalate (unescape (separator.getD [])) (vs.map Value.render)))

/-- The items of two arrays, or an array with one more item. -/
def concat : Filter := fun v args => do
  let vs ← items "concat" v
  match args.lookup "with" with
  | some (.array more) => .ok (.array (vs ++ more))
  | some one => .ok (.array (vs ++ [one]))
  | none => .error (.neededArgument "concat" "with")

/-- A position that may be counted from the end, in an array of the given length. A position in
front of the start is the start. -/
def position (length : Nat) (x : Decimal.Double) : Nat :=
  if 0 ≤ x.toRat then x.whole.toNat
  else (((Decimal.Double.ofInt length).add? x).map (·.whole.toNat)).getD 0

/-- The items from one position up to another. -/
def slice : Filter := fun v args => do
  let vs ← items "slice" v
  if vs.isEmpty then .ok (.array [])
  else
    let start ← argument? "slice" "start" .number Value.double? args
    let finish ← argument? "slice" "end" .number Value.double? args
    let a := (start.map (position vs.length)).getD 0
    let b := min ((finish.map (position vs.length)).getD vs.length) vs.length
    .ok (.array ((vs.take b).drop a))

/-- The number of items of an array, of fields of a record or of characters of a text. -/
def length : Filter := fun v _ =>
  match v with
  | .array vs => .ok (.int vs.length)
  | .record fs => .ok (.int fs.length)
  | .text s => .ok (.int s.length)
  | _ => .error .noLength

/-- An array or a text from its end. -/
def reverse : Filter := fun v _ =>
  match v with
  | .array vs => .ok (.array vs.reverse)
  | .text s => .ok (.text s.reverse)
  | _ => .error (.wrongArgument "reverse" "value" v .textOrArray)

/-! ### Order and repetition -/

/-- The views under which items are compared, by the kind of the first item. -/
inductive Key where
  | truth (b : Bool)
  | number (q : Rat)
  | text (s : List Char)
  deriving DecidableEq

/-- Whether a key comes before another or is equal to it. -/
def Key.le : Key → Key → Bool
  | truth a, truth b => !a || b
  | number a, number b => decide (a ≤ b)
  | text a, text b => decide (String.ofList a ≤ String.ofList b)
  | _, _ => true

/-- The key of a value beside the first one: truth values and texts are compared as they are,
numbers to binary precision, arrays by their length. -/
def keyLike (first v : Value) : Except Fault Key :=
  match first, v with
  | .record _, _ => .error .notSortable
  | .bool _, .bool b => .ok (.truth b)
  | .bool _, v => .error (.mixedItems "bool" v)
  | .int _, v | .float _, v =>
    match v.double? with
    | some x => .ok (.number x.toRat)
    | none => .error (.mixedItems "number" v)
  | .text _, .text s => .ok (.text s)
  | .text _, v => .error (.mixedItems "string" v)
  | .array _, .array vs => .ok (.number vs.length)
  | .array _, v => .error (.mixedItems "array" v)

/-- The path to what items are compared by. -/
def comparedPath (filter : String) (args : Arguments) : Except Fault (List Char) :=
  return (← argument? filter "attribute" .text Value.text? args).getD []

/-- What an item is compared by. -/
def comparedAt (path : List Char) (v : Value) : Except Fault Value :=
  match v.at? path with
  | some a => .ok a
  | none => .error (.noField (String.ofList path))

/-- The items in increasing order of what they are compared by. -/
def sort : Filter := fun v args => do
  match ← items "sort" v with
  | [] => .ok (.array [])
  | item :: more => do
    let path ← comparedPath "sort" args
    let first ← comparedAt path item
    let pairs ← (item :: more).mapM fun v => return (← keyLike first (← comparedAt path v), v)
    .ok (.array ((pairs.mergeSort fun a b => a.1.le b.1).map Prod.snd))

/-- The key under which a repeated value is found, beside the first one. -/
def uniqueKey (caseSensitive : Bool) (first v : Value) : Except Fault Key :=
  match first, v with
  | .array _, _ => .error (.notUnique "Unique arrays are not implemented")
  | .record _, _ => .error (.notUnique "Unique objects are not implemented")
  | .float _, _ => .error (.notUnique "Unique floats are not implemented")
  | .bool _, .bool b => .ok (.truth b)
  | .int _, .int n => .ok (.number n)
  | .int _, .float _ => .error (.mixedItems "number" v)
  | .text _, .text s => .ok (.text (if caseSensitive then s else Text.lower s))
  | _, _ => .error (.notUnique "unique filter can't compare multiple types")

/-- Items whose key has not occurred before. -/
def firstOfKeys (seen : List Key) : List (Key × Value) → List Value
  | [] => []
  | (k, v) :: rest =>
    if seen.contains k then firstOfKeys seen rest else v :: firstOfKeys (k :: seen) rest

/-- The items without those that occurred before, as far as what they are compared by goes; items
without it are left out, and texts are compared without regard to case unless an argument says
otherwise. -/
def unique : Filter := fun v args => do
  match ← items "unique" v with
  | [] => .ok (.array [])
  | item :: more => do
    let caseSensitive ← argument? "unique" "case_sensitive" .truth Value.bool? args
    let path ← comparedPath "unique" args
    let first ← comparedAt path item
    let pairs ← ((item :: more).filterMap fun v => (v.at? path).map (·, v)).mapM fun x =>
      return (← uniqueKey (caseSensitive.getD false) first x.1, x.2)
    .ok (.array (firstOfKeys [] pairs))

/-! ### Integers -/

/-- The value of a digit in a base of at most 36. -/
def digit? (base : Nat) (c : Char) : Option Nat :=
  let n :=
    if c.isDigit then c.toNat - '0'.toNat
    else if 'a' ≤ c ∧ c ≤ 'z' then c.toNat - 'a'.toNat + 10
    else if 'A' ≤ c ∧ c ≤ 'Z' then c.toNat - 'A'.toNat + 10
    else 36
  if n < base then some n else none

/-- The value of digits in a base. -/
def digitsValue? (base : Nat) (s : List Char) : Option Nat :=
  if s.isEmpty then none else s.foldlM (fun n c => (digit? base c).map (base * n + ·)) 0

/-- The integer that a text stands for in a base, with an optional sign. -/
def integerOfText? (base : Nat) (s : List Char) : Option Int :=
  let n := match s with
    | '-' :: r => (digitsValue? base r).map fun n => -(n : Int)
    | '+' :: r => (digitsValue? base r).map Int.ofNat
    | r => (digitsValue? base r).map Int.ofNat
  n.filter Reader.inRange

/-- The nearest integer of the language. -/
def clamp (n : Int) : Int :=
  max (Decimal.leastSigned 64) (min n (Decimal.greatestSigned 64))

/-- The whole part of a decimal number with a point, an optional sign and an optional exponent, read
to binary precision. -/
def wholePart? (s : List Char) : Option Int := do
  let (sign, r) := match s with
    | '-' :: r => ((-1 : Int), r)
    | '+' :: r => (1, r)
    | r => (1, r)
  let (mantissa, exponent) := match Text.cutWhere? (fun c => c == 'e' || c == 'E') r with
    | some (m, e) => (m, some e)
    | none => (r, none)
  let e ← match exponent with
    | none => some 0
    | some t => exponentOf t
  let (whole, fraction) ← Text.cutAt? '.' mantissa
  if (whole ++ fraction).isEmpty || !(whole ++ fraction).all Char.isDigit then none
  else
    let digits := Reader.decimalValue (whole ++ fraction)
    let places := min (max (e - fraction.length) (-5000)) 5000
    let b :=
      if 0 ≤ places then Decimal.nearest (digits * Nat.pow 10 places.toNat) 1
      else Decimal.nearest digits (Nat.pow 10 (-places).toNat)
    some (clamp (sign * b.floor))
where
  /-- The value of an exponent. -/
  exponentOf (t : List Char) : Option Int :=
    match t with
    | '-' :: r => (digitsValue? 10 r).map fun n => -(n : Int)
    | '+' :: r => (digitsValue? 10 r).map Int.ofNat
    | r => (digitsValue? 10 r).map Int.ofNat

/-- The letters that may stand in front of digits in a base. -/
def baseMark (base : Nat) : List Char :=
  if base = 2 then ['0', 'b'] else if base = 8 then ['0', 'o']
  else if base = 16 then ['0', 'x'] else []

/-- The integer that a text or a number stands for, or a default. -/
def int : Filter := fun v args => do
  let fallback := (← argument? "int" "default" .integer Value.int? args).getD 0
  let base := (← argument? "int" "base" .base Value.shortCount? args).getD 10
  match v with
  | .text s =>
    let s := Text.stripStart (baseMark base) (Text.trim s)
    match integerOfText? base s with
    | some n => .ok (.int n)
    | none => .ok (.int (if s.contains '.' then (wholePart? s).getD fallback else fallback))
  | v =>
    match v.double? with
    | some x => .ok (.int (clamp x.whole))
    | none => .error .noInteger

end Filter

/-- The filter with a name. -/
def filter? (name : String) : Option Filter :=
  match name with
  | "upper" => some (.onText name Text.upper)
  | "lower" => some (.onText name Text.lower)
  | "capitalize" => some (.onText name Text.capitalize)
  | "title" => some (.onText name Text.titleCase)
  | "trim" => some (.onText name Text.trim)
  | "trim_start" => some (.onText name Text.trimStart)
  | "trim_end" => some (.onText name Text.trimEnd)
  | "trim_start_matches" => some (.withPattern name fun p s => .text (Text.stripStart p s))
  | "trim_end_matches" => some (.withPattern name fun p s => .text (Text.stripEnd p s))
  | "replace" => some .replace
  | "split" => some (.withPattern name fun p s => .array ((Text.splitAll p s).map .text))
  | "join" => some .join
  | "length" => some .length
  | "first" => some .first
  | "last" => some .last
  | "nth" => some .nth
  | "reverse" => some .reverse
  | "slice" => some .slice
  | "concat" => some .concat
  | "sort" => some .sort
  | "unique" => some .unique
  | "int" => some .int
  | "escape" => some (.onText "escape_html" fun s => s.flatMap Filter.escapeChar)
  | "as_str" => some fun v _ => .ok (.text v.render)
  | _ => none

end Imprint.Template
