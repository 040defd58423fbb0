import Imprint.Decimal.Width
import Imprint.Text.Search

/-!
# Reading what stands in a tag

Readers for the characters between the delimiters of a tag. A reader takes something off the front
and leaves the rest; when it fails, the next alternative starts at the same place. The words of a
tag are kept apart by spaces, tabs and line ends.

An integer too large for the language is no reason to stop: it is reported only when everything else
can be read. So a reader also carries the first such integer.

## Main definitions

* `Imprint.Template.Input`, `Imprint.Template.Reader`: what is read and how.
* `Imprint.Template.Reader.many`, `Imprint.Template.Reader.separated`: repetition.
* `Imprint.Template.Reader.name`, `Imprint.Template.Reader.quoted`,
  `Imprint.Template.Reader.integer`, `Imprint.Template.Reader.pointed`: the smallest things that are
  read.
-/

namespace Imprint.Template

/-- What is left to read, and the first integer that was too large. -/
structure Input where
  rest : List Char
  tooLarge : Option Int := none
  deriving Repr

/-- A reader takes something off the front, or fails. -/
abbrev Reader (α : Type) := StateT Input Option α

namespace Reader

variable {α β : Type}

/-- One character of a kind. -/
def one (kind : Char → Bool) : Reader Char := fun s =>
  match s.rest with
  | c :: r => if kind c then some (c, { s with rest := r }) else none
  | [] => none

/-- The characters of a kind at the front, perhaps none. -/
def all (kind : Char → Bool) : Reader (List Char) := fun s =>
  some (s.rest.takeWhile kind, { s with rest := s.rest.dropWhile kind })

/-- The characters of a kind at the front, at least one. -/
def atLeastOne (kind : Char → Bool) : Reader (List Char) :=
  return (← one kind) :: (← all kind)

/-- The given characters. -/
def chars (w : List Char) : Reader Unit := fun s =>
  (Text.after? w s.rest).map fun r => ((), { s with rest := r })

/-- The given text. -/
def text (w : String) : Reader Unit :=
  chars w.toList

/-- The end of what is read. -/
def finish : Reader Unit := fun s =>
  if s.rest.isEmpty then some ((), s) else none

/-- Something that stands for `a`. -/
def means (p : Reader β) (a : α) : Reader α := do
  discard p
  return a

/-- A thing as often as it is there, at most `n` times. -/
def atMost (p : Reader α) : Nat → Reader (List α)
  | 0 => pure []
  | n + 1 => (do
      let a ← p
      return a :: (← atMost p n)) <|> pure []

/-- A thing as often as it is there; it takes at least one character each time. -/
def many (p : Reader α) : Reader (List α) := do
  atMost p (← get).rest.length

/-- The first reader that succeeds. -/
def firstOf : List (Reader α) → Reader α
  | [] => failure
  | p :: ps => p <|> firstOf ps

/-! ### Blanks -/

/-- A character that keeps the words of a tag apart. -/
def isSpace (c : Char) : Bool :=
  c == ' ' || c == '\t' || c == '\r' || c == '\n'

/-- Blanks, perhaps none. -/
def spaces : Reader Unit :=
  discard (all isSpace)

/-- Blanks, at least one. -/
def gap : Reader Unit :=
  discard (atLeastOne isSpace)

/-- Something with the blanks after it. -/
def token (p : Reader α) : Reader α := do
  let a ← p
  spaces
  return a

/-- The given text with the blanks after it. -/
def symbol (w : String) : Reader Unit :=
  token (text w)

/-- The given word with at least one blank after it. -/
def keyword (w : String) : Reader Unit := do
  text w
  gap

/-- Things with a separator between any two of them, at least one. -/
def separated (p : Reader α) (separator : Reader β) : Reader (List α) := do
  let a ← p
  return a :: (← many (do
    discard separator
    p))

/-! ### Names, texts and numbers -/

/-- A character that names start with. -/
def isNameStart (c : Char) : Bool :=
  c.isAlpha || c == '_'

/-- A character of a name. -/
def isNameChar (c : Char) : Bool :=
  c.isAlphanum || c == '_'

/-- A name. -/
def name : Reader (List Char) :=
  return (← one isNameStart) :: (← all isNameChar)

/-- A name with the blanks after it. -/
def nameToken : Reader String :=
  String.ofList <$> token name

/-- The three quotes. -/
def isQuote (c : Char) : Bool :=
  c == '"' || c == '\'' || c == '\x60'

/-- A quoted text: a quote, the characters up to the same quote, and that quote. -/
def quoted : Reader (Char × List Char) := do
  let q ← one isQuote
  let s ← all (· != q)
  chars [q]
  return (q, s)

/-- What stands between the quotes, with the blanks after it. -/
def quotedToken : Reader (List Char) :=
  (·.2) <$> token quoted

/-- The digits of an integer, without zeros in front. -/
def digits : Reader (List Char) :=
  (do
    chars ['0']
    return ['0']) <|> do
  return (← one fun c => c.isDigit && c != '0') :: (← all Char.isDigit)

/-- An integer as it is written. -/
def signedDigits : Reader (List Char) := do
  match ← optional (chars ['-']) with
  | some _ => return '-' :: (← digits)
  | none => digits

/-- A number with a point and digits on both sides, as it is written. -/
def pointed : Reader (List Char) := do
  let whole ← signedDigits
  chars ['.']
  return whole ++ '.' :: (← atLeastOne Char.isDigit)

/-- The value of some digits. -/
def decimalValue (ds : List Char) : Nat :=
  ds.foldl (fun n c => 10 * n + (c.toNat - '0'.toNat)) 0

/-- The value of an integer as it is written. -/
def integerValue : List Char → Int
  | '-' :: ds => -(decimalValue ds : Int)
  | ds => decimalValue ds

/-- Whether an integer is one of the language. -/
def inRange (n : Int) : Bool :=
  Decimal.fitsSigned 64 n

/-- An integer with the blanks after it. -/
def integer : Reader Int := do
  let n := integerValue (← token signedDigits)
  modify fun s =>
    if inRange n then s else { s with tooLarge := s.tooLarge <|> some n }
  return n

end Reader

end Imprint.Template
