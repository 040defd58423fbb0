import Imprint.Template.RawBlock
import Imprint.Template.Reading

/-!
# Pieces of a template

A template text is cut into pieces before anything in them is read: plain text, comments, raw
blocks, and what stands between the delimiters `{{ }}` and `{% %}`. A closing delimiter inside a
quoted text does not count. A hyphen inside a delimiter asks for the blanks outside to be removed.

## Main definitions

* `Imprint.Template.Trim`: the hyphens of a pair of delimiters.
* `Imprint.Template.Piece`: a piece.
* `Imprint.Template.pieces?`: the pieces of a text.
-/

namespace Imprint.Template

/-- Whether blanks are removed in front of a pair of delimiters and behind it. -/
structure Trim where
  before : Bool := false
  after : Bool := false
  deriving DecidableEq, Repr

/-- A piece of a template. -/
inductive Piece where
  | text (s : List Char)
  | comment (trim : Trim)
  /-- A raw block, with the hyphens of its two tags. -/
  | raw (opening : Trim) (s : List Char) (closing : Trim)
  | output (trim : Trim) (inner : List Char)
  | tag (trim : Trim) (inner : List Char)
  deriving DecidableEq, Repr

/-- What stands in front of the first closing delimiter, whose two characters are given, and what
follows it; `quote` is the quote of the text that the first character is in. -/
def untilDelimiter? (a b : Char) : Option Char → List Char → Option (List Char × List Char)
  | _, [] => none
  | some q, c :: r =>
    (untilDelimiter? a b (if c = q then none else some q) r).map fun x => (c :: x.1, x.2)
  | none, c :: r =>
    if c = a ∧ r.head? = some b then some ([], r.tail)
    else
      (untilDelimiter? a b (if Reader.isQuote c then some c else none) r).map fun x =>
        (c :: x.1, x.2)

/-- What stands between two delimiters, without its hyphens. -/
def ofDelimited (inner : List Char) : Trim × List Char :=
  let s := dropHyphen inner
  let t := (dropHyphen s.reverse).reverse
  (⟨s.length < inner.length, t.length < s.length⟩, t)

/-- A tag with one word, with its hyphens, and what follows it. -/
def plainTag? (word : List Char) (s : List Char) : Option (Trim × List Char) := do
  let (inner, rest) ← untilDelimiter? '%' '}' none (← Text.after? ['{', '%'] s)
  let (trim, inner) := ofDelimited inner
  let inner := (inner.dropWhile Reader.isSpace).reverse.dropWhile Reader.isSpace
  if inner.reverse = word then some (trim, rest) else none

/-- The text up to the tag that ends a raw block, that tag, and what follows it. -/
def untilEnd? : List Char → Option (List Char × Trim × List Char)
  | [] => none
  | c :: r =>
    match plainTag? "endraw".toList (c :: r) with
    | some (trim, rest) => some ([], trim, rest)
    | none => (untilEnd? r).map fun x => (c :: x.1, x.2)

/-- A comment without its delimiters, and what follows it. -/
def untilCommentEnd? : List Char → Option (List Char × List Char)
  | [] => none
  | '#' :: '}' :: r => some ([], r)
  | c :: r => (untilCommentEnd? r).map fun x => (c :: x.1, x.2)

/-- A piece other than plain text at the front of a text, and what follows it. -/
def piece? (s : List Char) : Option (Piece × List Char) :=
  match s with
  | '{' :: '{' :: r => do
    let (inner, rest) ← untilDelimiter? '}' '}' none r
    let (trim, inner) := ofDelimited inner
    some (.output trim inner, rest)
  | '{' :: '#' :: r => do
    let (inner, rest) ← untilCommentEnd? r
    let (trim, inner) := ofDelimited inner
    if inner.isEmpty then none else some (.comment trim, rest)
  | '{' :: '%' :: r =>
    match plainTag? "raw".toList s with
    | some (opening, r) => do
      let (inner, closing, rest) ← untilEnd? r
      some (.raw opening inner closing, rest)
    | none => do
      let (inner, rest) ← untilDelimiter? '%' '}' none r
      let (trim, inner) := ofDelimited inner
      some (.tag trim inner, rest)
  | _ => none

/-- Whether an opening delimiter stands at the front of a text. -/
def opensPiece (s : List Char) : Bool :=
  [['{', '{'], ['{', '%'], ['{', '#']].any (Text.startsWith · s)

/-- A piece other than plain text at the front of a text, and what follows it. An opening delimiter
without its partner spoils all of the text. -/
def delimited? (s : List Char) : Option (Option Piece × List Char) :=
  match piece? s with
  | some (p, rest) => some (some p, rest)
  | none => if opensPiece s then some (none, []) else none

/-- The pieces of a text, unless an opening delimiter is without its partner. -/
def pieces? (s : List Char) : Option (List Piece) :=
  (Text.regions delimited? s).mapM fun
    | .plain t => some (.text t)
    | .found p => p

end Imprint.Template
