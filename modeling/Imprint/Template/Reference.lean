import Imprint.Template.RawBlock

/-!
# References between templates

A template names the templates that it needs in its `include`, `import` and `extends` tags. They are
found in the flat text, before it is parsed, so that the named templates can be loaded first.
Comments and raw blocks are taken out of the text beforehand.

## Main definitions

* `Imprint.Template.Reference`: a name, and whether the template may be missing.
* `Imprint.Template.references`: the references of a text, in order.
-/

namespace Imprint.Template

/-- A template that another one names. -/
structure Reference where
  name : String
  /-- Whether the tag holds the words `ignore missing`. -/
  optional : Bool
  deriving DecidableEq, Repr

/-- A comment or a raw block at the front of a text. -/
def inert? (s : List Char) : Option (List Char × List Char) :=
  comment? s <|> rawBlock? s

/-- The words that start a tag with a reference. -/
def referenceWords : List (List Char) :=
  [['i', 'n', 'c', 'l', 'u', 'd', 'e'], ['i', 'm', 'p', 'o', 'r', 't'],
   ['e', 'x', 't', 'e', 'n', 'd', 's']]

/-- What follows at least one blank character and all others after it. -/
def afterBlanks? : List Char → Option (List Char)
  | [] => none
  | c :: r => if Text.isBlank c then some (Text.trimStart r) else none

/-- A single or a double quote. -/
def isQuote (c : Char) : Bool :=
  c == '"' || c == '\''

/-- A tag with a reference at the front of a text, and what follows it. The name holds no quote, and
the tag ends at the first percent sign after it. -/
def reference? (s : List Char) : Option (Reference × List Char) := do
  let r ← tagOpening? s
  let r ← (referenceWords.findSome? (Text.after? · r)).bind afterBlanks?
  match r with
  | q :: r =>
    let (name, r) ← Text.cutWhere? isQuote r
    let (tail, r) ← Text.cutAt? '%' r
    let rest ← Text.after? ['}'] r
    if isQuote q && !name.isEmpty then
      some (⟨String.ofList name, Text.occursIn "ignore missing".toList tail⟩, rest)
    else none
  | [] => none

/-- The references of a text. -/
def references (s : List Char) : List Reference :=
  Text.findAll reference? (Text.removeAll inert? s)

end Imprint.Template
