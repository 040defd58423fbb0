import Imprint.Text.Blank
import Imprint.Text.Region

/-!
# Raw blocks

A raw block starts with the tag `{% raw %}` and ends with the first tag `{% endraw %}` after it.
Blank characters around the word are optional, and so is a hyphen inside each delimiter.

## Main definitions

* `Imprint.Template.wordTag?`: a tag that holds one word.
* `Imprint.Template.rawBlock?`: a raw block at the front of a text.
* `Imprint.Template.comment?`: a comment at the front of a text.
-/

namespace Imprint.Template

/-- The text without one hyphen at its start. -/
def dropHyphen : List Char → List Char
  | '-' :: r => r
  | s => s

/-- What follows the opening delimiter of a tag and the blanks after it. -/
def tagOpening? (s : List Char) : Option (List Char) :=
  (Text.after? ['{', '%'] s).map fun r => Text.trimStart (dropHyphen r)

/-- What follows a tag that holds one word. -/
def wordTag? (word s : List Char) : Option (List Char) := do
  let r ← tagOpening? s
  let r ← Text.after? word r
  Text.after? ['%', '}'] (dropHyphen (Text.trimStart r))

/-- What follows the first end tag. -/
def afterEnd? : List Char → Option (List Char)
  | [] => none
  | c :: r => wordTag? ['e', 'n', 'd', 'r', 'a', 'w'] (c :: r) <|> afterEnd? r

/-- A raw block at the front of a text, tags included, and what follows it. -/
def rawBlock? (s : List Char) : Option (List Char × List Char) := do
  let rest ← afterEnd? (← wordTag? ['r', 'a', 'w'] s)
  some (s.take (s.length - rest.length), rest)

/-- What follows the first closing delimiter of a comment. -/
def afterComment? : List Char → Option (List Char)
  | [] => none
  | '#' :: '}' :: r => some r
  | _ :: r => afterComment? r

/-- A comment at the front of a text, delimiters included, and what follows it. -/
def comment? (s : List Char) : Option (List Char × List Char) := do
  let rest ← afterComment? (← Text.after? ['{', '#'] s)
  some (s.take (s.length - rest.length), rest)

end Imprint.Template
