import Imprint.Text.Blank
import Imprint.Text.CaseTable
import Imprint.Text.WordTable

/-!
# Upper and lower case

The case mappings of texts. Each character is mapped on its own, with one exception: a capital sigma
at the end of a word becomes the final form of the small sigma.

## Main definitions

* `Imprint.Text.upper`, `Imprint.Text.lower`: the mappings of a text.
* `Imprint.Text.capitalize`: first character in upper case, the others in lower case.
* `Imprint.Text.titleCase`: the same for each word of a text.
-/

namespace Imprint.Text

/-- Whether a run holds a code point. -/
def CaseRun.holds (run : CaseRun) (n : Nat) : Bool :=
  decide (run.first ≤ n) && decide (n ≤ run.last) && (n - run.first) % run.step == 0

/-- The counterpart of a character by a table of runs and one of longer texts. -/
def mapCase (runs : List CaseRun) (texts : List (Nat × List Nat)) (c : Char) : List Char :=
  match texts.lookup c.toNat with
  | some t => t.map Char.ofNat
  | none =>
    match runs.find? (·.holds c.toNat) with
    | some run => [Char.ofNat (c.toNat + run.distance).toNat]
    | none => [c]

/-- The upper case of a character. -/
def upperChar (c : Char) : List Char :=
  mapCase upperRuns upperTexts c

/-- The lower case of a character, seen on its own. -/
def lowerChar (c : Char) : List Char :=
  mapCase lowerRuns lowerTexts c

/-- Whether the first character that counts is a letter with a case. -/
def casedNext (s : List Char) : Bool :=
  match s.dropWhile fun c => inRanges caseIgnorableRanges c.toNat with
  | c :: _ => inRanges casedRanges c.toNat
  | [] => false

/-- The lower case of a text that stands behind the reversed text `before`. -/
def lowerAfter (before : List Char) : List Char → List Char
  | [] => []
  | c :: r =>
    (if c = 'Σ' then (if casedNext before && !casedNext r then ['ς'] else ['σ'])
      else lowerChar c) ++ lowerAfter (c :: before) r

/-- The text in upper case. -/
def upper (s : List Char) : List Char :=
  s.flatMap upperChar

/-- The text in lower case. -/
def lower (s : List Char) : List Char :=
  lowerAfter [] s

/-- The text with its first character in upper case and the others in lower case. -/
def capitalize : List Char → List Char
  | [] => []
  | c :: r => upperChar c ++ lower r

/-- Whether words are made of this character. -/
def isWordChar (c : Char) : Bool :=
  inRanges wordRanges c.toNat

/-- A stretch of word characters and apostrophes, capitalised between the apostrophes at its ends.
-/
def titleStretch (s : List Char) : List Char :=
  let core := (s.dropWhile (· == '\'')).reverse.dropWhile (· == '\'')
  let front := s.takeWhile (· == '\'')
  front ++ capitalize core.reverse ++ s.drop (front.length + core.length)

/-- The text with its words capitalised, `stretch` being the reversed characters of a word that has
begun. An apostrophe inside a word belongs to it. -/
def titleFrom (stretch : List Char) : List Char → List Char
  | [] => titleStretch stretch.reverse
  | c :: r =>
    if isWordChar c || c == '\'' then titleFrom (c :: stretch) r
    else titleStretch stretch.reverse ++ c :: titleFrom [] r

/-- The text with its words capitalised. -/
def titleCase (s : List Char) : List Char :=
  titleFrom [] s

/-! ### Small facts -/

@[simp] theorem upper_nil : upper [] = [] := rfl

theorem upper_append (s t : List Char) : upper (s ++ t) = upper s ++ upper t := by
  simp [upper]

@[simp] theorem lower_nil : lower [] = [] := rfl

@[simp] theorem titleCase_nil : titleCase [] = [] := rfl

end Imprint.Text
