import Imprint.Text.Blank
import Imprint.Text.Search

/-!
# Markers

A marker is the pair of characters that introduces a directive line. A line is opened by a marker
when the marker is followed by a space.

## Main definitions

* `Imprint.Marker`: two characters, neither of them blank.
* `Imprint.Marker.ofString?`: a marker read from a text.
* `Imprint.Marker.opens`: whether a marker opens a line.

## Main results

* `Imprint.Marker.ofString?_eq_some_iff`: which texts are markers.
-/

namespace Imprint

/-- Two characters that are not blank. -/
structure Marker where
  first : Char
  second : Char
  first_not_blank : Text.isBlank first = false
  second_not_blank : Text.isBlank second = false
  deriving DecidableEq, Repr

namespace Marker

/-- The marker of a template that does not choose one. -/
def standard : Marker :=
  ⟨'#', '#', by decide, by decide⟩

instance : Inhabited Marker := ⟨standard⟩

/-- The characters of a marker. -/
def chars (m : Marker) : List Char :=
  [m.first, m.second]

/-- The text of a marker. -/
def text (m : Marker) : String :=
  String.ofList m.chars

/-- The marker whose text is given; there is one exactly for two characters that are not blank. -/
def ofString? (token : String) : Option Marker :=
  match token.toList with
  | [a, b] =>
    if h : Text.isBlank a = false ∧ Text.isBlank b = false then some ⟨a, b, h.1, h.2⟩ else none
  | _ => none

/-- Whether a line begins with the marker and a space. -/
def opens (m : Marker) (line : List Char) : Bool :=
  Text.startsWith (m.chars ++ [' ']) line

/-! ### Small facts -/

theorem ofString?_eq_some_iff {token : String} {m : Marker} :
    ofString? token = some m ↔ m.text = token := by
  constructor
  · intro h
    simp only [ofString?] at h
    split at h
    · next a b hab =>
      split at h
      · obtain rfl := Option.some.inj h
        simp [text, chars, ← hab]
      · simp at h
    · simp at h
  · rintro rfl
    simp [ofString?, text, chars, m.first_not_blank, m.second_not_blank]

end Marker

end Imprint
