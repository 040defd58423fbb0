/-!
# Lines of a text

A line ends at a line feed; one carriage return right before that line feed belongs to the line end
and not to the line. What follows the last line feed is a line of its own when it is not empty, and
keeps a carriage return at its end.

## Main definitions

* `Imprint.Text.segments`: the pieces between the occurrences of one character.
* `Imprint.Text.lines`: the lines of a text, without their ends.
* `Imprint.Text.joinLines`: lines put together again, one line feed between two neighbours.

## Main results

* `Imprint.Text.segments_append_cons`: cutting at a separator cuts the two sides.
* `Imprint.Text.intercalate_segments`: no character is lost by cutting.
-/

namespace Imprint.Text

/-- The pieces of a text between the occurrences of `sep`, at least one. -/
def segments (sep : Char) : List Char → List (List Char)
  | [] => [[]]
  | c :: r =>
    if c = sep then [] :: segments sep r
    else match segments sep r with
      | [] => [[c]]
      | s :: t => (c :: s) :: t

/-- A line without the carriage return of its line end. -/
def dropReturn (line : List Char) : List Char :=
  match line.reverse with
  | '\r' :: r => r.reverse
  | _ => line

/-- Lines from the pieces between line feeds: the last piece is a line only when it is not empty. -/
def endLines : List (List Char) → List (List Char)
  | [] => []
  | [last] => if last.isEmpty then [] else [last]
  | line :: rest => dropReturn line :: endLines rest

/-- The lines of a text. -/
def lines (s : List Char) : List (List Char) :=
  endLines (segments '\n' s)

/-- Lines joined by line feeds; there is none after the last line. -/
def joinLines (ls : List (List Char)) : List Char :=
  List.intercalate ['\n'] ls

/-! ### Small facts -/

theorem segments_ne_nil (sep : Char) (s : List Char) : segments sep s ≠ [] := by
  cases s with
  | nil => simp [segments]
  | cons c r =>
    simp only [segments]
    split
    · simp
    · split <;> simp

theorem segments_of_notMem {sep : Char} {s : List Char} (h : sep ∉ s) : segments sep s = [s] := by
  induction s with
  | nil => rfl
  | cons c r ih =>
    simp only [List.mem_cons, not_or] at h
    simp [segments, Ne.symm h.1, ih h.2]

/-- A piece without the separator stays whole in front of a separator. -/
theorem segments_append_cons {sep : Char} {s : List Char} (h : sep ∉ s) (t : List Char) :
    segments sep (s ++ sep :: t) = s :: segments sep t := by
  induction s with
  | nil => simp [segments]
  | cons c r ih =>
    simp only [List.mem_cons, not_or] at h
    simp [segments, Ne.symm h.1, ih h.2]

/-- Cutting loses only the separators. -/
theorem intercalate_segments (sep : Char) (s : List Char) :
    List.intercalate [sep] (segments sep s) = s := by
  induction s with
  | nil => rfl
  | cons c r ih =>
    simp only [segments]
    split
    · next h =>
      subst h
      cases hs : segments c r with
      | nil => exact absurd hs (segments_ne_nil c r)
      | cons a t => simpa [List.intercalate, hs] using ih
    · cases hs : segments sep r with
      | nil => exact absurd hs (segments_ne_nil sep r)
      | cons a t =>
        rw [hs] at ih
        cases t <;> simp_all [List.intercalate]

@[simp] theorem lines_nil : lines [] = [] := rfl

end Imprint.Text
