/-!
# Blank characters and trimming

A character is *blank* when it has the Unicode property `White_Space`. Trimming removes the blank
characters at the ends of a text and keeps everything between them. A text is handled here as the
list of its characters.

## Main definitions

* `Imprint.Text.blankRanges`: the code points of the property, as closed ranges in order.
* `Imprint.Text.isBlank`: the test for one character.
* `Imprint.Text.trimStart`, `Imprint.Text.trimEnd`, `Imprint.Text.trim`: trimming.

## Main results

* `Imprint.Text.isBlank_of_isWhitespace`: every character that is white space in the core library
  is blank.
* `Imprint.Text.trim_eq_nil_iff`: a text trims to nothing exactly when all of it is blank.
-/

namespace Imprint.Text

/-- The code points with the property `White_Space`, as closed ranges in increasing order. -/
def blankRanges : List (Nat × Nat) :=
  [(0x0009, 0x000D), (0x0020, 0x0020), (0x0085, 0x0085), (0x00A0, 0x00A0), (0x1680, 0x1680),
   (0x2000, 0x200A), (0x2028, 0x2029), (0x202F, 0x202F), (0x205F, 0x205F), (0x3000, 0x3000)]

/-- Whether a code point lies in one of the given closed ranges. -/
def inRanges (ranges : List (Nat × Nat)) (n : Nat) : Bool :=
  ranges.any fun r => decide (r.1 ≤ n) && decide (n ≤ r.2)

/-- Whether a character is blank. -/
def isBlank (c : Char) : Bool :=
  inRanges blankRanges c.toNat

/-- The text without the blank characters at its start. -/
def trimStart (s : List Char) : List Char :=
  s.dropWhile isBlank

/-- The text without the blank characters at its end. -/
def trimEnd (s : List Char) : List Char :=
  (s.reverse.dropWhile isBlank).reverse

/-- The text without the blank characters at its two ends. -/
def trim (s : List Char) : List Char :=
  trimEnd (trimStart s)

/-- A text of blank characters only, the empty text included. -/
def isAllBlank (s : List Char) : Bool :=
  s.all isBlank

/-! ### Small facts -/

theorem isBlank_of_isWhitespace {c : Char} (h : c.isWhitespace = true) : isBlank c = true := by
  simp only [Char.isWhitespace, Bool.or_eq_true, decide_eq_true_eq] at h
  rcases h with ((rfl | rfl) | rfl) | rfl <;> decide

@[simp] theorem trimStart_nil : trimStart [] = [] := rfl

@[simp] theorem trimEnd_nil : trimEnd [] = [] := rfl

@[simp] theorem trim_nil : trim [] = [] := rfl

theorem trimStart_eq_nil_iff {s : List Char} : trimStart s = [] ↔ ∀ c ∈ s, isBlank c = true := by
  induction s with
  | nil => simp
  | cons c r ih =>
    by_cases h : isBlank c = true
    · have hr : trimStart (c :: r) = trimStart r := by
        simp only [trimStart, List.dropWhile_cons, h, ↓reduceIte]
      rw [hr, ih, List.forall_mem_cons, and_iff_right h]
    · simp [trimStart, h]

theorem trimEnd_eq_nil_iff {s : List Char} : trimEnd s = [] ↔ ∀ c ∈ s, isBlank c = true := by
  rw [trimEnd, List.reverse_eq_nil_iff, ← trimStart, trimStart_eq_nil_iff]
  simp only [List.mem_reverse]

/-- The first character that trimming at the start keeps is not blank. -/
theorem head_trimStart {s : List Char} {c : Char} {r : List Char} (h : trimStart s = c :: r) :
    isBlank c = false := by
  induction s with
  | nil => simp at h
  | cons a t ih =>
    by_cases ha : isBlank a = true
    · exact ih (by simpa [trimStart, List.dropWhile_cons, ha] using h)
    · simp only [trimStart, List.dropWhile_cons, ha] at h
      simp only [Bool.not_eq_true] at ha
      simp_all

theorem trim_eq_nil_iff {s : List Char} : trim s = [] ↔ ∀ c ∈ s, isBlank c = true := by
  constructor
  · intro h
    cases hs : trimStart s with
    | nil => exact trimStart_eq_nil_iff.1 hs
    | cons c r =>
      have hc := head_trimStart hs
      have := trimEnd_eq_nil_iff.1 (by simpa [trim, hs] using h) c (by simp)
      simp [hc] at this
  · intro h
    simp [trim, trimStart_eq_nil_iff.2 h]

end Imprint.Text
