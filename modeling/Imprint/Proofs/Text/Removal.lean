import Imprint.Text.Search
import Mathlib.Data.List.Infix

/-!
# Texts without the occurrences of another

Occurrences are looked for from the left and never overlap. So a text in which another one is looked
for is cut into pieces: each ends where the next occurrence begins, and the last one holds none.
What is left when all occurrences are removed are the pieces, and an occurrence that stands there
goes from one piece over to another.

## Main definitions

* `Imprint.Text.Pieces`: the pieces of a text.

## Main results

* `Imprint.Text.exists_first`: the first occurrence.
* `Imprint.Text.exists_pieces`: every text has pieces.
* `Imprint.Text.Pieces.replaceAll_nil`: what is left when the occurrences are removed.
* `Imprint.Text.Pieces.flatten_eq_iff`: everything is left only of a text without occurrences.
-/

namespace Imprint.Text

variable {old new p r s : List Char} {ps : List (List Char)}

/-! ### The first occurrence -/

theorem dropLast_isPrefix (p old r : List Char) : p ++ old.dropLast <+: p ++ (old ++ r) := by
  rw [List.prefix_append_right_inj]
  exact (List.dropLast_prefix old).trans (List.prefix_append old r)

/-- Where a text occurs, it occurs first. -/
theorem exists_first (hold : old ≠ []) (h : old <:+: s) :
    ∃ p r, s = p ++ (old ++ r) ∧ ¬ old <:+: p ++ old.dropLast := by
  have hshort : ¬ old <:+: old.dropLast := by
    intro h
    have hle := h.length_le
    have hpos := List.length_pos_iff.2 hold
    rw [List.length_dropLast] at hle
    omega
  induction s with
  | nil => exact absurd (List.infix_nil.1 h) hold
  | cons c s ih =>
    by_cases hstart : old <+: c :: s
    · obtain ⟨r, hr⟩ := hstart
      exact ⟨[], r, hr.symm, hshort⟩
    · obtain ⟨p, r, rfl, hp⟩ := ih ((List.infix_cons_iff.1 h).resolve_left hstart)
      refine ⟨c :: p, r, rfl, fun hc => ?_⟩
      rcases List.infix_cons_iff.1 hc with hc | hc
      · exact hstart (hc.trans (dropLast_isPrefix (c :: p) old r))
      · exact hp hc

/-- No occurrence begins in front of the first one. -/
theorem not_startsWith_of_first {c : Char} (h : ¬ old <:+: c :: p ++ old.dropLast) (r : List Char) :
    startsWith old (c :: (p ++ (old ++ r))) = false := by
  rw [Bool.eq_false_iff, ne_eq, startsWith_iff]
  intro hstart
  have hfront := dropLast_isPrefix (c :: p) old r
  refine h (List.prefix_of_prefix_length_le hstart hfront ?_).isInfix
  simp only [List.length_cons, List.length_append, List.length_dropLast]
  omega

/-! ### Replacing from the left -/

theorem replaceFrom_eq_drop (old new : List Char) (k : Nat) (s : List Char) :
    replaceFrom old new k s = replaceFrom old new 0 (s.drop k) := by
  induction s generalizing k with
  | nil => cases k <;> rfl
  | cons c s ih =>
    cases k with
    | zero => rfl
    | succ k => exact ih k

/-- The first occurrence is replaced, and then those behind it. -/
theorem replaceFrom_append (hold : old ≠ []) (h : ¬ old <:+: p ++ old.dropLast) (r : List Char) :
    replaceFrom old new 0 (p ++ (old ++ r)) = p ++ (new ++ replaceFrom old new 0 r) := by
  induction p with
  | nil =>
    obtain ⟨c, w, rfl⟩ := List.exists_cons_of_ne_nil hold
    have hstart : startsWith (c :: w) (c :: (w ++ r)) = true :=
      startsWith_iff.2 (List.prefix_append (c :: w) r)
    simp only [List.nil_append, List.cons_append, replaceFrom, hstart, ↓reduceIte]
    rw [replaceFrom_eq_drop]
    simp
  | cons c p ih =>
    have hstart := not_startsWith_of_first h r
    have hp : ¬ old <:+: p ++ old.dropLast := fun hp =>
      h (hp.trans (List.suffix_cons c (p ++ old.dropLast)).isInfix)
    simp only [List.cons_append, replaceFrom, hstart, ih hp]
    rfl

/-! ### Pieces -/

/-- A text and its pieces between the occurrences of another one. -/
inductive Pieces (old : List Char) : List Char → List (List Char) → Prop where
  /-- The text does not occur any more. -/
  | last {s : List Char} (h : ¬ old <:+: s) : Pieces old s [s]
  /-- The first piece, and the text that it is cut at, which does not begin any earlier. -/
  | cut {p r : List Char} {ps : List (List Char)} (h : ¬ old <:+: p ++ old.dropLast)
      (hr : Pieces old r ps) : Pieces old (p ++ (old ++ r)) (p :: ps)

/-- Every text has pieces. -/
theorem exists_pieces (hold : old ≠ []) (s : List Char) : ∃ ps, Pieces old s ps := by
  induction hn : s.length using Nat.strongRecOn generalizing s with
  | ind n ih =>
    subst hn
    by_cases hs : old <:+: s
    · obtain ⟨p, r, rfl, hp⟩ := exists_first hold hs
      have hpos := List.length_pos_iff.2 hold
      obtain ⟨ps, hr⟩ := ih r.length (by simp only [List.length_append]; omega) r rfl
      exact ⟨p :: ps, .cut hp hr⟩
    · exact ⟨[s], .last hs⟩

theorem Pieces.ne_nil (h : Pieces old s ps) : ps ≠ [] := by
  cases h <;> simp

/-- A text is cut at least once if the other one occurs in it. -/
theorem Pieces.two_le_length (h : Pieces old s ps) (hs : old <:+: s) : 2 ≤ ps.length := by
  cases h with
  | last h => exact absurd hs h
  | cut _ hr =>
    have hpos := List.length_pos_iff.2 hr.ne_nil
    simp only [List.length_cons]
    omega

/-- The text that is removed stands in none of the pieces. -/
theorem Pieces.not_isInfix (h : Pieces old s ps) : ∀ p ∈ ps, ¬ old <:+: p := by
  induction h with
  | last h => simpa using h
  | @cut p r ps h _ ih =>
    rintro q (_ | ⟨_, hq⟩)
    · exact fun hp => h (hp.trans (List.prefix_append p _).isInfix)
    · exact ih q hq

/-- The pieces are what is left when the occurrences are removed. -/
theorem Pieces.replaceAll_nil (h : Pieces old s ps) (hold : old ≠ []) :
    replaceAll old [] s = ps.flatten := by
  have hempty : old.isEmpty = false := by simpa using hold
  simp only [replaceAll, hempty, Bool.false_eq_true, ↓reduceIte]
  induction h with
  | last h =>
    have hoccurs : occursIn old _ = false := Bool.eq_false_iff.2 (mt occursIn_iff.1 h)
    rw [replaceFrom_of_not_occursIn [] hoccurs]
    simp
  | cut h _ ih => rw [replaceFrom_append hold h, ih, List.flatten_cons, List.nil_append]

/-- What is left is no longer than the text. -/
theorem Pieces.length_flatten_le (h : Pieces old s ps) : ps.flatten.length ≤ s.length := by
  induction h with
  | last => simp
  | cut _ _ ih =>
    simp only [List.flatten_cons, List.length_append]
    omega

/-- Everything is left only of a text without occurrences. -/
theorem Pieces.flatten_eq_iff (h : Pieces old s ps) (hold : old ≠ []) :
    ps.flatten = s ↔ ¬ old <:+: s := by
  cases h with
  | last h => simpa using h
  | @cut p r ps _ hr =>
    have hinfix : old <:+: p ++ (old ++ r) := ⟨p, r, by simp⟩
    refine iff_of_false (fun heq => ?_) (not_not_intro hinfix)
    have hlength := congrArg List.length heq
    have hle := hr.length_flatten_le
    have hpos := List.length_pos_iff.2 hold
    simp only [List.flatten_cons, List.length_append] at hlength
    omega

/-- The characters of the pieces are characters of the text. -/
theorem Pieces.mem_of_mem_flatten (h : Pieces old s ps) {c : Char} (hc : c ∈ ps.flatten) :
    c ∈ s := by
  induction h with
  | last => simpa using hc
  | cut _ _ ih =>
    rw [List.flatten_cons, List.mem_append] at hc
    rcases hc with hc | hc
    · exact List.mem_append_left _ hc
    · exact List.mem_append_right _ (List.mem_append_right _ (ih hc))

end Imprint.Text
