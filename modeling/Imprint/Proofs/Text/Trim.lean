import Mathlib.Data.List.TakeWhile
import Imprint.Text.Blank

/-!
# Trimmed texts

Trimming leaves a text as it is exactly when no blank character stands at either end, and what it
gives is such a text. So trimming twice is trimming once.

## Main results

* `Imprint.Text.trim_eq_self_iff`: which texts trimming leaves as they are.
* `Imprint.Text.trim_trim`: trimming twice.
* `Imprint.Text.isInfix_trim`: trimming keeps a stretch of the text.
-/

namespace Imprint.Text

variable {s : List Char} {c : Char}

theorem trimStart_cons (c : Char) (s : List Char) :
    trimStart (c :: s) = if isBlank c then trimStart s else c :: s := by
  simp only [trimStart, List.dropWhile_cons]

theorem trimStart_eq_self_iff : trimStart s = s ↔ ∀ c ∈ s.head?, isBlank c = false := by
  cases s with
  | nil => simp
  | cons c r =>
    by_cases hc : isBlank c = true
    · have hne : trimStart r ≠ c :: r := by
        intro h
        have hlen : (trimStart r).length ≤ r.length := (List.dropWhile_suffix _).length_le
        simp only [h, List.length_cons] at hlen
        omega
      simp [trimStart_cons, hc, hne]
    · simp [trimStart_cons, hc]

theorem trimEnd_eq_self_iff : trimEnd s = s ↔ ∀ c ∈ s.getLast?, isBlank c = false := by
  have hs : trimEnd s = (trimStart s.reverse).reverse := rfl
  rw [hs, List.reverse_eq_iff, trimStart_eq_self_iff, List.head?_reverse]

/-- Trimming the end of two texts in a row reaches the first one when the second one is blank. -/
theorem trimEnd_append (s t : List Char) :
    trimEnd (s ++ t) = if (trimEnd t).isEmpty then trimEnd s else s ++ trimEnd t := by
  simp only [trimEnd, List.reverse_append, List.dropWhile_append, List.isEmpty_reverse]
  split <;> simp

theorem isSuffix_trimStart (s : List Char) : trimStart s <:+ s :=
  List.dropWhile_suffix _

theorem isPrefix_trimEnd (s : List Char) : trimEnd s <+: s := by
  have h : trimStart s.reverse <:+ s.reverse := isSuffix_trimStart s.reverse
  rw [← List.reverse_prefix, List.reverse_reverse] at h
  exact h

/-- Trimming keeps a stretch of the text. -/
theorem isInfix_trim (s : List Char) : trim s <:+: s :=
  (isPrefix_trimEnd (trimStart s)).isInfix.trans (isSuffix_trimStart s).isInfix

/-- What is trimmed are the blank characters at both ends. -/
theorem exists_blanks_trim (s : List Char) :
    ∃ a b, (∀ c ∈ a, isBlank c = true) ∧ (∀ c ∈ b, isBlank c = true) ∧
      s = a ++ (trim s ++ b) := by
  refine ⟨s.takeWhile isBlank, ((trimStart s).reverse.takeWhile isBlank).reverse,
    fun _ => List.mem_takeWhile_imp, fun _ hc => List.mem_takeWhile_imp (List.mem_reverse.1 hc), ?_⟩
  have hend : trim s ++ ((trimStart s).reverse.takeWhile isBlank).reverse = trimStart s := by
    rw [trim, trimEnd, ← List.reverse_append, List.takeWhile_append_dropWhile,
      List.reverse_reverse]
  rw [hend]
  exact List.takeWhile_append_dropWhile.symm

theorem mem_of_mem_trim (h : c ∈ trim s) : c ∈ s :=
  (isInfix_trim s).subset h

theorem trimStart_trimStart (s : List Char) : trimStart (trimStart s) = trimStart s := by
  rw [trimStart_eq_self_iff]
  intro c hc
  obtain ⟨r, hr⟩ := List.head?_eq_some_iff.1 hc
  exact head_trimStart hr

theorem trimEnd_trimEnd (s : List Char) : trimEnd (trimEnd s) = trimEnd s := by
  have hs : ∀ t, trimEnd t = (trimStart t.reverse).reverse := fun _ => rfl
  rw [hs, hs, List.reverse_reverse, trimStart_trimStart]

/-- A text is left as it is when neither its first nor its last character is blank. -/
theorem trim_eq_self_iff :
    trim s = s ↔ (∀ c ∈ s.head?, isBlank c = false) ∧ ∀ c ∈ s.getLast?, isBlank c = false := by
  constructor
  · intro h
    have hlen : (trim s).length ≤ (trimStart s).length := (isPrefix_trimEnd _).length_le
    rw [h] at hlen
    have hstart : trimStart s = s := (isSuffix_trimStart s).eq_of_length_le hlen
    rw [trim, hstart] at h
    exact ⟨trimStart_eq_self_iff.1 hstart, trimEnd_eq_self_iff.1 h⟩
  · rintro ⟨hhead, hlast⟩
    rw [trim, trimStart_eq_self_iff.2 hhead, trimEnd_eq_self_iff.2 hlast]

theorem trimStart_append_blank (hc : isBlank c = true) (s : List Char) :
    trimEnd (trimStart (s ++ [c])) = trimEnd (trimStart s) := by
  induction s with
  | nil => simp [trimStart_cons, hc]
  | cons d s ih =>
    rw [List.cons_append, trimStart_cons, trimStart_cons]
    split
    · exact ih
    · simp [trimEnd, hc]

/-- A blank character at the end is trimmed. -/
theorem trim_append_blank (hc : isBlank c = true) (s : List Char) : trim (s ++ [c]) = trim s :=
  trimStart_append_blank hc s

/-- Blank characters at the end are trimmed. -/
theorem trim_append_of_blank {t : List Char} (ht : ∀ c ∈ t, isBlank c = true) (s : List Char) :
    trim (s ++ t) = trim s := by
  induction t generalizing s with
  | nil => rw [List.append_nil]
  | cons c t ih =>
    rw [List.forall_mem_cons] at ht
    rw [List.append_cons, ih ht.2, trim_append_blank ht.1]

theorem trim_trimEnd (s : List Char) : trim (trimEnd s) = trim s := by
  have hsplit : trimEnd s ++ (s.reverse.takeWhile isBlank).reverse = s := by
    rw [trimEnd, ← List.reverse_append, List.takeWhile_append_dropWhile, List.reverse_reverse]
  have hblank : ∀ c ∈ (s.reverse.takeWhile isBlank).reverse, isBlank c = true :=
    fun _ hc => List.mem_takeWhile_imp (List.mem_reverse.1 hc)
  rw [← trim_append_of_blank hblank (trimEnd s), hsplit]

theorem trim_trim (s : List Char) : trim (trim s) = trim s := by
  rw [trim_eq_self_iff]
  constructor
  · intro c hc
    obtain ⟨t, ht⟩ := isPrefix_trimEnd (trimStart s)
    have hhead : c ∈ (trimStart s).head? := by
      rw [trim, Option.mem_def] at hc
      rw [← ht, List.head?_append, hc]
      rfl
    exact trimStart_eq_self_iff.1 (trimStart_trimStart s) c hhead
  · exact trimEnd_eq_self_iff.1 (trimEnd_trimEnd _)

end Imprint.Text
