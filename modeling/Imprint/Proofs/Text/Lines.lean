import Imprint.Proofs.Text.Trim
import Imprint.Text.Lines

/-!
# Texts put together from pieces and lines

A text is cut into pieces at a separator, or into lines at the line ends. No piece holds the
separator and no line a line feed, so pieces that are put together with a separator between them and
lines that are put together with an end after each come out as they went in.

## Main results

* `Imprint.Text.segments_append_sep`, `Imprint.Text.segments_append_of_notMem`: the pieces of a text
  that is put together from two.
* `Imprint.Text.segments_intercalate`: cutting undoes joining.
* `Imprint.Text.lines_append_cons`: the first line of a text.
* `Imprint.Text.lines_flatMap_append`: lines with their ends in front of a text.
* `Imprint.Text.notMem_of_mem_segments`, `Imprint.Text.notMem_of_mem_lines`: what a piece or a line
  does not hold.
-/

namespace Imprint.Text

variable {s l : List Char}

/-! ### Pieces -/

/-- A piece of a longer text is a piece of the shorter one, or that with one more character in
front, or empty. -/
theorem mem_segments_cons {sep c : Char} (h : l ∈ segments sep (c :: s)) :
    l = [] ∨ l ∈ segments sep s ∨ c ≠ sep ∧ ∃ first ∈ segments sep s, l = c :: first := by
  simp only [segments] at h
  split at h
  · exact (List.mem_cons.1 h).imp_right .inl
  · next hc =>
    obtain ⟨first, others, hs⟩ := List.exists_cons_of_ne_nil (segments_ne_nil sep s)
    rw [hs] at h ⊢
    rcases List.mem_cons.1 h with rfl | h
    · exact .inr (.inr ⟨hc, first, List.mem_cons_self, rfl⟩)
    · exact .inr (.inl (List.mem_cons_of_mem _ h))

/-- No piece holds the separator. -/
theorem notMem_of_mem_segments {sep : Char} (h : l ∈ segments sep s) : sep ∉ l := by
  induction s generalizing l with
  | nil =>
    obtain rfl : l = [] := by simpa [segments] using h
    simp
  | cons c r ih =>
    rcases mem_segments_cons h with rfl | h | ⟨hc, first, hfirst, rfl⟩
    · simp
    · exact ih h
    · simp [ih hfirst, Ne.symm hc]

/-- Every character of a piece is one of the text. -/
theorem mem_of_mem_segments {sep c : Char} (h : l ∈ segments sep s) (hc : c ∈ l) : c ∈ s := by
  induction s generalizing l with
  | nil =>
    obtain rfl : l = [] := by simpa [segments] using h
    exact hc
  | cons d r ih =>
    rcases mem_segments_cons h with rfl | h | ⟨-, first, hfirst, rfl⟩
    · cases hc
    · exact List.mem_cons_of_mem _ (ih h hc)
    · rcases List.mem_cons.1 hc with rfl | hc
      · exact List.mem_cons_self
      · exact List.mem_cons_of_mem _ (ih hfirst hc)

/-- Cutting at a separator cuts the two sides. -/
theorem segments_append_sep (sep : Char) (s t : List Char) :
    segments sep (s ++ sep :: t) = segments sep s ++ segments sep t := by
  induction s with
  | nil => simp [segments]
  | cons c r ih =>
    by_cases hc : c = sep
    · simp [segments, hc, ih]
    · cases hr : segments sep r with
      | nil => exact absurd hr (segments_ne_nil sep r)
      | cons a l => simp [segments, hc, ih, hr]

/-- Characters that are put behind a text belong to its last segment. -/
theorem segments_append_of_notMem {sep : Char} {m : List Char} (hm : sep ∉ m) (s : List Char) :
    ∃ init last, segments sep s = init ++ [last] ∧ segments sep (s ++ m) = init ++ [last ++ m] := by
  induction s with
  | nil => exact ⟨[], [], rfl, by simpa using segments_of_notMem hm⟩
  | cons c r ih =>
    obtain ⟨init, last, hr, hrm⟩ := ih
    by_cases hc : c = sep
    · exact ⟨[] :: init, last, by simp [segments, hc, hr], by simp [segments, hc, hrm]⟩
    · cases init with
      | nil => exact ⟨[], c :: last, by simp_all [segments], by simp_all [segments]⟩
      | cons a init =>
        exact ⟨(c :: a) :: init, last, by simp_all [segments], by simp_all [segments]⟩

/-- Cutting undoes joining, when no piece holds the separator. -/
theorem segments_intercalate {sep : Char} :
    ∀ {ps : List (List Char)}, ps ≠ [] → (∀ p ∈ ps, sep ∉ p) →
      segments sep (List.intercalate [sep] ps) = ps
  | [], h, _ => absurd rfl h
  | [p], _, h => by simpa [List.intercalate] using segments_of_notMem (h p List.mem_cons_self)
  | p :: q :: ps, _, h => by
    have ih := segments_intercalate (List.cons_ne_nil q ps) fun x hx =>
      h x (List.mem_cons_of_mem _ hx)
    have hcons : List.intercalate [sep] (p :: q :: ps) =
        p ++ sep :: List.intercalate [sep] (q :: ps) := by
      simp [List.intercalate]
    rw [hcons, segments_append_cons (h p List.mem_cons_self), ih]

/-- Pieces with a separator after each are the first pieces of a text. -/
theorem segments_flatMap_append {sep : Char} {ls : List (List Char)} (h : ∀ l ∈ ls, sep ∉ l)
    (s : List Char) : segments sep (ls.flatMap (· ++ [sep]) ++ s) = ls ++ segments sep s := by
  induction ls with
  | nil => rfl
  | cons l ls ih =>
    have hls := ih fun l' hl' => h l' (List.mem_cons_of_mem _ hl')
    simp only [List.flatMap_cons, List.append_assoc, List.cons_append, List.nil_append]
    rw [segments_append_cons (h l List.mem_cons_self), hls]

/-! ### Lines -/

theorem dropReturn_eq_self (h : l.getLast? ≠ some '\r') : dropReturn l = l := by
  rw [← List.head?_reverse] at h
  simp only [dropReturn]
  split
  · next r hr => simp [hr] at h
  · rfl

theorem isPrefix_dropReturn (l : List Char) : dropReturn l <+: l := by
  simp only [dropReturn]
  split
  · next r hr =>
    have hl : l = r.reverse ++ ['\r'] := by rw [← List.reverse_reverse l, hr]; simp
    exact ⟨_, hl.symm⟩
  · exact List.prefix_rfl

/-- A line with its end is the first line of a text. -/
theorem lines_append_cons (h : '\n' ∉ l) (s : List Char) :
    lines (l ++ '\n' :: s) = dropReturn l :: lines s := by
  obtain ⟨first, others, hs⟩ := List.exists_cons_of_ne_nil (segments_ne_nil '\n' s)
  rw [lines, segments_append_cons h, hs, lines, hs, endLines]
  simp

/-- Lines with their ends are the first lines of a text. -/
theorem lines_flatMap_append {ls : List (List Char)} (h : ∀ l ∈ ls, '\n' ∉ l) (s : List Char) :
    lines (ls.flatMap (· ++ ['\n']) ++ s) = ls.map dropReturn ++ lines s := by
  induction ls with
  | nil => rfl
  | cons l ls ih =>
    have hls := ih fun l' hl' => h l' (List.mem_cons_of_mem _ hl')
    simp only [List.flatMap_cons, List.append_assoc, List.cons_append, List.nil_append]
    rw [lines_append_cons (h l List.mem_cons_self), hls, List.map_cons, List.cons_append]

/-- The end of a line is trimmed with it. -/
theorem trim_dropReturn (l : List Char) : trim (dropReturn l) = trim l := by
  simp only [dropReturn]
  split
  · next r hr =>
    have hl : l = r.reverse ++ ['\r'] := by rw [← List.reverse_reverse l, hr]; simp
    rw [hl, trim_append_blank (by decide)]
  · rfl

/-- Without carriage returns the lines are the pieces between line feeds, but for a last piece that
is empty. -/
theorem endLines_eq {pieces : List (List Char)} (h : ∀ p ∈ pieces, '\r' ∉ p) :
    endLines pieces = pieces ∨ endLines pieces ++ [[]] = pieces := by
  induction pieces using endLines.induct with
  | case1 => exact .inl rfl
  | case2 last hlast =>
    obtain rfl : last = [] := by simpa using hlast
    exact .inr rfl
  | case3 last hlast => exact .inl (by simp [endLines, hlast])
  | case4 line rest hrest ih =>
    have hline : dropReturn line = line :=
      dropReturn_eq_self fun hlast => h line List.mem_cons_self (List.mem_of_mem_getLast? hlast)
    rw [endLines.eq_3 _ _ hrest, hline]
    refine (ih fun p hp => h p (List.mem_cons_of_mem _ hp)).imp (fun heq => ?_) fun heq => ?_
    · rw [heq]
    · rw [List.cons_append, heq]

theorem joinLines_concat_nil (l : List Char) (ls : List (List Char)) :
    joinLines (l :: ls ++ [[]]) = joinLines (l :: ls) ++ ['\n'] := by
  induction ls generalizing l with
  | nil => simp [joinLines, List.intercalate]
  | cons k ls ih => simpa [joinLines, List.intercalate] using ih k

/-- Joining the lines of a text without carriage returns gives it back, but for a line feed at the
end. -/
theorem joinLines_lines (h : '\r' ∉ s) :
    joinLines (lines s) = s ∨ joinLines (lines s) ++ ['\n'] = s := by
  have hpieces : ∀ p ∈ segments '\n' s, '\r' ∉ p := fun p hp hc => h (mem_of_mem_segments hp hc)
  have hjoin := intercalate_segments '\n' s
  rcases endLines_eq hpieces with heq | heq
  · exact .inl (by rw [joinLines, lines, heq, hjoin])
  · rw [← heq] at hjoin
    cases hlines : endLines (segments '\n' s) with
    | nil => exact .inl (by simpa [joinLines, lines, hlines] using hjoin)
    | cons l ls =>
      rw [hlines] at hjoin
      exact .inr (by rw [lines, hlines, ← joinLines_concat_nil]; exact hjoin)

theorem notMem_of_mem_endLines {c : Char} {pieces : List (List Char)} (h : ∀ p ∈ pieces, c ∉ p)
    (hl : l ∈ endLines pieces) : c ∉ l := by
  induction pieces using endLines.induct with
  | case1 => simp [endLines] at hl
  | case2 last hlast => simp [endLines, hlast] at hl
  | case3 last hlast =>
    obtain rfl : l = last := by simpa [endLines, hlast] using hl
    exact h l List.mem_cons_self
  | case4 line rest hrest ih =>
    rw [endLines.eq_3 _ _ hrest] at hl
    rcases List.mem_cons.1 hl with rfl | hl
    · exact fun hc => h line List.mem_cons_self ((isPrefix_dropReturn line).subset hc)
    · exact ih (fun p hp => h p (List.mem_cons_of_mem _ hp)) hl

/-- No line holds a line feed. -/
theorem notMem_of_mem_lines (h : l ∈ lines s) : '\n' ∉ l :=
  notMem_of_mem_endLines (fun _ => notMem_of_mem_segments) h

end Imprint.Text
