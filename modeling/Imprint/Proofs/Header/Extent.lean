import Imprint.Proofs.Header.Body

/-!
# Lines on which the marker stands alone

A directive line begins, after blanks, with the marker and a space. Such a line is taken as a
whole: it declares an output or is refused, and it is missing from the body. But the marker is
looked for in the trimmed line, which has lost the space when nothing but blanks follows it. Then
the line ends the header without an error, and the body begins with it.

## Main definitions

* `Imprint.Source.Reported`: what becomes of a line that is taken for a directive.

## Main results

* `Imprint.Marker.opensLine_iff_of_trimStart`: which lines with the marker and a space are opened.
* `Imprint.Source.reported_iff`: which lines with the marker and a space are reported.
-/

namespace Imprint

variable {m : Marker} {line rest : List Char} {n : Nat}

/-! ### Lines with the marker and a space -/

namespace Marker

theorem trimEnd_chars (m : Marker) : Text.trimEnd m.chars = m.chars := by
  rw [Text.trimEnd_eq_self_iff]
  rintro c ⟨rfl⟩
  exact m.second_not_blank

/-- A line with the marker and blanks only trims to the marker. -/
theorem trim_of_blank (h : Text.trimStart line = m.chars ++ ' ' :: rest)
    (hrest : ∀ c ∈ rest, Text.isBlank c = true) : Text.trim line = m.chars := by
  have hblank : Text.trimEnd (' ' :: rest) = [] := by
    rw [Text.trimEnd_eq_nil_iff, List.forall_mem_cons]
    exact ⟨by decide, hrest⟩
  rw [Text.trim, h, Text.trimEnd_append, hblank, List.isEmpty_nil, if_pos rfl, trimEnd_chars]

/-- A line with the marker, a space and more than blanks keeps all of them when it is trimmed. -/
theorem trim_of_not_blank (h : Text.trimStart line = m.chars ++ ' ' :: rest)
    (hrest : ∃ c ∈ rest, Text.isBlank c = false) :
    Text.trim line = m.chars ++ ' ' :: Text.trimEnd rest := by
  obtain ⟨c, hc, hvisible⟩ := hrest
  have hne : Text.trimEnd rest ≠ [] := fun hnil => by
    rw [Text.trimEnd_eq_nil_iff.1 hnil c hc] at hvisible
    cases hvisible
  have hspace : m.chars ++ ' ' :: rest = (m.chars ++ [' ']) ++ rest := by simp
  rw [Text.trim, h, hspace, Text.trimEnd_append, if_neg (by simpa using hne)]
  simp

/-- The marker opens a line with the marker and a space when more than blanks follow. -/
theorem opensLine_iff_of_trimStart (h : Text.trimStart line = m.chars ++ ' ' :: rest) :
    m.opensLine line = true ↔ ∃ c ∈ rest, Text.isBlank c = false := by
  rw [opensLine, opens, Text.startsWith_iff]
  constructor
  · intro hopens
    by_contra hnot
    simp only [not_exists, not_and, Bool.not_eq_false] at hnot
    rw [trim_of_blank h hnot] at hopens
    have hle := hopens.length_le
    rw [List.length_append] at hle
    exact Nat.not_succ_le_self _ hle
  · intro hrest
    rw [trim_of_not_blank h hrest]
    exact ⟨Text.trimEnd rest, by simp⟩

theorem isHeaderLine_iff_of_trimStart (hm : m.chars ≠ commentOpening)
    (h : Text.trimStart line = m.chars ++ ' ' :: rest) :
    m.isHeaderLine line = true ↔ ∃ c ∈ rest, Text.isBlank c = false := by
  have hcomment : isCommentLine line = false := by
    have hprefix : m.chars <+: Text.trim line := by
      by_cases hrest : ∃ c ∈ rest, Text.isBlank c = false
      · rw [trim_of_not_blank h hrest]
        exact List.prefix_append _ _
      · simp only [not_exists, not_and, Bool.not_eq_false] at hrest
        exact (trim_of_blank h hrest).symm ▸ List.prefix_rfl
    exact not_isCommentLine_of_isPrefix hm hprefix
  rw [isHeaderLine, hcomment, Bool.false_or, opensLine_iff_of_trimStart h]

end Marker

namespace Source

variable {s : Source} {before after : List (List Char)}

/-! ### The end of a header -/

/-- The lines before the first line that no header has are the header. -/
theorem header_eq_of_lines (hlines : s.lines = before ++ line :: after)
    (hbefore : ∀ l ∈ before, s.marker.isHeaderLine l = true)
    (hline : s.marker.isHeaderLine line = false) :
    s.header = before ∧ s.afterHeader = line :: after := by
  rw [header, afterHeader, hlines, List.takeWhile_append_of_pos hbefore,
    List.dropWhile_append_of_pos hbefore]
  simp [hline]

/-- A header line after header lines stands in the header with its number. -/
theorem mem_numberedHeader_of_lines (hlines : s.lines = before ++ line :: after)
    (hbefore : ∀ l ∈ before, s.marker.isHeaderLine l = true)
    (hline : s.marker.isHeaderLine line = true) :
    (before.length + 1, line) ∈ s.numberedHeader := by
  rw [mem_numberedHeader_iff]
  refine ⟨before.length, ?_, rfl⟩
  rw [header, hlines, List.takeWhile_append_of_pos hbefore, List.takeWhile_cons_of_pos hline]
  simp

/-! ### Lines that are reported -/

/-- What becomes of a line that is taken for a directive: it stands in the header, a directive or
the refusal of the header tells of it, and it is not in the body. -/
structure Reported (s : Source) (n : Nat) (line : List Char) : Prop where
  inHeader : (n, line) ∈ s.numberedHeader
  /-- When a later line is refused, this one has declared an output before. -/
  answered : (∃ ds, s.directives = .ok ds ∧ ∃ d ∈ ds, d.line = n) ∨
    ∃ k content flaw, s.directives = .error (.malformed k content flaw) ∧
      (n < k → ∃ d, Directive.Declaration.ofLine s.marker n line = .ok (some d))
  dropped : s.takes n = true ∧ s.body = Text.joinLines s.keptLines

theorem answered_of_takes (hline : (n, line) ∈ s.numberedHeader) (h : s.takes n = true) :
    (∃ ds, s.directives = .ok ds ∧ ∃ d ∈ ds, d.line = n) ∨
      ∃ k content flaw, s.directives = .error (.malformed k content flaw) ∧
        (n < k → ∃ d, Directive.Declaration.ofLine s.marker n line = .ok (some d)) := by
  cases hdirectives : s.directives with
  | ok ds => exact .inl ⟨ds, rfl, (takes_iff_of_ok hdirectives n).1 h⟩
  | error e =>
    cases e with
    | empty path =>
      rw [takes_of_empty hdirectives n] at h
      cases h
    | malformed k content flaw =>
      refine .inr ⟨k, content, flaw, rfl, fun hlt => ?_⟩
      obtain ⟨declared, hdeclared⟩ := (takes_of_malformed hdirectives).2 _ hline hlt
      have hcomment : isCommentLine line = false := by
        simpa [takes_of_mem_numberedHeader hline] using h
      rcases Directive.Declaration.ofLine_cases s.marker n line with
        ⟨hcomment', -⟩ | ⟨-, ⟨d, hd, -⟩ | ⟨flaw', hrefused⟩⟩
      · rw [hcomment] at hcomment'
        cases hcomment'
      · exact ⟨d, hd⟩
      · cases hrefused.symm.trans hdeclared

/-- A header line that the marker opens is reported, unless the marker is that of comments. -/
theorem reported_of_opensLine (hm : s.marker.chars ≠ commentOpening)
    (hline : (n, line) ∈ s.numberedHeader) (hopens : s.marker.opensLine line = true) :
    s.Reported n line := by
  have htakes : s.takes n = true := by
    rw [takes_of_mem_numberedHeader hline]
    simp [Marker.not_isCommentLine_of_opensLine hm hopens]
  refine ⟨hline, answered_of_takes hline htakes, htakes, ?_⟩
  rw [body, bodyLines_eq_keptLines fun l _ => Marker.not_isCommentLine_of_opensLine hm]

/-- Among the lines of the header and the one after it, a line with the marker and a space is
reported when more than blanks follow the space. When only blanks follow, the header ends before
the line, and the line is in the body. -/
theorem reported_iff (hm : s.marker.chars ≠ commentOpening)
    (hlines : s.lines = before ++ line :: after)
    (hbefore : ∀ l ∈ before, s.marker.isHeaderLine l = true)
    (hline : Text.trimStart line = s.marker.chars ++ ' ' :: rest) :
    (s.Reported (before.length + 1) line ↔ ∃ c ∈ rest, Text.isBlank c = false) ∧
      ((∀ c ∈ rest, Text.isBlank c = true) → s.header = before ∧
        s.bodyLines = before.filter (!s.marker.opensLine ·) ++ line :: after) := by
  have hheader := Marker.isHeaderLine_iff_of_trimStart hm hline
  refine ⟨⟨fun h => ?_, fun hrest => ?_⟩, fun hblank => ?_⟩
  · obtain ⟨i, hi, -⟩ := mem_numberedHeader_iff.1 h.inHeader
    exact hheader.1 (isHeaderLine_of_mem_header (List.mem_of_getElem? hi))
  · exact reported_of_opensLine hm (mem_numberedHeader_of_lines hlines hbefore (hheader.2 hrest))
      ((Marker.opensLine_iff_of_trimStart hline).2 hrest)
  · have hends : s.marker.isHeaderLine line = false := by
      rw [Bool.eq_false_iff, ne_eq, hheader]
      rintro ⟨c, hc, hvisible⟩
      rw [hblank c hc] at hvisible
      cases hvisible
    obtain ⟨hbeforeHeader, hafter⟩ := header_eq_of_lines hlines hbefore hends
    exact ⟨hbeforeHeader, by rw [bodyLines, hbeforeHeader, hafter]⟩

/-- A header whose second directive has no list of variables. -/
def unfinishedSource : Source :=
  ⟨⟨"t"⟩, "## a.txt v=1;\n\t## b.txt \nx", .standard⟩

/-- The second line is refused. -/
theorem reported_iff_unfinished : unfinishedSource.Reported 2 "\t## b.txt ".toList := by
  have hlines : unfinishedSource.lines =
      ["## a.txt v=1;".toList] ++ "\t## b.txt ".toList :: ["x".toList] := by decide +kernel
  have hrest : ∃ c ∈ "b.txt ".toList, Text.isBlank c = false := ⟨'b', by decide, by decide⟩
  exact (reported_iff (by decide) hlines (by decide +kernel) (by decide +kernel)).1.2 hrest

/-- A marker with a space and nothing else ends the header. -/
theorem not_reported :
    ¬ ∀ (s : Source) (before after : List (List Char)) (line rest : List Char),
      s.marker.chars ≠ commentOpening → s.lines = before ++ line :: after →
        (∀ l ∈ before, s.marker.isHeaderLine l = true) →
          Text.trimStart line = s.marker.chars ++ ' ' :: rest →
            s.Reported (before.length + 1) line := by
  intro h
  let s : Source := ⟨⟨"t"⟩, "## a.txt v=1;\n## \n## b.txt v=2;\nx", .standard⟩
  have hreported := h s ["## a.txt v=1;".toList] ["## b.txt v=2;".toList, "x".toList]
    "## ".toList [] (by decide) (by decide +kernel) (by decide +kernel) (by decide +kernel)
  have hnot : (2, "## ".toList) ∉ s.numberedHeader := by decide +kernel
  exact hnot hreported.inHeader

end Source

end Imprint
