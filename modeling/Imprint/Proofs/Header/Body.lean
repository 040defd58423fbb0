import Mathlib.Data.List.Flatten
import Imprint.Proofs.Header.Written

/-!
# Header lines that the body leaves out

A header line is taken for a directive when it declares an output, or when it is refused because it
declares none. Which lines the body leaves out is decided by another test on the same lines: those
that the marker opens. The two agree for every marker but that of comments. Such a marker opens
comment lines, which declare nothing and yet are missing from the body.

## Main definitions

* `Imprint.Source.numberedLines`: the lines of the text with their numbers.
* `Imprint.Source.takes`: the numbers of the lines that are taken for directives.
* `Imprint.Source.keptLines`: all other lines.

## Main results

* `Imprint.Source.takes_iff_of_ok`, `Imprint.Source.takes_of_malformed`,
  `Imprint.Source.takes_of_empty`: what the directives of a header say about its lines.
* `Imprint.Source.body_keeps_iff`: when the body is made of the lines that are not taken.
-/

namespace Imprint

variable {m : Marker} {line : List Char} {n : Nat}

/-! ### What a line declares -/

/-- Whether a line with its number declares an output or is refused. -/
def Marker.takesLine (m : Marker) (x : Nat × List Char) : Bool :=
  match Directive.Declaration.ofLine m x.1 x.2 with
  | .ok none => false
  | _ => true

/-- A comment declares nothing, and any other line declares an output with the number of the line or
is refused by its number and its text. -/
theorem Directive.Declaration.ofLine_cases (m : Marker) (n : Nat) (line : List Char) :
    isCommentLine line = true ∧ ofLine m n line = .ok none ∨
      isCommentLine line = false ∧
        ((∃ d, ofLine m n line = .ok (some d) ∧ d.line = n) ∨ ∃ flaw,
          ofLine m n line = .error (.malformed n (String.ofList (Text.trim line)) flaw)) := by
  simp only [ofLine, isCommentLine]
  split
  · next hcomment => exact .inl ⟨hcomment, rfl⟩
  · next hcomment =>
    refine .inr ⟨Bool.eq_false_iff.2 hcomment, ?_⟩
    split
    · exact .inr ⟨_, rfl⟩
    · split
      · exact .inr ⟨_, rfl⟩
      · exact .inl ⟨_, rfl, rfl⟩

theorem Marker.takesLine_eq (m : Marker) (x : Nat × List Char) :
    m.takesLine x = !isCommentLine x.2 := by
  rcases Directive.Declaration.ofLine_cases m x.1 x.2 with
    ⟨hcomment, hline⟩ | ⟨hcomment, ⟨d, hline, -⟩ | ⟨flaw, hline⟩⟩ <;>
  simp [takesLine, hline, hcomment]

/-- What a line declares has the number of the line. -/
theorem Directive.Declaration.line_of_ofLine {d : Declaration}
    (h : ofLine m n line = .ok (some d)) : d.line = n := by
  rcases ofLine_cases m n line with ⟨-, hline⟩ | ⟨-, ⟨d', hline, hn⟩ | ⟨flaw, hline⟩⟩
  · cases hline.symm.trans h
  · obtain rfl : d' = d := Option.some.inj (Except.ok.inj (hline.symm.trans h))
    exact hn
  · cases hline.symm.trans h

/-- A line that is refused is refused by its number and its text. -/
theorem Directive.Declaration.exists_flaw_of_ofLine {e : HeaderError}
    (h : ofLine m n line = .error e) :
    ∃ flaw, e = .malformed n (String.ofList (Text.trim line)) flaw := by
  rcases ofLine_cases m n line with ⟨-, hline⟩ | ⟨-, ⟨d, hline, -⟩ | ⟨flaw, hline⟩⟩
  · cases hline.symm.trans h
  · cases hline.symm.trans h
  · exact ⟨flaw, Except.error.inj (h.symm.trans hline)⟩

/-- No line that begins with another marker is a comment. -/
theorem Marker.not_isCommentLine_of_isPrefix (hm : m.chars ≠ commentOpening)
    (h : m.chars <+: Text.trim line) : isCommentLine line = false := by
  rw [Bool.eq_false_iff, ne_eq, isCommentLine, Text.startsWith_iff]
  intro hcomment
  exact hm (List.prefix_of_prefix_length_le h hcomment (Nat.le_refl 2) |>.eq_of_length rfl)

/-- No line is both a comment and opened by the marker, unless the marker is that of comments. -/
theorem Marker.not_isCommentLine_of_opensLine (hm : m.chars ≠ commentOpening)
    (h : m.opensLine line = true) : isCommentLine line = false := by
  rw [opensLine, opens, Text.startsWith_iff] at h
  exact not_isCommentLine_of_isPrefix hm ((List.prefix_append _ _).trans h)

/-- The marker of comments opens only comment lines. -/
theorem Marker.isCommentLine_of_opensLine (hm : m.chars = commentOpening)
    (h : m.opensLine line = true) : isCommentLine line = true := by
  rw [opensLine, opens, Text.startsWith_iff] at h
  rw [isCommentLine, Text.startsWith_iff, ← hm]
  exact (List.prefix_append _ _).trans h

theorem Marker.ne_nil_of_opensLine (h : m.opensLine line = true) : line ≠ [] := by
  rintro rfl
  simp [opensLine, opens, Text.startsWith, Text.after?, chars] at h

/-! ### Joined lines -/

theorem Text.length_joinLines (ls : List (List Char)) :
    (joinLines ls).length = ls.flatten.length + (ls.length - 1) := by
  induction ls with
  | nil => rfl
  | cons l ls ih =>
    cases ls with
    | nil => simp [joinLines, List.intercalate]
    | cons k ls =>
      have hcons : joinLines (l :: k :: ls) = l ++ '\n' :: joinLines (k :: ls) := by
        simp [joinLines, List.intercalate]
      rw [hcons, List.length_append, List.length_cons, ih, List.flatten_cons (l := l),
        List.length_append]
      simp only [List.length_cons]
      omega

/-- Without some of the lines, one of which is not empty, the joined text is shorter. -/
theorem Text.length_joinLines_lt {ls before after : List (List Char)} {l : List Char}
    (hls : ls.Sublist (before ++ after)) (hl : l ≠ []) :
    (joinLines ls).length < (joinLines (before ++ l :: after)).length := by
  have hflatten := hls.flatten.length_le
  have hlength := hls.length_le
  have hpos := List.length_pos_iff.2 hl
  simp only [length_joinLines, List.flatten_append, List.flatten_cons, List.length_append,
    List.length_cons] at hflatten hlength ⊢
  omega

namespace Source

variable {s : Source}

/-! ### Lines that are taken -/

/-- The lines of the text with their numbers, which start at one. -/
def numberedLines (s : Source) : List (Nat × List Char) :=
  s.lines.zipIdx.map fun x => (x.2 + 1, x.1)

/-- Whether the header line with a number is taken for a directive. -/
def takes (s : Source) (n : Nat) : Bool :=
  s.numberedHeader.any fun x => x.1 == n && s.marker.takesLine x

/-- The lines that are not taken for directives. -/
def keptLines (s : Source) : List (List Char) :=
  (s.numberedLines.filter (!s.takes ·.1)).map Prod.snd

theorem takes_iff : s.takes n = true ↔
    ∃ line, (n, line) ∈ s.numberedHeader ∧ s.marker.takesLine (n, line) = true := by
  simp [takes]

/-- A line is taken when it declares an output with its number, or is refused by its number. -/
theorem takes_iff_declares_or_refused : s.takes n = true ↔
    ∃ line, (n, line) ∈ s.numberedHeader ∧
      ((∃ d, Directive.Declaration.ofLine s.marker n line = .ok (some d) ∧ d.line = n) ∨
        ∃ content flaw, Directive.Declaration.ofLine s.marker n line =
          .error (.malformed n content flaw)) := by
  rw [takes_iff]
  refine exists_congr fun line => and_congr_right fun _ => ?_
  rcases Directive.Declaration.ofLine_cases s.marker n line with
    ⟨-, hline⟩ | ⟨-, ⟨d, hline, hn⟩ | ⟨flaw, hline⟩⟩
  · simp [Marker.takesLine, hline]
  · simp [Marker.takesLine, hline, hn]
  · simp [Marker.takesLine, hline]

theorem getElem?_numberedHeader (s : Source) (i : Nat) :
    s.numberedHeader[i]? = s.header[i]?.map fun line => (i + 1, line) := by
  simp [numberedHeader, List.getElem?_zipIdx, Function.comp_def]

theorem mem_numberedHeader_iff :
    (n, line) ∈ s.numberedHeader ↔ ∃ i, s.header[i]? = some line ∧ n = i + 1 := by
  simp only [List.mem_iff_getElem?, getElem?_numberedHeader, Option.map_eq_some_iff,
    Prod.mk.injEq]
  exact ⟨fun ⟨i, _, hi, hn, hl⟩ => ⟨i, hl ▸ hi, hn.symm⟩,
    fun ⟨i, hi, hn⟩ => ⟨i, line, hi, hn.symm, rfl⟩⟩

/-- What stands before a line in the header has a smaller number, and nothing else has. -/
theorem mem_of_lt_of_numberedHeader {before after : List (Nat × List Char)}
    (h : s.numberedHeader = before ++ (n, line) :: after) :
    n = before.length + 1 ∧ ∀ x ∈ s.numberedHeader, x.1 < n → x ∈ before := by
  have hn : n = before.length + 1 := by
    have hat := getElem?_numberedHeader s before.length
    rw [h, List.getElem?_append_right (Nat.le_refl _), Nat.sub_self, List.getElem?_cons_zero,
      eq_comm, Option.map_eq_some_iff] at hat
    obtain ⟨l, -, heq⟩ := hat
    exact (Prod.mk.inj heq).1.symm
  refine ⟨hn, fun x hx hlt => ?_⟩
  obtain ⟨i, hi⟩ := List.mem_iff_getElem?.1 hx
  have hnumber : x.1 = i + 1 := by
    rw [getElem?_numberedHeader, Option.map_eq_some_iff] at hi
    obtain ⟨l, -, rfl⟩ := hi
    rfl
  rw [h, List.getElem?_append_left (by omega)] at hi
  exact List.mem_of_getElem? hi

/-- The lines are those of the header and those after it. -/
theorem numberedLines_eq : s.numberedLines = s.numberedHeader ++
    (s.afterHeader.zipIdx s.header.length).map fun x => (x.2 + 1, x.1) := by
  rw [numberedLines, ← header_append_afterHeader, List.zipIdx_append, List.map_append]
  simp [numberedHeader]

/-- A header line is taken unless it is a comment. -/
theorem takes_of_mem_numberedHeader {x : Nat × List Char} (hx : x ∈ s.numberedHeader) :
    s.takes x.1 = !isCommentLine x.2 := by
  rw [← Marker.takesLine_eq s.marker x, Bool.eq_iff_iff, takes_iff]
  constructor
  · rintro ⟨line, hline, htakes⟩
    obtain ⟨i, hi, hn⟩ := mem_numberedHeader_iff.1 hline
    obtain ⟨j, hj, hn'⟩ := mem_numberedHeader_iff.1 (show (x.1, x.2) ∈ s.numberedHeader from hx)
    obtain rfl : i = j := by omega
    obtain rfl : line = x.2 := Option.some.inj (hi.symm.trans hj)
    exact htakes
  · exact fun h => ⟨x.2, hx, h⟩

/-- No line after the header is taken. -/
theorem takes_of_length_lt (h : s.header.length < n) : s.takes n = false := by
  rw [Bool.eq_false_iff, ne_eq, takes_iff]
  rintro ⟨line, hline, -⟩
  obtain ⟨i, hi, rfl⟩ := mem_numberedHeader_iff.1 hline
  have hlt := (List.getElem?_eq_some_iff.1 hi).1
  omega

/-- The lines that are not taken are the comments of the header and all lines after it. -/
theorem keptLines_eq : s.keptLines = s.header.filter isCommentLine ++ s.afterHeader := by
  have hafter : ∀ x ∈ (s.afterHeader.zipIdx s.header.length).map fun x => (x.2 + 1, x.1),
      (!s.takes x.1) = true := by
    intro x hx
    obtain ⟨y, hy, rfl⟩ := List.mem_map.1 hx
    have hle := List.le_snd_of_mem_zipIdx hy
    simp [takes_of_length_lt (Nat.lt_succ_of_le hle)]
  have hheader : s.numberedHeader.filter (!s.takes ·.1) =
      s.numberedHeader.filter (isCommentLine ·.2) :=
    List.filter_congr fun x hx => by rw [takes_of_mem_numberedHeader hx, Bool.not_not]
  have hlines (ls : List (List Char)) (k : Nat) :
      (ls.zipIdx k).map (Prod.snd ∘ fun x => (x.2 + 1, x.1)) = ls := List.zipIdx_map_fst k ls
  rw [keptLines, numberedLines_eq, List.filter_append, List.filter_eq_self.2 hafter, hheader,
    List.map_append, List.map_map, hlines, numberedHeader, List.filter_map, List.map_map]
  congr 1
  calc ((s.header.zipIdx.filter (isCommentLine ∘ Prod.fst)).map Prod.fst)
      = (s.header.zipIdx.map Prod.fst).filter isCommentLine := List.filter_map.symm
    _ = s.header.filter isCommentLine := by rw [List.zipIdx_map_fst]

/-! ### What the directives say -/

theorem mapM_declarations_eq_ok_iff {declared : List (Option Directive.Declaration)} :
    s.declarations.mapM id = .ok declared ↔
      List.Forall₂ (fun x d => Directive.Declaration.ofLine s.marker x.1 x.2 = .ok d)
        s.numberedHeader declared := by
  rw [mapM_eq_ok_iff, declarations, List.forall₂_map_left_iff]
  rfl

theorem exists_directive_line_iff {ds : List Directive.Declaration} :
    (∃ d ∈ Directive.number ds, d.line = n) ↔ ∃ d ∈ ds, d.line = n := by
  have hlines : (Directive.number ds).map (·.line) = ds.map (·.line) := by
    rw [Directive.number, List.map_map]
    calc ds.zipIdx.map ((·.line) ∘ Prod.fst)
        = (ds.zipIdx.map Prod.fst).map (·.line) := (List.map_map ..).symm
      _ = ds.map (·.line) := by rw [List.zipIdx_map_fst]
  simpa using congrArg (n ∈ ·) hlines

/-- When no line is refused, the lines that are taken are those that declare an output. -/
theorem takes_iff_of_declared {declared : List (Option Directive.Declaration)}
    (h : s.declarations.mapM id = .ok declared) (n : Nat) :
    s.takes n = true ↔ ∃ d ∈ declared.reduceOption, d.line = n := by
  rw [mapM_declarations_eq_ok_iff] at h
  rw [takes_iff_declares_or_refused]
  constructor
  · rintro ⟨line, hline, hread⟩
    obtain ⟨answer, hanswer, hok⟩ := exists_mem_of_forall₂ h.flip hline
    rcases hread with ⟨d, hd, hn⟩ | ⟨content, flaw, hrefused⟩
    · obtain rfl : some d = answer := Except.ok.inj (hd.symm.trans hok)
      exact ⟨d, List.reduceOption_mem_iff.2 hanswer, hn⟩
    · cases hrefused.symm.trans hok
  · rintro ⟨d, hd, rfl⟩
    obtain ⟨⟨k, line⟩, hline, hok⟩ := exists_mem_of_forall₂ h (List.reduceOption_mem_iff.1 hd)
    obtain rfl := Directive.Declaration.line_of_ofLine hok
    exact ⟨line, hline, .inl ⟨d, hok, rfl⟩⟩

/-- The lines that are taken are those of the directives. -/
theorem takes_iff_of_ok {ds : List Directive} (h : s.directives = .ok ds) (n : Nat) :
    s.takes n = true ↔ ∃ d ∈ ds, d.line = n := by
  obtain ⟨declared, hdeclared, -, rfl⟩ := directives_eq_ok.1 h
  rw [exists_directive_line_iff, takes_iff_of_declared hdeclared]

/-- A header that is refused is refused at the first line that declares nothing it should. -/
theorem exists_line_of_malformed {content : String} {flaw : DirectiveFlaw}
    (h : s.directives = .error (.malformed n content flaw)) :
    ∃ before line after declared, s.numberedHeader = before ++ (n, line) :: after ∧
      List.Forall₂ (fun x d => Directive.Declaration.ofLine s.marker x.1 x.2 = .ok d)
        before declared ∧
      Directive.Declaration.ofLine s.marker n line = .error (.malformed n content flaw) := by
  rcases bind_eq_error.1 h with h | ⟨declared, -, h⟩
  · obtain ⟨before, x, after, declared, hsplit, hbefore, hx⟩ := mapM_eq_error_iff.1 h
    obtain ⟨front, rest, hheader, rfl, hrest⟩ := List.map_eq_append_iff.1 hsplit
    obtain ⟨⟨k, line⟩, after', rfl, rfl, rfl⟩ := List.map_eq_cons_iff.1 hrest
    obtain ⟨flaw', hflaw⟩ := Directive.Declaration.exists_flaw_of_ofLine hx
    obtain ⟨rfl, -⟩ := HeaderError.malformed.inj hflaw
    exact ⟨front, line, after', declared, hheader, List.forall₂_map_left_iff.1 hbefore, hx⟩
  · dsimp only at h
    split at h <;> cases h

/-- The line at which a header is refused is taken, and no line before it is refused. -/
theorem takes_of_malformed {content : String} {flaw : DirectiveFlaw}
    (h : s.directives = .error (.malformed n content flaw)) :
    s.takes n = true ∧ ∀ x ∈ s.numberedHeader, x.1 < n →
      ∃ d, Directive.Declaration.ofLine s.marker x.1 x.2 = .ok d := by
  obtain ⟨before, line, after, declared, hheader, hbefore, hline⟩ := exists_line_of_malformed h
  have hmem : (n, line) ∈ s.numberedHeader := by simp [hheader]
  refine ⟨takes_iff_declares_or_refused.2 ⟨line, hmem, .inr ⟨_, _, hline⟩⟩, fun x hx hlt => ?_⟩
  obtain ⟨d, -, hd⟩ :=
    exists_mem_of_forall₂ hbefore.flip ((mem_of_lt_of_numberedHeader hheader).2 x hx hlt)
  exact ⟨d, hd⟩

/-- In a header without directives no line is taken. -/
theorem takes_of_empty {path : Path} (h : s.directives = .error (.empty path)) (n : Nat) :
    s.takes n = false := by
  rcases bind_eq_error.1 h with h | ⟨declared, hdeclared, h⟩
  · obtain ⟨before, x, after, declared, hsplit, -, hx⟩ := mapM_eq_error_iff.1 h
    have hmem : x ∈ s.declarations := by simp [hsplit]
    obtain ⟨y, -, rfl⟩ := List.mem_map.1 hmem
    obtain ⟨flaw, hflaw⟩ := Directive.Declaration.exists_flaw_of_ofLine hx
    cases hflaw
  · have hnone : declared.reduceOption = [] := by
      dsimp only at h
      split at h
      · next hempty => simpa using hempty
      · cases h
    rw [Bool.eq_false_iff, ne_eq, takes_iff_of_declared hdeclared, hnone]
    exact fun ⟨_, hd, _⟩ => List.not_mem_nil hd

theorem keptLines_of_takes_eq_false (h : ∀ n, s.takes n = false) : s.keptLines = s.lines := by
  have hall : s.numberedLines.filter (!s.takes ·.1) = s.numberedLines :=
    List.filter_eq_self.2 fun x _ => by simp [h]
  rw [keptLines, hall, numberedLines, List.map_map]
  exact List.zipIdx_map_fst 0 s.lines

/-! ### What the body is made of -/

theorem isHeaderLine_of_mem_header (h : line ∈ s.header) : s.marker.isHeaderLine line = true :=
  List.mem_takeWhile_imp h

/-- The header lines that the marker does not open are its comments, if it opens no comment. -/
theorem bodyLines_eq_keptLines
    (h : ∀ line ∈ s.header, s.marker.opensLine line = true → isCommentLine line = false) :
    s.bodyLines = s.keptLines := by
  rw [bodyLines, keptLines_eq]
  congr 1
  refine List.filter_congr fun line hline => ?_
  have hheader := isHeaderLine_of_mem_header hline
  cases hopens : s.marker.opensLine line with
  | true => simp [h line hline hopens]
  | false => simpa [Marker.isHeaderLine, hopens] using hheader.symm

/-- With the marker of comments all lines of a header are comments. -/
theorem keptLines_of_commentMarker (hm : s.marker.chars = commentOpening) :
    s.keptLines = s.lines := by
  have hcomments : ∀ line ∈ s.header, isCommentLine line = true := by
    intro line hline
    have hheader := isHeaderLine_of_mem_header hline
    rw [Marker.isHeaderLine, Bool.or_eq_true] at hheader
    exact hheader.elim id (Marker.isCommentLine_of_opensLine hm)
  rw [keptLines_eq, List.filter_eq_self.2 hcomments, header_append_afterHeader]

/-- A header line that the marker opens is missing from the body. -/
theorem length_body_lt (hline : line ∈ s.header) (hopens : s.marker.opensLine line = true) :
    s.body.length < (Text.joinLines s.lines).length := by
  obtain ⟨before, after, hheader⟩ := List.append_of_mem hline
  have hlines : s.lines = before ++ line :: (after ++ s.afterHeader) := by
    rw [← header_append_afterHeader, hheader, List.append_assoc, List.cons_append]
  have hkept : s.bodyLines.Sublist (before ++ (after ++ s.afterHeader)) := by
    rw [bodyLines, hheader, List.filter_append, List.filter_cons_of_neg (by simp [hopens]),
      ← List.append_assoc]
    exact (List.filter_sublist.append List.filter_sublist).append_right _
  rw [hlines]
  exact Text.length_joinLines_lt hkept (Marker.ne_nil_of_opensLine hopens)

/-- The body is made of the lines that are not taken for directives, unless the marker is that of
comments and opens a header line. What is taken are the lines of the directives, or else the line
that is refused, and nothing in a header without directives. -/
theorem body_keeps_iff (s : Source) :
    (s.body = Text.joinLines s.keptLines ↔
      s.marker.chars ≠ commentOpening ∨ ∀ line ∈ s.header, s.marker.opensLine line = false) ∧
    (∀ ds, s.directives = .ok ds → ∀ n, s.takes n = true ↔ ∃ d ∈ ds, d.line = n) ∧
    (∀ n content flaw, s.directives = .error (.malformed n content flaw) →
      s.takes n = true ∧ ∀ x ∈ s.numberedHeader, x.1 < n →
        ∃ d, Directive.Declaration.ofLine s.marker x.1 x.2 = .ok d) ∧
    ∀ path, s.directives = .error (.empty path) → s.keptLines = s.lines := by
  refine ⟨⟨fun h => ?_, fun h => ?_⟩, fun _ => takes_iff_of_ok, fun _ _ _ => takes_of_malformed,
    fun _ h => keptLines_of_takes_eq_false (takes_of_empty h)⟩
  · by_contra hnot
    simp only [not_or, not_not, not_forall, Bool.not_eq_false] at hnot
    obtain ⟨hm, line, hline, hopens⟩ := hnot
    have hlt := length_body_lt hline hopens
    rw [h, keptLines_of_commentMarker hm] at hlt
    exact Nat.lt_irrefl _ hlt
  · rw [body, bodyLines_eq_keptLines fun line hline hopens => ?_]
    rcases h with hm | hnone
    · exact Marker.not_isCommentLine_of_opensLine hm hopens
    · rw [hnone line hline] at hopens
      cases hopens

/-- A header with a comment and a directive, and a body. -/
def commentedSource : Source :=
  ⟨⟨"t"⟩, "/* c */\n## a.txt v=1;\n${v}\n", .standard⟩

/-- The second line is the directive, and the body is the two others. -/
theorem body_keeps_iff_commented :
    (∀ n, commentedSource.takes n = true ↔ n = 2) ∧
      commentedSource.body = "/* c */\n${v}".toList := by
  have hdirectives : commentedSource.directives = .ok [⟨"a.txt", "v=1;", 0, 2⟩] := by
    decide +kernel
  have hkept : Text.joinLines commentedSource.keptLines = "/* c */\n${v}".toList := by
    decide +kernel
  obtain ⟨hbody, htakes, -, -⟩ := body_keeps_iff commentedSource
  refine ⟨fun n => ?_, (hbody.2 (.inl (by decide))).trans hkept⟩
  rw [htakes _ hdirectives n]
  simp [eq_comm]

/-- With the marker of comments a line is missing from the body of a text without directives. -/
theorem not_body_keeps :
    ¬ ∀ s : Source, s.body = Text.joinLines s.keptLines := by
  intro h
  have hbody := h ⟨⟨"t"⟩, "/* a.txt v=1;\nx", ⟨'/', '*', by decide, by decide⟩⟩
  revert hbody
  decide +kernel

end Source

end Imprint
