import Mathlib.Data.List.DropRight
import Imprint.Proofs.Header.Grammar
import Imprint.Proofs.Shorthand.Grammar
import Imprint.Proofs.Template.Closure

/-!
# The line of an interpolation that is not closed

A template whose shorthand is not closed is refused with the number of a line. The number counts the
lines of the body, and the body lacks the header lines that the marker opens. So the line with this
number is the one with the open `${` when no such line stands above it. Otherwise the `${` stands
further down, by as many lines as the marker opens above it.

## Main definitions

* `Imprint.Text.lineAt`: the line of a place in a text.
* `Imprint.Source.numberedBody`: the lines of the body with the numbers that they have in the
  template.
* `Imprint.Source.Offends`: the line of the template with the first live `${` that no brace closes.

## Main results

* `Imprint.Text.getElem?_of_joinLines`: the line of a place by the line feeds in front of it.
* `Imprint.Source.number_of_numberedBody`: where a line of the body stands in the template.
* `Imprint.Template.expand_of_compile_unclosed`: only the text itself is refused under its name.
* `Imprint.Template.offends_of_compileSource`: what the reported number says.
-/

namespace Imprint

/-! ### The line of a place -/

namespace Text

variable {l before after : List Char} {ls : List (List Char)}

/-- The line of the place between two parts of a text: what stands behind the last line feed of the
first, and before the first line feed of the second. -/
def lineAt (before after : List Char) : List Char :=
  before.rtakeWhile (· ≠ '\n') ++ after.takeWhile (· ≠ '\n')

theorem joinLines_cons_cons (l k : List Char) (ls : List (List Char)) :
    joinLines (l :: k :: ls) = l ++ '\n' :: joinLines (k :: ls) := by
  simp [joinLines, List.intercalate]

theorem rtakeWhile_of_notMem (h : '\n' ∉ l) : l.rtakeWhile (· ≠ '\n') = l :=
  List.rtakeWhile_eq_self_iff.2 fun c hc => by simpa using ne_of_mem_of_not_mem hc h

theorem takeWhile_of_notMem (h : '\n' ∉ l) : l.takeWhile (· ≠ '\n') = l :=
  List.takeWhile_eq_self_iff.2 fun c hc => by simpa using ne_of_mem_of_not_mem hc h

/-- Behind a line feed nothing in front of it counts. -/
theorem rtakeWhile_append_lineFeed (l r : List Char) :
    (l ++ '\n' :: r).rtakeWhile (· ≠ '\n') = r.rtakeWhile (· ≠ '\n') := by
  induction r using List.reverseRecOn with
  | nil => simp
  | append_singleton r c ih =>
    rw [← List.cons_append, ← List.append_assoc, List.rtakeWhile_concat, List.rtakeWhile_concat, ih]

/-- A place in joined lines is in the line that as many line feeds stand in front of. -/
theorem getElem?_of_joinLines (hls : ∀ l ∈ ls, '\n' ∉ l) (hne : ls ≠ [])
    (h : joinLines ls = before ++ after) :
    ls[before.count '\n']? = some (lineAt before after) := by
  induction ls generalizing before with
  | nil => exact absurd rfl hne
  | cons l ls ih =>
    have hl : '\n' ∉ l := hls l List.mem_cons_self
    cases ls with
    | nil =>
      obtain rfl : l = before ++ after := by simpa [joinLines, List.intercalate] using h
      simp only [List.mem_append, not_or] at hl
      rw [List.count_eq_zero.2 hl.1, lineAt, rtakeWhile_of_notMem hl.1, takeWhile_of_notMem hl.2]
      rfl
    | cons k ls =>
      rw [joinLines_cons_cons] at h
      rcases List.append_eq_append_iff.1 h with ⟨front, rfl, hrest⟩ | ⟨back, rfl, rfl⟩
      · cases front with
        | nil =>
          -- the place is the end of the first line
          obtain rfl : after = '\n' :: joinLines (k :: ls) := hrest.symm
          rw [List.append_nil, List.count_eq_zero.2 hl, lineAt, rtakeWhile_of_notMem hl]
          simp
        | cons c front =>
          rw [List.cons_append] at hrest
          obtain ⟨rfl, htail⟩ := List.cons.inj hrest
          have hline := ih (fun x hx => hls x (List.mem_cons_of_mem _ hx)) (List.cons_ne_nil k ls)
            htail
          rw [List.count_append, List.count_eq_zero.2 hl, List.count_cons_self, Nat.zero_add,
            List.getElem?_cons_succ, hline, lineAt, lineAt, rtakeWhile_append_lineFeed]
      · simp only [List.mem_append, not_or] at hl
        rw [List.count_eq_zero.2 hl.1, lineAt, rtakeWhile_of_notMem hl.1,
          List.takeWhile_append_of_pos fun c hc => by simpa using ne_of_mem_of_not_mem hc hl.2]
        simp

end Text

/-! ### Lines of the body -/

namespace Source

open Shorthand

variable {s : Source} {line before after : List Char} {n k : Nat}

/-- Whether a line with its number stays in the body. -/
def keeps (s : Source) (x : Nat × List Char) : Bool :=
  !(decide (x.1 ≤ s.header.length) && s.marker.opensLine x.2)

/-- The lines of the body with the numbers that they have in the template. -/
def numberedBody (s : Source) : List (Nat × List Char) :=
  s.numberedLines.filter s.keeps

/-- A line of the template holds the first live `${` of the body that no brace closes. -/
def Offends (s : Source) (n : Nat) : Prop :=
  ∃ before ts r, s.body = before ++ r ∧ Scans s.body ts r ∧ Unclosable r ∧
    s.numberedBody[before.count '\n']? = some (n, Text.lineAt before r)

theorem keeps_of_mem_numberedHeader {x : Nat × List Char} (hx : x ∈ s.numberedHeader) :
    s.keeps x = !s.marker.opensLine x.2 := by
  obtain ⟨i, hi, hn⟩ := mem_numberedHeader_iff.1 (show (x.1, x.2) ∈ s.numberedHeader from hx)
  have hle : x.1 ≤ s.header.length := hn ▸ (List.getElem?_eq_some_iff.1 hi).1
  simp [keeps, hle]

theorem keeps_of_mem_afterHeader {x : Nat × List Char}
    (hx : x ∈ (s.afterHeader.zipIdx s.header.length).map fun x => (x.2 + 1, x.1)) :
    s.keeps x = true := by
  obtain ⟨y, hy, rfl⟩ := List.mem_map.1 hx
  have hle := List.le_snd_of_mem_zipIdx hy
  simp [keeps, Nat.not_le.2 (Nat.lt_succ_of_le hle)]

theorem map_numberedBody (s : Source) : s.numberedBody.map Prod.snd = s.bodyLines := by
  have hafter (ls : List (List Char)) (k : Nat) :
      (ls.zipIdx k).map (Prod.snd ∘ fun x => (x.2 + 1, x.1)) = ls := List.zipIdx_map_fst k ls
  rw [numberedBody, numberedLines_eq, List.filter_append, List.map_append,
    List.filter_eq_self.2 fun x => keeps_of_mem_afterHeader, List.map_map, hafter,
    List.filter_congr fun x => keeps_of_mem_numberedHeader, bodyLines, numberedHeader,
    List.filter_map, List.map_map]
  congr 1
  calc (s.header.zipIdx.filter ((!s.marker.opensLine ·) ∘ Prod.fst)).map Prod.fst
      = (s.header.zipIdx.map Prod.fst).filter (!s.marker.opensLine ·) := List.filter_map.symm
    _ = s.header.filter (!s.marker.opensLine ·) := by rw [List.zipIdx_map_fst]

/-- What the body leaves out are the header lines that the marker opens. -/
theorem filter_not_keeps (s : Source) : s.numberedLines.filter (!s.keeps ·) = s.markedLines := by
  have hafter : ((s.afterHeader.zipIdx s.header.length).map
      fun x => (x.2 + 1, x.1)).filter (!s.keeps ·) = [] :=
    List.filter_eq_nil_iff.2 fun x hx => by simp [keeps_of_mem_afterHeader hx]
  rw [numberedLines_eq, List.filter_append, hafter, List.append_nil, markedLines]
  exact List.filter_congr fun x hx => by rw [keeps_of_mem_numberedHeader hx, Bool.not_not]

theorem getElem?_numberedLines (s : Source) (i : Nat) :
    s.numberedLines[i]? = s.lines[i]?.map fun line => (i + 1, line) := by
  simp [numberedLines, List.getElem?_zipIdx, Function.comp_def]

theorem pairwise_numberedLines (s : Source) : s.numberedLines.Pairwise fun x y => x.1 < y.1 := by
  have hnumbers : s.lines.zipIdx.Pairwise fun x y => x.2 < y.2 := by
    rw [← List.pairwise_map, List.zipIdx_map_snd]
    exact List.pairwise_lt_range'
  exact List.pairwise_map.2 (hnumbers.imp fun hlt => Nat.succ_lt_succ hlt)

/-- A line of the body stands in the template behind all lines that are left out above it. -/
theorem number_of_numberedBody (h : s.numberedBody[k]? = some (n, line)) :
    s.lines[n - 1]? = some line ∧ n = k + 1 + s.markedLines.countP (·.1 < n) := by
  obtain ⟨hk, hline⟩ := List.getElem?_eq_some_iff.1 h
  have hbody : s.numberedBody =
      s.numberedBody.take k ++ (n, line) :: s.numberedBody.drop (k + 1) := by
    rw [← hline, List.getElem_cons_drop, List.take_append_drop]
  obtain ⟨front, rest, hlines, hfront, hrest⟩ := List.filter_eq_append_iff.1 hbody
  obtain ⟨gap, back, rfl, hgap, hkept, -⟩ := List.filter_eq_cons_iff.1 hrest
  rw [← List.append_assoc] at hlines
  -- above the line stand `k` lines that are kept, and those that are left out
  have hkeeps : (front ++ gap).countP s.keeps = k := by
    rw [List.countP_eq_length_filter, List.filter_append, hfront, List.filter_eq_nil_iff.2 hgap,
      List.append_nil, List.length_take, Nat.min_eq_left (Nat.le_of_lt hk)]
  have hat := getElem?_numberedLines s (front ++ gap).length
  rw [hlines, List.getElem?_append_right (Nat.le_refl _), Nat.sub_self, List.getElem?_cons_zero,
    eq_comm, Option.map_eq_some_iff] at hat
  obtain ⟨line', hline', heq⟩ := hat
  obtain ⟨hn, rfl⟩ := Prod.mk.inj heq
  have hpairwise := s.pairwise_numberedLines
  rw [hlines, List.pairwise_append, List.pairwise_cons] at hpairwise
  obtain ⟨-, ⟨hbelow, -⟩, habove⟩ := hpairwise
  have hmarked : s.markedLines.countP (·.1 < n) = (front ++ gap).countP (!s.keeps ·) := by
    have hfirst : ∀ x ∈ (front ++ gap).filter (!s.keeps ·), decide (x.1 < n) = true :=
      fun x hx => by simpa using habove x (List.mem_of_mem_filter hx) _ List.mem_cons_self
    have hlast : ∀ x ∈ back.filter (!s.keeps ·), ¬ decide (x.1 < n) = true :=
      fun x hx => by simpa using Nat.le_of_lt (hbelow x (List.mem_of_mem_filter hx))
    rw [← filter_not_keeps, hlines, List.filter_append, List.filter_cons_of_neg (by simp [hkept]),
      List.countP_append, List.countP_eq_length.2 hfirst, List.countP_eq_zero.2 hlast,
      Nat.add_zero, List.countP_eq_length_filter]
  have hlength := List.length_eq_countP_add_countP s.keeps (l := front ++ gap)
  rw [hmarked, ← hn]
  refine ⟨by simpa using hline', ?_⟩
  simp only [hkeeps, Bool.not_eq_true, Bool.decide_eq_false] at hlength
  omega

/-- A place in the body is on a line of the template. -/
theorem exists_number (hne : s.body ≠ []) (h : s.body = before ++ after) :
    ∃ n, s.numberedBody[before.count '\n']? = some (n, Text.lineAt before after) := by
  have hlines : ∀ l ∈ s.bodyLines, '\n' ∉ l := by
    intro l hl
    have hmem : l ∈ s.lines := by
      rw [← s.header_append_afterHeader]
      exact (List.filter_sublist.append_right s.afterHeader).subset hl
    exact Text.notMem_of_mem_lines hmem
  have hnil : s.bodyLines ≠ [] := fun hnil => hne (by rw [body, hnil]; rfl)
  have hat := Text.getElem?_of_joinLines hlines hnil h
  rw [← map_numberedBody, List.getElem?_map, Option.map_eq_some_iff] at hat
  obtain ⟨⟨n, line⟩, hn, rfl⟩ := hat
  exact ⟨n, hn⟩

/-- The line that offends is a line of the template, and the `${` stands on it. -/
theorem Offends.exists_line (h : s.Offends n) :
    ∃ front back, s.lines[n - 1]? = some (front ++ '$' :: '{' :: back) := by
  obtain ⟨before, ts, r, -, -, ⟨r', rfl, -⟩, hline⟩ := h
  refine ⟨before.rtakeWhile (· ≠ '\n'), r'.takeWhile (· ≠ '\n'), ?_⟩
  rw [(number_of_numberedBody hline).1]
  simp [Text.lineAt]

/-- One line offends when the shorthand of the body is not closed: that with the number that is
given, moved down by the lines that are left out above it. -/
theorem offends_iff_of_expand {line : Nat} (h : expand s.body = .error ⟨line⟩) :
    ∃ n, (∀ k, s.Offends k ↔ k = n) ∧ n = line + s.markedLines.countP (·.1 < n) := by
  have hcount {before r : List Char} {ts : List Token} (hbody : s.body = before ++ r)
      (hscans : Scans s.body ts r) (hr : Unclosable r) : line = 1 + before.count '\n' := by
    have herror := ((expand_iff_scans s.body).2 _).2 ⟨before, ts, r, hbody, hscans, hr, rfl⟩
    exact Unclosed.mk.inj (Except.error.inj (h.symm.trans herror))
  obtain ⟨before, ts, r, hbody, hscans, hr, rfl⟩ := ((expand_iff_scans s.body).2 line).1 h
  have hne : s.body ≠ [] := by
    obtain ⟨r', rfl, -⟩ := hr
    rw [hbody]
    simp
  obtain ⟨n, hn⟩ := exists_number hne hbody
  refine ⟨n, fun k => ⟨?_, ?_⟩, ?_⟩
  · rintro ⟨before', ts', r', hbody', hscans', hr', hk⟩
    rw [← Nat.add_left_cancel (hcount hbody' hscans' hr'), hn] at hk
    exact (Prod.mk.inj (Option.some.inj hk)).1.symm
  · rintro rfl
    exact ⟨before, ts, r, hbody, hscans, hr, hn⟩
  · rw [Nat.add_comm 1]
    exact (number_of_numberedBody hn).2

end Source

/-! ### What is reported -/

namespace Template

open Log Shorthand

variable {store : Store} {searchPath : List Path} {name : String} {t : List Char} {line : Nat}
  {log log' : List Event}

/-- Under the name of a template only its own text is refused for its shorthand: no other text is
loaded under this name. -/
theorem expand_of_compile_unclosed
    (h : (compile store searchPath name t).run.run log = (.error (.unclosed name line), log')) :
    expand t = .error ⟨line⟩ := by
  rcases compile_eq_error h with hexpanded | ⟨u, visited, l, hu, hvisits, hends | ⟨-, flaw, heq⟩⟩
  · simp only [expanded] at hexpanded
    split at hexpanded
    · cases hexpanded
    · next e he =>
      obtain ⟨-, rfl⟩ := RenderError.unclosed.inj (Except.error.inj hexpanded)
      exact he
  · cases hends with
    | @failed next rest _ hnext hvisit =>
      exfalso
      have hseen : name ∈ l.seen := (Loading.sound_start.visits hvisits.perm).self_seen
      rcases Loading.visit_eq_error hvisit with hfetch | ⟨-, -, heq⟩
      · rcases fetch_eq_error hfetch with ⟨path, fault, heq⟩ | ⟨line', heq⟩
        · cases heq
        · -- the name was seen from the start, so it is not visited
          obtain ⟨rfl, -⟩ := RenderError.unclosed.inj heq
          simp [Loading.visit, hseen] at hvisit
      · cases heq
  · cases heq

/-- A text whose shorthand is not closed is refused before anything is loaded. -/
theorem compile_of_expand (h : expand t = .error ⟨line⟩) :
    Yields (compile store searchPath name t) (.error (.unclosed name line)) :=
  yields_compile (yields_load_of_error (by rw [expanded, h]))

/-- A template that is refused for its shorthand has one line with the open `${`. The number that is
reported misses it by the header lines above it that the marker opens, so it is the number of this
line just when there are none. -/
theorem offends_of_compileSource (s : Source) (store : Store) (searchPath : List Path)
    {line : Nat} {log log' : List Event}
    (h : (compileSource store searchPath s).run.run log =
      (.error (.unclosed s.name line), log')) :
    ∃ n, (∀ k, s.Offends k ↔ k = n) ∧
      (∃ front back, s.lines[n - 1]? = some (front ++ '$' :: '{' :: back)) ∧
      n = line + s.markedLines.countP (·.1 < n) ∧
      (s.Offends line ↔ ∀ x ∈ s.markedLines, n ≤ x.1) := by
  obtain ⟨n, hoffends, hn⟩ := Source.offends_iff_of_expand (expand_of_compile_unclosed h)
  refine ⟨n, hoffends, ((hoffends n).2 rfl).exists_line, hn, ?_⟩
  have hnone : line = n ↔ s.markedLines.countP (·.1 < n) = 0 := by omega
  rw [hoffends line, hnone, List.countP_eq_zero]
  simp

/-- A template with a comment and a directive above an interpolation that is not closed. -/
def openSource : Source :=
  ⟨⟨"t.mako"⟩, "/* c */\n## a.txt v=1;\nok\n$\x7bx\n", .standard⟩

/-- The interpolation stands on the fourth line and is reported on the third. -/
theorem offends_of_compileSource_open :
    (∃ log, (compileSource {} [] openSource).run.run [] =
      (.error (.unclosed "t.mako" 3), log)) ∧
    openSource.Offends 4 ∧ ¬ openSource.Offends 3 := by
  have hexpand : expand openSource.body = .error ⟨3⟩ := by decide +kernel
  have hname : openSource.name = "t.mako" := by decide +kernel
  have hmarked : openSource.markedLines = [(2, "## a.txt v=1;".toList)] := by decide +kernel
  obtain ⟨log, hrun⟩ : ∃ log, (compileSource {} [] openSource).run.run [] =
      (.error (.unclosed openSource.name 3), log) := compile_of_expand hexpand []
  obtain ⟨n, hoffends, -, hn, hthird⟩ := offends_of_compileSource openSource {} [] hrun
  have hle : 3 ≤ n := by omega
  have hlt : 2 < n := hle
  obtain rfl : n = 4 := by simpa [hmarked, hlt] using hn
  exact ⟨⟨log, hname ▸ hrun⟩, (hoffends 4).2 rfl, by simp [hthird, hmarked]⟩

/-- Below a directive the reported line is not the one with the open `${`. -/
theorem not_offends_of_compileSource :
    ¬ ∀ (s : Source) (store : Store) (searchPath : List Path) (line : Nat) (log log' : List Event),
      (compileSource store searchPath s).run.run log = (.error (.unclosed s.name line), log') →
      s.Offends line := by
  intro h
  let source : Source := ⟨⟨"t.mako"⟩, "## a.txt v=1;\n$\x7bx", .standard⟩
  have hexpand : expand source.body = .error ⟨1⟩ := by decide +kernel
  have hfirst : source.lines[0]? = some "## a.txt v=1;".toList := by decide +kernel
  obtain ⟨log, hrun⟩ : ∃ log, (compileSource {} [] source).run.run [] =
      (.error (.unclosed source.name 1), log) := compile_of_expand hexpand []
  obtain ⟨front, back, hline⟩ := (h source {} [] 1 [] log hrun).exists_line
  -- the first line is the directive, and no `$` stands on it
  have hdollar : '$' ∈ "## a.txt v=1;".toList := by
    rw [Option.some.inj (hfirst.symm.trans hline)]
    simp
  exact absurd hdollar (by decide)

end Template

end Imprint
