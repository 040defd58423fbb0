import Imprint.Directive
import Imprint.Proofs.Text.Lines
import Imprint.Template.Compile

/-!
# Line ends

A template may be written with a line feed at the end of each line, or with a carriage return in
front of each line feed. The lines are the same, and everything that is read of a template is read
of its lines: the directives or what is wrong with them, what is reported on the way, the body, and
with the body the compiled template.

## Main definitions

* `Imprint.Text.withReturns`: a text with a carriage return in front of each line feed.
* `Imprint.Source.withReturns`: a template with the same text, its lines ended in the other way.

## Main results

* `Imprint.Text.lines_withReturns`: the lines do not depend on how they are ended.
* `Imprint.Source.read_withReturns`: neither does anything that is read of a template.
-/

namespace Imprint

/-! ### Texts -/

namespace Text

variable {s l : List Char}

/-- A text with a carriage return in front of each line feed. -/
def withReturns (s : List Char) : List Char :=
  s.flatMap fun c => if c = '\n' then ['\r', '\n'] else [c]

theorem withReturns_lineFeed (s : List Char) :
    withReturns ('\n' :: s) = '\r' :: '\n' :: withReturns s :=
  rfl

theorem withReturns_cons {c : Char} (hc : c ≠ '\n') (s : List Char) :
    withReturns (c :: s) = c :: withReturns s := by
  rw [withReturns, List.flatMap_cons, if_neg hc, List.singleton_append, ← withReturns]

/-- The carriage return of a line end is no part of the line. -/
theorem dropReturn_concat (l : List Char) : dropReturn (l ++ ['\r']) = l := by
  simp [dropReturn]

/-- A line with the longer end is the first line of a text, like one with the shorter end. -/
theorem lines_append_return (h : '\n' ∉ l) (s : List Char) :
    lines (l ++ '\r' :: '\n' :: s) = l :: lines s := by
  have hline : '\n' ∉ l ++ ['\r'] := by simpa using h
  have htext : l ++ '\r' :: '\n' :: s = (l ++ ['\r']) ++ '\n' :: s := by simp
  rw [htext, lines_append_cons hline, dropReturn_concat]

/-- Carriage returns in front of all line feeds leave the lines as they are, also behind the
beginning of a line. -/
theorem lines_append_withReturns (hfeed : '\n' ∉ l) (hreturn : '\r' ∉ l) (h : '\r' ∉ s) :
    lines (l ++ withReturns s) = lines (l ++ s) := by
  induction s generalizing l with
  | nil => rfl
  | cons c r ih =>
    simp only [List.mem_cons, not_or] at h
    by_cases hc : c = '\n'
    · subst hc
      have hkept : dropReturn l = l :=
        dropReturn_eq_self fun hlast => hreturn (List.mem_of_mem_getLast? hlast)
      have hrest : lines (withReturns r) = lines r :=
        ih (l := []) (by simp) (by simp) h.2
      rw [withReturns_lineFeed, lines_append_return hfeed, lines_append_cons hfeed, hkept, hrest]
    · -- the character belongs to the beginning of the line
      have hline := ih (l := l ++ [c]) (by simp [hfeed, Ne.symm hc]) (by simp [hreturn, h.1]) h.2
      rw [withReturns_cons hc]
      simpa using hline

/-- Carriage returns in front of all line feeds leave the lines as they are. -/
theorem lines_withReturns (h : '\r' ∉ s) : lines (withReturns s) = lines s :=
  lines_append_withReturns (l := []) (by simp) (by simp) h

end Text

/-! ### Templates -/

namespace Source

open Template

variable {s s' : Source}

/-- The template with a carriage return in front of each line feed. -/
def withReturns (s : Source) : Source :=
  { s with text := String.ofList (Text.withReturns s.text.toList) }

theorem lines_withReturns (h : '\r' ∉ s.text.toList) : s.withReturns.lines = s.lines := by
  rw [lines, withReturns, String.toList_ofList, Text.lines_withReturns h, lines]

/-- Two templates of one marker that have the same lines have the same header. -/
theorem numberedHeader_of_lines (hmarker : s'.marker = s.marker) (hlines : s'.lines = s.lines) :
    s'.numberedHeader = s.numberedHeader := by
  rw [numberedHeader, header, hlines, hmarker, ← header, ← numberedHeader]

theorem body_of_lines (hmarker : s'.marker = s.marker) (hlines : s'.lines = s.lines) :
    s'.body = s.body := by
  rw [body, bodyLines, header, afterHeader, hlines, hmarker, ← header, ← afterHeader, ← bodyLines,
    ← body]

theorem declarations_of_lines (hmarker : s'.marker = s.marker) (hlines : s'.lines = s.lines) :
    s'.declarations = s.declarations := by
  rw [declarations, numberedHeader_of_lines hmarker hlines, hmarker, ← declarations]

/-- A template without carriage returns reads the same when its lines end in a carriage return and
a line feed. -/
theorem read_withReturns (s : Source) (h : '\r' ∉ s.text.toList) :
    s.withReturns.numberedHeader = s.numberedHeader ∧
      s.withReturns.directives = s.directives ∧
      s.withReturns.headerEvents = s.headerEvents ∧
      s.withReturns.body = s.body ∧
      ∀ store searchPath,
        compileSource store searchPath s.withReturns = compileSource store searchPath s := by
  have hlines : s.withReturns.lines = s.lines := lines_withReturns h
  have hdeclarations : s.withReturns.declarations = s.declarations :=
    declarations_of_lines rfl hlines
  have hdirectives : s.withReturns.directives = s.directives := by
    rw [directives, hdeclarations]
    rfl
  have hbody : s.withReturns.body = s.body := body_of_lines rfl hlines
  refine ⟨numberedHeader_of_lines rfl hlines, hdirectives, ?_, hbody, fun store searchPath => ?_⟩
  · rw [headerEvents, hdeclarations, hdirectives]
    rfl
  · rw [compileSource, hbody]
    rfl

/-- A header of a directive and a comment, an empty line, and a line without an end. -/
def notedSource : Source :=
  ⟨⟨"t"⟩, "## a.txt v=1;\n/* c */\n\n${v}", .standard⟩

/-- Its directive and its body are free of the carriage returns that its text has. -/
theorem read_withReturns_noted :
    notedSource.withReturns.text = "## a.txt v=1;\r\n/* c */\r\n\r\n${v}" ∧
      notedSource.withReturns.directives = .ok [⟨"a.txt", "v=1;", 0, 1⟩] ∧
      notedSource.withReturns.body = "/* c */\n\n${v}".toList := by
  have hdirectives : notedSource.directives = .ok [⟨"a.txt", "v=1;", 0, 1⟩] := by decide +kernel
  have hbody : notedSource.body = "/* c */\n\n${v}".toList := by decide +kernel
  obtain ⟨-, hsame, -, hrest, -⟩ := read_withReturns notedSource (by decide +kernel)
  exact ⟨by decide +kernel, hsame.trans hdirectives, hrest.trans hbody⟩

end Source

end Imprint
