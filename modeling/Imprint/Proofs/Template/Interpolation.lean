import Imprint.Proofs.Template.Closure
import Imprint.Proofs.Template.Output

/-!
# The two ways to write an interpolation

An expression stands between `{{ ` and ` }}`, or in the shorthand between `${` and `}`. The template
finds its end by the words of the expression and so passes over quoted texts; the shorthand counts
braces, those in quoted texts included. So both ways to write it mean the same, whatever quoted
texts the expression holds, if their braces are balanced, and otherwise the shorthand is an error.

## Main definitions

* `Imprint.Template.shorthand`: an expression in the shorthand.

## Main results

* `Imprint.Template.expand_shorthand`: the shorthand is expanded to an output.
* `Imprint.Template.compile_congr`: texts that are compiled alike.
* `Imprint.Template.renderText_shorthand`: when both ways to write it mean the same.
-/

namespace Imprint.Template

variable {d e r s t t' u v : List Char} {store : Store} {searchPath : List Path} {name : String}

/-- An expression in the shorthand. -/
def shorthand (e : List Char) : List Char :=
  ['$', '{'] ++ e ++ ['}']

/-! ### Raw blocks -/

theorem IsWordTag.isQuote_eq_false {m : List Char} {c : Char}
    (h : IsWordTag ['r', 'a', 'w'] m) (hc : c ∈ m) : Reader.isQuote c = false := by
  rw [Bool.eq_false_iff]
  intro hquote
  simp only [Reader.isQuote, Bool.or_eq_true, beq_iff_eq] at hquote
  rcases hquote with (rfl | rfl) | rfl
  all_goals exact h.notMem (by decide) (by decide) (by decide) hc

/-- No raw block goes over the end of an expression, as its braces stand in quoted texts. -/
theorem staysRawless_of_lexed (he : Lexed (' ' :: (e ++ [' ']))) (hraw : Shorthand.Rawless e) :
    Shorthand.StaysRawless e := by
  intro v hv hne u
  refine Option.eq_none_iff_forall_ne_some.2 fun rest hrest => ?_
  obtain ⟨m, hm, heq⟩ := (wordTag?_eq_some_iff solidHead_raw).1 hrest
  rcases List.append_eq_append_iff.1 heq with ⟨x, rfl, -⟩ | ⟨x, rfl, -⟩
  · -- The tag would go over the quote that follows its brace.
    obtain ⟨w, rfl⟩ := hv
    obtain ⟨c, v, rfl⟩ := List.exists_cons_of_ne_nil hne
    obtain rfl : c = '{' := by
      obtain ⟨r, heq⟩ := hm.exists_eq_cons
      exact (List.cons.inj heq).1
    have hlexed : Lexed (' ' :: w ++ '{' :: (v ++ [' '])) := by simpa using he
    obtain ⟨q, hq, hquote⟩ := hlexed.exists_quote
    have hmem : q ∈ v := by
      rcases List.mem_append.1 hq with hq | hq
      · exact hq
      · obtain rfl := List.mem_singleton.1 hq
        cases hquote
    rw [hm.isQuote_eq_false (by simp [hmem])] at hquote
    cases hquote
  · have hnone := hraw _ hv
    rw [hm.wordTag?_append solidHead_raw] at hnone
    cases hnone

theorem rawBlock?_append_brace (he : Shorthand.StaysRawless e) :
    ∀ v, v <:+ e ++ ['}'] → v ≠ [] → rawBlock? v = none := by
  intro v hv hne
  rw [rawBlock?]
  rcases Text.suffix_append_cases hv with hv | ⟨w, hw, hne', rfl⟩
  · obtain rfl : v = ['}'] := (List.suffix_cons_iff.1 hv).resolve_right fun hnil =>
      hne (List.suffix_nil.1 hnil)
    rfl
  · rw [he w hw hne']
    rfl

/-- The brace of the shorthand opens no raw block: its tag would end in the expression, in front of
the first quote. -/
theorem rawBlock?_brace (he : Lexed (' ' :: (e ++ [' ']))) :
    rawBlock? ('{' :: (e ++ ['}'])) = none := by
  refine Option.eq_none_iff_forall_ne_some.2 fun x hx => ?_
  obtain ⟨rest, hrest, hx⟩ := Option.bind_eq_some_iff.1 hx
  obtain ⟨rest', hend, -⟩ := Option.bind_eq_some_iff.1 hx
  obtain ⟨m, hm, heq⟩ := (wordTag?_eq_some_iff solidHead_raw).1 hrest
  -- An end tag has to follow, so the first tag is not all of the text.
  obtain ⟨y, c, rfl⟩ : ∃ y c, rest = y ++ [c] := by
    rcases List.eq_nil_or_concat rest with rfl | ⟨y, c, rfl⟩
    · cases hend
    · exact ⟨y, c, by simp⟩
  obtain ⟨heq, -⟩ : '{' :: e = m ++ y ∧ '}' = c := by
    rw [← List.cons_append, ← List.append_assoc] at heq
    simpa using List.append_inj' heq rfl
  obtain ⟨m', rfl⟩ := hm.exists_eq_cons
  obtain rfl : e = m' ++ y := (List.cons.inj heq).2
  have hclear := he.clear
  rw [List.append_assoc, ← List.cons_append, isClear_append, Bool.and_eq_true_iff] at hclear
  have hquote : ∀ c ∈ ' ' :: m', Reader.isQuote c = false := by
    intro c hc
    rcases List.mem_cons.1 hc with rfl | hc
    · decide
    · exact hm.isQuote_eq_false (List.mem_cons_of_mem _ hc)
  have hbrace : '}' ∈ m' := by
    have hmem := hm.isSuffix.subset (List.mem_cons_of_mem '%' List.mem_cons_self)
    exact (List.mem_cons.1 hmem).resolve_left (by decide)
  exact absurd (isBare_of_isClear hclear.1 hquote (List.mem_cons_of_mem _ hbrace)) (by decide)

/-- No raw block is found in the shorthand. -/
theorem rawBlock?_shorthand (he : Lexed (' ' :: (e ++ [' ']))) (hraw : Shorthand.Rawless e) :
    ∀ v, v <:+ shorthand e → v ≠ [] → rawBlock? v = none := by
  intro v hv hne
  rcases List.suffix_cons_iff.1 hv with rfl | hv
  · rw [rawBlock?, wordTag?_eq_none_of_ne (c := '$') (by decide)]
    rfl
  · rcases List.suffix_cons_iff.1 hv with rfl | hv
    · exact rawBlock?_brace he
    · exact rawBlock?_append_brace (staysRawless_of_lexed he hraw) v hv hne

theorem rawless_output (he : Lexed (' ' :: (e ++ [' ']))) (hraw : Shorthand.Rawless e) :
    Shorthand.Rawless (output e) := by
  intro v hv
  rcases Text.suffix_append_cases hv with hv | ⟨w, hw, hne, rfl⟩
  · rcases v with _ | ⟨c, v⟩
    · rfl
    · refine wordTag?_eq_none_of_ne ?_ v
      rintro rfl
      exact absurd (hv.subset List.mem_cons_self) (by decide)
  · rcases Text.suffix_append_cases hw with hw | ⟨w', hw', hne', rfl⟩
    · exact staysRawless_of_lexed he hraw w hw hne _
    · have hopen : ∀ w' ∈ [['{', '{', ' '], ['{', ' '], [' ']], ∀ u,
          Text.after? ['{', '%'] (w' ++ u) = none := by
        simp [Text.after?]
      refine wordTag?_eq_none ?_
      rw [List.append_assoc]
      refine hopen w' ?_ _
      simpa [List.suffix_cons_iff, hne'] using hw'

/-! ### Expansion -/

/-- Balanced braces are all in one interpolation. -/
theorem expand_shorthand (he : Lexed (' ' :: (e ++ [' ']))) (hraw : Shorthand.Rawless e)
    (hbalanced : Shorthand.Balanced e) :
    Shorthand.expand (shorthand e) = .ok (output (Text.trim e)) := by
  refine Shorthand.expand_eq_ok_iff.2 ⟨[.interpolation e],
    (Shorthand.readsText_iff_of_none (rawBlock?_shorthand he hraw)).2 ?_, ?_⟩
  · simpa [shorthand] using Shorthand.Reads.interpolation hbalanced .nil
  · simp [Shorthand.Token.expansion, output]

theorem expand_output (he : Lexed (' ' :: (e ++ [' ']))) (hraw : Shorthand.Rawless e)
    (hdollar : ¬ ['$', '{'] <:+: e) : Shorthand.expand (output e) = .ok (output e) := by
  have hplain : ¬ ['$', '{'] <:+: output e := by
    rw [output, Text.pair_infix_append, Text.pair_infix_append]
    rintro ((h | h | ⟨h, -⟩) | h | ⟨-, h⟩)
    · exact absurd h (by decide)
    · exact hdollar h
    · exact absurd h (by decide)
    · exact absurd h (by decide)
    · exact absurd h (by decide)
  exact Shorthand.expand_eq_ok_iff.2 ⟨_,
    (Shorthand.readsText_iff_of_rawless (rawless_output he hraw)).2 (Shorthand.reads_plain hplain),
    Shorthand.flatMap_expansion_plain _⟩

/-! ### Texts that are compiled alike -/

theorem ofTexts_congr (h : ofText name t = ofText name t') (texts : List (String × List Char)) :
    Library.ofTexts (texts ++ [(name, t)]) = Library.ofTexts (texts ++ [(name, t')]) := by
  simp [Library.ofTexts, List.mapM_append, h]

/-- Texts with the same references and the same tree are compiled alike. -/
theorem compile_congr (store : Store) (searchPath : List Path)
    (hs : expanded name s = .ok t) (hs' : expanded name u = .ok t')
    (hreferences : references t = references t') (hnodes : nodesOf t = nodesOf t') :
    compile store searchPath name s = compile store searchPath name u := by
  have htext : ofText name t = ofText name t' := by rw [ofText, ofText, hnodes]
  simp only [compile, load, hs, hs', hreferences, ofExcept, pure_bind, bind_assoc,
    ofTexts_congr htext]

/-! ### Braces that are not balanced -/

/-- What the shorthand is expanded to when it ends too early: the expression is cut in a quoted
text, and the rest stands behind the output. -/
theorem exists_cut_of_expand (he : Lexed (' ' :: (e ++ [' ']))) (hraw : Shorthand.Rawless e)
    (hdollar : ¬ ['$', '{'] <:+: e) (hbalanced : ¬ Shorthand.Balanced e)
    (h : Shorthand.expand (shorthand e) = .ok t) :
    ∃ d r, e = d ++ '}' :: r ∧ t = output (Text.trim d) ++ (r ++ ['}']) := by
  obtain ⟨ts, hread, rfl⟩ := Shorthand.expand_eq_ok_iff.1 h
  rw [Shorthand.readsText_iff_of_none (rawBlock?_shorthand he hraw)] at hread
  generalize hs : shorthand e = s at hread
  cases hread with
  | nil => simp [shorthand] at hs
  | escape => simp [shorthand] at hs
  | plain hc =>
    refine absurd (.inl ?_) hc
    rw [← hs]
    exact ⟨e ++ ['}'], by simp [shorthand]⟩
  | @interpolation d r ts hd hr =>
    have heq : e ++ ['}'] = d ++ '}' :: r := by simpa [shorthand] using hs
    rcases List.append_eq_append_iff.1 heq with ⟨x, rfl, hx⟩ | ⟨x, rfl, hx⟩
    · have hlength := congrArg List.length hx
      simp only [List.length_append, List.length_cons, List.length_nil] at hlength
      obtain rfl : x = [] := List.length_eq_zero_iff.1 (by omega)
      rw [List.append_nil] at hd
      exact absurd hd hbalanced
    · rcases x with _ | ⟨c, x⟩
      · rw [List.append_nil] at hbalanced
        exact absurd hd hbalanced
      · obtain ⟨rfl, rfl⟩ := List.cons.inj hx
        have hplain : ¬ ['$', '{'] <:+: x ++ ['}'] := by
          rw [Text.pair_infix_append]
          rintro (h | h | ⟨-, h⟩)
          · exact hdollar (h.trans ⟨d ++ ['}'], [], by simp⟩)
          · exact absurd h (by decide)
          · exact absurd h (by decide)
        refine ⟨d, x, rfl, ?_⟩
        rw [List.flatMap_cons, hr.eq_plain hplain, Shorthand.flatMap_expansion_plain]
        rfl

/-- A text with an output that is not closed is no template. -/
theorem pieces?_eq_none (h : untilDelimiter? '}' '}' none s = none) :
    pieces? ('{' :: '{' :: s) = none := by
  have hpiece : piece? ('{' :: '{' :: s) = none := by
    rw [piece?, h]
    rfl
  have hspoilt : delimited? ('{' :: '{' :: s ++ []) = some (none, []) := by
    rw [List.append_nil, delimited?, hpiece]
    rfl
  have hregions := Text.regions_append_found (by simp) hspoilt
  rw [List.append_nil] at hregions
  rw [pieces?, hregions]
  rfl

/-- An expression that is cut in a quoted text is not closed by what follows. -/
theorem untilDelimiter?_cut (he : Lexed (' ' :: (d ++ '}' :: r ++ [' ']))) :
    untilDelimiter? '}' '}' none (' ' :: (Text.trim d ++ [' ', '}', '}'] ++ (r ++ ['}']))) =
      none := by
  obtain ⟨a, c, ha, hc, htrim⟩ := Text.exists_blanks_trim d
  generalize Text.trim d = t at htrim
  subst htrim
  have ha' : ∀ c ∈ ' ' :: a, Text.isBlank c = true := by simpa using ⟨by decide, ha⟩
  have hclear := he.clear
  have heq : ' ' :: (a ++ (t ++ c) ++ '}' :: r ++ [' ']) =
      (' ' :: a ++ (t ++ c)) ++ '}' :: (r ++ [' ']) := by simp
  rw [heq, isClear_append, Bool.and_eq_true_iff, quoteAt_blanks ha' hc] at hclear
  obtain ⟨hfront, hback⟩ := hclear
  have ht := isClear_of_blanks ha' hfront
  cases hq : quoteAt none t with
  | none =>
    rw [hq] at hback
    exact absurd (Bool.and_eq_true_iff.1 hback).1 (by decide)
  | some q =>
    have hquote : Reader.isQuote q = true := isQuote_of_quoteAt (by simp) hq
    have hne {c : Char} (hc : Reader.isQuote c = false) : c ≠ q := by
      rintro rfl
      rw [hquote] at hc
      cases hc
    -- The quoted text goes on behind the brace as it did in the expression.
    have hr : isClear (some q) r = true := by
      rw [hq] at hback
      have hrest := (Bool.and_eq_true_iff.1 hback).2
      rw [quoteAfter, if_neg (hne (by decide)), isClear_append, Bool.and_eq_true_iff] at hrest
      exact hrest.1
    have hclose : q ∉ [' ', '}', '}'] := by
      simp [(hne (c := ' ') (by decide)).symm, (hne (c := '}') (by decide)).symm]
    have hall : isClear none (' ' :: (t ++ [' ', '}', '}'] ++ r)) = true := by
      have hspace : isClear none (' ' :: (t ++ [' ', '}', '}'] ++ r)) =
          isClear none (t ++ [' ', '}', '}'] ++ r) := rfl
      rw [hspace, isClear_append, isClear_append, quoteAt_append, ht, hq, isClear_some hclose,
        quoteAt_some hclose, hr]
      rfl
    have hnone := untilDelimiter?_eq_none_of_isClear hall
    simpa using hnone

/-- What is compiled has a tree. -/
theorem exists_nodesOf_of_run_compile {c : Compiled} {log log' : List Log.Event}
    (hs : expanded name s = .ok t)
    (hrun : (compile store searchPath name s).run.run log = (.ok c, log')) :
    ∃ nodes, nodesOf t = .ok nodes := by
  obtain ⟨t', visited, l, hs', -, -, htexts⟩ := compile_eq_ok hrun
  obtain rfl : t = t' := Except.ok.inj (hs.symm.trans hs')
  have hmem : (name, t) ∈ l.texts name t := Loading.mem_texts.2 (.inr rfl)
  obtain ⟨template, -, -, htemplate⟩ :=
    exists_mem_of_forall₂ (List.Forall₂.flip (Library.templates_of_ofTexts htexts)) hmem
  rw [ofText] at htemplate
  cases hnodes : nodesOf t with
  | ok nodes => exact ⟨nodes, rfl⟩
  | error e =>
    rw [hnodes] at htemplate
    cases htemplate

/-- Nothing is compiled from a text that cannot be cut. -/
theorem run_compile_ne_ok {c : Compiled} {log log' : List Log.Event} (hs : expanded name s = .ok t)
    (ht : pieces? t = none) :
    (compile store searchPath name s).run.run log ≠ (.ok c, log') := by
  intro hrun
  obtain ⟨nodes, hnodes⟩ := exists_nodesOf_of_run_compile hs hrun
  rw [nodesOf, ht] at hnodes
  cases hnodes

/-! ### Rendering -/

/-- With balanced braces both ways to write an expression are compiled alike. -/
theorem compile_shorthand (store : Store) (searchPath : List Path) (name : String)
    (he : IsExpression e) (hdollar : ¬ ['$', '{'] <:+: e) (hraw : Shorthand.Rawless e)
    (hbalanced : Shorthand.Balanced e) :
    compile store searchPath name (shorthand e) = compile store searchPath name (output e) := by
  have hexpand := expand_shorthand he.lexed hraw hbalanced
  have hexpand' := expand_output he.lexed hraw hdollar
  obtain ⟨a, c, ha, hc, htrim⟩ := Text.exists_blanks_trim e
  generalize Text.trim e = t at htrim hexpand
  subst htrim
  have hlexed := he.lexed
  have ha' : ∀ d ∈ a, Reader.isSpace d = true := by
    have hprefix : Lexed (' ' :: a ++ (t ++ (c ++ [' ']))) := by simpa using hlexed
    have hall := hprefix.isSpace_of_prefix (by simpa using ⟨by decide, ha⟩)
    exact fun d hd => hall d (List.mem_cons_of_mem ' ' hd)
  have hc' : ∀ d ∈ c, Reader.isSpace d = true := by
    have hsuffix : Lexed (' ' :: (a ++ t) ++ (c ++ [' '])) := by simpa using hlexed
    have hall := hsuffix.isSpace_of_suffix (by simpa [or_imp, forall_and] using ⟨hc, by decide⟩)
    exact fun d hd => hall d (List.mem_append_left _ hd)
  refine compile_congr store searchPath (t := output t) (u := output (a ++ (t ++ c))) ?_ ?_
    (references_output_blanks ha' hc' t).symm (nodesOf_output_blanks ha' hc' he).symm
  · rw [expanded, hexpand]
  · rw [expanded, hexpand']

/-- The shorthand for an expression is rendered as the expression between its delimiters, with the
same error if there is one, whatever quoted texts the expression holds, if their braces are
balanced. Otherwise the shorthand is an error. -/
theorem renderText_shorthand (around : Surroundings) (store : Store) (searchPath : List Path)
    (name : String) (e : List Char) (b : Binding) (he : IsExpression e)
    (hdollar : ¬ ['$', '{'] <:+: e) (hraw : Shorthand.Rawless e) :
    (Shorthand.Balanced e →
      renderText around store searchPath name (shorthand e) b =
        renderText around store searchPath name (output e) b) ∧
    (¬ Shorthand.Balanced e →
      ∀ t, renderText around store searchPath name (shorthand e) b ≠ .ok t) := by
  refine ⟨fun hbalanced => ?_, fun hbalanced text htext => ?_⟩
  · rw [renderText, renderText, compile_shorthand store searchPath name he hdollar hraw hbalanced]
  · rw [renderText] at htext
    split at htext
    · next c log hrun =>
      obtain ⟨t, visited, l, hexpanded, -, -, -⟩ := compile_eq_ok hrun
      have hexpand : Shorthand.expand (shorthand e) = .ok t := by
        rw [expanded] at hexpanded
        split at hexpanded
        · next h => rw [h, Except.ok.inj hexpanded]
        · cases hexpanded
      obtain ⟨d, r, rfl, rfl⟩ := exists_cut_of_expand he.lexed hraw hdollar hbalanced hexpand
      have hcut := untilDelimiter?_cut he.lexed
      refine run_compile_ne_ok hexpanded (pieces?_eq_none ?_) hrun
      simpa using hcut
    · cases htext

/-- An expression with braces in all three quotes, and blanks around it. -/
def braces : List Char :=
  " '\x7b' ~ x ~ \"\x7d\x7b\" ~ 1.5 ~ \x60\x7d\x60 | upper\n".toList

theorem renderText_shorthand_braces :
    (IsExpression braces ∧ ¬ ['$', '{'] <:+: braces ∧ Shorthand.Rawless braces) ∧
      Shorthand.Balanced braces ∧
      (renderText {} {} [] "t" (shorthand braces) (Binding.empty.insert "x" "a")).toOption =
        some "\x7bA\x7d\x7b1.5\x7d".toList ∧
      (IsExpression ['"', '{', '"'] ∧ ¬ ['$', '{'] <:+: ['"', '{', '"'] ∧
        Shorthand.Rawless ['"', '{', '"']) ∧
      ¬ Shorthand.Balanced ['"', '{', '"'] ∧
      ∀ t, renderText {} {} [] "t" (shorthand ['"', '{', '"']) {} ≠ .ok t := by
  have hbraces : IsExpression braces ∧ ¬ ['$', '{'] <:+: braces ∧ Shorthand.Rawless braces := by
    decide +kernel
  have hbalanced : Shorthand.Balanced braces := by decide +kernel
  have hopen : IsExpression ['"', '{', '"'] ∧ ¬ ['$', '{'] <:+: ['"', '{', '"'] ∧
      Shorthand.Rawless ['"', '{', '"'] := by decide +kernel
  have hunbalanced : ¬ Shorthand.Balanced ['"', '{', '"'] := by decide +kernel
  refine ⟨hbraces, hbalanced, ?_, hopen, hunbalanced,
    (renderText_shorthand {} {} [] "t" _ {} hopen.1 hopen.2.1 hopen.2.2).2 hunbalanced⟩
  rw [(renderText_shorthand {} {} [] "t" _ _ hbraces.1 hbraces.2.1 hbraces.2.2).1 hbalanced]
  decide +kernel

example : IsExpression "6 / 1.5".toList ∧
    (renderText {} {} [] "t" (shorthand "6 / 1.5".toList) {}).toOption = some ['4'] := by
  decide +kernel

/-- A quoted brace that is not balanced ends the shorthand too early, although the expression is one
between its delimiters. -/
theorem shorthand_quoted_brace :
    IsExpression ['"', '}', '"'] ∧ ¬ ['$', '{'] <:+: ['"', '}', '"'] ∧
      Shorthand.Rawless ['"', '}', '"'] ∧
      (renderText {} {} [] "t" (output ['"', '}', '"']) {}).toOption = some ['}'] ∧
      (renderText {} {} [] "t" (shorthand ['"', '}', '"']) {}).toOption = none := by
  decide +kernel

end Imprint.Template
