import Imprint.Proofs.Shorthand.Grammar

/-!
# Escaped texts

A text is escaped by one more `$` in front of each `${`, whatever stands around it. Expanding takes
just these away again: an escaped text never begins with `${`, so wherever a `${` is read in it the
`$` in front has not been read yet, however many of them stand in a row.

Raw blocks are the one thing that expanding leaves as it is, so a text in which one stands is not
read back. A `$` stands in none of the two tags of a raw block; what is written in front of a `${`
neither makes a tag nor breaks one.

## Main results

* `Imprint.Shorthand.exists_reads_escape`: the tokens of an escaped text stand for the text.
* `Imprint.Shorthand.exists_isRawBlock_of_escape`: escaping makes no raw block.
* `Imprint.Shorthand.expand_escape`: expanding undoes escaping.
-/

namespace Imprint

namespace Template

variable {s : List Char}

/-- No raw block stands in a text when none is read at any of its places. -/
theorem forall_not_isInfix_iff :
    (∀ b, IsRawBlock b → ¬ b <:+: s) ↔ ∀ v, v <:+ s → rawBlock? v = none := by
  simp only [rawBlock?_eq_none_iff]
  refine ⟨fun h v hv b hb hstart => h b hb (hstart.isInfix.trans hv.isInfix), fun h b hb hs => ?_⟩
  obtain ⟨v, hstart, hv⟩ := List.infix_iff_prefix_suffix.1 hs
  exact h v hv b hb hstart

end Template

namespace Shorthand

open Template (IsRawBlock)

variable {b m r s u w : List Char} {c : Char}

/-! ### The tokens of an escaped text -/

/-- An escaped text begins as the text does. -/
theorem head?_escape (s : List Char) : (escape s).head? = s.head? := by
  fun_cases escape s <;> rfl

theorem not_isPrefix_escape (s : List Char) : ¬ ['$', '{'] <+: escape s := by
  fun_cases escape s with
  | case1 r => simp [List.cons_prefix_cons]
  | case2 c r hc =>
    rintro ⟨u, hu⟩
    obtain ⟨rfl, hbrace⟩ := List.cons.inj hu
    have hhead : r.head? = some '{' := by
      rw [← head?_escape, ← hbrace]
      rfl
    obtain ⟨r', rfl⟩ := List.head?_eq_some_iff.1 hhead
    exact hc r' rfl rfl
  | case3 => simp

/-- A character in front of which nothing is written opens nothing. -/
theorem not_opens_escape (h : escape (c :: r) = c :: escape r) : ¬ Opens (c :: escape r) := by
  rintro (hopens | hopens)
  · rw [← h] at hopens
    exact not_isPrefix_escape _ hopens
  · exact not_isPrefix_escape r (List.cons_prefix_cons.1 hopens).2

/-- The tokens of an escaped text are the escapes and plain characters that stand for the text. -/
theorem exists_reads_escape (s : List Char) :
    ∃ ts, Reads (escape s) ts ∧ ts.flatMap Token.expansion = s := by
  induction s using escape.induct with
  | case1 r ih =>
    obtain ⟨ts, hread, hexpansion⟩ := ih
    exact ⟨.escape :: ts, .escape hread, by simp [Token.expansion, hexpansion]⟩
  | case2 c r hc ih =>
    obtain ⟨ts, hread, hexpansion⟩ := ih
    have hescape : escape (c :: r) = c :: escape r := escape.eq_2 _ _ hc
    rw [hescape]
    exact ⟨.plain c :: ts, .plain (not_opens_escape hescape) hread,
      by simp [Token.expansion, hexpansion]⟩
  | case3 => exact ⟨[], .nil, rfl⟩

/-! ### The raw blocks of an escaped text -/

/-- What begins an escaped text and has no `$` in it begins the text. -/
theorem exists_of_escape_eq_append (hm : '$' ∉ m) (h : escape s = m ++ w) :
    ∃ r, s = m ++ r ∧ w = escape r := by
  induction s using escape.induct generalizing m with
  | case1 r =>
    cases m with
    | nil => exact ⟨_, rfl, h.symm⟩
    | cons d m =>
      rw [escape] at h
      obtain ⟨rfl, -⟩ := List.cons.inj h
      exact absurd List.mem_cons_self hm
  | case2 c r hc ih =>
    cases m with
    | nil => exact ⟨_, rfl, h.symm⟩
    | cons d m =>
      rw [escape.eq_2 _ _ hc] at h
      obtain ⟨rfl, htail⟩ := List.cons.inj h
      obtain ⟨r', rfl, hw⟩ := ih (fun hmem => hm (List.mem_cons_of_mem _ hmem)) htail
      exact ⟨r', rfl, hw⟩
  | case3 =>
    obtain ⟨rfl, rfl⟩ := List.append_eq_nil_iff.1 h.symm
    exact ⟨[], rfl, rfl⟩

/-- What stands in an escaped text, begins with a brace and has no `$` in it stands in the text. -/
theorem exists_of_escape_eq (hm : '$' ∉ m) (h : escape s = u ++ '{' :: (m ++ w)) :
    ∃ u' r, s = u' ++ '{' :: (m ++ r) ∧ w = escape r := by
  induction s using escape.induct generalizing u with
  | case1 r ih =>
    rw [escape] at h
    match u with
    | [] => cases h
    | [_] => cases h
    | [c, d] =>
      obtain ⟨-, -, htail⟩ : '$' = c ∧ '$' = d ∧ escape r = m ++ w := by simpa using h
      obtain ⟨r', rfl, hw⟩ := exists_of_escape_eq_append hm htail
      exact ⟨['$'], r', rfl, hw⟩
    | c :: d :: e :: u =>
      obtain ⟨-, -, -, htail⟩ :
          '$' = c ∧ '$' = d ∧ '{' = e ∧ escape r = u ++ '{' :: (m ++ w) := by simpa using h
      obtain ⟨u', r', rfl, hw⟩ := ih htail
      exact ⟨'$' :: '{' :: u', r', rfl, hw⟩
  | case2 c r hc ih =>
    rw [escape.eq_2 _ _ hc] at h
    cases u with
    | nil =>
      obtain ⟨rfl, htail⟩ := List.cons.inj h
      obtain ⟨r', rfl, hw⟩ := exists_of_escape_eq_append hm htail
      exact ⟨[], r', rfl, hw⟩
    | cons d u =>
      obtain ⟨rfl, htail⟩ := List.cons.inj h
      obtain ⟨u', r', rfl, hw⟩ := ih htail
      exact ⟨c :: u', r', rfl, hw⟩
  | case3 => cases u <;> cases h

/-- A raw block of an escaped text comes from one of the text, with the same two tags. -/
theorem exists_isRawBlock_of_escape (hb : IsRawBlock b) (h : b <:+: escape s) :
    ∃ b', IsRawBlock b' ∧ b' <:+: s := by
  obtain ⟨m, t, m', hm, hm', rfl⟩ := hb
  obtain ⟨u, w, hs⟩ := h
  have hdollar : '$' ∉ m := hm.notMem (by decide) (by decide) (by decide)
  have hdollar' : '$' ∉ m' := hm'.notMem (by decide) (by decide) (by decide)
  obtain ⟨x, rfl⟩ := hm.exists_eq_cons
  obtain ⟨x', rfl⟩ := hm'.exists_eq_cons
  have hfirst : escape s = u ++ '{' :: (x ++ (t ++ '{' :: (x' ++ w))) := by simpa using hs.symm
  obtain ⟨u', r, rfl, hsecond⟩ :=
    exists_of_escape_eq (fun hmem => hdollar (List.mem_cons_of_mem _ hmem)) hfirst
  obtain ⟨t', r', rfl, -⟩ :=
    exists_of_escape_eq (fun hmem => hdollar' (List.mem_cons_of_mem _ hmem)) hsecond.symm
  exact ⟨_, ⟨_, t', _, hm, hm', rfl⟩, u', r', by simp⟩

/-! ### Expanding an escaped text -/

/-- Expanding undoes escaping, as long as no raw block stands in the text. -/
theorem expand_escape (s : List Char) (h : ∀ b, IsRawBlock b → ¬ b <:+: s) :
    expand (escape s) = .ok s := by
  obtain ⟨ts, hread, hexpansion⟩ := exists_reads_escape s
  have hescaped : ∀ b, IsRawBlock b → ¬ b <:+: escape s := by
    intro b hb hinfix
    obtain ⟨b', hb', hinfix'⟩ := exists_isRawBlock_of_escape hb hinfix
    exact h b' hb' hinfix'
  have hnone := Template.forall_not_isInfix_iff.1 hescaped
  exact expand_eq_ok_iff.2
    ⟨ts, (readsText_iff_of_none fun v hv _ => hnone v hv).2 hread, hexpansion⟩

/-- A text with rows of `$`, neighbouring and nested `${` and a raw block that is not closed. -/
def crowded : List Char :=
  "$$$\x7b$\x7b$$\x7ba\x7d\x7d$\x7b$\x7b% raw %\x7d$$$\x7b\x7b% endra $\x7b $".toList

theorem expand_escape_crowded :
    (∀ b, IsRawBlock b → ¬ b <:+: crowded) ∧ expand (escape crowded) = .ok crowded := by
  have hrawless : ∀ b, IsRawBlock b → ¬ b <:+: crowded := by
    rw [Template.forall_not_isInfix_iff]
    simp only [← List.mem_tails]
    decide +kernel
  exact ⟨hrawless, expand_escape crowded hrawless⟩

end Shorthand

end Imprint
