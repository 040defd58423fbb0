import Imprint.Proofs.Shorthand.Reading

/-!
# The grammar of the shorthand

A text is scanned token by token, and which token stands at its front is said here without the
functions that read it. A raw block is the shortest text from a raw tag to an end tag. A `${` is
live when no raw block begins at its brace. A live `${` begins an interpolation, whose braces are
paired, or the rest of an escape, and it never begins with a plain character. So a scan ends at the
end of the text or at a live `${` that no brace closes before the next raw block. The text is
expanded in the first case, and the number of the line is given in the second.

## Main definitions

* `Imprint.Template.IsRawBlock`, `Imprint.Template.Clear`: raw blocks, and places without them.
* `Imprint.Shorthand.PairsBraces`: texts whose braces are paired.
* `Imprint.Shorthand.Token.Stands`: a token in front of a text.
* `Imprint.Shorthand.Scans`: the tokens at the front of a text.
* `Imprint.Shorthand.Unclosable`: a live `${` that no brace closes.

## Main results

* `Imprint.Template.rawBlock?_eq_some_iff`: the raw block that is read is the shortest.
* `Imprint.Shorthand.balanced_iff`: the braces of an interpolation are paired.
* `Imprint.Shorthand.exists_scans`: every text is scanned to its end or to an unclosable `${`.
* `Imprint.Shorthand.expand_iff_scans`: what expanding gives in the two cases.
-/

namespace Imprint

/-! ### Raw blocks -/

namespace Template

variable {b r s t rest m' : List Char}

/-- A text from a raw tag to an end tag. -/
def IsRawBlock (b : List Char) : Prop :=
  ∃ m t m', IsWordTag ['r', 'a', 'w'] m ∧ IsWordTag ['e', 'n', 'd', 'r', 'a', 'w'] m' ∧
    b = m ++ (t ++ m')

/-- A raw block in front of a text, none that begins there being shorter. -/
structure IsShortestRawBlock (b r : List Char) : Prop where
  isRawBlock : IsRawBlock b
  length_le : ∀ b', IsRawBlock b' → b' <+: b ++ r → b.length ≤ b'.length

/-- No raw block begins in the first of two texts in a row. -/
def Clear (t r : List Char) : Prop :=
  ∀ v, v <:+ t → v ≠ [] → ∀ b, IsRawBlock b → ¬ b <+: v ++ r

/-- An end tag that stands somewhere in a text ends it there or earlier. -/
theorem exists_afterEnd? (hm' : IsWordTag ['e', 'n', 'd', 'r', 'a', 'w'] m')
    (t rest : List Char) :
    ∃ rest', afterEnd? (t ++ (m' ++ rest)) = some rest' ∧ rest.length ≤ rest'.length := by
  induction t with
  | nil => exact ⟨rest, hm'.afterEnd?_append rfl rest, Nat.le_refl _⟩
  | cons c t ih =>
    rw [List.cons_append, afterEnd?]
    cases hhead : wordTag? ['e', 'n', 'd', 'r', 'a', 'w'] (c :: (t ++ (m' ++ rest))) with
    | none => exact ih
    | some rest' =>
      refine ⟨rest', rfl, ?_⟩
      obtain ⟨m, hm, heq⟩ := (wordTag?_eq_some_iff solidHead_endraw).1 hhead
      -- The earlier end tag is over before the later one opens.
      have hfront : m <+: c :: t := by
        obtain ⟨b, t₁, t₂, b', -, -, rfl⟩ := hm'
        simp only [List.append_assoc, List.cons_append] at heq
        exact hm.isPrefix_of_append_brace (by decide) heq
      have hlength := congrArg List.length heq
      have hle := hfront.length_le
      simp only [List.length_cons, List.length_append] at hlength hle
      omega

/-- What is read as a raw block is one. -/
theorem isRawBlock_of_rawBlock? (h : rawBlock? s = some (b, r)) : IsRawBlock b := by
  obtain ⟨-, hs⟩ := rawBlock?_eq_some h
  obtain ⟨opened, hopened, h⟩ := Option.bind_eq_some_iff.1 h
  obtain ⟨rest, hend, hblock⟩ := Option.bind_eq_some_iff.1 h
  obtain rfl : rest = r := (Prod.mk.inj (Option.some.inj hblock)).2
  obtain ⟨m, hm, rfl⟩ := (wordTag?_eq_some_iff solidHead_raw).1 hopened
  obtain ⟨t, m', -, hm', rfl⟩ := afterEnd?_eq_some hend
  refine ⟨m, t, m', hm, hm', List.append_cancel_right (hs.symm.trans ?_)⟩
  simp only [List.append_assoc]

/-- Where a raw block begins, one is read that is no longer. -/
theorem exists_rawBlock? (hb : IsRawBlock b) (hs : b <+: s) :
    ∃ b' r', rawBlock? s = some (b', r') ∧ b'.length ≤ b.length := by
  obtain ⟨m, t, m', hm, hm', rfl⟩ := hb
  obtain ⟨rest, rfl⟩ := hs
  have hraw := hm.wordTag?_append solidHead_raw (t ++ (m' ++ rest))
  obtain ⟨r', hafter, hle⟩ := exists_afterEnd? hm' t rest
  simp only [List.append_assoc, rawBlock?, hraw, hafter, Option.bind_eq_bind, Option.bind_some]
  refine ⟨_, r', rfl, ?_⟩
  simp only [List.length_take, List.length_append]
  omega

theorem rawBlock?_eq_none_iff : rawBlock? s = none ↔ ∀ b, IsRawBlock b → ¬ b <+: s := by
  constructor
  · intro h b hb hs
    obtain ⟨b', r', hread, -⟩ := exists_rawBlock? hb hs
    rw [h] at hread
    cases hread
  · intro h
    refine Option.eq_none_iff_forall_ne_some.2 fun x hx => ?_
    obtain ⟨-, hs⟩ := rawBlock?_eq_some hx
    exact h _ (isRawBlock_of_rawBlock? hx) ⟨_, hs.symm⟩

/-- The raw block that is read at the front of a text is the shortest that begins there. -/
theorem rawBlock?_eq_some_iff :
    rawBlock? s = some (b, r) ↔ s = b ++ r ∧ IsShortestRawBlock b r := by
  constructor
  · intro h
    obtain ⟨-, hs⟩ := rawBlock?_eq_some h
    refine ⟨hs, isRawBlock_of_rawBlock? h, fun b' hb' hprefix => ?_⟩
    obtain ⟨b'', r'', hread, hle⟩ := exists_rawBlock? hb' (hs ▸ hprefix)
    obtain ⟨rfl, -⟩ := Prod.mk.inj (Option.some.inj (h.symm.trans hread))
    exact hle
  · rintro ⟨rfl, h⟩
    obtain ⟨b', r', hread, hle⟩ := exists_rawBlock? h.isRawBlock (List.prefix_append b r)
    obtain ⟨-, hs⟩ := rawBlock?_eq_some hread
    have hge := h.length_le b' (isRawBlock_of_rawBlock? hread) ⟨r', hs.symm⟩
    obtain ⟨rfl, rfl⟩ := List.append_inj hs (Nat.le_antisymm hge hle)
    exact hread

theorem clear_iff : Clear t r ↔ ∀ v, v <:+ t → v ≠ [] → rawBlock? (v ++ r) = none := by
  simp only [Clear, rawBlock?_eq_none_iff]

/-- A raw block begins with a brace. -/
theorem not_isPrefix_cons {c : Char} (hb : IsRawBlock b) (hc : c ≠ '{') : ¬ b <+: c :: s := by
  rintro ⟨u, hu⟩
  obtain ⟨m, t, m', ⟨_, _, _, _, -, -, rfl⟩, -, rfl⟩ := hb
  exact hc (List.cons.inj hu).1.symm

/-- Only a brace begins a raw block. -/
theorem clear_cons_iff {c : Char} (hc : c ≠ '{') : Clear (c :: t) r ↔ Clear t r := by
  constructor
  · exact fun h v hv => h v (hv.trans (List.suffix_cons c t))
  · intro h v hv hne b hb
    rcases List.suffix_cons_iff.1 hv with rfl | hv
    · exact not_isPrefix_cons hb hc
    · exact h v hv hne b hb

theorem clear_nil (r : List Char) : Clear [] r := fun _ hv hne =>
  absurd (List.suffix_nil.1 hv) hne

theorem clear_append_iff : Clear (s ++ t) r ↔ Clear s (t ++ r) ∧ Clear t r := by
  constructor
  · refine fun h => ⟨?_, fun v hv => h v (hv.trans (List.suffix_append s t))⟩
    rintro v ⟨w, rfl⟩ hne
    rw [← List.append_assoc]
    exact h (v ++ t) ⟨w, by simp⟩ (by simp [hne])
  · rintro ⟨hs, ht⟩ v hv hne
    rcases Text.suffix_append_cases hv with hv | ⟨w, hw, hnew, rfl⟩
    · exact ht v hv hne
    · rw [List.append_assoc]
      exact hs w hw hnew

end Template

namespace Shorthand

open Template (IsShortestRawBlock Clear)

variable {c : Char} {d line : Nat} {block e r s u w x : List Char} {tok : Token} {ts : List Token}
  {rs : List (Text.Region (List Char))}

/-! ### Paired braces -/

/-- The braces of a text are paired: none is closed that was not opened before, and all that are
opened are closed. -/
structure PairsBraces (e : List Char) : Prop where
  closes : ∀ p, p <+: e → p.count '}' ≤ p.count '{'
  all : e.count '}' = e.count '{'

theorem forall_isPrefix_cons {p : List Char → Prop} :
    (∀ q, q <+: c :: e → p q) ↔ p [] ∧ ∀ q, q <+: e → p (c :: q) := by
  refine ⟨fun h => ⟨h [] List.nil_prefix, fun q hq => h _ (List.cons_prefix_cons.2 ⟨rfl, hq⟩)⟩, ?_⟩
  rintro ⟨hnil, hcons⟩ q hq
  rcases List.prefix_cons_iff.1 hq with rfl | ⟨q', rfl, hq'⟩
  · exact hnil
  · exact hcons q' hq'

/-- What is enclosed, some braces being open, closes them one by one and all of them. -/
theorem enclosed?_append_iff : enclosed? d (e ++ '}' :: r) = some e ↔
    (∀ p, p <+: e → p.count '}' ≤ d + p.count '{') ∧ e.count '}' = d + e.count '{' := by
  induction e generalizing d with
  | nil => cases d <;> simp [enclosed?]
  | cons c e ih =>
    rw [forall_isPrefix_cons]
    by_cases hopen : c = '{'
    · subst hopen
      simp [enclosed?, ih, Nat.add_assoc, Nat.add_comm 1]
    · by_cases hclose : c = '}'
      · subst hclose
        cases d with
        | zero =>
          simp only [List.cons_append, enclosed?]
          refine iff_of_false (by simp) fun h => ?_
          have hfirst := h.1.2 [] (List.nil_prefix)
          simp at hfirst
        | succ d =>
          simp [enclosed?, ih, Nat.add_right_comm d 1]
      · rw [List.cons_append, enclosed?.eq_5 _ _ _ hopen (fun _ => hclose) (fun _ _ => hclose)]
        simp [ih, hopen, hclose]

theorem balanced_iff : Balanced e ↔ PairsBraces e := by
  rw [Balanced, enclosed?_append_iff]
  simp only [Nat.zero_add]
  exact ⟨fun h => ⟨h.1, h.2⟩, fun h => ⟨h.closes, h.all⟩⟩

/-! ### Tokens in front of a text -/

/-- A text begins with a `${` at whose brace no raw block begins. -/
def Live (s : List Char) : Prop :=
  ∃ u, s = '$' :: '{' :: u ∧ Clear ['{'] u

/-- A text begins with a live `${` that no brace closes before the next raw block. -/
def Unclosable (s : List Char) : Prop :=
  ∃ u, s = '$' :: '{' :: u ∧ Clear ['{'] u ∧
    ∀ e r, u = e ++ '}' :: r → PairsBraces e → ¬ Clear (e ++ ['}']) r

/-- Which token stands in front of a text. A raw block begins in none but a raw block, and a live
`${` begins neither with a plain character nor behind a plain `$`. -/
inductive Token.Stands : Token → List Char → Prop
  | raw {block r : List Char} (h : IsShortestRawBlock block r) : Stands (.raw block) r
  | escape {r : List Char} (h : Clear Token.escape.source r) : Stands .escape r
  | interpolation {e r : List Char} (he : PairsBraces e)
      (h : Clear (Token.interpolation e).source r) : Stands (.interpolation e) r
  | plain {c : Char} {r : List Char} (h : Clear [c] r) (hopen : ¬ Live (c :: r))
      (hescape : c = '$' → ¬ Live r) : Stands (.plain c) r

/-- The tokens that stand one after another at the front of a text, and what is left of it. -/
inductive Scans : List Char → List Token → List Char → Prop
  | refl (r : List Char) : Scans r [] r
  | token {tok : Token} {r u : List Char} {ts : List Token} (htok : tok.Stands r)
      (h : Scans r ts u) : Scans (tok.source ++ r) (tok :: ts) u

theorem Scans.eq_append (h : Scans s ts r) : s = ts.flatMap Token.source ++ r := by
  induction h with
  | refl => rfl
  | token _ _ ih => rw [List.flatMap_cons, List.append_assoc, ← ih]

theorem Token.Stands.source_ne_nil (h : tok.Stands r) : tok.source ≠ [] := by
  cases h with
  | raw h =>
    obtain ⟨m, t, m', ⟨_, _, _, _, -, -, rfl⟩, -, rfl⟩ := h.isRawBlock
    simp [Token.source]
  | escape => simp [Token.source]
  | interpolation => simp [Token.source]
  | plain => simp [Token.source]

/-- No raw block begins in a token other than a raw block. -/
theorem Token.Stands.clear (h : tok.Stands r) (hraw : ∀ b, tok ≠ .raw b) :
    Clear tok.source r := by
  cases h with
  | @raw block => exact absurd rfl (hraw block)
  | escape h => exact h
  | interpolation _ h => exact h
  | plain h => exact h

/-! ### Every text is scanned -/

theorem clear_singleton (h : Template.rawBlock? (c :: r) = none) : Clear [c] r := by
  rw [Template.clear_iff]
  intro v hv hne
  obtain rfl : v = [c] :=
    (List.suffix_cons_iff.1 hv).resolve_right fun hnil => hne (List.suffix_nil.1 hnil)
  exact h

/-- A live `${` is closed by a brace or cannot be closed. -/
theorem interpolates_or_unclosable (h : Live s) :
    (∃ tok r, s = Token.source tok ++ r ∧ tok.Stands r) ∨ Unclosable s := by
  obtain ⟨u, rfl, hbrace⟩ := h
  by_cases hclosed : ∃ e r, u = e ++ '}' :: r ∧ PairsBraces e ∧ Clear (e ++ ['}']) r
  · obtain ⟨e, r, rfl, he, hclear⟩ := hclosed
    have hsource : (Token.interpolation e).source = '$' :: (['{'] ++ (e ++ ['}'])) := by
      simp [Token.source]
    refine .inl ⟨.interpolation e, r, by simp [hsource], .interpolation he ?_⟩
    rw [hsource, Template.clear_cons_iff (by decide), Template.clear_append_iff]
    exact ⟨by simpa using hbrace, hclear⟩
  · exact .inr ⟨u, rfl, hbrace, fun e r hu he hclear => hclosed ⟨e, r, hu, he, hclear⟩⟩

/-- At the front of a text that is not empty stands a token, unless it cannot be closed. -/
theorem exists_stands (c : Char) (s : List Char) :
    (∃ tok r, c :: s = Token.source tok ++ r ∧ tok.Stands r) ∨ Unclosable (c :: s) := by
  cases hraw : Template.rawBlock? (c :: s) with
  | some x =>
    obtain ⟨hs, hblock⟩ := Template.rawBlock?_eq_some_iff.1 hraw
    exact .inl ⟨.raw x.1, x.2, hs, .raw hblock⟩
  | none =>
    by_cases hlive : Live (c :: s)
    · exact interpolates_or_unclosable hlive
    · by_cases hescape : c = '$' ∧ Live s
      · obtain ⟨rfl, u, rfl, hbrace⟩ := hescape
        refine .inl ⟨.escape, u, rfl, .escape ?_⟩
        simpa [Token.source, Template.clear_cons_iff] using hbrace
      · exact .inl ⟨.plain c, s, rfl, .plain (clear_singleton hraw) hlive
          fun hc hlive => hescape ⟨hc, hlive⟩⟩

/-- Every text is scanned to its end or to a `${` that cannot be closed. -/
theorem exists_scans (s : List Char) : ∃ ts r, Scans s ts r ∧ (r = [] ∨ Unclosable r) := by
  induction hn : s.length using Nat.strongRecOn generalizing s with
  | ind n ih =>
    subst hn
    cases s with
    | nil => exact ⟨[], [], .refl [], .inl rfl⟩
    | cons c s =>
      rcases exists_stands c s with ⟨tok, r, hs, htok⟩ | hstuck
      · have hpos := List.length_pos_iff.2 htok.source_ne_nil
        have hlength := congrArg List.length hs
        rw [List.length_append] at hlength
        obtain ⟨ts, u, hscan, hend⟩ := ih r.length (by omega) r rfl
        exact ⟨tok :: ts, u, hs ▸ .token htok hscan, hend⟩
      · exact ⟨[], c :: s, .refl _, .inr hstuck⟩

/-! ### How a token is read -/

/-- The plain text in front of regions, and the regions behind it. -/
def leading : List (Text.Region (List Char)) → List Char × List (Text.Region (List Char))
  | .plain t :: rs => (t, rs)
  | rs => ([], rs)

theorem leading_foldr (x : List Char) (rs : List (Text.Region (List Char))) :
    leading (x.foldr Text.Region.consPlain rs) = (x ++ (leading rs).1, (leading rs).2) := by
  induction x with
  | nil => rfl
  | cons c x ih =>
    have hcons (rs : List (Text.Region (List Char))) :
        leading (Text.Region.consPlain c rs) = (c :: (leading rs).1, (leading rs).2) := by
      rcases rs with _ | ⟨_ | _, _⟩ <;> rfl
    rw [List.foldr_cons, hcons, ih, List.cons_append]

/-- Regions are read from the plain text in front on. -/
theorem tokensOfRegions_eq (line : Nat) (rs : List (Text.Region (List Char))) :
    tokensOfRegions line rs = do
      let ts ← tokensFrom line 0 (leading rs).1
      let us ← tokensOfRegions (lineAfter line (leading rs).1) (leading rs).2
      return ts ++ us := by
  rcases rs with _ | ⟨t | block, rs⟩
  · rfl
  · rfl
  · simp only [leading, tokensFrom, lineAfter, List.foldl_nil, bind, Except.bind, pure,
      Except.pure, List.nil_append]
    cases tokensOfRegions line (.found block :: rs) <;> rfl

/-- No raw block begins in the plain text in front of the regions of a text. -/
theorem clear_leading (r : List Char) :
    ∃ u, r = (leading (Text.regions Template.rawBlock? r)).1 ++ u ∧
      Clear (leading (Text.regions Template.rawBlock? r)).1 u := by
  have hdivided := divided_regions r
  generalize Text.regions Template.rawBlock? r = rs at hdivided
  cases hdivided with
  | nil => exact ⟨[], rfl, Template.clear_nil []⟩
  | @found m r a rs hm h hr => exact ⟨m ++ r, rfl, Template.clear_nil _⟩
  | @plain t r rs ht hnone hr hrs => exact ⟨r, rfl, Template.clear_iff.2 hnone⟩

/-- The tokens of a text that starts on the given line. -/
def tokensAt (line : Nat) (s : List Char) : Except Unclosed (List Token) :=
  tokensOfRegions line (Text.regions Template.rawBlock? s)

theorem regions_append_clear (h : Clear x r) :
    Text.regions Template.rawBlock? (x ++ r) =
      x.foldr Text.Region.consPlain (Text.regions Template.rawBlock? r) :=
  Text.regions_append_plain (Template.clear_iff.1 h)

theorem lineAfter_append (line : Nat) (s t : List Char) :
    lineAfter line (s ++ t) = lineAfter (lineAfter line s) t :=
  List.foldl_append

@[simp] theorem lineAfter_cons (line : Nat) (c : Char) (s : List Char) :
    lineAfter line (c :: s) = lineAfter (nextLine line c) s := rfl

/-- The number of the line after a text counts its line feeds. -/
theorem lineAfter_eq (line : Nat) (s : List Char) : lineAfter line s = line + s.count '\n' := by
  induction s generalizing line with
  | nil => rfl
  | cons c s ih =>
    by_cases hc : c = '\n'
    · simp [nextLine, hc, ih]
      omega
    · simp [nextLine, hc, ih]

/-- A `${` inside of which and behind which no raw block begins is live. -/
theorem live_of_clear (h : Clear ('$' :: '{' :: r) u) : Live ('$' :: '{' :: r ++ u) := by
  rw [Template.clear_cons_iff (by decide)] at h
  exact ⟨r ++ u, rfl, (Template.clear_append_iff (s := ['{'])).1 h |>.1⟩

/-- A token other than a raw block is read from its characters, whatever plain text follows it. -/
theorem tokensFrom_of_stands (htok : tok.Stands r) (hraw : ∀ b, tok ≠ .raw b) (hr : r = w ++ u)
    (hw : Clear w u) (line : Nat) :
    tokensFrom line 0 (tok.source ++ w) =
      (tok :: ·) <$> tokensFrom (lineAfter line tok.source) 0 w := by
  cases htok with
  | @raw block r h => exact absurd rfl (hraw block)
  | escape h => rfl
  | @interpolation e r he h =>
    have henclosed : enclosed? 0 (e ++ '}' :: w) = some e :=
      enclosed?_eq_some_iff.2 ⟨balanced_iff.2 he, w, rfl⟩
    have htake : (e ++ '}' :: w).take (e.length + 1) = e ++ ['}'] := by
      simp [List.take_append]
    have hsource : (Token.interpolation e).source ++ w = '$' :: '{' :: (e ++ '}' :: w) := by
      simp [Token.source]
    have hline : lineAfter line (Token.interpolation e).source = lineAfter line (e ++ ['}']) := by
      simp [Token.source, nextLine]
    rw [hsource, hline]
    simp only [tokensFrom, henclosed, tokensFrom_eq_drop line (e.length + 1), drop_enclosed, htake]
    rfl
  | @plain c r h hopen hescape =>
    subst hr
    rw [Token.source, List.cons_append, List.nil_append, tokensFrom.eq_5]
    · rfl
    · rintro w' rfl rfl
      exact hescape rfl (live_of_clear (r := w') hw)
    · rintro w' rfl rfl
      exact hopen (live_of_clear ((Template.clear_cons_iff (by decide)).2 hw))

/-- A token is read from its characters in front of a text. -/
theorem tokensAt_of_stands (htok : tok.Stands r) (line : Nat) :
    tokensAt line (tok.source ++ r) = (tok :: ·) <$> tokensAt (lineAfter line tok.source) r := by
  by_cases hraw : ∃ b, tok = .raw b
  · obtain ⟨block, rfl⟩ := hraw
    have hfound : Template.rawBlock? (block ++ r) = some (block, r) := by
      cases htok with
      | raw h => exact Template.rawBlock?_eq_some_iff.2 ⟨rfl, h⟩
    have hne : block ≠ [] := htok.source_ne_nil
    rw [tokensAt, Token.source, Text.regions_append_found hne hfound]
    rfl
  · simp only [not_exists] at hraw
    obtain ⟨u, hr, hw⟩ := clear_leading r
    rw [tokensAt, regions_append_clear (htok.clear hraw), tokensOfRegions_eq, leading_foldr,
      tokensFrom_of_stands htok hraw hr hw, lineAfter_append, tokensAt,
      tokensOfRegions_eq _ (Text.regions _ r)]
    generalize tokensFrom _ 0 _ = first
    generalize tokensOfRegions _ (leading _).2 = second
    cases first <;> cases second <;> rfl

/-- A live `${` that no brace closes is an error on its line. -/
theorem tokensAt_of_unclosable (h : Unclosable s) (line : Nat) :
    tokensAt line s = .error ⟨line⟩ := by
  obtain ⟨r, rfl, hbrace, hopen⟩ := h
  have hclear : Clear ['$', '{'] r := (Template.clear_cons_iff (by decide)).2 hbrace
  obtain ⟨u, hr, hw⟩ := clear_leading r
  have hnone : enclosed? 0 (leading (Text.regions Template.rawBlock? r)).1 = none := by
    refine Option.eq_none_iff_forall_ne_some.2 fun e he => ?_
    obtain ⟨hbalanced, w, hleading⟩ := enclosed?_eq_some_iff.1 he
    have hsplit : e ++ '}' :: w = e ++ ['}'] ++ w := by simp
    rw [hleading] at hr hw
    rw [hsplit, Template.clear_append_iff] at hw
    exact hopen e (w ++ u) (by simpa using hr) (balanced_iff.1 hbalanced) hw.1
  rw [tokensAt, show '$' :: '{' :: r = ['$', '{'] ++ r from rfl, regions_append_clear hclear,
    tokensOfRegions_eq, leading_foldr]
  simp only [List.cons_append, List.nil_append, tokensFrom, hnone]
  rfl

/-- What has been scanned is read first. -/
theorem Scans.tokensAt_eq (h : Scans s ts r) (line : Nat) :
    tokensAt line s =
      (ts ++ ·) <$> tokensAt (lineAfter line (ts.flatMap Token.source)) r := by
  induction h generalizing line with
  | refl r => cases htokens : tokensAt line r <;> simp [lineAfter, htokens]
  | token htok _ ih =>
    rw [tokensAt_of_stands htok, ih, List.flatMap_cons, lineAfter_append]
    generalize tokensAt _ _ = rest
    cases rest <;> rfl

/-! ### What expanding gives -/

theorem expand_of_scans (h : Scans s ts []) : expand s = .ok (ts.flatMap Token.expansion) := by
  have htokens : tokensAt 1 s = .ok (ts ++ []) := h.tokensAt_eq 1
  rw [List.append_nil] at htokens
  rw [expand, tokens, ← tokensAt, htokens]
  rfl

theorem expand_of_unclosable (h : Scans s ts r) (hr : Unclosable r) :
    expand s = .error ⟨1 + (ts.flatMap Token.source).count '\n'⟩ := by
  have htokens := h.tokensAt_eq 1
  rw [tokensAt_of_unclosable hr, lineAfter_eq] at htokens
  rw [expand, tokens, ← tokensAt, htokens]
  rfl

/-- Expanding a text rewrites the tokens that stand in it from its front to its end. When there are
none to its end, what is left begins with a live `${` that no brace closes, and expanding gives the
number of its line. -/
theorem expand_iff_scans (s : List Char) :
    (∀ out, expand s = .ok out ↔ ∃ ts, Scans s ts [] ∧ ts.flatMap Token.expansion = out) ∧
      ∀ n, expand s = .error ⟨n⟩ ↔ ∃ before ts r, s = before ++ r ∧ Scans s ts r ∧
        Unclosable r ∧ n = 1 + before.count '\n' := by
  obtain ⟨ts, r, hscan, hend⟩ := exists_scans s
  refine ⟨fun out => ⟨fun h => ?_, ?_⟩, fun n => ⟨fun h => ?_, ?_⟩⟩
  · rcases hend with rfl | hstuck
    · exact ⟨ts, hscan, Except.ok.inj ((expand_of_scans hscan).symm.trans h)⟩
    · cases (expand_of_unclosable hscan hstuck).symm.trans h
  · rintro ⟨ts, hscan, rfl⟩
    exact expand_of_scans hscan
  · rcases hend with rfl | hstuck
    · cases (expand_of_scans hscan).symm.trans h
    · obtain ⟨rfl⟩ := Except.error.inj ((expand_of_unclosable hscan hstuck).symm.trans h)
      exact ⟨_, ts, r, hscan.eq_append, hscan, hstuck, rfl⟩
  · rintro ⟨before, ts, r, hs, hscan, hstuck, rfl⟩
    obtain rfl := List.append_cancel_right (hs.symm.trans hscan.eq_append)
    exact expand_of_unclosable hscan hstuck

/-- The brace that closes an interpolation does not stand in the raw block behind it. -/
example : expand "a\n${x{% raw %}}{% endraw %}".toList = .error ⟨2⟩ := by decide +kernel

end Shorthand

end Imprint
