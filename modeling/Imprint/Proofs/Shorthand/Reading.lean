import Imprint.Proofs.Results
import Imprint.Proofs.Template.Piece
import Imprint.Proofs.Text.Region
import Imprint.Proofs.Text.Trim
import Imprint.Shorthand
import Mathlib.Data.List.Infix

/-!
# How tokens follow one another

The tokens of a text without raw blocks are read one after the other, each from the characters that
it was written with, and the line on which they stand has no part in it. A text with raw blocks is
read region by region. So the tokens of a text that is put together from two are those of the first
and then those of the second, unless an interpolation, an escape or a raw block goes from the first
over to the second.

## Main definitions

* `Imprint.Shorthand.Opens`: the texts that begin with an interpolation or an escape.
* `Imprint.Shorthand.Reads`: the tokens that a text without raw blocks is read as.
* `Imprint.Shorthand.ReadsText`: the tokens that any text is read as.

## Main results

* `Imprint.Shorthand.tokensFrom_eq_ok_iff`: the tokens of a text are those that are read.
* `Imprint.Shorthand.expand_eq_ok_iff`: the expansion of a text is that of its tokens.
* `Imprint.Shorthand.ReadsText.append`: the tokens of two texts.
* `Imprint.Shorthand.ReadsText.inherits`: what an expansion keeps.
-/

namespace Imprint.Shorthand

variable {c : Char} {d line : Nat} {e r s t u : List Char} {ts us : List Token}

/-! ### Enclosed texts -/

/-- What is enclosed stands in front of a closing brace, and what follows that brace has no part in
it. -/
theorem enclosed?_eq_some (h : enclosed? d s = some e) :
    enclosed? d (e ++ ['}']) = some e ∧ ∃ r, s = e ++ '}' :: r := by
  induction d, s using enclosed?.induct generalizing e with
  | case1 => simp [enclosed?] at h
  | case2 d r ih | case4 d r ih =>
    obtain ⟨e', he', rfl⟩ := Option.map_eq_some_iff.1 (by simpa [enclosed?] using h)
    obtain ⟨hclosed, r', rfl⟩ := ih he'
    exact ⟨by simp [enclosed?, hclosed], r', rfl⟩
  | case3 r =>
    obtain rfl : [] = e := by simpa [enclosed?] using h
    exact ⟨rfl, r, rfl⟩
  | case5 d c r hopen hzero hclose ih =>
    rw [enclosed?.eq_5 _ _ _ hopen hzero hclose] at h
    obtain ⟨e', he', rfl⟩ := Option.map_eq_some_iff.1 h
    obtain ⟨hclosed, r', rfl⟩ := ih he'
    refine ⟨?_, r', rfl⟩
    rw [List.cons_append, enclosed?.eq_5 _ _ _ hopen hzero hclose, hclosed]
    rfl

theorem enclosed?_append (h : enclosed? d s = some e) (u : List Char) :
    enclosed? d (s ++ u) = some e := by
  induction d, s using enclosed?.induct generalizing e with
  | case1 => simp [enclosed?] at h
  | case2 d r ih | case4 d r ih =>
    obtain ⟨e', he', rfl⟩ := Option.map_eq_some_iff.1 (by simpa [enclosed?] using h)
    simp [enclosed?, ih he']
  | case3 r => simpa [enclosed?] using h
  | case5 d c r hopen hzero hclose ih =>
    rw [enclosed?.eq_5 _ _ _ hopen hzero hclose] at h
    obtain ⟨e', he', rfl⟩ := Option.map_eq_some_iff.1 h
    rw [List.cons_append, enclosed?.eq_5 _ _ _ hopen hzero hclose, ih he']
    rfl

/-- Whether every brace of a text has its partner in it. -/
def Balanced (e : List Char) : Prop :=
  enclosed? 0 (e ++ ['}']) = some e

instance (e : List Char) : Decidable (Balanced e) :=
  inferInstanceAs (Decidable (_ = _))

theorem enclosed?_eq_some_iff : enclosed? 0 s = some e ↔ Balanced e ∧ ∃ r, s = e ++ '}' :: r := by
  refine ⟨enclosed?_eq_some, ?_⟩
  rintro ⟨h, r, rfl⟩
  simpa using enclosed?_append h r

theorem balanced_of_notMem (hopen : '{' ∉ e) (hclose : '}' ∉ e) : Balanced e := by
  rw [Balanced]
  induction e with
  | nil => rfl
  | cons c e ih =>
    simp only [List.mem_cons, not_or] at hopen hclose
    rw [List.cons_append, enclosed?.eq_5, ih hopen.2 hclose.2]
    · rfl
    · exact Ne.symm hopen.1
    · exact fun _ => Ne.symm hclose.1
    · exact fun _ _ => Ne.symm hclose.1

/-! ### The tokens of a text -/

/-- The texts that begin with an interpolation or an escape. -/
def Opens (s : List Char) : Prop :=
  ['$', '{'] <+: s ∨ ['$', '$', '{'] <+: s

/-- The tokens that a text without raw blocks is read as. -/
inductive Reads : List Char → List Token → Prop where
  | nil : Reads [] []
  | escape {r : List Char} {ts : List Token} (h : Reads r ts) :
      Reads ('$' :: '$' :: '{' :: r) (.escape :: ts)
  | interpolation {e r : List Char} {ts : List Token} (he : Balanced e) (h : Reads r ts) :
      Reads ('$' :: '{' :: (e ++ '}' :: r)) (.interpolation e :: ts)
  | plain {c : Char} {r : List Char} {ts : List Token} (hc : ¬ Opens (c :: r)) (h : Reads r ts) :
      Reads (c :: r) (.plain c :: ts)

/-- Passing over characters leaves the tokens of what is behind them. -/
theorem tokensFrom_eq_drop (line k : Nat) (s : List Char) :
    tokensFrom line k s = tokensFrom (lineAfter line (s.take k)) 0 (s.drop k) := by
  induction s generalizing line k with
  | nil => cases k <;> rfl
  | cons c r ih =>
    cases k with
    | zero => rfl
    | succ k =>
      rw [tokensFrom, ih]
      rfl

theorem drop_enclosed (e r : List Char) : (e ++ '}' :: r).drop (e.length + 1) = r := by
  simp [List.drop_append]

theorem tokensFrom_of_reads (h : Reads s ts) (line : Nat) : tokensFrom line 0 s = .ok ts := by
  induction h generalizing line with
  | nil => rfl
  | escape _ ih =>
    rw [tokensFrom, ih]
    rfl
  | @interpolation e r ts he _ ih =>
    have henclosed : enclosed? 0 (e ++ '}' :: r) = some e := enclosed?_eq_some_iff.2 ⟨he, r, rfl⟩
    simp only [tokensFrom, henclosed, tokensFrom_eq_drop line (e.length + 1), drop_enclosed, ih]
    rfl
  | @plain c r ts hc _ ih =>
    rw [tokensFrom, ih]
    · rfl
    · rintro r' rfl rfl
      exact hc (.inr ⟨r', rfl⟩)
    · rintro r' rfl rfl
      exact hc (.inl ⟨r', rfl⟩)

theorem reads_of_tokensFrom {k : Nat} (h : tokensFrom line k s = .ok ts) : Reads (s.drop k) ts := by
  induction line, k, s using tokensFrom.induct generalizing ts with
  | case1 =>
    obtain rfl : [] = ts := by simpa [tokensFrom] using h
    simpa using Reads.nil
  | case2 line k c r ih => exact ih (by simpa [tokensFrom] using h)
  | case3 line r ih =>
    obtain ⟨ts', hr, hts⟩ := bind_eq_ok.1 (by simpa only [tokensFrom] using h)
    obtain rfl : .escape :: ts' = ts := by simpa [pure, Except.pure] using hts
    exact .escape (ih hr)
  | case4 line r e henclosed ih =>
    simp only [tokensFrom, henclosed] at h
    obtain ⟨ts', hr, hts⟩ := bind_eq_ok.1 h
    obtain rfl : .interpolation e :: ts' = ts := by simpa [pure, Except.pure] using hts
    obtain ⟨he, r', rfl⟩ := enclosed?_eq_some_iff.1 henclosed
    rw [drop_enclosed] at ih
    exact .interpolation he (ih hr)
  | case5 line r henclosed => simp [tokensFrom, henclosed] at h
  | case6 line c r hescape hinterpolation ih =>
    rw [tokensFrom.eq_5 _ _ _ hescape hinterpolation] at h
    obtain ⟨ts', hr, hts⟩ := bind_eq_ok.1 h
    obtain rfl : .plain c :: ts' = ts := by simpa [pure, Except.pure] using hts
    refine .plain ?_ (ih hr)
    rintro (⟨r', hr'⟩ | ⟨r', hr'⟩)
    · simp only [List.cons_append, List.nil_append, List.cons.injEq] at hr'
      exact hinterpolation r' hr'.1.symm hr'.2.symm
    · simp only [List.cons_append, List.nil_append, List.cons.injEq] at hr'
      exact hescape r' hr'.1.symm hr'.2.symm

/-- The tokens of a text are those that are read from it. -/
theorem tokensFrom_eq_ok_iff : tokensFrom line 0 s = .ok ts ↔ Reads s ts :=
  ⟨reads_of_tokensFrom, fun h => tokensFrom_of_reads h line⟩

/-! ### Texts put together -/

/-- Neither an interpolation nor an escape goes from one text over to another. -/
def Parts (s u : List Char) : Prop :=
  s.getLast? ≠ some '$' ∨ u.head? ≠ some '$' ∧ u.head? ≠ some '{'

theorem Parts.of_suffix (h : Parts s u) (hr : r <:+ s) : Parts r u := by
  refine h.imp_left fun hs hlast => hs ?_
  obtain ⟨t, rfl⟩ := hr
  rw [List.getLast?_append, hlast]
  rfl

theorem Parts.not_opens (h : Parts (c :: r) u) (hc : ¬ Opens (c :: r)) :
    ¬ Opens (c :: (r ++ u)) := by
  match r, u with
  | [], [] => exact hc
  | [], d :: u =>
    rintro (hopens | hopens)
    · obtain ⟨rfl, rfl⟩ : '$' = c ∧ '{' = d := by simpa [List.cons_prefix_cons] using hopens
      simp [Parts] at h
    · obtain ⟨rfl, rfl, -⟩ : '$' = c ∧ '$' = d ∧ ['{'] <+: u := by
        simpa [List.cons_prefix_cons] using hopens
      simp [Parts] at h
  | d :: r, u =>
    rintro (hopens | hopens)
    · exact hc (.inl (by simpa [List.cons_prefix_cons] using hopens))
    · match r, u with
      | [], [] => exact hc (.inr hopens)
      | x :: r, u => exact hc (.inr (by simpa [List.cons_prefix_cons] using hopens))
      | [], x :: u =>
        obtain ⟨rfl, rfl, rfl⟩ : '$' = c ∧ '$' = d ∧ '{' = x := by
          simpa [List.cons_prefix_cons] using hopens
        simp [Parts] at h

/-- The tokens of two texts, one after the other. -/
theorem Reads.append (hs : Reads s ts) (hu : Reads u us) (h : Parts s u) :
    Reads (s ++ u) (ts ++ us) := by
  induction hs with
  | nil => exact hu
  | @escape r ts hr ih =>
    exact .escape (ih (h.of_suffix (List.suffix_append ['$', '$', '{'] r)))
  | @interpolation e r ts he hr ih =>
    have hsuffix : r <:+ '$' :: '{' :: (e ++ '}' :: r) :=
      ⟨'$' :: '{' :: (e ++ ['}']), by simp⟩
    simpa using Reads.interpolation he (ih (h.of_suffix hsuffix))
  | @plain c r ts hc hr ih =>
    exact .plain (h.not_opens hc) (ih (h.of_suffix (List.suffix_cons c r)))

/-- A text without a `${` has no tokens but its characters. -/
theorem reads_plain (h : ¬ ['$', '{'] <:+: s) : Reads s (s.map .plain) := by
  induction s with
  | nil => exact .nil
  | cons c r ih =>
    refine .plain ?_ (ih fun hr => h (hr.trans (List.suffix_cons c r).isInfix))
    rintro (hopens | hopens)
    · exact h hopens.isInfix
    · exact h ((List.suffix_cons '$' ['$', '{']).isInfix.trans hopens.isInfix)

theorem Reads.eq_plain (h : Reads s ts) (hs : ¬ ['$', '{'] <:+: s) : ts = s.map .plain := by
  have hplain := tokensFrom_of_reads (reads_plain hs) 1
  rw [tokensFrom_of_reads h] at hplain
  exact Except.ok.inj hplain

theorem flatMap_expansion_plain (s : List Char) :
    (s.map Token.plain).flatMap Token.expansion = s := by
  induction s with
  | nil => rfl
  | cons c r ih => simpa [Token.expansion] using ih

/-! ### Texts with raw blocks -/

/-- The tokens that the regions of a text are read as. -/
inductive ReadsRegions : List (Text.Region (List Char)) → List Token → Prop where
  | nil : ReadsRegions [] []
  | plain {t : List Char} {rs : List (Text.Region (List Char))} {ts us : List Token}
      (ht : Reads t ts) (h : ReadsRegions rs us) : ReadsRegions (.plain t :: rs) (ts ++ us)
  | raw {block : List Char} {rs : List (Text.Region (List Char))} {ts : List Token}
      (h : ReadsRegions rs ts) : ReadsRegions (.found block :: rs) (.raw block :: ts)

theorem tokensOfRegions_eq_ok_iff {rs : List (Text.Region (List Char))} :
    tokensOfRegions line rs = .ok ts ↔ ReadsRegions rs ts := by
  constructor
  · intro h
    induction rs generalizing line ts with
    | nil =>
      obtain rfl : [] = ts := by simpa [tokensOfRegions] using h
      exact .nil
    | cons region rs ih =>
      cases region with
      | plain t =>
        obtain ⟨ts', ht, h⟩ := bind_eq_ok.1 (by simpa only [tokensOfRegions] using h)
        obtain ⟨us, hu, hts⟩ := bind_eq_ok.1 h
        obtain rfl : ts' ++ us = ts := by simpa [pure, Except.pure] using hts
        exact .plain (tokensFrom_eq_ok_iff.1 ht) (ih hu)
      | found block =>
        obtain ⟨us, hu, hts⟩ := bind_eq_ok.1 (by simpa only [tokensOfRegions] using h)
        obtain rfl : .raw block :: us = ts := by simpa [pure, Except.pure] using hts
        exact .raw (ih hu)
  · intro h
    induction h generalizing line with
    | nil => rfl
    | plain ht _ ih =>
      rw [tokensOfRegions, tokensFrom_of_reads ht, ih]
      rfl
    | raw _ ih =>
      rw [tokensOfRegions, ih]
      rfl

/-- The tokens that a text is read as. -/
def ReadsText (s : List Char) (ts : List Token) : Prop :=
  ReadsRegions (Text.regions Template.rawBlock? s) ts

/-- The expansion of a text is that of the tokens that it is read as. -/
theorem expand_eq_ok_iff :
    expand s = .ok t ↔ ∃ ts, ReadsText s ts ∧ ts.flatMap Token.expansion = t := by
  simp [expand, tokens, bind_eq_ok, tokensOfRegions_eq_ok_iff, pure, Except.pure, ReadsText]

theorem divided_regions (s : List Char) :
    Text.Divided Template.rawBlock? s (Text.regions Template.rawBlock? s) :=
  Text.divided_regions (fun h => ⟨_, Template.rawBlock?_eq_some h⟩) s

theorem ReadsRegions.eq_nil (h : ReadsRegions [] ts) : ts = [] := by
  cases h
  rfl

/-- A plain text is put in front of regions. -/
theorem ReadsRegions.prepend {rs : List (Text.Region (List Char))} (ht : Reads t ts)
    (hr : ReadsRegions rs us) (hne : t ≠ []) (h : ∀ w rs', rs = .plain w :: rs' → Parts t w) :
    ReadsRegions (t.foldr Text.Region.consPlain rs) (ts ++ us) := by
  cases hr with
  | nil =>
    rw [Text.foldr_consPlain_of_not_plain hne (by simp)]
    exact .plain ht .nil
  | raw hr =>
    rw [Text.foldr_consPlain_of_not_plain hne (by simp)]
    exact .plain ht (.raw hr)
  | @plain w rs ts' us hw hr =>
    rw [Text.foldr_consPlain_plain, ← List.append_assoc]
    exact .plain (ht.append hw (h w rs rfl)) hr

theorem Parts.of_isPrefix {w : List Char} (h : Parts s u) (hw : w <+: u) : Parts s w := by
  refine h.imp_right fun hu => ?_
  obtain ⟨t, rfl⟩ := hw
  cases w with
  | nil => simp
  | cons c w => simpa using hu

theorem isPrefix_plain {rs : List (Text.Region (List Char))}
    (h : Text.Divided Template.rawBlock? s (.plain t :: rs)) : t <+: s := by
  cases h
  exact List.prefix_append _ _

/-- The tokens of two texts, one after the other. -/
theorem ReadsText.append (hs : ReadsText s ts) (hu : ReadsText u us)
    (hdetached : Text.Detached Template.rawBlock? s u) (hparts : Parts s u) :
    ReadsText (s ++ u) (ts ++ us) := by
  have hdivided := divided_regions s
  rw [ReadsText] at hs
  generalize Text.regions Template.rawBlock? s = rs at hs hdivided
  induction hdivided generalizing ts with
  | nil =>
    rw [hs.eq_nil]
    exact hu
  | @found m r block rs hm hblock hr ih =>
    obtain _ | _ | @⟨_, _, ts, hs⟩ := hs
    have hrest := ih (hdetached.of_suffix (List.suffix_append m r))
      (hparts.of_suffix (List.suffix_append m r)) hs
    rw [ReadsText, List.append_assoc,
      Text.regions_append_found hm (hdetached.eq_some hm hblock)]
    exact .raw hrest
  | @plain t r rs ht hnone hr hrs ih =>
    obtain _ | @⟨_, _, ts, us', hread, hs⟩ | _ := hs
    have hrest := ih (hdetached.of_suffix (List.suffix_append t r))
      (hparts.of_suffix (List.suffix_append t r)) hs
    rw [ReadsText, List.append_assoc, List.append_assoc,
      Text.regions_append_plain (hdetached.eq_none hnone)]
    refine .prepend hread hrest ht fun w rs' hw => ?_
    cases hr with
    | nil =>
      rw [List.append_nil] at hparts
      exact hparts.of_isPrefix (isPrefix_plain (hw ▸ divided_regions u))
    | @found m r block rs hm hblock hr =>
      have hfound := (hdetached.of_suffix (List.suffix_append t _)).eq_some hm hblock
      rw [List.append_assoc, Text.regions_append_found hm hfound] at hw
      cases hw
    | plain => exact absurd rfl (hrs _ _)

/-! ### What an expansion keeps -/

/-- A text and another one that it was made from: the first ends, begins and has the end of a
comment in it only if the second does, but for the characters of interpolations. -/
structure Inherits (s t : List Char) : Prop where
  ne_nil : s ≠ [] → t ≠ []
  head : ∀ {c}, c ≠ '$' → c ≠ '{' → t.head? = some c → s.head? = some c
  last : ∀ {c}, c ≠ '{' → c ≠ '}' → t.getLast? = some c → s.getLast? = some c
  commentEnd : ['#', '}'] <:+: t → ['#', '}'] <:+: s

theorem Inherits.refl (s : List Char) : Inherits s s :=
  ⟨id, fun _ _ => id, fun _ _ => id, id⟩

theorem Inherits.append {s' t' : List Char} (h : Inherits s t) (h' : Inherits s' t') :
    Inherits (s ++ s') (t ++ t') := by
  have hnil : t = [] → s = [] := fun ht => by_contra fun hs => h.ne_nil hs ht
  have hnil' : t' = [] → s' = [] := fun ht => by_contra fun hs => h'.ne_nil hs ht
  have hhead {c : Char} (hdollar : c ≠ '$') (hopen : c ≠ '{') :
      (t ++ t').head? = some c → (s ++ s').head? = some c := by
    rw [List.head?_append, List.head?_append, Option.or_eq_some_iff, Option.or_eq_some_iff]
    rintro (hc | ⟨ht, hc⟩)
    · exact .inl (h.head hdollar hopen hc)
    · exact .inr ⟨by rw [hnil (List.head?_eq_none_iff.1 ht)]; rfl, h'.head hdollar hopen hc⟩
  refine ⟨fun hne ht => ?_, hhead, fun {c} hopen hclose => ?_, fun hc => ?_⟩
  · obtain ⟨ht, ht'⟩ := List.append_eq_nil_iff.1 ht
    exact hne (by rw [hnil ht, hnil' ht', List.append_nil])
  · rw [List.getLast?_append, List.getLast?_append, Option.or_eq_some_iff, Option.or_eq_some_iff]
    rintro (hc | ⟨ht, hc⟩)
    · exact .inl (h'.last hopen hclose hc)
    · exact .inr ⟨by rw [hnil' (List.getLast?_eq_none_iff.1 ht)]; rfl, h.last hopen hclose hc⟩
  · rw [Text.pair_infix_append] at hc ⊢
    rcases hc with hc | hc | ⟨hlast, hfirst⟩
    · exact .inl (h.commentEnd hc)
    · exact .inr (.inl (h'.commentEnd hc))
    · exact .inr (.inr ⟨h.last (by decide) (by decide) hlast,
        h'.head (by decide) (by decide) hfirst⟩)

theorem Token.inherits (token : Token) : Inherits token.source token.expansion := by
  cases token with
  | raw block => exact .refl block
  | plain c => exact .refl [c]
  | escape => exact ⟨by simp [expansion], by simp +contextual [expansion, source, eq_comm],
      by simp +contextual [expansion, source, eq_comm], fun hc => absurd hc (by decide)⟩
  | interpolation e =>
    have hlast : (interpolation e).expansion.getLast? = some '}' := by
      simp [expansion, List.getLast?_cons, List.getLast?_append]
    refine ⟨by simp [expansion], by simp +contextual [expansion, source, eq_comm],
      fun _ hclose hc => absurd (Option.some.inj (hlast.symm.trans hc)).symm hclose, fun hc => ?_⟩
    rw [expansion, Text.pair_infix_append, Text.pair_infix_append] at hc
    rcases hc with (hc | hc | ⟨hc, -⟩) | hc | ⟨-, hc⟩
    · exact absurd hc (by decide)
    · exact (hc.trans (Text.isInfix_trim e)).trans ⟨['$', '{'], ['}'], rfl⟩
    · exact absurd hc (by decide)
    · exact absurd hc (by decide)
    · exact absurd hc (by decide)

theorem inherits_expansion (ts : List Token) :
    Inherits (ts.flatMap Token.source) (ts.flatMap Token.expansion) := by
  induction ts with
  | nil => exact .refl []
  | cons token ts ih => exact token.inherits.append ih

theorem Reads.flatMap_source (h : Reads s ts) : ts.flatMap Token.source = s := by
  induction h with
  | nil => rfl
  | escape _ ih => simpa [Token.source] using ih
  | interpolation _ _ ih => simpa [Token.source] using ih
  | plain _ _ ih => simpa [Token.source] using ih

/-- A text is made of the tokens that it is read as. -/
theorem ReadsText.flatMap_source (h : ReadsText s ts) : ts.flatMap Token.source = s := by
  have hdivided := divided_regions s
  rw [ReadsText] at h
  generalize Text.regions Template.rawBlock? s = rs at h hdivided
  induction hdivided generalizing ts with
  | nil =>
    rw [h.eq_nil]
    rfl
  | @found m r block rs hm hblock hr ih =>
    obtain _ | _ | @⟨_, _, ts, h⟩ := h
    obtain ⟨-, heq⟩ := Template.rawBlock?_eq_some hblock
    rw [List.flatMap_cons, ih h, Token.source, ← heq]
  | @plain t r rs ht hnone hr hrs ih =>
    obtain _ | @⟨_, _, ts, us, hread, h⟩ | _ := h
    rw [List.flatMap_append, hread.flatMap_source, ih h]

/-- An expansion ends and begins as the text does, and no comment is closed by it that was not
closed before. -/
theorem ReadsText.inherits (h : ReadsText s ts) : Inherits s (ts.flatMap Token.expansion) := by
  have hinherits := inherits_expansion ts
  rwa [h.flatMap_source] at hinherits

/-! ### Texts without raw blocks -/

/-- No raw block starts in a text. -/
def Rawless (s : List Char) : Prop :=
  ∀ v, v <:+ s → Template.wordTag? ['r', 'a', 'w'] v = none

instance (s : List Char) : Decidable (Rawless s) :=
  decidable_of_iff (∀ v ∈ s.tails, Template.wordTag? ['r', 'a', 'w'] v = none)
    (by simp [Rawless, List.mem_tails])

/-- No raw block starts in a text, whatever follows it. -/
def StaysRawless (s : List Char) : Prop :=
  ∀ v, v <:+ s → v ≠ [] → ∀ u, Template.wordTag? ['r', 'a', 'w'] (v ++ u) = none

theorem StaysRawless.rawless (h : StaysRawless s) : Rawless s := by
  intro v hv
  by_cases hne : v = []
  · rw [hne]
    rfl
  · have hv' := h v hv hne []
    rwa [List.append_nil] at hv'

theorem StaysRawless.detached (h : StaysRawless s) (u : List Char) :
    Text.Detached Template.rawBlock? s u := by
  intro v hv hne
  simp [Template.rawBlock?, h v hv hne u, h.rawless v hv]

/-- The tokens of a text in which no raw block is found. -/
theorem readsText_iff_of_none
    (h : ∀ v, v <:+ s → v ≠ [] → Template.rawBlock? v = none) : ReadsText s ts ↔ Reads s ts := by
  cases s with
  | nil =>
    refine ⟨fun h => ?_, fun h => ?_⟩
    · rw [ReadsRegions.eq_nil h]
      exact .nil
    · cases h
      exact .nil
  | cons c r =>
    rw [ReadsText, Text.regions_of_none h]
    refine ⟨fun h => ?_, fun h => ?_⟩
    · obtain _ | @⟨_, _, ts, us, hread, h⟩ | _ := h
      rw [h.eq_nil, List.append_nil]
      exact hread
    · simpa using ReadsRegions.plain h .nil

/-- The tokens of a text without raw blocks. -/
theorem readsText_iff_of_rawless (h : Rawless s) : ReadsText s ts ↔ Reads s ts :=
  readsText_iff_of_none fun v hv _ => by
    rw [Template.rawBlock?, h v hv]
    rfl

end Imprint.Shorthand
