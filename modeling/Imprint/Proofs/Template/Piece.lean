import Mathlib.Data.List.TakeWhile
import Imprint.Proofs.Text.Region
import Imprint.Template.Piece

/-!
# What pieces are cut from

Each piece is given back here to the characters that it was cut from. Two readers look at raw
blocks: the one that cuts a text into pieces and the one that takes raw blocks out of a flat text.
They agree on the tags of one word, but for the blanks that each of them allows; so they agree on a
raw block as long as no other end tag stands in it.

## Main definitions

* `Imprint.Template.Trim.wrap`: what stands between two delimiters, with its hyphens.
* `Imprint.Template.IsWordTag`: the texts of a tag with one word.
* `Imprint.Template.Cut`: a text and the pieces other than plain text that are cut from it.

## Main results

* `Imprint.Template.wordTag?_eq_some_iff`: a tag with one word at the front of a text.
* `Imprint.Template.rawBlock?_append`: raw blocks as the flat text shows them.
* `Imprint.Template.cutFrom_of_piece?`: the characters of each kind of piece.
* `Imprint.Template.cut_of_pieces?`: a text is cut piece by piece.
-/

namespace Imprint.Template

variable {c d : Char} {s t r x inner word m rest : List Char} {trim : Trim} {b : Bool}

/-! ### Hyphens and blanks -/

/-- One hyphen, or none. -/
def hyphen (b : Bool) : List Char :=
  if b then ['-'] else []

/-- What stands between two delimiters, with its hyphens. -/
def Trim.wrap (trim : Trim) (inner : List Char) : List Char :=
  hyphen trim.before ++ inner ++ hyphen trim.after

theorem hyphen_append_dropHyphen (s : List Char) :
    hyphen (decide ((dropHyphen s).length < s.length)) ++ dropHyphen s = s := by
  simp only [dropHyphen]
  split <;> simp [hyphen]

theorem exists_hyphen_append (s : List Char) : ∃ b, s = hyphen b ++ dropHyphen s :=
  ⟨_, (hyphen_append_dropHyphen s).symm⟩

theorem reverse_hyphen (b : Bool) : (hyphen b).reverse = hyphen b := by
  cases b <;> rfl

theorem wrap_of_ofDelimited (h : ofDelimited x = (trim, inner)) : trim.wrap inner = x := by
  obtain ⟨rfl, rfl⟩ := Prod.mk.inj h
  have hback := congrArg List.reverse (hyphen_append_dropHyphen (dropHyphen x).reverse)
  rw [List.reverse_append, List.reverse_reverse, reverse_hyphen, List.length_reverse] at hback
  simp only [Trim.wrap, List.length_reverse]
  rw [List.append_assoc, hback]
  exact hyphen_append_dropHyphen x

/-- The first character is there, and it is no blank and no hyphen. -/
def SolidHead (s : List Char) : Prop :=
  ∃ c r, s = c :: r ∧ Text.isBlank c = false ∧ c ≠ '-'

theorem SolidHead.append (h : SolidHead s) (t : List Char) : SolidHead (s ++ t) := by
  obtain ⟨c, r, rfl, hc⟩ := h
  exact ⟨c, r ++ t, rfl, hc⟩

theorem isBlank_of_isSpace (h : Reader.isSpace c = true) : Text.isBlank c = true := by
  simp only [Reader.isSpace, Bool.or_eq_true, beq_iff_eq] at h
  rcases h with ((rfl | rfl) | rfl) | rfl <;> decide

theorem ne_of_isNameChar (hc : Reader.isNameChar c = true)
    (hd : Reader.isNameChar d = false) : c ≠ d := by
  rintro rfl
  rw [hc] at hd
  cases hd

theorem isBlank_of_isNameChar (hc : Reader.isNameChar c = true) : Text.isBlank c = false := by
  have hrange : 0x30 ≤ c.toNat ∧ c.toNat ≤ 0x7A := by
    change (decide (c.val ≥ 'A'.val ∧ c.val ≤ 'Z'.val) || (c.val ≥ 'a'.val && c.val ≤ 'z'.val) ||
      (c.val ≥ '0'.val && c.val ≤ '9'.val) || c == '_') = true at hc
    simp only [Bool.or_eq_true, Bool.and_eq_true, decide_eq_true_eq, beq_iff_eq, ge_iff_le,
      UInt32.le_iff_toNat_le] at hc
    change (((65 ≤ c.toNat ∧ c.toNat ≤ 90) ∨ 97 ≤ c.toNat ∧ c.toNat ≤ 122) ∨
      48 ≤ c.toNat ∧ c.toNat ≤ 57) ∨ c = '_' at hc
    rcases hc with hc | rfl
    · omega
    · decide
  simp only [Text.isBlank, Text.inRanges, Text.blankRanges, List.any_cons, List.any_nil,
    Bool.or_false, Bool.or_eq_false_iff, Bool.and_eq_false_iff, decide_eq_false_iff_not]
  omega

theorem exists_blanks_append (s : List Char) :
    ∃ t, (∀ c ∈ t, Text.isBlank c = true) ∧ s = t ++ Text.trimStart s :=
  ⟨s.takeWhile Text.isBlank, fun _ => List.mem_takeWhile_imp,
    (List.takeWhile_append_dropWhile).symm⟩

theorem trimStart_append (ht : ∀ c ∈ t, Text.isBlank c = true) (hc : Text.isBlank c = false) :
    Text.trimStart (t ++ c :: r) = c :: r := by
  rw [Text.trimStart, List.dropWhile_append_of_pos ht, List.dropWhile_cons_of_neg (by simp [hc])]

theorem dropHyphen_append (hc : c ≠ '-') : dropHyphen (hyphen b ++ c :: r) = c :: r := by
  cases b with
  | true => rfl
  | false =>
    simp only [hyphen, dropHyphen]
    split
    · next heq => exact absurd (List.cons.inj heq).1 hc
    · rfl

/-- A tag is opened up to its first character that is no blank. -/
theorem tagOpening?_append (ht : ∀ c ∈ t, Text.isBlank c = true) (hs : SolidHead s) :
    tagOpening? (['{', '%'] ++ hyphen b ++ t ++ s) = some s := by
  obtain ⟨c, r, rfl, hblank, hc⟩ := hs
  have hdrop : dropHyphen (hyphen b ++ (t ++ c :: r)) = t ++ c :: r := by
    cases t with
    | nil => exact dropHyphen_append hc
    | cons d t =>
      refine dropHyphen_append ?_
      rintro rfl
      exact absurd (ht '-' List.mem_cons_self) (by decide)
  simp only [tagOpening?, List.append_assoc, Text.after?_append, Option.map_some]
  rw [hdrop, trimStart_append ht hblank]

theorem tagOpening?_eq_some (h : tagOpening? s = some r) :
    ∃ b t, (∀ c ∈ t, Text.isBlank c = true) ∧ s = ['{', '%'] ++ hyphen b ++ t ++ r := by
  obtain ⟨u, hu, rfl⟩ := Option.map_eq_some_iff.1 h
  obtain ⟨b, hb⟩ := exists_hyphen_append u
  obtain ⟨t, ht, htrim⟩ := exists_blanks_append (dropHyphen u)
  refine ⟨b, t, ht, ?_⟩
  rw [List.append_assoc, List.append_assoc, ← htrim, ← hb]
  exact Text.after?_eq_some_iff.1 hu

/-! ### Tags with one word -/

/-- The texts of a tag with one word: a hyphen and blanks may stand on each side of it. -/
def IsWordTag (word m : List Char) : Prop :=
  ∃ b t t' b', (∀ c ∈ t, Text.isBlank c = true) ∧ (∀ c ∈ t', Text.isBlank c = true) ∧
    m = ['{', '%'] ++ hyphen b ++ t ++ (word ++ (t' ++ (hyphen b' ++ ['%', '}'])))

theorem wordTag?_eq_some_iff (hword : SolidHead word) :
    wordTag? word s = some rest ↔ ∃ m, IsWordTag word m ∧ s = m ++ rest := by
  constructor
  · intro h
    obtain ⟨u, hu, hrest⟩ := Option.bind_eq_some_iff.1 h
    obtain ⟨v, hv, hclose⟩ := Option.bind_eq_some_iff.1 hrest
    obtain ⟨b, t, ht, rfl⟩ := tagOpening?_eq_some hu
    obtain rfl := Text.after?_eq_some_iff.1 hv
    rw [Text.after?_eq_some_iff] at hclose
    obtain ⟨t', ht', htrim⟩ := exists_blanks_append v
    obtain ⟨b', hb'⟩ := exists_hyphen_append (Text.trimStart v)
    refine ⟨_, ⟨b, t, t', b', ht, ht', rfl⟩, ?_⟩
    have hback : v = t' ++ (hyphen b' ++ (['%', '}'] ++ rest)) := by
      rw [← hclose, ← hb', ← htrim]
    rw [hback]
    simp only [List.append_assoc]
  · rintro ⟨m, ⟨b, t, t', b', ht, ht', rfl⟩, rfl⟩
    have hopen := tagOpening?_append (b := b) ht
      (hword.append (t' ++ (hyphen b' ++ (['%', '}'] ++ rest))))
    have hclose : dropHyphen (Text.trimStart (t' ++ (hyphen b' ++ (['%', '}'] ++ rest)))) =
        ['%', '}'] ++ rest := by
      cases b' with
      | true =>
        rw [show t' ++ (hyphen true ++ (['%', '}'] ++ rest)) = t' ++ '-' :: '%' :: '}' :: rest
          from rfl, trimStart_append ht' (by decide)]
        rfl
      | false =>
        rw [show t' ++ (hyphen false ++ (['%', '}'] ++ rest)) = t' ++ '%' :: '}' :: rest
          from rfl, trimStart_append ht' (by decide)]
        rfl
    simp only [List.append_assoc] at hopen ⊢
    simp only [wordTag?, hopen, Text.after?_append, hclose, Option.bind_eq_bind, Option.bind_some]

theorem IsWordTag.wordTag?_append (h : IsWordTag word m) (hword : SolidHead word)
    (rest : List Char) : wordTag? word (m ++ rest) = some rest :=
  (wordTag?_eq_some_iff hword).2 ⟨m, h, rfl⟩

theorem IsWordTag.exists_eq_cons (h : IsWordTag word m) : ∃ r, m = '{' :: r := by
  obtain ⟨_, _, _, _, -, -, rfl⟩ := h
  exact ⟨_, rfl⟩

/-- No tag of one word is opened inside another. -/
theorem IsWordTag.notMem_tail (h : IsWordTag word m) (hword : '{' ∉ word) : '{' ∉ m.tail := by
  obtain ⟨b, t, t', b', ht, ht', rfl⟩ := h
  have hblank {t : List Char} (ht : ∀ c ∈ t, Text.isBlank c = true) : '{' ∉ t := fun hmem =>
    absurd (ht '{' hmem) (by decide)
  have hhyphen (b : Bool) : '{' ∉ hyphen b := by cases b <;> decide
  simp [hblank ht, hblank ht', hhyphen, hword]

/-- What stands in a tag of one word besides the word. -/
theorem IsWordTag.notMem (h : IsWordTag word m) (hword : c ∉ word) (hc : Text.isBlank c = false)
    (hmarks : c ∉ ['{', '%', '-', '}']) : c ∉ m := by
  obtain ⟨b, t, t', b', ht, ht', rfl⟩ := h
  have hblank {t : List Char} (ht : ∀ d ∈ t, Text.isBlank d = true) : c ∉ t := fun hmem => by
    rw [ht c hmem] at hc
    cases hc
  have hhyphen (b : Bool) : c ∉ hyphen b := by
    cases b <;> simp_all [hyphen]
  simp only [List.mem_cons, List.not_mem_nil, or_false, not_or] at hmarks
  simp [hblank ht, hblank ht', hhyphen, hword, hmarks]

theorem solidHead_raw : SolidHead ['r', 'a', 'w'] := ⟨'r', ['a', 'w'], rfl, by decide, by decide⟩

theorem solidHead_endraw : SolidHead ['e', 'n', 'd', 'r', 'a', 'w'] :=
  ⟨'e', ['n', 'd', 'r', 'a', 'w'], rfl, by decide, by decide⟩

/-! ### Delimiters -/

theorem untilDelimiter?_eq_some {p q : Char} {quote : Option Char}
    (h : untilDelimiter? p q quote r = some (x, rest)) : r = x ++ p :: q :: rest := by
  induction r generalizing quote x with
  | nil => cases quote <;> cases h
  | cons c r ih =>
    cases quote with
    | some d =>
      simp only [untilDelimiter?] at h
      obtain ⟨⟨x', rest'⟩, h', heq⟩ := Option.map_eq_some_iff.1 h
      obtain ⟨rfl, rfl⟩ := Prod.mk.inj heq
      rw [List.cons_append, ← ih h']
    | none =>
      simp only [untilDelimiter?] at h
      split at h
      · next hclose =>
        obtain ⟨rfl, hq⟩ := hclose
        obtain ⟨r', rfl⟩ := List.head?_eq_some_iff.1 hq
        cases h
        rfl
      · obtain ⟨⟨x', rest'⟩, h', heq⟩ := Option.map_eq_some_iff.1 h
        obtain ⟨rfl, rfl⟩ := Prod.mk.inj heq
        rw [List.cons_append, ← ih h']

/-- A tag with one word that is cut off the front is one that the flat text shows there. -/
theorem isWordTag_of_plainTag? (h : plainTag? word s = some (trim, rest)) :
    ∃ m, IsWordTag word m ∧ s = m ++ rest := by
  obtain ⟨r, hr, hrest⟩ := Option.bind_eq_some_iff.1 h
  obtain ⟨⟨x, rest'⟩, hx, hinner⟩ := Option.bind_eq_some_iff.1 hrest
  obtain rfl := Text.after?_eq_some_iff.1 hr
  obtain rfl := untilDelimiter?_eq_some hx
  rcases hdelimited : ofDelimited x with ⟨trim', inner⟩
  simp only [hdelimited] at hinner
  split at hinner
  · next heq =>
    obtain ⟨rfl, rfl⟩ : trim' = trim ∧ rest' = rest := by simpa using hinner
    obtain ⟨t, t', ht, ht', rfl⟩ : ∃ t t', (∀ c ∈ t, Reader.isSpace c = true) ∧
        (∀ c ∈ t', Reader.isSpace c = true) ∧ inner = t ++ (word ++ t') := by
      refine ⟨inner.takeWhile Reader.isSpace,
        ((inner.dropWhile Reader.isSpace).reverse.takeWhile Reader.isSpace).reverse,
        fun _ => List.mem_takeWhile_imp,
        fun _ hc => List.mem_takeWhile_imp (List.mem_reverse.1 hc), ?_⟩
      rw [← heq, ← List.reverse_append, List.takeWhile_append_dropWhile, List.reverse_reverse,
        List.takeWhile_append_dropWhile]
    refine ⟨_, ⟨trim'.before, t, t', trim'.after, fun c hc => isBlank_of_isSpace (ht c hc),
      fun c hc => isBlank_of_isSpace (ht' c hc), rfl⟩, ?_⟩
    rw [← wrap_of_ofDelimited hdelimited, Trim.wrap]
    simp only [List.append_assoc, List.cons_append, List.nil_append]
  · cases hinner

/-! ### Raw blocks and comments -/

/-- The first end tag closes what stands in front of it. -/
theorem afterEnd?_eq_some (h : afterEnd? s = some rest) :
    ∃ t m, afterEnd? t = none ∧ IsWordTag ['e', 'n', 'd', 'r', 'a', 'w'] m ∧
      s = t ++ (m ++ rest) := by
  induction s with
  | nil => cases h
  | cons c s ih =>
    rw [afterEnd?, Option.orElse_eq_orElse, Option.orElse_eq_or, Option.or_eq_some_iff] at h
    rcases h with h | ⟨hnone, h⟩
    · obtain ⟨m, hm, heq⟩ := (wordTag?_eq_some_iff solidHead_endraw).1 h
      exact ⟨[], m, rfl, hm, heq⟩
    · obtain ⟨t, m, ht, hm, rfl⟩ := ih h
      refine ⟨c :: t, m, ?_, hm, rfl⟩
      rw [afterEnd?, ht]
      have hfront : wordTag? ['e', 'n', 'd', 'r', 'a', 'w'] (c :: t) = none := by
        refine Option.eq_none_iff_forall_ne_some.2 fun x hx => ?_
        obtain ⟨m', hm', heq⟩ := (wordTag?_eq_some_iff solidHead_endraw).1 hx
        rw [← List.cons_append, heq, List.append_assoc, hm'.wordTag?_append solidHead_endraw]
          at hnone
        cases hnone
      rw [hfront]
      rfl

/-- A raw block is taken off the front of a text. -/
theorem rawBlock?_eq_some {block : List Char} (h : rawBlock? s = some (block, rest)) :
    block ≠ [] ∧ s = block ++ rest := by
  obtain ⟨opened, hopened, h⟩ := Option.bind_eq_some_iff.1 h
  obtain ⟨_, hend, hblock⟩ := Option.bind_eq_some_iff.1 h
  obtain ⟨rfl, rfl⟩ : s.take (s.length - _) = block ∧ _ = rest := by simpa using hblock
  obtain ⟨tag, ⟨b, t, t', b', -, -, rfl⟩, rfl⟩ := (wordTag?_eq_some_iff solidHead_raw).1 hopened
  obtain ⟨inner, m, -, -, rfl⟩ := afterEnd?_eq_some hend
  simp only [← List.append_assoc]
  rw [List.length_append, Nat.add_sub_cancel, List.take_left]
  exact ⟨by simp, rfl⟩

/-- What follows an opening brace has no part in a tag of one word in front of it. -/
theorem IsWordTag.isPrefix_of_append_brace (hm : IsWordTag word m) (hword : '{' ∉ word)
    (h : c :: (t ++ '{' :: x) = m ++ rest) : m <+: c :: t := by
  rcases List.append_eq_append_iff.1 (show (c :: t) ++ '{' :: x = m ++ rest from h) with
    ⟨u, rfl, hu⟩ | ⟨u, hu, -⟩
  · cases u with
    | nil => simp
    | cons d u =>
      obtain ⟨rfl, -⟩ := List.cons.inj hu
      exact absurd (by simp) (hm.notMem_tail hword)
  · exact ⟨u, hu.symm⟩

/-- In front of an opening delimiter there is nothing that can become an end tag with it. -/
theorem afterEnd?_append (h : afterEnd? t = none) (x : List Char) :
    afterEnd? (t ++ '{' :: x) = afterEnd? ('{' :: x) := by
  induction t with
  | nil => rfl
  | cons c t ih =>
    cases hhead : wordTag? ['e', 'n', 'd', 'r', 'a', 'w'] (c :: t) with
    | some rest => simp [afterEnd?, hhead] at h
    | none =>
      have hnone : wordTag? ['e', 'n', 'd', 'r', 'a', 'w'] (c :: (t ++ '{' :: x)) = none := by
        refine Option.eq_none_iff_forall_ne_some.2 fun rest hrest => ?_
        obtain ⟨m, hm, heq⟩ := (wordTag?_eq_some_iff solidHead_endraw).1 hrest
        obtain ⟨u, hu⟩ := hm.isPrefix_of_append_brace (by decide) heq
        rw [(wordTag?_eq_some_iff solidHead_endraw).2 ⟨m, hm, hu.symm⟩] at hhead
        cases hhead
      rw [List.cons_append, afterEnd?, hnone]
      refine ih ?_
      simpa [afterEnd?, hhead] using h

theorem untilEnd?_eq_some (h : untilEnd? r = some (t, trim, rest)) :
    ∃ u, r = t ++ u ∧ plainTag? ['e', 'n', 'd', 'r', 'a', 'w'] u = some (trim, rest) := by
  induction r generalizing t with
  | nil => cases h
  | cons c r ih =>
    simp only [untilEnd?] at h
    split at h
    · next hend =>
      obtain ⟨rfl, rfl, rfl⟩ : [] = t ∧ _ = trim ∧ _ = rest := by simpa using h
      exact ⟨c :: r, rfl, hend⟩
    · obtain ⟨⟨t', trim', rest'⟩, h', heq⟩ := Option.map_eq_some_iff.1 h
      obtain ⟨rfl, rfl, rfl⟩ : c :: t' = t ∧ trim' = trim ∧ rest' = rest := by simpa using heq
      obtain ⟨u, rfl, hu⟩ := ih h'
      exact ⟨u, rfl, hu⟩

/-- The first end tag ends what stands in front of it. -/
theorem IsWordTag.afterEnd?_append {m' : List Char}
    (hm' : IsWordTag ['e', 'n', 'd', 'r', 'a', 'w'] m') (ht : afterEnd? t = none)
    (rest : List Char) : afterEnd? (t ++ (m' ++ rest)) = some rest := by
  have hendraw := hm'.wordTag?_append solidHead_endraw rest
  obtain ⟨b, t₁, t₂, b', -, -, rfl⟩ := hm'
  simp only [List.append_assoc, List.cons_append] at hendraw ⊢
  rw [Template.afterEnd?_append ht, afterEnd?]
  exact congrArg (· <|> afterEnd? _) hendraw

/-- The flat text shows a raw block up to its end tag, when no other end tag stands in it. -/
theorem rawBlock?_append {m' : List Char} (hm : IsWordTag ['r', 'a', 'w'] m)
    (ht : afterEnd? t = none) (hm' : IsWordTag ['e', 'n', 'd', 'r', 'a', 'w'] m')
    (rest : List Char) : ∃ a, rawBlock? (m ++ (t ++ (m' ++ rest))) = some (a, rest) := by
  have hraw := hm.wordTag?_append solidHead_raw (t ++ (m' ++ rest))
  have hafter := hm'.afterEnd?_append ht rest
  exact ⟨_, by simp only [rawBlock?, hraw, hafter, Option.bind_eq_bind, Option.bind_some]; rfl⟩

/-- Both readers end a comment at the same place. -/
theorem afterComment?_of_untilCommentEnd? (h : untilCommentEnd? r = some (x, rest)) :
    ∃ m, r = m ++ rest ∧ afterComment? (m ++ rest) = some rest := by
  fun_induction untilCommentEnd? r generalizing x with
  | case1 => cases h
  | case2 r =>
    cases h
    exact ⟨['#', '}'], rfl, rfl⟩
  | case3 c r hne ih =>
    obtain ⟨⟨x', rest'⟩, h', heq⟩ := Option.map_eq_some_iff.1 h
    obtain ⟨-, rfl⟩ := Prod.mk.inj heq
    obtain ⟨m, rfl, hafter⟩ := ih h'
    refine ⟨c :: m, rfl, ?_⟩
    rw [List.cons_append, afterComment?]
    · exact hafter
    · exact hne

/-! ### Pieces -/

/-- What a piece other than plain text is cut from, and what is left then. -/
inductive Piece.CutFrom : Piece → List Char → List Char → Prop
  | comment {trim : Trim} {m rest : List Char} (h : afterComment? (m ++ rest) = some rest) :
      CutFrom (.comment trim) (['{', '#'] ++ (m ++ rest)) rest
  | raw {opening closing : Trim} {m t m' rest : List Char} (hm : IsWordTag ['r', 'a', 'w'] m)
      (hm' : IsWordTag ['e', 'n', 'd', 'r', 'a', 'w'] m') :
      CutFrom (.raw opening t closing) (m ++ (t ++ (m' ++ rest))) rest
  | output (trim : Trim) (inner rest : List Char) :
      CutFrom (.output trim inner) (['{', '{'] ++ (trim.wrap inner ++ (['}', '}'] ++ rest))) rest
  | tag (trim : Trim) (inner rest : List Char) :
      CutFrom (.tag trim inner) (['{', '%'] ++ (trim.wrap inner ++ (['%', '}'] ++ rest))) rest

theorem cutFrom_of_piece? {p : Piece} (h : piece? s = some (p, rest)) : p.CutFrom s rest := by
  simp only [piece?] at h
  split at h
  · obtain ⟨⟨x, rest'⟩, hx, hp⟩ := Option.bind_eq_some_iff.1 h
    obtain rfl := untilDelimiter?_eq_some hx
    rcases hdelimited : ofDelimited x with ⟨trim, inner⟩
    simp only [hdelimited] at hp
    cases hp
    rw [← wrap_of_ofDelimited hdelimited]
    exact .output trim inner rest
  · obtain ⟨⟨x, rest'⟩, hx, hp⟩ := Option.bind_eq_some_iff.1 h
    obtain ⟨m, rfl, hafter⟩ := afterComment?_of_untilCommentEnd? hx
    dsimp only at hp
    split at hp
    · cases hp
    · cases hp
      exact .comment hafter
  · split at h
    · next opening r hopen =>
      obtain ⟨⟨t, closing, rest'⟩, hend, hp⟩ := Option.bind_eq_some_iff.1 h
      obtain ⟨m, hm, hs⟩ := isWordTag_of_plainTag? hopen
      obtain ⟨u, rfl, hu⟩ := untilEnd?_eq_some hend
      obtain ⟨m', hm', rfl⟩ := isWordTag_of_plainTag? hu
      cases hp
      rw [hs]
      exact .raw hm hm'
    · obtain ⟨⟨x, rest'⟩, hx, hp⟩ := Option.bind_eq_some_iff.1 h
      obtain rfl := untilDelimiter?_eq_some hx
      rcases hdelimited : ofDelimited x with ⟨trim, inner⟩
      simp only [hdelimited] at hp
      cases hp
      rw [← wrap_of_ofDelimited hdelimited]
      exact .tag trim inner rest
  · cases h

theorem Piece.CutFrom.exists_front {p : Piece} (h : p.CutFrom s rest) :
    ∃ m, m ≠ [] ∧ s = m ++ rest := by
  cases h with
  | @comment trim m => exact ⟨['{', '#'] ++ m, by simp, by simp⟩
  | @raw opening closing m t m' rest hm hm' =>
    refine ⟨m ++ (t ++ m'), ?_, by simp⟩
    obtain ⟨b, t₁, t₂, b', -, -, rfl⟩ := hm
    simp
  | output trim inner =>
    exact ⟨['{', '{'] ++ (trim.wrap inner ++ ['}', '}']), by simp, by simp⟩
  | tag trim inner =>
    exact ⟨['{', '%'] ++ (trim.wrap inner ++ ['%', '}']), by simp, by simp⟩

/-! ### Cutting a text -/

/-- Whether a piece is plain text. -/
def Piece.isText : Piece → Bool
  | .text _ => true
  | _ => false

theorem Piece.CutFrom.isText_eq_false {p : Piece} (h : p.CutFrom s rest) : p.isText = false := by
  cases h <;> rfl

/-- A text and the pieces other than plain text that are cut from it, in their order. -/
inductive Cut : List Char → List Piece → Prop
  | nil : Cut [] []
  | plain {c : Char} {r : List Char} {ps : List Piece} (hplain : opensPiece (c :: r) = false)
      (h : Cut r ps) : Cut (c :: r) ps
  | piece {s rest : List Char} {p : Piece} {ps : List Piece} (hp : p.CutFrom s rest)
      (h : Cut rest ps) : Cut s (p :: ps)

/-- One more plain character adds to plain text only. -/
theorem exists_mapM_of_consPlain {rs : List (Text.Region (Option Piece))} {ps : List Piece}
    {f : Text.Region (Option Piece) → Option Piece} (hf : ∀ t, f (.plain t) = some (.text t))
    (h : (Text.Region.consPlain c rs).mapM f = some ps) :
    ∃ qs, rs.mapM f = some qs ∧ ps.filter (!·.isText) = qs.filter (!·.isText) := by
  rcases rs with _ | ⟨t | a, rs⟩
  · obtain rfl : [.text [c]] = ps := by simpa [Text.Region.consPlain, hf] using h
    exact ⟨[], rfl, rfl⟩
  · obtain ⟨qs, hqs, rfl⟩ : ∃ qs, rs.mapM f = some qs ∧ .text (c :: t) :: qs = ps := by
      simpa [Text.Region.consPlain, hf, Option.bind_eq_some_iff] using h
    exact ⟨.text t :: qs, by simp [hf, hqs], rfl⟩
  · obtain ⟨qs, hqs, rfl⟩ : ∃ qs, (.found a :: rs).mapM f = some qs ∧ .text [c] :: qs = ps := by
      simpa only [Text.Region.consPlain, List.mapM_cons, hf, Option.bind_eq_bind,
        Option.bind_some, Option.pure_def, Option.bind_eq_some_iff, Option.some.injEq] using h
    exact ⟨qs, hqs, rfl⟩

/-- A text is cut piece by piece. -/
theorem cut_of_pieces? {ps : List Piece} (h : pieces? s = some ps) :
    Cut s (ps.filter (!·.isText)) := by
  induction hn : s.length using Nat.strong_induction_on generalizing s ps with
  | _ n ih =>
    cases s with
    | nil =>
      obtain rfl : [] = ps := by simpa [pieces?] using h
      exact .nil
    | cons c r =>
      cases hp : piece? (c :: r) with
      | some x =>
        obtain ⟨p, rest⟩ := x
        have hcut := cutFrom_of_piece? hp
        have hfound : delimited? (c :: r) = some (some p, rest) := by simp only [delimited?, hp]
        obtain ⟨m, hm, heq⟩ := hcut.exists_front
        rw [heq] at hfound
        rw [pieces?, heq, Text.regions_append_found hm hfound] at h
        obtain ⟨qs, hqs, rfl⟩ : ∃ qs, pieces? rest = some qs ∧ p :: qs = ps := by
          simpa [pieces?, Option.bind_eq_some_iff] using h
        have hlength : rest.length < n := by
          have hpos := List.length_pos_iff.2 hm
          rw [← hn, heq, List.length_append]
          omega
        rw [List.filter_cons_of_pos (by simp [hcut.isText_eq_false])]
        exact .piece hcut (ih _ hlength hqs rfl)
      | none =>
        cases hopens : opensPiece (c :: r) with
        | true =>
          have hspoilt : delimited? ((c :: r) ++ []) = some (none, []) := by
            simp only [List.append_nil, delimited?, hp, hopens, ↓reduceIte]
          rw [pieces?, ← List.append_nil (c :: r),
            Text.regions_append_found (List.cons_ne_nil c r) hspoilt] at h
          simp at h
        | false =>
          have hplain : delimited? (c :: r) = none := by
            simp only [delimited?, hp, hopens, Bool.false_eq_true, ↓reduceIte]
          rw [pieces?, Text.regions_cons_none hplain] at h
          obtain ⟨qs, hqs, heq⟩ := exists_mapM_of_consPlain (fun _ => rfl) h
          rw [heq]
          exact .plain hopens (ih r.length (by simp [← hn]) hqs rfl)

end Imprint.Template
