import Imprint.Proofs.Template.Piece
import Imprint.Proofs.Template.Tag
import Imprint.Template.Node

/-!
# What the flat text shows of the tags

References are found in the flat text, and tags are read from the pieces that it is cut into. On a
*legible* text both see the same names in the same order. A text is legible when each of its tags
can be read and names at most one template, in single or double quotes and without a quote in the
name, when no opening delimiter of a tag or a comment stands inside a tag or an output, and when no
second end tag stands inside a raw block.

## Main definitions

* `Imprint.Template.namesIn`: the templates that the tags of a text name.
* `Imprint.Template.legible`: the texts in which both readers see the same.

## Main results

* `Imprint.Template.map_name_references`: the names of the references are those in the tags.
-/

namespace Imprint.Template

variable {c : Char} {s t m u v w inner : List Char} {trim : Trim} {tag : Tag}

/-- The templates that an item names. -/
def Item.names : Item → List String
  | .tag _ t => t.names
  | _ => []

/-- The templates that a piece names when it is read. -/
def Piece.names (p : Piece) : List String :=
  ((Item.ofPiece? p).map (·.1.names)).getD []

/-- The templates that the tags of a text name, in their order. The tags are those of the items that
the tree of the text is made from. -/
def namesIn (s : List Char) : List String :=
  match (pieces? s).bind (·.mapM Item.ofPiece?) with
  | none => []
  | some items => items.flatMap (·.1.names)

/-- Whether a tag or a comment is opened somewhere in a text. -/
def holdsOpening (s : List Char) : Bool :=
  Text.occursIn ['{', '%'] s || Text.occursIn ['{', '#'] s

/-- Whether the flat text shows what a tag names: nothing, or one name without quotes in it, which
stands between single or double quotes. -/
def Tag.isPlain (t : Tag) (inner : List Char) : Bool :=
  t.names.isEmpty ||
    (inner.find? fun c => Reader.isQuote c || c == '[').any isQuote &&
      t.names.all fun n => !n.isEmpty && !n.toList.any isQuote

/-- Whether the flat text shows a piece as it is. -/
def Piece.legible : Piece → Bool
  | .text _ => true
  | .comment _ => true
  | .raw _ s _ => (afterEnd? s).isNone
  | .output trim inner => !holdsOpening ('{' :: (trim.wrap inner ++ ['}', '}']))
  | .tag trim inner =>
    !holdsOpening ('%' :: (trim.wrap inner ++ ['%', '}'])) &&
      (Tag.read.run ⟨inner, none⟩).any (·.1.isPlain inner)

/-- Whether a text can be read and the flat text shows all its pieces as they are. -/
def legible (s : List Char) : Bool :=
  (pieces? s).any fun ps => ps.all Piece.legible && (ps.mapM Item.ofPiece?).isSome

/-! ### Where nothing is found -/

theorem inert?_eq_none (htag : Text.after? ['{', '%'] s = none)
    (hcomment : Text.after? ['{', '#'] s = none) : inert? s = none := by
  have hno : comment? s = none := by
    rw [comment?, hcomment]
    rfl
  have hraw : rawBlock? s = none := by
    rw [rawBlock?, wordTag?, tagOpening?, htag]
    rfl
  rw [inert?, hno, hraw]
  rfl

theorem reference?_eq_none (htag : Text.after? ['{', '%'] s = none) : reference? s = none := by
  rw [reference?, tagOpening?, htag]
  rfl

/-- Nowhere in the text is a tag or a comment opened, whatever follows the text. -/
def Closes (m : List Char) : Prop :=
  ∀ v, v <:+ m → v ≠ [] → ∀ u,
    Text.after? ['{', '%'] (v ++ u) = none ∧ Text.after? ['{', '#'] (v ++ u) = none

theorem after?_cons_cons {a b d e : Char} (h : ¬ (a = d ∧ b = e)) :
    Text.after? [a, b] (d :: e :: s) = none := by
  simp only [Text.after?]
  split
  · next had =>
    split
    · next hbe => exact absurd ⟨had, hbe⟩ h
    · rfl
  · rfl

theorem closes_of_holdsOpening (h : holdsOpening m = false) (hlast : ['}'] <:+ m) :
    Closes m := by
  intro v hv hne u
  obtain ⟨htag, hcomment⟩ := Bool.or_eq_false_iff.1 h
  rw [← Bool.not_eq_true, Text.occursIn_iff] at htag hcomment
  match v, hne with
  | [d], _ =>
    obtain rfl : d = '}' := by
      have hsuffix := List.suffix_of_suffix_length_le hv hlast (by simp)
      exact (List.cons.inj (hsuffix.eq_of_length rfl)).1
    exact ⟨rfl, rfl⟩
  | d :: e :: v, _ =>
    refine ⟨after?_cons_cons ?_, after?_cons_cons ?_⟩
    · rintro ⟨rfl, rfl⟩
      exact htag ((List.prefix_append ['{', '%'] v).isInfix.trans hv.isInfix)
    · rintro ⟨rfl, rfl⟩
      exact hcomment ((List.prefix_append ['{', '#'] v).isInfix.trans hv.isInfix)

/-- A character that opens neither a tag nor a comment with the next one may stand in front. -/
theorem Closes.cons {d : Char} (h : Closes (d :: m))
    (hc : ¬ (c = '{' ∧ (d = '%' ∨ d = '#'))) : Closes (c :: d :: m) := by
  intro v hv hne u
  rcases List.suffix_cons_iff.1 hv with rfl | hv
  · refine ⟨after?_cons_cons ?_, after?_cons_cons ?_⟩
    · rintro ⟨rfl, rfl⟩
      exact hc ⟨rfl, .inl rfl⟩
    · rintro ⟨rfl, rfl⟩
      exact hc ⟨rfl, .inr rfl⟩
  · exact h v hv hne u

theorem Closes.removeAll_inert (h : Closes m) (u : List Char) :
    Text.removeAll inert? (m ++ u) = m ++ Text.removeAll inert? u :=
  Text.removeAll_append_plain fun v hv hne => inert?_eq_none (h v hv hne u).1 (h v hv hne u).2

theorem Closes.findAll_reference (h : Closes m) (u : List Char) :
    Text.findAll reference? (m ++ u) = Text.findAll reference? u :=
  Text.findAll_append_plain fun v hv hne => reference?_eq_none (h v hv hne u).1

theorem Closes.references_append (h : Closes m) (u : List Char) :
    references (m ++ u) = references u := by
  rw [references, h.removeAll_inert, h.findAll_reference, references]

/-- One plain character in front. -/
theorem references_cons (h : opensPiece (c :: s) = false) : references (c :: s) = references s := by
  simp only [opensPiece, List.any_cons, List.any_nil, Bool.or_false, Bool.or_eq_false_iff,
    Text.startsWith, Option.isSome_eq_false_iff, Option.isNone_iff_eq_none] at h
  obtain ⟨houtput, htag, hcomment⟩ := h
  -- without the comments and raw blocks the character is still in front of no percent sign
  have hlive : Text.after? ['{', '%'] (c :: Text.removeAll inert? s) = none := by
    cases s with
    | nil =>
      simp only [Text.removeAll, Text.regions_nil, List.flatMap_nil, Text.after?]
      split <;> rfl
    | cons d r =>
      by_cases hc : c = '{'
      · subst hc
        have hd : d ≠ '{' ∧ d ≠ '%' := by
          refine ⟨?_, ?_⟩
          · rintro rfl
            cases houtput
          · rintro rfl
            cases htag
        have hnone : inert? (d :: r) = none := by
          refine inert?_eq_none ?_ ?_
          · simp only [Text.after?, if_neg (Ne.symm hd.1)]
          · simp only [Text.after?, if_neg (Ne.symm hd.1)]
        rw [Text.removeAll_cons_none hnone]
        exact after?_cons_cons fun h => hd.2 h.2.symm
      · simp only [Text.after?, if_neg (Ne.symm hc)]
  rw [references, Text.removeAll_cons_none (inert?_eq_none htag hcomment),
    Text.findAll_cons_none (reference?_eq_none hlive), references]

/-! ### The word of a tag -/

theorem solidHead_of_mem (hw : w ∈ referenceWords ++ otherWords) : SolidHead w := by
  have hhead : ∀ w ∈ referenceWords ++ otherWords,
      w.head?.any (fun c => !Text.isBlank c && c != '-') = true := by decide
  have hsolid := hhead w hw
  cases w with
  | nil => cases hsolid
  | cons c r =>
    simp only [List.head?_cons, Option.any_some, Bool.and_eq_true, Bool.not_eq_true',
      bne_iff_ne] at hsolid
    exact ⟨c, r, rfl, hsolid⟩

/-- A word is not found where another one stands that does not begin like it. -/
theorem after?_eq_none_of_word (h : ¬ v <+: w ∧ ¬ w <+: v) (u : List Char) :
    Text.after? v (w ++ u) = none := by
  refine Option.eq_none_iff_forall_ne_some.2 fun r hr => ?_
  have hv : v <+: w ++ u := ⟨r, (Text.after?_eq_some_iff.1 hr).symm⟩
  exact (List.prefix_or_prefix_of_prefix hv (List.prefix_append w u)).elim h.1 h.2

theorem tagOpening?_tag (trim : Trim) (hs : ∀ c ∈ s, Reader.isSpace c = true) (hw : SolidHead w)
    (t u : List Char) :
    tagOpening? (['{', '%'] ++ (trim.wrap (s ++ (w ++ t)) ++ (['%', '}'] ++ u))) =
      some (w ++ (t ++ (hyphen trim.after ++ (['%', '}'] ++ u)))) := by
  rw [← tagOpening?_append (b := trim.before) (fun c hc => isBlank_of_isSpace (hs c hc))
    (hw.append (t ++ (hyphen trim.after ++ (['%', '}'] ++ u)))), Trim.wrap]
  simp only [List.append_assoc]

theorem Tag.Written.exists_word (h : tag.Written inner) :
    ∃ s w t, (∀ c ∈ s, Reader.isSpace c = true) ∧ w ∈ referenceWords ++ otherWords ∧
      inner = s ++ (w ++ t) := by
  cases h with
  | other hs hw => exact ⟨_, _, _, hs, List.mem_append_right _ hw, rfl⟩
  | several hs hw => exact ⟨_, _, _, hs, List.mem_append_left _ hw, rfl⟩
  | quoted hs hw => exact ⟨_, _, _, hs, List.mem_append_left _ hw, rfl⟩

/-- A tag that can be read is no comment and does not open a raw block. -/
theorem Tag.Written.inert?_eq_none (h : tag.Written inner) (trim : Trim) (u : List Char) :
    inert? (['{', '%'] ++ (trim.wrap inner ++ (['%', '}'] ++ u))) = none := by
  obtain ⟨s, w, t, hs, hw, rfl⟩ := h.exists_word
  have hapart : ∀ w ∈ referenceWords ++ otherWords,
      ¬ ['r', 'a', 'w'] <+: w ∧ ¬ w <+: ['r', 'a', 'w'] := by decide
  have hraw : wordTag? ['r', 'a', 'w']
      (['{', '%'] ++ (trim.wrap (s ++ (w ++ t)) ++ (['%', '}'] ++ u))) = none := by
    rw [wordTag?, tagOpening?_tag trim hs (solidHead_of_mem hw), Option.bind_eq_bind,
      Option.bind_some, after?_eq_none_of_word (hapart w hw)]
    rfl
  rw [inert?, rawBlock?, hraw]
  rfl

/-- A tag that starts with another word is no reference. -/
theorem reference?_of_otherWords (trim : Trim) (hs : ∀ c ∈ s, Reader.isSpace c = true)
    (hw : w ∈ otherWords) (t u : List Char) :
    reference? (['{', '%'] ++ (trim.wrap (s ++ (w ++ t)) ++ (['%', '}'] ++ u))) = none := by
  have hapart : ∀ w ∈ otherWords, ∀ v ∈ referenceWords, ¬ v <+: w ∧ ¬ w <+: v := by decide
  have hfind (x : List Char) : referenceWords.findSome? (Text.after? · (w ++ x)) = none :=
    List.findSome?_eq_none_iff.2 fun v hv => after?_eq_none_of_word (hapart w hw v hv) x
  rw [reference?, tagOpening?_tag trim hs (solidHead_of_mem (List.mem_append_right _ hw)),
    Option.bind_eq_bind, Option.bind_some, hfind]
  rfl

/-! ### What follows the word -/

/-- What is read behind the word of a reference and blanks. -/
theorem reference?_append {b : Bool} {g : List Char} {q : Char}
    (ht : ∀ c ∈ t, Text.isBlank c = true) (hw : w ∈ referenceWords) (hne : g ≠ [])
    (hg : ∀ c ∈ g, Text.isBlank c = true) (hq : Text.isBlank q = false) (r : List Char) :
    reference? (['{', '%'] ++ hyphen b ++ t ++ (w ++ (g ++ q :: r))) =
      (Text.cutWhere? isQuote r).bind fun x => (Text.cutAt? '%' x.2).bind fun y =>
        (Text.after? ['}'] y.2).bind fun rest =>
          if isQuote q && !x.1.isEmpty then
            some (⟨String.ofList x.1, Text.occursIn "ignore missing".toList y.1⟩, rest)
          else none := by
  have hfind (x : List Char) : referenceWords.findSome? (Text.after? · (w ++ x)) = some x := by
    simp only [referenceWords, List.mem_cons, List.not_mem_nil, or_false] at hw
    rcases hw with rfl | rfl | rfl <;> rfl
  have hblanks (x : List Char) : afterBlanks? (g ++ q :: x) = some (q :: x) := by
    obtain ⟨c, g, rfl⟩ := List.exists_cons_of_ne_nil hne
    simp only [List.cons_append, afterBlanks?, hg c List.mem_cons_self, ↓reduceIte]
    rw [trimStart_append (fun d hd => hg d (List.mem_cons_of_mem c hd)) hq]
  rw [reference?,
    tagOpening?_append ht ((solidHead_of_mem (List.mem_append_left _ hw)).append _),
    Option.bind_eq_bind, Option.bind_some, hfind, Option.bind_some, hblanks, Option.bind_eq_bind,
    Option.bind_some]

/-- What the flat text shows behind the word of a reference and blanks. -/
theorem reference?_of_referenceWords (trim : Trim) {g : List Char} {q : Char}
    (hs : ∀ c ∈ s, Reader.isSpace c = true) (hw : w ∈ referenceWords) (hne : g ≠ [])
    (hg : ∀ c ∈ g, Reader.isSpace c = true) (hq : Text.isBlank q = false) (t u : List Char) :
    reference? (['{', '%'] ++ (trim.wrap (s ++ (w ++ (g ++ q :: t))) ++ (['%', '}'] ++ u))) =
      (Text.cutWhere? isQuote (t ++ (hyphen trim.after ++ (['%', '}'] ++ u)))).bind fun x =>
        (Text.cutAt? '%' x.2).bind fun y => (Text.after? ['}'] y.2).bind fun rest =>
          if isQuote q && !x.1.isEmpty then
            some (⟨String.ofList x.1, Text.occursIn "ignore missing".toList y.1⟩, rest)
          else none := by
  rw [← reference?_append (b := trim.before) (fun c hc => isBlank_of_isSpace (hs c hc)) hw hne
    (fun c hc => isBlank_of_isSpace (hg c hc)) hq, Trim.wrap]
  simp only [List.append_assoc, List.cons_append]

/-- Names in brackets or between backquotes are not seen in the flat text. -/
theorem reference?_of_not_isQuote (trim : Trim) {g : List Char} {q : Char}
    (hs : ∀ c ∈ s, Reader.isSpace c = true) (hw : w ∈ referenceWords) (hne : g ≠ [])
    (hg : ∀ c ∈ g, Reader.isSpace c = true) (hblank : Text.isBlank q = false)
    (hq : isQuote q = false) (t u : List Char) :
    reference? (['{', '%'] ++ (trim.wrap (s ++ (w ++ (g ++ q :: t))) ++ (['%', '}'] ++ u))) =
      none := by
  rw [reference?_of_referenceWords trim hs hw hne hg hblank]
  simp [hq]

theorem find?_quote {g : List Char} {q : Char} (hs : ∀ c ∈ s, Reader.isSpace c = true)
    (hw : w ∈ referenceWords) (hg : ∀ c ∈ g, Reader.isSpace c = true)
    (hq : (Reader.isQuote q || q == '[') = true) (t : List Char) :
    (s ++ (w ++ (g ++ q :: t))).find? (fun c => Reader.isQuote c || c == '[') = some q := by
  have hspace (c : Char) (hc : Reader.isSpace c = true) :
      (Reader.isQuote c || c == '[') = false := by
    simp only [Reader.isSpace, Bool.or_eq_true, beq_iff_eq] at hc
    rcases hc with ((rfl | rfl) | rfl) | rfl <;> decide
  have hwords : referenceWords.all (·.all fun c => !(Reader.isQuote c || c == '[')) = true := by
    decide
  have hword (c : Char) (hc : c ∈ w) : (Reader.isQuote c || c == '[') = false := by
    have hall := List.all_eq_true.1 (List.all_eq_true.1 hwords w hw) c hc
    rwa [Bool.not_eq_true'] at hall
  refine List.find?_eq_some_iff_append.2 ⟨hq, s ++ (w ++ g), t, by simp, fun c hc => ?_⟩
  rw [Bool.not_eq_true']
  rcases List.mem_append.1 hc with hc | hc
  · exact hspace c (hs c hc)
  · rcases List.mem_append.1 hc with hc | hc
    · exact hword c hc
    · exact hspace c (hg c hc)

/-- The flat text shows the names of a plain tag. -/
theorem reference?_of_isPlain (h : tag.Written inner) (hplain : tag.isPlain inner = true)
    (trim : Trim) (u : List Char) :
    let front := reference? (['{', '%'] ++ (trim.wrap inner ++ (['%', '}'] ++ u)))
    (tag.names = [] ∧ front = none) ∨ ∃ r, tag.names = [r.name] ∧ front = some (r, u) := by
  simp only [Tag.isPlain, Bool.or_eq_true, Bool.and_eq_true, List.isEmpty_iff] at hplain
  cases h with
  | other hs hw hnames => exact .inl ⟨hnames, reference?_of_otherWords trim hs hw _ u⟩
  | @several s w g t hs hw hne hg =>
    have hfind := find?_quote hs hw hg (q := '[') (by decide) t
    have hnames : tag.names = [] := hplain.resolve_right fun ⟨hquote, _⟩ => by
      rw [hfind] at hquote
      cases hquote
    exact .inl ⟨hnames, reference?_of_not_isQuote trim hs hw hne hg (by decide) (by decide) t u⟩
  | @quoted s w g n t q hs hw hne hg hq hn ht hnames =>
    have hfind := find?_quote hs hw hg (q := q) (by rw [hq, Bool.true_or]) (n ++ q :: t)
    have hsome : tag.names ≠ [] := by simp [hnames]
    obtain ⟨hquote, hall⟩ := hplain.resolve_left hsome
    rw [hfind, Option.any_some] at hquote
    simp only [hnames, List.all_cons, List.all_nil, Bool.and_true, Bool.and_eq_true,
      Bool.not_eq_true', String.toList_ofList, List.any_eq_false, Bool.not_eq_true] at hall
    have hblank : Text.isBlank q = false := by
      simp only [isQuote, Bool.or_eq_true, beq_iff_eq] at hquote
      rcases hquote with rfl | rfl <;> decide
    have htail : ∀ c ∈ t ++ hyphen trim.after, (c == '%') = false := by
      intro c hc
      rcases List.mem_append.1 hc with hc | hc
      · simpa using ht c hc
      · rcases trim.after <;> simp_all [hyphen]
    have hcut : Text.cutAt? '%' (t ++ (hyphen trim.after ++ (['%', '}'] ++ u))) =
        some (t ++ hyphen trim.after, '}' :: u) := by
      rw [← List.append_assoc]
      exact Text.cutWhere?_append htail rfl _
    have hnonempty : n.isEmpty = false := by
      cases n with
      | nil => cases hall.1
      | cons c n => rfl
    refine .inr ⟨⟨String.ofList n, Text.occursIn "ignore missing".toList
      (t ++ hyphen trim.after)⟩, hnames, ?_⟩
    rw [reference?_of_referenceWords trim hs hw hne hg hblank, List.append_assoc, List.cons_append,
      Text.cutWhere?_append hall.2 hquote _, Option.bind_some, hcut, Option.bind_some]
    simp only [Text.after?, ↓reduceIte, Option.bind_some, hquote, hnonempty, Bool.not_false,
      Bool.and_self]

/-! ### Texts -/

/-- What is taken out of the flat text shows no reference. -/
theorem references_append_inert {a : List Char} (hm : m ≠ []) (h : inert? (m ++ u) = some (a, u)) :
    references (m ++ u) = references u := by
  rw [references, Text.removeAll_append_found hm h, references]

theorem exists_inert?_comment (h : afterComment? (m ++ u) = some u) :
    ∃ a, inert? (['{', '#'] ++ (m ++ u)) = some (a, u) := by
  rw [inert?, comment?, Text.after?_append, Option.bind_eq_bind, Option.bind_some, h]
  exact ⟨_, rfl⟩

theorem exists_inert?_raw {m' : List Char} (hm : IsWordTag ['r', 'a', 'w'] m)
    (ht : afterEnd? t = none) (hm' : IsWordTag ['e', 'n', 'd', 'r', 'a', 'w'] m') (u : List Char) :
    ∃ a, inert? (m ++ (t ++ (m' ++ u))) = some (a, u) := by
  obtain ⟨a, ha⟩ := rawBlock?_append hm ht hm' u
  refine ⟨a, ?_⟩
  rw [inert?, ha]
  obtain ⟨b, t₁, t₂, b', -, -, rfl⟩ := hm
  rfl

/-- A tag shows the names in it, whatever follows. -/
theorem map_name_references_tag (h : (Piece.tag trim inner).legible = true) (u : List Char) :
    (references (['{', '%'] ++ (trim.wrap inner ++ (['%', '}'] ++ u)))).map Reference.name =
      (Piece.tag trim inner).names ++ (references u).map Reference.name := by
  simp only [Piece.legible, Bool.and_eq_true, Bool.not_eq_true'] at h
  obtain ⟨hopening, htag⟩ := h
  obtain ⟨⟨tag, j⟩, hread, hplain⟩ : ∃ x, Tag.read.run ⟨inner, none⟩ = some x ∧
      x.1.isPlain inner = true := by
    cases hread : Tag.read.run ⟨inner, none⟩ with
    | none => simp [hread] at htag
    | some x => exact ⟨x, rfl, by simpa [hread] using htag⟩
  have hwritten := Tag.written_of_read hread
  have hcloses := closes_of_holdsOpening hopening ⟨'%' :: (trim.wrap inner ++ ['%']), by simp⟩
  -- the tag stays when comments and raw blocks are taken out
  have hflat (x : List Char) : ['{', '%'] ++ (trim.wrap inner ++ (['%', '}'] ++ x)) =
      '{' :: ('%' :: (trim.wrap inner ++ ['%', '}']) ++ x) := by simp
  have hlive : Text.removeAll inert? (['{', '%'] ++ (trim.wrap inner ++ (['%', '}'] ++ u))) =
      ['{', '%'] ++ (trim.wrap inner ++ (['%', '}'] ++ Text.removeAll inert? u)) := by
    have hinert := hwritten.inert?_eq_none trim u
    rw [hflat] at hinert ⊢
    rw [Text.removeAll_cons_none hinert, hcloses.removeAll_inert, hflat]
  have hnames : (Piece.tag trim inner).names = tag.names := by
    rw [Piece.names, Item.ofPiece?, hread]
    rfl
  rw [references, hlive, references, hnames]
  rcases reference?_of_isPlain hwritten hplain trim (Text.removeAll inert? u) with
    ⟨hnone, hfront⟩ | ⟨r, hone, hfront⟩
  · rw [hflat] at hfront ⊢
    rw [Text.findAll_cons_none hfront, hcloses.findAll_reference, hnone, List.nil_append]
  · rw [hflat, ← List.cons_append] at hfront ⊢
    rw [Text.findAll_append_found (List.cons_ne_nil _ _) hfront, List.map_cons, hone,
      List.singleton_append]

theorem names_output (trim : Trim) (inner : List Char) : (Piece.output trim inner).names = [] := by
  simp only [Piece.names, Item.ofPiece?]
  cases outputExpression.run ⟨inner, none⟩ <;> rfl

/-- The flat text shows the pieces of a text one after another. -/
theorem map_name_references_of_cut {ps : List Piece} (h : Cut s ps)
    (hps : ∀ p ∈ ps, p.legible = true) :
    (references s).map Reference.name = ps.flatMap Piece.names := by
  induction h with
  | nil => rfl
  | plain hplain _ ih => rw [references_cons hplain, ih hps]
  | @piece s rest p ps hp _ ih =>
    have hlegible := hps p List.mem_cons_self
    rw [List.flatMap_cons, ← ih fun p' hp' => hps p' (List.mem_cons_of_mem p hp')]
    cases hp with
    | @comment trim m rest hend =>
      obtain ⟨a, ha⟩ := exists_inert?_comment hend
      rw [← List.append_assoc] at ha ⊢
      rw [references_append_inert (by simp) ha]
      rfl
    | @raw opening closing m t m' rest hm hm' =>
      have ht : afterEnd? t = none := by simpa [Piece.legible] using hlegible
      obtain ⟨a, ha⟩ := exists_inert?_raw hm ht hm' rest
      have hne : m ++ (t ++ m') ≠ [] := by
        obtain ⟨b, t₁, t₂, b', -, -, rfl⟩ := hm
        simp
      rw [show m ++ (t ++ (m' ++ rest)) = m ++ (t ++ m') ++ rest by simp] at ha ⊢
      rw [references_append_inert hne ha]
      rfl
    | output trim inner rest =>
      have hopening : holdsOpening ('{' :: (trim.wrap inner ++ ['}', '}'])) = false := by
        simpa [Piece.legible] using hlegible
      have hcloses : Closes ('{' :: '{' :: (trim.wrap inner ++ ['}', '}'])) :=
        (closes_of_holdsOpening hopening ⟨'{' :: (trim.wrap inner ++ ['}']), by simp⟩).cons
          (by decide)
      rw [show ['{', '{'] ++ (trim.wrap inner ++ (['}', '}'] ++ rest)) =
        '{' :: '{' :: (trim.wrap inner ++ ['}', '}']) ++ rest by simp, hcloses.references_append,
        names_output, List.nil_append]
    | tag trim inner rest => exact map_name_references_tag hlegible rest

theorem flatMap_names_filter (ps : List Piece) :
    (ps.filter (!·.isText)).flatMap Piece.names = ps.flatMap Piece.names := by
  induction ps with
  | nil => rfl
  | cons p ps ih =>
    cases p with
    | text t => exact ih
    | _ => exact congrArg (_ ++ ·) ih

theorem flatMap_names_of_items {ps : List Piece} {items : List (Item × Option Int)}
    (h : ps.mapM Item.ofPiece? = some items) :
    ps.flatMap Piece.names = items.flatMap (·.1.names) := by
  induction ps generalizing items with
  | nil =>
    obtain rfl : [] = items := by simpa using h
    rfl
  | cons p ps ih =>
    obtain ⟨x, hx, xs, hxs, rfl⟩ : ∃ x, Item.ofPiece? p = some x ∧
        ∃ xs, ps.mapM Item.ofPiece? = some xs ∧ x :: xs = items := by
      simpa [Option.bind_eq_some_iff] using h
    rw [List.flatMap_cons, List.flatMap_cons, ih hxs, Piece.names, hx]
    rfl

/-- In a legible text the references are those that its tags name, in the same order. -/
theorem map_name_references (h : legible s = true) :
    (references s).map Reference.name = namesIn s := by
  obtain ⟨ps, hpieces, hlegible⟩ : ∃ ps, pieces? s = some ps ∧
      (ps.all Piece.legible && (ps.mapM Item.ofPiece?).isSome) = true := by
    simpa [legible, Option.any_eq_true] using h
  obtain ⟨hall, hsome⟩ := Bool.and_eq_true_iff.1 hlegible
  obtain ⟨items, hitems⟩ := Option.isSome_iff_exists.1 hsome
  have hcut := map_name_references_of_cut (cut_of_pieces? hpieces) fun p hp =>
    List.all_eq_true.1 hall p (List.mem_filter.1 hp).1
  rw [hcut, flatMap_names_filter, flatMap_names_of_items hitems, namesIn, hpieces,
    Option.bind_some, hitems]

end Imprint.Template
