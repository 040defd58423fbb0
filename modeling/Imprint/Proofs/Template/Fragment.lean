import Imprint.Proofs.Shorthand.Reading
import Imprint.Proofs.Template.Scan
import Imprint.Template.Compile

/-!
# Templates made of plain text, variables and comments

The simplest templates are sequences of *fragments*: plain text in which no delimiter is opened,
variables, and comments. Their text is written with the shorthand for interpolations and expanded
fragment by fragment. The last of them may be followed by a plain text in which half a delimiter is
left at the end.

## Main definitions

* `Imprint.Template.Fragment`: a part of a template text.
* `Imprint.Template.Fragment.WellFormed`: fragments that keep to their own characters.
* `Imprint.Template.Fragment.Regular`: fragments on which all readers of the text agree.
* `Imprint.Template.Fragment.Closed`: fragments that can be cut from their expansion.

## Main results

* `Imprint.Template.Fragment.expand_source`: fragments are expanded one by one.
* `Imprint.Template.Fragment.closed_expanded`: what they are expanded to can be cut.
-/

namespace Imprint.Template

variable {c : Char} {s t u v : List Char} {x : String}

/-! ### Texts in which nothing is opened -/

/-- The characters that open a piece. -/
def openings : List (List Char) :=
  [['{', '{'], ['{', '%'], ['{', '#']]

/-- No piece is opened in a text. -/
def IsPlainText (s : List Char) : Prop :=
  ∀ d ∈ openings, ¬ d <:+: s

theorem opensPiece_eq_false_iff : opensPiece s = false ↔ ∀ d ∈ openings, ¬ d <+: s := by
  simp only [opensPiece, List.any_eq_false, openings, Text.startsWith_iff]

theorem opensPiece_of_ne (hc : c ≠ '{') (s : List Char) : opensPiece (c :: s) = false := by
  simp [opensPiece_eq_false_iff, openings, List.cons_prefix_cons, Ne.symm hc]

/-- Two characters decide whether a piece is opened. -/
theorem opensPiece_cons_cons (c d : Char) (s : List Char) :
    opensPiece (c :: d :: s) = opensPiece [c, d] := by
  rw [Bool.eq_iff_iff]
  simp [opensPiece, Text.startsWith_iff, List.cons_prefix_cons]

theorem IsPlainText.opensPiece (h : IsPlainText s) (hv : v <:+ s) : opensPiece v = false :=
  opensPiece_eq_false_iff.2 fun d hd hstart => h d hd (hstart.isInfix.trans hv.isInfix)

/-- No piece is opened in a text, whatever follows it. -/
def Unopened (s : List Char) : Prop :=
  ∀ v, v <:+ s → v ≠ [] → ∀ u, opensPiece (v ++ u) = false

theorem unopened_of_isPlainText (h : IsPlainText s) (hlast : s.getLast? ≠ some '{') :
    Unopened s := by
  intro v hv hne u
  match v, hne with
  | [c], _ =>
    obtain ⟨t, rfl⟩ := hv
    exact opensPiece_of_ne (by simpa using hlast) u
  | c :: d :: v, _ =>
    rw [List.cons_append, List.cons_append, opensPiece_cons_cons, ← opensPiece_cons_cons c d v]
    exact h.opensPiece hv

theorem Unopened.tail (h : Unopened (c :: s)) : Unopened s :=
  fun v hv => h v (hv.trans (List.suffix_cons c s))

theorem unopened_of_notMem (h : '{' ∉ s) : Unopened s := by
  rintro v ⟨w, rfl⟩ hne u
  obtain ⟨c, v, rfl⟩ := List.exists_cons_of_ne_nil hne
  exact opensPiece_of_ne (fun hc => h (by simp [hc])) (v ++ u)

theorem Unopened.cons_of_ne (h : Unopened s) (hc : c ≠ '{') : Unopened (c :: s) := by
  intro v hv hne u
  rcases List.suffix_cons_iff.1 hv with rfl | hv
  · exact opensPiece_of_ne hc (s ++ u)
  · exact h v hv hne u

theorem Unopened.cons_open (h : Unopened (c :: s)) (hc : opensPiece ['{', c] = false) :
    Unopened ('{' :: c :: s) := by
  intro v hv hne u
  rcases List.suffix_cons_iff.1 hv with rfl | hv
  · rw [List.cons_append, List.cons_append, opensPiece_cons_cons, hc]
  · exact h v hv hne u

theorem after?_tag_of_opensPiece (h : opensPiece s = false) :
    Text.after? ['{', '%'] s = none := by
  simp only [opensPiece, List.any_eq_false, Text.startsWith, Bool.not_eq_true,
    Option.isSome_eq_false_iff, Option.isNone_iff_eq_none] at h
  exact h _ (by simp)

theorem wordTag?_eq_none {word : List Char} (h : Text.after? ['{', '%'] s = none) :
    wordTag? word s = none := by
  rw [wordTag?, tagOpening?, h]
  rfl

theorem wordTag?_eq_none_of_ne {word : List Char} (hc : c ≠ '{') (s : List Char) :
    wordTag? word (c :: s) = none :=
  wordTag?_eq_none (after?_tag_of_opensPiece (opensPiece_of_ne hc s))

theorem IsPlainText.rawless (h : IsPlainText s) : Shorthand.Rawless s :=
  fun _ hv => wordTag?_eq_none (after?_tag_of_opensPiece (h.opensPiece hv))

theorem Unopened.staysRawless (h : Unopened s) : Shorthand.StaysRawless s :=
  fun v hv hne u => wordTag?_eq_none (after?_tag_of_opensPiece (h v hv hne u))

theorem Unopened.references_append (h : Unopened s) (u : List Char) :
    references (s ++ u) = references u := by
  induction s with
  | nil => rfl
  | cons c s ih =>
    have hc : opensPiece (c :: (s ++ u)) = false := h (c :: s) List.suffix_rfl (by simp) u
    rw [List.cons_append, references_cons hc, ih h.tail]

theorem IsPlainText.references_eq_nil (h : IsPlainText s) : references s = [] := by
  induction s with
  | nil => rfl
  | cons c s ih =>
    rw [references_cons (h.opensPiece List.suffix_rfl), ih fun d hd hpair =>
      h d hd (hpair.trans (List.suffix_cons c s).isInfix)]

/-! ### Names -/

theorem trim_of_isNameChar (hs : ∀ c ∈ s, Reader.isNameChar c = true) : Text.trim s = s :=
  Text.trim_eq_self_iff.2 ⟨fun c hc => isBlank_of_isNameChar (hs c (List.mem_of_mem_head? hc)),
    fun c hc => isBlank_of_isNameChar (hs c (List.mem_of_mem_getLast? hc))⟩

theorem balanced_of_isNameChar (hs : ∀ c ∈ s, Reader.isNameChar c = true) :
    Shorthand.Balanced s :=
  Shorthand.balanced_of_notMem (fun hmem => ne_of_isNameChar (hs _ hmem) (by decide) rfl)
    fun hmem => ne_of_isNameChar (hs _ hmem) (by decide) rfl

/-! ### Fragments -/

/-- A part of a template text. -/
inductive Fragment where
  | plain (s : List Char)
  | variable (x : String)
  | comment (s : List Char)
  deriving DecidableEq

instance (s : List Char) : Decidable (IsPlainText s) :=
  inferInstanceAs (Decidable (∀ d ∈ openings, ¬ d <:+: s))

/-- Whether a text between the delimiters of an output is read as a variable of that name. -/
def readsVariable (x : String) : Bool :=
  match outputExpression.run ⟨' ' :: (x.toList ++ [' ']), none⟩ with
  | some (.mk (.variable path) [] false, i) => path == x && i.tooLarge.isNone
  | _ => false

namespace Fragment

/-- A fragment as it is written with the shorthand for interpolations. -/
def source : Fragment → List Char
  | plain s => s
  | .variable x => '$' :: '{' :: (x.toList ++ ['}'])
  | comment s => '{' :: '#' :: (s ++ ['#', '}'])

/-- A fragment as it is written without that shorthand. -/
def expansion : Fragment → List Char
  | plain s => s
  | .variable x => '{' :: '{' :: ' ' :: (x.toList ++ [' ', '}', '}'])
  | comment s => '{' :: '#' :: (s ++ ['#', '}'])

/-- The text that a fragment stands for. -/
def value (b : Binding) : Fragment → List Char
  | plain s => s
  | .variable x => ((b.get? x).getD "").toList
  | comment _ => []

def isComment : Fragment → Bool
  | comment _ => true
  | _ => false

/-- A fragment that keeps to its own characters: a text that opens neither a piece nor an
interpolation and leaves none half open, a variable, or a comment that does not end before its end
and whose delimiters have no hyphens. -/
def WellFormed : Fragment → Prop
  | plain s => IsPlainText s ∧ '$' ∉ s ∧ s.getLast? ≠ some '{'
  | .variable x => readsVariable x = true
  | comment s => ¬ ['#', '}'] <:+: s ∧ s.head? ≠ some '-' ∧ s.getLast? ≠ some '-'

instance : DecidablePred WellFormed
  | plain s => inferInstanceAs (Decidable (IsPlainText s ∧ '$' ∉ s ∧ s.getLast? ≠ some '{'))
  | .variable x => inferInstanceAs (Decidable (readsVariable x = true))
  | comment s =>
    inferInstanceAs (Decidable (¬ ['#', '}'] <:+: s ∧ s.head? ≠ some '-' ∧ s.getLast? ≠ some '-'))

/-- A fragment that all readers of the text take for the same: a variable is a single name that the
engine has no value of its own for, and a comment holds something and no interpolation that is not
closed. -/
def Regular : Fragment → Prop
  | plain _ => True
  | .variable x => (∀ c ∈ x.toList, Reader.isNameChar c = true) ∧ x ≠ contextName
  | comment s => s ≠ [] ∧ ∃ t, Shorthand.expand s = .ok t

instance : DecidablePred Regular
  | plain _ => inferInstanceAs (Decidable True)
  | .variable x => decidable_of_iff
    (x.toList.all Reader.isNameChar = true ∧ x ≠ contextName) (by simp [Regular])
  | comment s =>
    match h : Shorthand.expand s with
    | .ok t => decidable_of_iff (s ≠ []) (by simp [Regular, h])
    | .error _ => isFalse (by simp [Regular, h])

/-- No raw block goes from one of the comments on to what follows it. -/
def RawWithin (tail : List Char) : List Fragment → Prop
  | [] => True
  | comment s :: fs =>
    Text.Detached rawBlock? s ('#' :: '}' :: (fs.flatMap source ++ tail)) ∧ RawWithin tail fs
  | _ :: fs => RawWithin tail fs

instance decidableRawWithin (tail : List Char) : DecidablePred (RawWithin tail)
  | [] => inferInstanceAs (Decidable True)
  | comment s :: fs =>
    have := decidableRawWithin tail fs
    inferInstanceAs (Decidable
      (Text.Detached rawBlock? s ('#' :: '}' :: (fs.flatMap source ++ tail)) ∧ RawWithin tail fs))
  | plain _ :: fs | .variable _ :: fs => decidableRawWithin tail fs

/-- The fragment whose expansion is what the shorthand makes of the source: in a comment the
shorthand is expanded as well. -/
def expanded : Fragment → Fragment
  | comment s => comment ((Shorthand.expand s).toOption.getD [])
  | f => f

/-! ### Expansion -/

section Expansion

variable {f : Fragment} {fs : List Fragment} {tail : List Char}

/-- Nothing is opened in a variable that is written with the shorthand. -/
theorem unopened_source_variable (hx : ∀ c ∈ x.toList, Reader.isNameChar c = true) :
    Unopened (Fragment.variable x).source := by
  have hne {d : Char} (hd : Reader.isNameChar d = false) (hd' : d ≠ '}') :
      d ∉ x.toList ++ ['}'] := by
    simp only [List.mem_append, List.mem_singleton, not_or]
    exact ⟨fun hmem => ne_of_isNameChar (hx _ hmem) hd rfl, hd'⟩
  refine Unopened.cons_of_ne ?_ (by decide)
  have htail : Unopened (x.toList ++ ['}']) := unopened_of_notMem (hne (by decide) (by decide))
  obtain ⟨c, r, hcr⟩ := List.exists_cons_of_ne_nil (l := x.toList ++ ['}']) (by simp)
  rw [hcr] at htail hne ⊢
  refine htail.cons_open (opensPiece_eq_false_iff.2 ?_)
  have hopen : '{' ∉ c :: r := hne (by decide) (by decide)
  have hpercent : '%' ∉ c :: r := hne (by decide) (by decide)
  have hhash : '#' ∉ c :: r := hne (by decide) (by decide)
  simp only [List.mem_cons, not_or] at hopen hpercent hhash
  simp [openings, List.cons_prefix_cons, hopen.1, hpercent.1, hhash.1]

/-- No raw block starts in the delimiters of a comment. -/
theorem staysRawless_opening : Shorthand.StaysRawless ['{', '#'] := by
  intro v hv hne u
  rcases List.suffix_cons_iff.1 hv with rfl | hv
  · exact wordTag?_eq_none rfl
  · obtain rfl : v = ['#'] := (List.suffix_cons_iff.1 hv).resolve_right (by simpa using hne)
    exact wordTag?_eq_none rfl

theorem staysRawless_closing : Shorthand.StaysRawless ['#', '}'] :=
  (unopened_of_notMem (by decide)).staysRawless

theorem getLast?_source (h : f.WellFormed) : f.source.getLast? ≠ some '$' := by
  cases f with
  | plain s => exact fun hlast => h.2.1 (List.mem_of_mem_getLast? hlast)
  | «variable» x => simp [source, List.getLast?_cons, List.getLast?_append]
  | comment s => simp [source, List.getLast?_cons, List.getLast?_append]

/-- A text without raw blocks is read in front of any other. -/
theorem readsText_append {ts us : List Shorthand.Token} (hs : Shorthand.StaysRawless s)
    (ht : Shorthand.Reads s ts) (hu : Shorthand.ReadsText u us) (hparts : Shorthand.Parts s u) :
    Shorthand.ReadsText (s ++ u) (ts ++ us) :=
  ((Shorthand.readsText_iff_of_rawless hs.rawless).2 ht).append hu (hs.detached u) hparts

/-- The tokens of a fragment expand to its expansion, in front of any other text that no raw block
of a comment goes into. -/
theorem exists_readsText_source_append {us : List Shorthand.Token} (h : f.WellFormed)
    (hr : f.Regular) (hu : Shorthand.ReadsText u us)
    (hraw : ∀ s, f = comment s → Text.Detached rawBlock? s ('#' :: '}' :: u)) :
    ∃ ts, Shorthand.ReadsText (f.source ++ u) ts ∧
      ts.flatMap Shorthand.Token.expansion =
        f.expanded.expansion ++ us.flatMap Shorthand.Token.expansion := by
  cases f with
  | plain s =>
    have hpair : ¬ ['$', '{'] <:+: s := fun hpair => h.2.1 (hpair.subset (by simp))
    refine ⟨_, readsText_append (unopened_of_isPlainText h.1 h.2.2).staysRawless
      (Shorthand.reads_plain hpair) hu (.inl (getLast?_source h)), ?_⟩
    rw [List.flatMap_append, Shorthand.flatMap_expansion_plain]
    rfl
  | «variable» x =>
    refine ⟨_, readsText_append (unopened_source_variable hr.1).staysRawless
      (.interpolation (balanced_of_isNameChar hr.1) .nil) hu (.inl (getLast?_source h)), ?_⟩
    simp [Shorthand.Token.expansion, trim_of_isNameChar hr.1, expanded, expansion]
  | comment s =>
    obtain ⟨-, t, ht⟩ := hr
    obtain ⟨ts, hts, rfl⟩ := Shorthand.expand_eq_ok_iff.1 ht
    have hclosed := readsText_append staysRawless_closing
      (Shorthand.reads_plain (by decide)) hu (.inl (by decide))
    have hinner := hts.append hclosed (hraw s rfl) (.inr (by simp))
    have hsource := readsText_append staysRawless_opening
      (Shorthand.reads_plain (by decide)) hinner (.inl (by decide))
    refine ⟨_, by simpa [source] using hsource, ?_⟩
    simp [expanded, ht, expansion, Shorthand.Token.expansion, Except.toOption]

/-- Fragments are expanded one by one, and the text that follows them stays. -/
theorem expand_source (hfs : ∀ f ∈ fs, f.WellFormed ∧ f.Regular) (hraw : RawWithin tail fs)
    (htail : IsPlainText tail) (hdollar : '$' ∉ tail) :
    Shorthand.expand (fs.flatMap source ++ tail) =
      .ok ((fs.map expanded).flatMap expansion ++ tail) := by
  rw [Shorthand.expand_eq_ok_iff]
  induction fs with
  | nil =>
    have hnone : ¬ ['$', '{'] <:+: tail := fun hpair => hdollar (hpair.subset (by simp))
    exact ⟨_, (Shorthand.readsText_iff_of_rawless htail.rawless).2 (Shorthand.reads_plain hnone),
      Shorthand.flatMap_expansion_plain tail⟩
  | cons f fs ih =>
    obtain ⟨hf, hr⟩ := hfs f List.mem_cons_self
    have hrest : RawWithin tail fs := by
      cases f with
      | comment s => exact hraw.2
      | plain s | «variable» x => exact hraw
    obtain ⟨us, hus, hexpansion⟩ := ih (fun g hg => hfs g (List.mem_cons_of_mem _ hg)) hrest
    obtain ⟨ts, hts, heq⟩ :=
      exists_readsText_source_append hf hr hus (by rintro s rfl; exact hraw.1)
    refine ⟨ts, ?_, ?_⟩
    · rwa [List.flatMap_cons, List.append_assoc]
    · rw [heq, hexpansion, List.map_cons, List.flatMap_cons, List.append_assoc]

/-- A fragment that can be cut from its expansion. -/
def Closed : Fragment → Prop
  | plain s => IsPlainText s ∧ s.getLast? ≠ some '{'
  | .variable x => readsVariable x = true ∧ ∀ c ∈ x.toList, Reader.isNameChar c = true
  | comment s => s ≠ [] ∧ ¬ ['#', '}'] <:+: s ∧ s.head? ≠ some '-' ∧ s.getLast? ≠ some '-'

/-- Expanding the shorthand in a comment leaves it one comment. -/
theorem closed_expanded (h : f.WellFormed) (hr : f.Regular) : f.expanded.Closed := by
  cases f with
  | plain s => exact ⟨h.1, h.2.2⟩
  | «variable» x => exact ⟨h, hr.1⟩
  | comment s =>
    obtain ⟨hne, t, ht⟩ := hr
    obtain ⟨hend, hhead, hlast⟩ := h
    obtain ⟨ts, hts, rfl⟩ := Shorthand.expand_eq_ok_iff.1 ht
    have hinherits := hts.inherits
    rw [expanded, ht]
    exact ⟨hinherits.ne_nil hne, fun hpair => hend (hinherits.commentEnd hpair),
      fun hc => hhead (hinherits.head (by decide) (by decide) hc),
      fun hc => hlast (hinherits.last (by decide) (by decide) hc)⟩

end Expansion

end Fragment

end Imprint.Template
