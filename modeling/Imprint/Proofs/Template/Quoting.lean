import Imprint.Proofs.Template.Piece

/-!
# Quoted texts inside an output

What stands between the delimiters of an output is scanned for the closing delimiter, and the state
of the scan is the quote of the text that it is in. Outside quoted texts the words of an expression
use no braces, and no blanks but those that keep words apart. So the scan passes over an expression
to its end, and each brace in it belongs to a quoted text.

## Main definitions

* `Imprint.Template.quoteAfter`, `Imprint.Template.quoteAt`: the state of the scan after a character
  and after a text.
* `Imprint.Template.isClear`: a text outside whose quoted texts only bare characters stand.
* `Imprint.Template.Lexed`: a clear text in which all quoted texts are closed.

## Main results

* `Imprint.Template.untilDelimiter?_append_of_isClear`: the scan passes over a clear text.
* `Imprint.Template.Lexed.exists_quote`: behind an opening brace a quote follows.
* `Imprint.Template.Lexed.isSpace_of_prefix`, `Imprint.Template.Lexed.isSpace_of_suffix`: the blanks
  at the ends.
-/

namespace Imprint.Template

variable {c q : Char} {o : Option Char} {s t u v : List Char}

/-! ### The state of the scan -/

/-- The quote of the text that the scan is in after a character. -/
def quoteAfter : Option Char → Char → Option Char
  | some q, c => if c = q then none else some q
  | none, c => if Reader.isQuote c then some c else none

/-- The quote of the text that the scan is in after some characters. -/
def quoteAt (o : Option Char) (s : List Char) : Option Char :=
  s.foldl quoteAfter o

@[simp] theorem quoteAt_nil (o : Option Char) : quoteAt o [] = o := rfl

@[simp] theorem quoteAt_cons (o : Option Char) (c : Char) (s : List Char) :
    quoteAt o (c :: s) = quoteAt (quoteAfter o c) s := rfl

theorem quoteAt_append (o : Option Char) (s t : List Char) :
    quoteAt o (s ++ t) = quoteAt (quoteAt o s) t :=
  List.foldl_append

/-- A quoted text goes on until its quote comes again. -/
theorem quoteAt_some (h : q ∉ s) : quoteAt (some q) s = some q := by
  induction s with
  | nil => rfl
  | cons c s ih =>
    simp only [List.mem_cons, not_or] at h
    obtain ⟨hc, hs⟩ := h
    rw [quoteAt_cons, quoteAfter, if_neg (Ne.symm hc), ih hs]

/-- A quoted text starts with a quote. -/
theorem isQuote_of_quoteAt (ho : ∀ q ∈ o, Reader.isQuote q = true) (h : quoteAt o s = some q) :
    Reader.isQuote q = true := by
  induction s generalizing o with
  | nil => exact ho q h
  | cons c s ih =>
    refine ih (fun d hd => ?_) h
    cases o with
    | some q' =>
      simp only [quoteAfter] at hd
      split at hd
      · cases hd
      · exact ho d hd
    | none =>
      simp only [quoteAfter] at hd
      split at hd
      · next hc => exact Option.some.inj hd ▸ hc
      · cases hd

/-- Without a quote nothing changes. -/
theorem quoteAt_eq_self (ho : ∀ q ∈ o, Reader.isQuote q = true)
    (h : ∀ c ∈ s, Reader.isQuote c = false) : quoteAt o s = o := by
  cases o with
  | some q => exact quoteAt_some fun hmem => by simp [h q hmem] at ho
  | none =>
    induction s with
    | nil => rfl
    | cons c s ih =>
      rw [quoteAt_cons, quoteAfter, if_neg (by simp [h c List.mem_cons_self])]
      exact ih fun d hd => h d (List.mem_cons_of_mem c hd)

/-! ### Clear texts -/

/-- A character of the words of an expression. -/
def isSolid (c : Char) : Bool :=
  !(Text.isBlank c || Reader.isQuote c || c == '{' || c == '}')

/-- A character that may stand outside quoted texts. -/
def isBare (c : Char) : Bool :=
  isSolid c || Reader.isSpace c || Reader.isQuote c

theorem isQuote_of_isBlank (h : Text.isBlank c = true) : Reader.isQuote c = false := by
  simp only [Reader.isQuote, Bool.or_eq_false_iff, beq_eq_false_iff_ne]
  refine ⟨⟨?_, ?_⟩, ?_⟩
  all_goals
    rintro rfl
    exact absurd h (by decide)

theorem isSpace_of_isBare (hc : isBare c = true) (h : Text.isBlank c = true) :
    Reader.isSpace c = true := by
  simpa [isBare, isSolid, h, isQuote_of_isBlank h] using hc

/-- Outside its quoted texts the text has bare characters only; the scan starts in a given state. -/
def isClear : Option Char → List Char → Bool
  | _, [] => true
  | o, c :: s => (o.isSome || isBare c) && isClear (quoteAfter o c) s

theorem isClear_append : isClear o (s ++ t) = (isClear o s && isClear (quoteAt o s) t) := by
  induction s generalizing o with
  | nil => rfl
  | cons c s ih => rw [List.cons_append, isClear, ih, isClear, quoteAt_cons, Bool.and_assoc]

theorem isClear_some (h : q ∉ s) : isClear (some q) s = true := by
  induction s with
  | nil => rfl
  | cons c s ih =>
    simp only [List.mem_cons, not_or] at h
    obtain ⟨hc, hs⟩ := h
    simp [isClear, quoteAfter, Ne.symm hc, ih hs]

/-- Without a quote all characters of a clear text are bare. -/
theorem isBare_of_isClear (hs : isClear none s = true) (h : ∀ c ∈ s, Reader.isQuote c = false)
    (hc : c ∈ s) : isBare c = true := by
  induction s with
  | nil => cases hc
  | cons d s ih =>
    obtain ⟨hd, hrest⟩ := Bool.and_eq_true_iff.1 hs
    rw [quoteAfter, if_neg (by simp [h d List.mem_cons_self])] at hrest
    rcases List.mem_cons.1 hc with rfl | hc
    · simpa using hd
    · exact ih hrest (fun e he => h e (List.mem_cons_of_mem d he)) hc

/-- The scan for a closing delimiter passes over a clear text, and goes on in the state that it is
in behind it. -/
theorem untilDelimiter?_append_of_isClear (h : isClear o s = true) (u : List Char) :
    untilDelimiter? '}' '}' o (s ++ u) =
      (untilDelimiter? '}' '}' (quoteAt o s) u).map fun x => (s ++ x.1, x.2) := by
  induction s generalizing o with
  | nil => simp
  | cons c s ih =>
    obtain ⟨hc, hs⟩ := Bool.and_eq_true_iff.1 h
    have hrest := ih hs
    cases o with
    | some q =>
      rw [List.cons_append, untilDelimiter?, quoteAt_cons]
      rw [quoteAfter] at hrest ⊢
      rw [hrest, Option.map_map]
      rfl
    | none =>
      have hne : c ≠ '}' := by
        rintro rfl
        exact absurd hc (by decide)
      rw [List.cons_append, untilDelimiter?, if_neg fun hclose => hne hclose.1, quoteAt_cons]
      rw [quoteAfter] at hrest ⊢
      rw [hrest, Option.map_map]
      rfl

/-- One brace behind a clear text is no delimiter. -/
theorem untilDelimiter?_eq_none_of_isClear (h : isClear o s = true) :
    untilDelimiter? '}' '}' o (s ++ ['}']) = none := by
  rw [untilDelimiter?_append_of_isClear h]
  cases quoteAt o s <;> simp [untilDelimiter?]

/-! ### Texts of whole words -/

/-- A clear text in which all quoted texts are closed. -/
structure Lexed (s : List Char) : Prop where
  clear : isClear none s = true
  closed : quoteAt none s = none

theorem Lexed.nil : Lexed [] := ⟨rfl, rfl⟩

theorem Lexed.append (hs : Lexed s) (ht : Lexed t) : Lexed (s ++ t) where
  clear := by rw [isClear_append, hs.clear, hs.closed, ht.clear, Bool.and_self]
  closed := by rw [quoteAt_append, hs.closed, ht.closed]

/-- A text of words and blanks without quotes. -/
theorem lexed_of_forall (h : ∀ c ∈ s, isBare c = true ∧ Reader.isQuote c = false) : Lexed s := by
  induction s with
  | nil => exact .nil
  | cons c s ih =>
    obtain ⟨hbare, hquote⟩ := h c List.mem_cons_self
    have hsingle : Lexed [c] := by
      constructor <;> simp [isClear, hbare, quoteAfter, hquote]
    exact hsingle.append (ih fun d hd => h d (List.mem_cons_of_mem c hd))

theorem lexed_of_isSolid (h : ∀ c ∈ s, isSolid c = true) : Lexed s := by
  refine lexed_of_forall fun c hc => ⟨by simp [isBare, h c hc], ?_⟩
  have hsolid := h c hc
  simp only [isSolid, Bool.not_eq_true', Bool.or_eq_false_iff] at hsolid
  exact hsolid.1.1.2

theorem lexed_of_isSpace (h : ∀ c ∈ s, Reader.isSpace c = true) : Lexed s :=
  lexed_of_forall fun c hc =>
    ⟨by simp [isBare, h c hc], isQuote_of_isBlank (isBlank_of_isSpace (h c hc))⟩

theorem lexed_quoted (hq : Reader.isQuote q = true) (hs : q ∉ s) : Lexed (q :: (s ++ [q])) where
  clear := by simp [isClear, isBare, hq, quoteAfter, isClear_append, isClear_some hs]
  closed := by simp [quoteAfter, hq, quoteAt_append, quoteAt_some hs]

/-- An opening brace stands in a quoted text, which is closed behind it. -/
theorem Lexed.exists_quote (h : Lexed (s ++ '{' :: t)) : ∃ q ∈ t, Reader.isQuote q = true := by
  have hclear := h.clear
  rw [isClear_append, isClear, Bool.and_eq_true_iff, Bool.and_eq_true_iff] at hclear
  have hclosed := h.closed
  rw [quoteAt_append] at hclosed
  cases hq : quoteAt none s with
  | none =>
    rw [hq] at hclear
    exact absurd hclear.2.1 (by decide)
  | some q =>
    have hquote : Reader.isQuote q = true := isQuote_of_quoteAt (by simp) hq
    refine ⟨q, ?_, hquote⟩
    by_contra hnot
    have hne : q ≠ '{' := by
      rintro rfl
      cases hquote
    rw [hq, quoteAt_some (by simp [hnot, hne])] at hclosed
    cases hclosed

/-- Blanks in front of a text of words are those that keep words apart. -/
theorem Lexed.isSpace_of_prefix (h : Lexed (s ++ t)) (hs : ∀ c ∈ s, Text.isBlank c = true) :
    ∀ c ∈ s, Reader.isSpace c = true := by
  have hclear := h.clear
  rw [isClear_append, Bool.and_eq_true_iff] at hclear
  exact fun c hc => isSpace_of_isBare
    (isBare_of_isClear hclear.1 (fun d hd => isQuote_of_isBlank (hs d hd)) hc) (hs c hc)

/-- Blanks behind a text of words are those that keep words apart. -/
theorem Lexed.isSpace_of_suffix (h : Lexed (s ++ t)) (ht : ∀ c ∈ t, Text.isBlank c = true) :
    ∀ c ∈ t, Reader.isSpace c = true := by
  have hquotes : ∀ c ∈ t, Reader.isQuote c = false := fun c hc => isQuote_of_isBlank (ht c hc)
  have hclear := h.clear
  have hclosed := h.closed
  rw [isClear_append, Bool.and_eq_true_iff] at hclear
  rw [quoteAt_append, quoteAt_eq_self (fun q hq => isQuote_of_quoteAt (by simp) hq) hquotes]
    at hclosed
  rw [hclosed] at hclear
  exact fun c hc => isSpace_of_isBare (isBare_of_isClear hclear.2 hquotes hc) (ht c hc)

/-- Blanks around a text change nothing in the scan. -/
theorem quoteAt_blanks (ha : ∀ c ∈ s, Text.isBlank c = true) (hb : ∀ c ∈ u, Text.isBlank c = true)
    (t : List Char) : quoteAt none (s ++ (t ++ u)) = quoteAt none t := by
  rw [quoteAt_append, quoteAt_eq_self (by simp) fun c hc => isQuote_of_isBlank (ha c hc),
    quoteAt_append, quoteAt_eq_self (fun q hq => isQuote_of_quoteAt (by simp) hq) fun c hc =>
      isQuote_of_isBlank (hb c hc)]

theorem isClear_of_blanks (ha : ∀ c ∈ s, Text.isBlank c = true)
    (h : isClear none (s ++ (t ++ u)) = true) : isClear none t = true := by
  rw [isClear_append, quoteAt_eq_self (by simp) fun c hc => isQuote_of_isBlank (ha c hc),
    isClear_append, Bool.and_eq_true_iff, Bool.and_eq_true_iff] at h
  exact h.2.1

end Imprint.Template
