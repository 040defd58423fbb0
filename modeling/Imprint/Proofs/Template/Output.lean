import Imprint.Proofs.Template.Bounded
import Imprint.Proofs.Template.Grammar

/-!
# A template that is one output

A template that is one expression between its delimiters is cut as one piece, because the scan for
the closing delimiter passes over the words of the expression. Blanks around the expression have no
part in the tree of the template, and none in its references either, although these are found in the
flat text.

## Main definitions

* `Imprint.Template.output`: an expression between its delimiters.
* `Imprint.Template.IsExpression`: the texts that can be read as an expression there.

## Main results

* `Imprint.Template.pieces?_output`: an output is one piece.
* `Imprint.Template.nodesOf_output_blanks`, `Imprint.Template.references_output_blanks`: blanks
  around an expression have no part in its template.
-/

namespace Imprint.Template

variable {a b e t : List Char}

/-- An expression between its delimiters. -/
def output (e : List Char) : List Char :=
  ['{', '{', ' '] ++ e ++ [' ', '}', '}']

/-- The text can be read as an expression between its delimiters. -/
def IsExpression (e : List Char) : Prop :=
  (outputExpression.run ⟨' ' :: (e ++ [' ']), none⟩).isSome = true

instance (e : List Char) : Decidable (IsExpression e) :=
  inferInstanceAs (Decidable (_ = true))

theorem IsExpression.lexed (h : IsExpression e) : Lexed (' ' :: (e ++ [' '])) := by
  obtain ⟨⟨x, k⟩, hrun⟩ := Option.isSome_iff_exists.1 h
  exact lexed_of_outputExpression hrun

/-- Whole words between the delimiters of an output are one piece. -/
theorem pieces?_output (h : Lexed (' ' :: (e ++ [' ']))) :
    pieces? (output e) = some [.output {} (' ' :: (e ++ [' ']))] := by
  have huntil : untilDelimiter? '}' '}' none (' ' :: (e ++ [' ']) ++ ['}', '}']) =
      some (' ' :: (e ++ [' ']), []) := by
    rw [untilDelimiter?_append_of_isClear h.clear, h.closed]
    simp [untilDelimiter?]
  have htrim : ofDelimited (' ' :: (e ++ [' '])) = ({}, ' ' :: (e ++ [' '])) :=
    ofDelimited_eq_self (by simp) (by simp [List.getLast?_cons])
  have heq : output e = '{' :: '{' :: (' ' :: (e ++ [' ']) ++ ['}', '}']) := by simp [output]
  have hfound : delimited? (output e) = some (some (.output {} (' ' :: (e ++ [' ']))), []) := by
    rw [heq, delimited?, piece?, huntil]
    simp [htrim]
  have hregions := Text.regions_append_found (m := output e) (u := []) (by simp [output])
    (by rwa [List.append_nil])
  rw [List.append_nil] at hregions
  rw [pieces?, hregions]
  rfl

theorem isBareSuper_blanks (ha : ∀ c ∈ a, Reader.isSpace c = true)
    (hb : ∀ c ∈ b, Reader.isSpace c = true) (t : List Char) :
    isBareSuper (a ++ (t ++ b)) = isBareSuper t := by
  have hstart : (a ++ (t ++ b)).dropWhile Reader.isSpace =
      if (t.dropWhile Reader.isSpace).isEmpty then [] else t.dropWhile Reader.isSpace ++ b := by
    rw [List.dropWhile_append_of_pos ha, List.dropWhile_append, List.dropWhile_eq_nil_iff.2 hb]
  have hend (u : List Char) : (u ++ b).reverse.dropWhile Reader.isSpace =
      u.reverse.dropWhile Reader.isSpace := by
    rw [List.reverse_append,
      List.dropWhile_append_of_pos fun c hc => hb c (List.mem_reverse.1 hc)]
  rw [isBareSuper, isBareSuper, hstart]
  split
  · next hnil => rw [List.isEmpty_iff.1 hnil]
  · rw [hend]

/-- Blanks around an expression have no part in its item. -/
theorem ofPiece?_output_blanks (ha : ∀ c ∈ a, Reader.isSpace c = true)
    (hb : ∀ c ∈ b, Reader.isSpace c = true) (t : List Char) :
    Item.ofPiece? (.output {} (' ' :: (a ++ (t ++ b) ++ [' ']))) =
      Item.ofPiece? (.output {} (' ' :: (t ++ [' ']))) := by
  have hspace : ∀ c ∈ [' '], Reader.isSpace c = true := List.forall_mem_singleton.2 rfl
  have ha' : ∀ c ∈ ' ' :: a, Reader.isSpace c = true := by simpa using ⟨by decide, ha⟩
  have hb' : ∀ c ∈ b ++ [' '], Reader.isSpace c = true := by
    simpa [or_imp, forall_and] using ⟨hb, by decide⟩
  have hrun := map_outputExpression_blanks (x := none) ha' hspace hb' hspace (by simp) t
  have hbare := (isBareSuper_blanks ha' hb' t).trans (isBareSuper_blanks hspace hspace t).symm
  have hitem (inner : List Char) : Item.ofPiece? (.output {} inner) =
      ((outputExpression.run ⟨inner, none⟩).map fun y => (y.1, y.2.tooLarge)).map fun y =>
        (.output {} y.1 (isBareSuper inner), y.2) := by
    rw [Option.map_map]
    rfl
  have heq : ' ' :: (a ++ (t ++ b) ++ [' ']) = ' ' :: a ++ (t ++ (b ++ [' '])) := by simp
  rw [heq, hitem, hitem, hrun, hbare]
  rfl

/-- An expression without the blanks around it is one. -/
theorem IsExpression.of_blanks (ha : ∀ c ∈ a, Reader.isSpace c = true)
    (hb : ∀ c ∈ b, Reader.isSpace c = true) (h : IsExpression (a ++ (t ++ b))) :
    IsExpression t := by
  have hsome {inner : List Char} : (outputExpression.run ⟨inner, none⟩).isSome =
      (Item.ofPiece? (.output {} inner)).isSome := by
    rw [Item.ofPiece?, Option.isSome_map]
  rw [IsExpression, hsome, ← ofPiece?_output_blanks ha hb t, ← hsome]
  exact h

/-- Blanks around an expression have no part in the tree. -/
theorem nodesOf_output_blanks (ha : ∀ c ∈ a, Reader.isSpace c = true)
    (hb : ∀ c ∈ b, Reader.isSpace c = true) (h : IsExpression (a ++ (t ++ b))) :
    nodesOf (output (a ++ (t ++ b))) = nodesOf (output t) := by
  rw [nodesOf, nodesOf, pieces?_output h.lexed, pieces?_output (h.of_blanks ha hb).lexed,
    Option.bind_some, Option.bind_some, List.mapM_cons, List.mapM_cons,
    ofPiece?_output_blanks ha hb]

/-- Blanks around an expression have no part in the references. -/
theorem references_output_blanks (ha : ∀ c ∈ a, Reader.isSpace c = true)
    (hb : ∀ c ∈ b, Reader.isSpace c = true) (t : List Char) :
    references (output (a ++ (t ++ b))) = references (output t) := by
  have hne {c : Char} {u : List Char} (hu : ∀ c ∈ u, Reader.isSpace c = true)
      (hc : Reader.isSpace c = false) : c ∉ u := fun hmem => by
    rw [hu c hmem] at hc
    cases hc
  have hfront {u : List Char} (hu : ∀ c ∈ u, Reader.isSpace c = true) :
      Closes (['{', '{', ' '] ++ u) :=
    ((unopened_of_notMem (s := ' ' :: u) (by simp [hne hu (c := '{') (by decide)])).closes.cons
      (by decide)).cons (by decide)
  have hharmless {u : List Char} (hu : ∀ c ∈ u, Reader.isSpace c = true) :
      Harmless (u ++ [' ', '}', '}']) := by
    refine ⟨?_, by simp [hne hu (c := '#') (by decide)], by simp [hne hu (c := '%') (by decide)]⟩
    cases u with
    | nil => decide
    | cons c u =>
      rintro ⟨⟩
      exact absurd (hu '}' List.mem_cons_self) (by decide)
  have houtput {a b : List Char} (ha : ∀ c ∈ a, Reader.isSpace c = true)
      (hb : ∀ c ∈ b, Reader.isSpace c = true) :
      references (output (a ++ (t ++ b))) = references t := by
    have heq : output (a ++ (t ++ b)) =
        ['{', '{', ' '] ++ a ++ (t ++ (b ++ [' ', '}', '}'])) := by simp [output]
    rw [heq, (hfront ha).references_append, references_append (hharmless hb)]
    simp [hne hb (c := '{') (by decide)]
  have hplain := houtput (a := []) (b := []) (by simp) (by simp)
  rw [List.nil_append, List.append_nil] at hplain
  rw [houtput ha hb, hplain]

end Imprint.Template
