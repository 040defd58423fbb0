import Imprint.Proofs.Template.Quoting
import Imprint.Proofs.Template.Tag
import Mathlib.Data.List.Forall2

/-!
# Reading in front of blanks

How many blanks stand at the end of an input is no concern of a reader, as long as there are some or
none. Two readers agree when, on inputs that differ in these blanks only, both fail, or both give
the same and leave inputs that again differ so. What is taken off the front is a text of whole
words.

Readers for what is nested in a text are made for a depth that its length bounds. So two readers
agree up to given lengths of their inputs, and a reader that takes a character lowers these lengths
for those that come behind it.

## Main definitions

* `Imprint.Template.Reader.Tied`: inputs that differ only in the blanks at the end.
* `Imprint.Template.Reader.Agree`: readers that agree.

## Main results

* `Imprint.Template.Reader.Agree.bind_succ`: what comes behind a character may be read less deep.
* `Imprint.Template.Reader.Agree.many`: agreement of repetitions.
-/

namespace Imprint.Template

namespace Reader

variable {α β : Type} {c d n m n' m' : Nat} {p p' q q' : Reader α} {f f' : α → Reader β}
  {i j k l : Input} {kind : Char → Bool} {s t u w : List Char} {x : Option Int}

/-! ### Inputs and results -/

/-- Inputs that differ only in the blanks at their end, and both have some or none. -/
inductive Tied : Input → Input → Prop where
  | intro {u w w' : List Char} {x : Option Int} (hw : ∀ c ∈ w, isSpace c = true)
      (hw' : ∀ c ∈ w', isSpace c = true) (h : w = [] ↔ w' = []) : Tied ⟨u ++ w, x⟩ ⟨u ++ w', x⟩

theorem Tied.refl (i : Input) : Tied i i := by
  have h : Tied ⟨i.rest ++ [], i.tooLarge⟩ ⟨i.rest ++ [], i.tooLarge⟩ :=
    .intro (by simp) (by simp) Iff.rfl
  rwa [List.append_nil] at h

/-- At the end of one of two tied inputs the other ends, too. -/
theorem Tied.rest_eq_nil_iff (h : Tied i j) : i.rest = [] ↔ j.rest = [] := by
  obtain ⟨-, -, h⟩ := h
  simp [h]

/-- A text of whole words was taken off the front, of at least `c` characters. -/
def Passes (c : Nat) (i k : Input) : Prop :=
  ∃ t, Lexed t ∧ c ≤ t.length ∧ i.rest = t ++ k.rest

theorem Passes.refl (i : Input) : Passes 0 i i :=
  ⟨[], .nil, le_rfl, rfl⟩

theorem Passes.trans (h : Passes c i k) (h' : Passes d k l) : Passes (c + d) i l := by
  obtain ⟨t, ht, hc, hi⟩ := h
  obtain ⟨t', ht', hd, hk⟩ := h'
  exact ⟨t ++ t', ht.append ht', by simpa using Nat.add_le_add hc hd, by simp [hi, hk]⟩

theorem Passes.mono (h : Passes c i k) (hd : d ≤ c) : Passes d i k := by
  obtain ⟨t, ht, hc, hi⟩ := h
  exact ⟨t, ht, hd.trans hc, hi⟩

theorem Passes.length_le (h : Passes c i k) : k.rest.length + c ≤ i.rest.length := by
  obtain ⟨t, -, hc, hi⟩ := h
  rw [hi, List.length_append]
  omega

/-- Results of two readers: both fail, or both give the same and leave tied inputs. -/
inductive Matched (c : Nat) (i j : Input) : Option (α × Input) → Option (α × Input) → Prop where
  | none : Matched c i j none none
  | some {a : α} {k l : Input} (hi : Passes c i k) (hj : Passes c j l) (h : Tied k l) :
      Matched c i j (some (a, k)) (some (a, l))

theorem Matched.mono {r r' : Option (α × Input)} (h : Matched c i j r r') (hd : d ≤ c) :
    Matched d i j r r' := by
  cases h with
  | none => exact .none
  | some hik hjl hkl => exact .some (hik.mono hd) (hjl.mono hd) hkl

/-- Two readers agree on inputs that are shorter than given bounds, and take at least `c` characters
each. -/
def Agree (c n m : Nat) (p p' : Reader α) : Prop :=
  ∀ i j, Tied i j → i.rest.length < n → j.rest.length < m → Matched c i j (p.run i) (p'.run j)

theorem Agree.mono (h : Agree c n m p p') (hd : d ≤ c) (hn : n' ≤ n) (hm : m' ≤ m) :
    Agree d n' m' p p' := fun i j hij hi hj =>
  (h i j hij (hi.trans_le hn) (hj.trans_le hm)).mono hd

theorem Agree.zero (h : Agree c n m p p') : Agree 0 n m p p' :=
  h.mono (Nat.zero_le c) le_rfl le_rfl

/-! ### Runs of readers -/

theorem agree_pure (a : α) : Agree 0 n m (pure a) (pure a) := fun i j hij _ _ =>
  .some (.refl i) (.refl j) hij

theorem agree_failure : Agree c n m (failure : Reader α) failure := fun _ _ _ _ _ => .none

/-- Behind readers that agree the inputs are shorter by what these take at least. -/
theorem Agree.bind_add (hp : Agree c n m p p') (hf : ∀ a, Agree d n' m' (f a) (f' a))
    (hn : n ≤ n' + c) (hm : m ≤ m' + c) : Agree (c + d) n m (p >>= f) (p' >>= f') := by
  intro i j hij hi hj
  have hrun := hp i j hij hi hj
  rw [StateT.run_bind, StateT.run_bind]
  generalize p.run i = r, p'.run j = r' at hrun
  cases hrun with
  | none => exact .none
  | @some a k l hik hjl hkl =>
    have hk := hik.length_le
    have hl := hjl.length_le
    have hrest := hf a k l hkl (by omega) (by omega)
    simp only [Option.bind_eq_bind, Option.bind_some]
    generalize (f a).run k = r, (f' a).run l = r' at hrest
    cases hrest with
    | none => exact .none
    | some hk hl h => exact .some (hik.trans hk) (hjl.trans hl) h

theorem Agree.bind (hp : Agree c n m p p') (hf : ∀ a, Agree d n m (f a) (f' a)) :
    Agree c n m (p >>= f) (p' >>= f') :=
  (hp.bind_add hf (by omega) (by omega)).mono (by omega) le_rfl le_rfl

theorem Agree.bind_right (hp : Agree d n m p p') (hf : ∀ a, Agree c n m (f a) (f' a)) :
    Agree c n m (p >>= f) (p' >>= f') :=
  (hp.bind_add hf (by omega) (by omega)).mono (by omega) le_rfl le_rfl

/-- What comes behind a character may be read less deep. -/
theorem Agree.bind_succ (hp : Agree 1 (n + 1) (m + 1) p p')
    (hf : ∀ a, Agree d n m (f a) (f' a)) : Agree 1 (n + 1) (m + 1) (p >>= f) (p' >>= f') :=
  (hp.bind_add hf le_rfl le_rfl).mono (by omega) le_rfl le_rfl

theorem Agree.map (g : α → β) (h : Agree c n m p p') : Agree c n m (g <$> p) (g <$> p') := by
  rw [map_eq_pure_bind, map_eq_pure_bind]
  exact h.bind fun a => agree_pure (g a)

theorem Agree.discard (h : Agree c n m p p') : Agree c n m (discard p) (discard p') :=
  h.map _

theorem Agree.means (h : Agree c n m p p') (b : β) : Agree c n m (means p b) (means p' b) :=
  h.discard.bind fun _ => agree_pure b

theorem Agree.orElse (hp : Agree c n m p p') (hq : Agree c n m q q') :
    Agree c n m (p <|> q) (p' <|> q') := by
  intro i j hij hi hj
  have hrun := hp i j hij hi hj
  change Matched c i j (p.run i <|> q.run i) (p'.run j <|> q'.run j)
  generalize p.run i = r, p'.run j = r' at hrun
  cases hrun with
  | none => exact hq i j hij hi hj
  | some hik hjl hkl => exact .some hik hjl hkl

theorem agree_firstOf {ps ps' : List (Reader α)} (h : List.Forall₂ (Agree c n m) ps ps') :
    Agree c n m (firstOf ps) (firstOf ps') := by
  induction h with
  | nil => exact agree_failure
  | cons hp _ ih => exact hp.orElse ih

theorem Agree.optional (h : Agree c n m p p') : Agree 0 n m (optional p) (optional p') :=
  (h.zero.map some).orElse (agree_pure none)

/-! ### Repetition -/

theorem run_atMost_of_none (h : p.run i = none) (a : Nat) : (atMost p a).run i = some ([], i) := by
  cases a with
  | zero => rfl
  | succ a =>
    change ((p >>= fun x => atMost p a >>= fun xs => pure (x :: xs)).run i <|> some ([], i)) = _
    rw [StateT.run_bind, h]
    rfl

/-- Readers that take something fail at the end. -/
theorem Agree.run_eq_none (h : Agree 1 n m p p') (hij : Tied i j) (hi : i.rest.length < n)
    (hj : j.rest.length < m) (hnil : i.rest = []) : p.run i = none ∧ p'.run j = none := by
  have hrun := h i j hij hi hj
  generalize p.run i = r, p'.run j = r' at hrun ⊢
  cases hrun with
  | none => exact ⟨rfl, rfl⟩
  | some hik _ _ =>
    have hlength := hik.length_le
    rw [hnil, List.length_nil] at hlength
    omega

/-- Repetitions agree if both may go on for as long as there is something to read. -/
theorem Agree.matched_atMost (h : Agree 1 n m p p') {a b : Nat} (hij : Tied i j)
    (hi : i.rest.length < n) (hj : j.rest.length < m) (ha : i.rest.length ≤ a)
    (hb : j.rest.length ≤ b) : Matched 0 i j ((atMost p a).run i) ((atMost p' b).run j) := by
  induction a generalizing i j b with
  | zero =>
    obtain ⟨hp, hp'⟩ := h.run_eq_none hij hi hj (List.length_eq_zero_iff.1 (by omega))
    rw [run_atMost_of_none hp, run_atMost_of_none hp']
    exact .some (.refl i) (.refl j) hij
  | succ a ih =>
    cases b with
    | zero =>
      have hnil : i.rest = [] := hij.rest_eq_nil_iff.2 (List.length_eq_zero_iff.1 (by omega))
      obtain ⟨hp, hp'⟩ := h.run_eq_none hij hi hj hnil
      rw [run_atMost_of_none hp, run_atMost_of_none hp']
      exact .some (.refl i) (.refl j) hij
    | succ b =>
      change Matched 0 i j
        ((p >>= fun x => atMost p a >>= fun xs => pure (x :: xs)).run i <|> some ([], i))
        ((p' >>= fun x => atMost p' b >>= fun xs => pure (x :: xs)).run j <|> some ([], j))
      have hrun := h i j hij hi hj
      rw [StateT.run_bind, StateT.run_bind]
      generalize p.run i = r, p'.run j = r' at hrun
      cases hrun with
      | none => exact .some (.refl i) (.refl j) hij
      | @some x k l hik hjl hkl =>
        have hk := hik.length_le
        have hl := hjl.length_le
        have hrest := ih (b := b) hkl (by omega) (by omega) (by omega) (by omega)
        simp only [Option.bind_eq_bind, Option.bind_some, StateT.run_bind]
        generalize (atMost p a).run k = r, (atMost p' b).run l = r' at hrest
        cases hrest with
        | none => exact .some (.refl i) (.refl j) hij
        | some hk hl h =>
          exact .some ((hik.trans hk).mono (Nat.zero_le _)) ((hjl.trans hl).mono (Nat.zero_le _)) h

theorem Agree.many (h : Agree 1 n m p p') : Agree 0 n m (many p) (many p') :=
  fun _ _ hij hi hj => h.matched_atMost hij hi hj le_rfl le_rfl

theorem Agree.separated {separator separator' : Reader β} (hp : Agree c n m p p')
    (hs : Agree 1 n m separator separator') :
    Agree c n m (separated p separator) (separated p' separator') :=
  hp.bind fun _ => (hs.discard.bind fun _ => hp).many.bind fun _ => agree_pure _

/-! ### Characters -/

theorem not_isSpace_of_isSolid {e : Char} (h : isSolid e = true) : isSpace e = false := by
  rw [Bool.eq_false_iff]
  intro hspace
  simp [isSolid, isBlank_of_isSpace hspace] at h

theorem eq_false_of_isSpace {e : Char} (hkind : ∀ e, kind e = true → isSolid e = true)
    (he : isSpace e = true) : kind e = false := by
  rw [Bool.eq_false_iff]
  intro hk
  rw [not_isSpace_of_isSolid (hkind e hk)] at he
  cases he

theorem takeWhile_append_of_neg (hw : ∀ e ∈ w, kind e = false) (u : List Char) :
    (u ++ w).takeWhile kind = u.takeWhile kind := by
  induction u with
  | nil =>
    cases w with
    | nil => rfl
    | cons e w => simp [hw e List.mem_cons_self]
  | cons e u ih => simp [List.takeWhile_cons, ih]

theorem dropWhile_append_of_neg (hw : ∀ e ∈ w, kind e = false) (u : List Char) :
    (u ++ w).dropWhile kind = u.dropWhile kind ++ w := by
  induction u with
  | nil =>
    cases w with
    | nil => rfl
    | cons e w => simp [hw e List.mem_cons_self]
  | cons e u ih =>
    by_cases he : kind e = true
    · simp [he, ih]
    · simp [he]

theorem agree_one (hkind : ∀ e, kind e = true → isSolid e = true) :
    Agree 1 n m (one kind) (one kind) := by
  rintro _ _ @⟨u, w, w', x, hw, hw', hnil⟩ - -
  have hnone {w : List Char} (hw : ∀ e ∈ w, isSpace e = true) :
      (one kind).run ⟨w, x⟩ = none := by
    cases w with
    | nil => rfl
    | cons e w =>
      change (if kind e then some (e, Input.mk w x) else none) = none
      rw [eq_false_of_isSpace hkind (hw e List.mem_cons_self)]
      rfl
  cases u with
  | nil =>
    rw [List.nil_append, List.nil_append, hnone hw, hnone hw']
    exact .none
  | cons e u =>
    change Matched 1 _ _ (if kind e then some (e, Input.mk (u ++ w) x) else none)
      (if kind e then some (e, Input.mk (u ++ w') x) else none)
    split
    · next he =>
      have hlexed : Lexed [e] := lexed_of_isSolid (by simpa using hkind e he)
      exact .some ⟨[e], hlexed, le_rfl, rfl⟩ ⟨[e], hlexed, le_rfl, rfl⟩ (.intro hw hw' hnil)
    · exact .none

theorem agree_all (hkind : ∀ e, kind e = true → isSolid e = true) :
    Agree 0 n m (all kind) (all kind) := by
  rintro _ _ @⟨u, w, w', x, hw, hw', hnil⟩ - -
  have hneg {w : List Char} (hw : ∀ e ∈ w, isSpace e = true) : ∀ e ∈ w, kind e = false :=
    fun e he => eq_false_of_isSpace hkind (hw e he)
  have hlexed : Lexed (u.takeWhile kind) :=
    lexed_of_isSolid fun e he => hkind e (List.mem_takeWhile_imp he)
  have hrun {w : List Char} (hw : ∀ e ∈ w, isSpace e = true) :
      (all kind).run ⟨u ++ w, x⟩ = some (u.takeWhile kind, ⟨u.dropWhile kind ++ w, x⟩) := by
    change some ((u ++ w).takeWhile kind, Input.mk ((u ++ w).dropWhile kind) x) = _
    rw [takeWhile_append_of_neg (hneg hw), dropWhile_append_of_neg (hneg hw)]
  have hpasses (w : List Char) : Passes 0 ⟨u ++ w, x⟩ ⟨u.dropWhile kind ++ w, x⟩ :=
    ⟨u.takeWhile kind, hlexed, Nat.zero_le _, by simp [← List.append_assoc]⟩
  rw [hrun hw, hrun hw']
  exact .some (hpasses w) (hpasses w') (.intro hw hw' hnil)

theorem agree_atLeastOne (hkind : ∀ e, kind e = true → isSolid e = true) :
    Agree 1 n m (atLeastOne kind) (atLeastOne kind) :=
  (agree_one hkind).bind fun _ => (agree_all hkind).bind fun _ => agree_pure _

theorem agree_chars (hs : ∀ e ∈ s, isSolid e = true) (hc : c ≤ s.length) :
    Agree c n m (chars s) (chars s) := by
  rintro _ _ @⟨u, w, w', x, hw, hw', hnil⟩ - -
  have hrun {w : List Char} (hw : ∀ e ∈ w, isSpace e = true) : (chars s).run ⟨u ++ w, x⟩ =
      (Text.after? s u).map fun r => ((), ⟨r ++ w, x⟩) := by
    change ((Text.after? s (u ++ w)).map fun r => ((), Input.mk r x)) = _
    rw [Text.after?_append_of_notMem, Option.map_map]
    · rfl
    · intro e he hmem
      have hspace := hw e hmem
      rw [not_isSpace_of_isSolid (hs e he)] at hspace
      cases hspace
  rw [hrun hw, hrun hw']
  cases hafter : Text.after? s u with
  | none => exact .none
  | some r =>
    obtain rfl := Text.after?_eq_some_iff.1 hafter
    have hpasses (w : List Char) : Passes c ⟨s ++ r ++ w, x⟩ ⟨r ++ w, x⟩ :=
      ⟨s, lexed_of_isSolid hs, hc, List.append_assoc s r w⟩
    exact .some (hpasses w) (hpasses w') (.intro hw hw' hnil)

theorem agree_char {e : Char} (he : isSolid e = true) : Agree 1 n m (chars [e]) (chars [e]) :=
  agree_chars (by simpa using he) le_rfl

/-- A word of the grammar. -/
def IsWord (w : String) : Prop :=
  w.toList ≠ [] ∧ ∀ e ∈ w.toList, isSolid e = true

-- A bounded quantifier over characters can be taken for one that goes through all of them.
instance (w : String) : Decidable (IsWord w) :=
  decidable_of_iff (w.toList ≠ [] ∧ w.toList.all isSolid = true) (by simp [IsWord])

theorem agree_text {w : String} (hw : IsWord w) : Agree 1 n m (text w) (text w) :=
  agree_chars hw.2 (List.length_pos_iff.2 hw.1)

/-! ### Blanks -/

/-- An input without the blanks in front. -/
def dropSpaces (i : Input) : Input :=
  ⟨i.rest.dropWhile isSpace, i.tooLarge⟩

theorem Tied.dropSpaces (h : Tied i j) : Tied (dropSpaces i) (dropSpaces j) := by
  obtain @⟨u, w, w', x, hw, hw', hnil⟩ := h
  have hdrop {w : List Char} (hw : ∀ e ∈ w, isSpace e = true) :
      (u ++ w).dropWhile isSpace =
        if (u.dropWhile isSpace).isEmpty then [] else u.dropWhile isSpace ++ w := by
    rw [List.dropWhile_append, List.dropWhile_eq_nil_iff.2 hw]
  simp only [Reader.dropSpaces, hdrop hw, hdrop hw']
  split
  · exact .refl _
  · exact .intro hw hw' hnil

theorem passes_dropSpaces (i : Input) : Passes 0 i (dropSpaces i) :=
  ⟨i.rest.takeWhile isSpace, lexed_of_isSpace fun _ => List.mem_takeWhile_imp, Nat.zero_le _,
    List.takeWhile_append_dropWhile.symm⟩

theorem agree_spaces : Agree 0 n m spaces spaces := fun i j hij _ _ =>
  .some (passes_dropSpaces i) (passes_dropSpaces j) hij.dropSpaces

/-- One of two tied inputs starts with a blank if the other does. -/
theorem Tied.any_head (h : Tied i j) : i.rest.head?.any isSpace = j.rest.head?.any isSpace := by
  obtain @⟨u, w, w', x, hw, hw', hnil⟩ := h
  cases u with
  | cons e u => rfl
  | nil =>
    rcases w with _ | ⟨e, w⟩
    · simp [hnil.1 rfl]
    · rcases w' with _ | ⟨e', w'⟩
      · simp at hnil
      · simp [hw e List.mem_cons_self, hw' e' List.mem_cons_self]

theorem run_gap (i : Input) :
    gap.run i = if i.rest.head?.any isSpace then some ((), dropSpaces i) else none := by
  have hgap : gap = (fun _ => ()) <$> atLeastOne isSpace := rfl
  rw [hgap, StateT.run_map, atLeastOne, StateT.run_bind]
  obtain ⟨_ | ⟨e, r⟩, x⟩ := i
  · rfl
  · have hone : (one isSpace).run ⟨e :: r, x⟩ = if isSpace e then some (e, ⟨r, x⟩) else none := rfl
    rw [hone]
    by_cases he : isSpace e = true
    · simp only [he, ↓reduceIte, List.head?_cons, Option.any_some, dropSpaces,
        List.dropWhile_cons_of_pos]
      rfl
    · simp [he]

theorem agree_gap : Agree 1 n m gap gap := by
  intro i j hij _ _
  have hpasses {i : Input} (hi : i.rest.head?.any isSpace = true) : Passes 1 i (dropSpaces i) := by
    obtain ⟨_ | ⟨e, r⟩, x⟩ := i
    · cases hi
    · refine ⟨(e :: r).takeWhile isSpace, lexed_of_isSpace fun _ => List.mem_takeWhile_imp, ?_,
        List.takeWhile_append_dropWhile.symm⟩
      have he : isSpace e = true := hi
      simp [he]
  rw [run_gap, run_gap, ← hij.any_head]
  split
  · next hi => exact .some (hpasses hi) (hpasses (hij.any_head ▸ hi)) hij.dropSpaces
  · exact .none

theorem Agree.token (h : Agree c n m p p') : Agree c n m (token p) (token p') :=
  h.bind fun _ => agree_spaces.bind fun _ => agree_pure _

theorem agree_symbol {w : String} (hw : IsWord w) : Agree 1 n m (symbol w) (symbol w) :=
  (agree_text hw).token

theorem agree_keyword {w : String} (hw : IsWord w) : Agree 1 n m (keyword w) (keyword w) :=
  (agree_text hw).bind fun _ => agree_gap

/-! ### Names, texts and integers -/

theorem isSolid_of_isNameChar {e : Char} (h : isNameChar e = true) : isSolid e = true := by
  have hne {d : Char} (hd : isNameChar d = false) : e ≠ d := ne_of_isNameChar h hd
  simp only [isSolid, isBlank_of_isNameChar h, isQuote, Bool.not_eq_true', Bool.or_eq_false_iff,
    beq_eq_false_iff_ne]
  exact ⟨⟨⟨trivial, ⟨hne (by decide), hne (by decide)⟩, hne (by decide)⟩, hne (by decide)⟩,
    hne (by decide)⟩

theorem isNameChar_of_isNameStart {e : Char} (h : isNameStart e = true) : isNameChar e = true := by
  simp only [isNameStart, isNameChar, Char.isAlphanum, Bool.or_eq_true] at h ⊢
  tauto

theorem isSolid_of_isDigit {e : Char} (h : e.isDigit = true) : isSolid e = true :=
  isSolid_of_isNameChar (by simp [isNameChar, Char.isAlphanum, h])

theorem agree_name : Agree 1 n m name name :=
  (agree_one fun _ he => isSolid_of_isNameChar (isNameChar_of_isNameStart he)).bind fun _ =>
    (agree_all fun _ => isSolid_of_isNameChar).bind fun _ => agree_pure _

theorem agree_nameToken : Agree 1 n m nameToken nameToken :=
  agree_name.token.map _

theorem run_quoted_append {e : Char} (he : isQuote e = true) (hs : e ∉ s) (r : List Char)
    (x : Option Int) : quoted.run ⟨e :: (s ++ e :: r), x⟩ = some ((e, s), ⟨r, x⟩) := by
  have hone : (one isQuote).run ⟨e :: (s ++ e :: r), x⟩ = some (e, ⟨s ++ e :: r, x⟩) := by
    change (if isQuote e then some (e, Input.mk (s ++ e :: r) x) else none) = _
    rw [if_pos he]
  have hne : ∀ e' ∈ s, (e' != e) = true := fun e' he' => by
    rw [bne_iff_ne]
    rintro rfl
    exact hs he'
  have hall : (all (· != e)).run ⟨s ++ e :: r, x⟩ = some (s, ⟨e :: r, x⟩) := by
    change some ((s ++ e :: r).takeWhile _, Input.mk ((s ++ e :: r).dropWhile _) x) = _
    rw [List.takeWhile_append_of_pos hne, List.dropWhile_append_of_pos hne]
    simp
  have hchars : (chars [e]).run ⟨e :: r, x⟩ = some ((), ⟨r, x⟩) := by
    simp [chars, Text.after?, StateT.run]
  rw [quoted, StateT.run_bind, hone]
  simp only [Option.bind_eq_bind, Option.bind_some]
  rw [StateT.run_bind, hall]
  simp only [Option.bind_eq_bind, Option.bind_some]
  rw [StateT.run_bind, hchars]
  rfl

theorem agree_quoted : Agree 1 n m quoted quoted := by
  rintro _ _ @⟨u, w, w', x, hw, hw', hnil⟩ - -
  have hquote {w : List Char} (hw : ∀ e ∈ w, isSpace e = true) : ∀ e ∈ w, isQuote e = false :=
    fun e he => isQuote_of_isBlank (isBlank_of_isSpace (hw e he))
  by_cases h : ∃ e s r, u = e :: (s ++ e :: r) ∧ isQuote e = true ∧ e ∉ s
  · obtain ⟨e, s, r, rfl, he, hs⟩ := h
    have hpasses (w : List Char) : Passes 1 ⟨e :: (s ++ e :: r) ++ w, x⟩ ⟨r ++ w, x⟩ :=
      ⟨e :: (s ++ [e]), lexed_quoted he hs, by simp, by simp⟩
    have hrun (w : List Char) :
        quoted.run ⟨e :: (s ++ e :: r) ++ w, x⟩ = some ((e, s), ⟨r ++ w, x⟩) := by
      rw [List.cons_append, List.append_assoc, List.cons_append, run_quoted_append he hs]
    rw [hrun, hrun]
    exact .some (hpasses w) (hpasses w') (.intro hw hw' hnil)
  · have hnone {w : List Char} (hw : ∀ e ∈ w, isSpace e = true) :
        quoted.run ⟨u ++ w, x⟩ = none := by
      refine Option.eq_none_iff_forall_ne_some.2 fun y hy => h ?_
      obtain ⟨⟨e, s⟩, k⟩ := y
      obtain ⟨he, hs, hrest⟩ := run_quoted_eq_some hy
      have hrest' : u ++ w = e :: (s ++ [e]) ++ k.rest := by simpa using hrest
      rcases List.append_eq_append_iff.1 hrest' with ⟨a, ha, rfl⟩ | ⟨a, rfl, -⟩
      · -- The closing quote is no blank, so it stands in front of them.
        obtain rfl : a = [] := by
          by_contra hne
          have hlast := congrArg List.getLast? ha
          rw [List.getLast?_append_of_ne_nil _ hne, ← List.cons_append, List.getLast?_concat]
            at hlast
          have hmem : e ∈ a := List.mem_of_getLast? hlast.symm
          rw [hquote hw e (List.mem_append_left _ hmem)] at he
          cases he
        exact ⟨e, s, [], by simpa using ha.symm, he, hs⟩
      · exact ⟨e, s, a, by simp, he, hs⟩
    rw [hnone hw, hnone hw']
    exact .none

theorem agree_quotedToken : Agree 1 n m quotedToken quotedToken :=
  agree_quoted.token.map _

theorem agree_digits : Agree 1 n m digits digits := by
  refine ((agree_char (by decide)).bind fun _ => agree_pure _).orElse
    ((agree_one fun e he => ?_).bind fun _ =>
      (agree_all fun _ => isSolid_of_isDigit).bind fun _ => agree_pure _)
  exact isSolid_of_isDigit (Bool.and_eq_true_iff.1 he).1

theorem agree_signedDigits : Agree 1 n m signedDigits signedDigits := by
  refine (agree_char (by decide)).optional.bind_right fun o => ?_
  cases o with
  | none => exact agree_digits
  | some _ => exact agree_digits.bind fun _ => agree_pure _

theorem agree_pointedToken : Agree 1 n m (token pointed) (token pointed) :=
  (agree_signedDigits.bind fun _ => (agree_char (by decide)).bind fun _ =>
    (agree_atLeastOne fun _ => isSolid_of_isDigit).bind fun _ => agree_pure _).token

/-- The first integer that is too large is the same for tied inputs. -/
theorem agree_integer : Agree 1 n m integer integer := by
  refine agree_signedDigits.token.bind fun ds => Agree.bind (c := 0) (d := 0) ?_ fun _ =>
    agree_pure _
  rintro _ _ @⟨u, w, w', x, hw, hw', hnil⟩ - -
  change Matched 0 _ _
    (some ((), if inRange (integerValue ds) then Input.mk (u ++ w) x
      else ⟨u ++ w, x <|> some (integerValue ds)⟩))
    (some ((), if inRange (integerValue ds) then Input.mk (u ++ w') x
      else ⟨u ++ w', x <|> some (integerValue ds)⟩))
  split
  · exact .some (.refl _) (.refl _) (.intro hw hw' hnil)
  · exact .some ⟨[], .nil, le_rfl, rfl⟩ ⟨[], .nil, le_rfl, rfl⟩ (.intro hw hw' hnil)

end Reader

end Imprint.Template
