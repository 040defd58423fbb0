/-!
# Searching, replacing and cutting text

Occurrences of one text in another are taken from left to right and never overlap. Each function
walks once along the characters; a counter says how many characters of an occurrence are still to
be passed over, so every definition is a plain recursion on the list.

## Main definitions

* `Imprint.Text.after?`: what follows a given beginning.
* `Imprint.Text.occursIn`: whether one text contains another.
* `Imprint.Text.replaceAll`, `Imprint.Text.splitAll`: replacing and cutting at every occurrence.
* `Imprint.Text.cutAt?`, `Imprint.Text.cutWhere?`: the two sides of the first separator.

## Main results

* `Imprint.Text.after?_eq_some_iff`: the rest is the one that the beginning was put in front of.
* `Imprint.Text.replaceAll_of_not_occursIn`: a text without occurrences is left as it is.
-/

namespace Imprint.Text

/-- What follows the beginning `p`, when the text begins with it. -/
def after? : List Char → List Char → Option (List Char)
  | [], s => some s
  | _ :: _, [] => none
  | a :: p, c :: s => if a = c then after? p s else none

/-- Whether `p` is a beginning of `s`. -/
def startsWith (p s : List Char) : Bool :=
  (after? p s).isSome

/-- Whether `p` is an end of `s`. -/
def endsWith (p s : List Char) : Bool :=
  startsWith p.reverse s.reverse

/-- Whether `p` occurs in the text. -/
def occursIn (p : List Char) : List Char → Bool
  | [] => p.isEmpty
  | c :: r => startsWith p (c :: r) || occursIn p r

/-- Replacing occurrences of a non-empty `old`, after passing over some characters. -/
def replaceFrom (old new : List Char) : Nat → List Char → List Char
  | _, [] => []
  | k + 1, _ :: r => replaceFrom old new k r
  | 0, c :: r =>
    if startsWith old (c :: r) then new ++ replaceFrom old new (old.length - 1) r
    else c :: replaceFrom old new 0 r

/-- The text with every occurrence of `old` replaced by `new`. The empty text occurs before every
character and at the end. -/
def replaceAll (old new s : List Char) : List Char :=
  if old.isEmpty then s.foldr (fun c r => new ++ c :: r) new
  else replaceFrom old new 0 s

/-- Cutting at occurrences of a non-empty `sep`, after passing over some characters. -/
def splitFrom (sep : List Char) : Nat → List Char → List (List Char)
  | _, [] => [[]]
  | k + 1, _ :: r => splitFrom sep k r
  | 0, c :: r =>
    if startsWith sep (c :: r) then [] :: splitFrom sep (sep.length - 1) r
    else match splitFrom sep 0 r with
      | [] => [[c]]
      | s :: t => (c :: s) :: t

/-- The pieces between the occurrences of `sep`. The empty text cuts before every character and at
the end. -/
def splitAll (sep s : List Char) : List (List Char) :=
  if sep.isEmpty then [] :: s.map (fun c => [c]) ++ [[]]
  else splitFrom sep 0 s

/-- The text without the copies of `p` at its start, passing over some characters first. -/
def stripFrom (p : List Char) : Nat → List Char → List Char
  | _, [] => []
  | k + 1, _ :: r => stripFrom p k r
  | 0, c :: r => if startsWith p (c :: r) then stripFrom p (p.length - 1) r else c :: r

/-- The text without the copies of `p` at its start; the empty text is nowhere removed. -/
def stripStart (p s : List Char) : List Char :=
  if p.isEmpty then s else stripFrom p 0 s

/-- The text without the copies of `p` at its end. -/
def stripEnd (p s : List Char) : List Char :=
  (stripStart p.reverse s.reverse).reverse

/-- The two sides of the first character that satisfies `p`. -/
def cutWhere? (p : Char → Bool) : List Char → Option (List Char × List Char)
  | [] => none
  | c :: r => if p c then some ([], r) else (cutWhere? p r).map fun x => (c :: x.1, x.2)

/-- The two sides of the first `sep`. -/
def cutAt? (sep : Char) (s : List Char) : Option (List Char × List Char) :=
  cutWhere? (· == sep) s

/-! ### Small facts -/

theorem after?_eq_some_iff {p s r : List Char} : after? p s = some r ↔ s = p ++ r := by
  induction p generalizing s with
  | nil => simp [after?]
  | cons a p ih =>
    cases s with
    | nil => simp [after?]
    | cons c s =>
      by_cases h : a = c
      · subst h; simp [after?, ih]
      · simp [after?, h, Ne.symm h]

@[simp] theorem after?_append (p r : List Char) : after? p (p ++ r) = some r :=
  after?_eq_some_iff.2 rfl

/-- Characters of no beginning may follow a text. -/
theorem after?_append_of_notMem {p w : List Char} (h : ∀ c ∈ p, c ∉ w) (s : List Char) :
    after? p (s ++ w) = (after? p s).map (· ++ w) := by
  induction p generalizing s with
  | nil => rfl
  | cons a p ih =>
    cases s with
    | nil =>
      cases w with
      | nil => rfl
      | cons d w =>
        have hne : a ≠ d := by
          rintro rfl
          exact h a List.mem_cons_self List.mem_cons_self
        simp [after?, hne]
    | cons c s =>
      simp only [List.cons_append, after?]
      split
      · exact ih (fun d hd => h d (List.mem_cons_of_mem a hd)) s
      · rfl

/-- A text without a given beginning, if it has that beginning, is an end of it. -/
theorem isSuffix_getD_after? (p s : List Char) : (after? p s).getD s <:+ s := by
  cases h : after? p s with
  | none => exact List.suffix_rfl
  | some r => exact ⟨p, (after?_eq_some_iff.1 h).symm⟩

theorem startsWith_iff {p s : List Char} : startsWith p s = true ↔ p <+: s := by
  simp only [startsWith, Option.isSome_iff_exists, after?_eq_some_iff]
  exact ⟨fun ⟨r, h⟩ => ⟨r, h.symm⟩, fun ⟨r, h⟩ => ⟨r, h.symm⟩⟩

theorem endsWith_iff {p s : List Char} : endsWith p s = true ↔ p <:+ s := by
  simp [endsWith, startsWith_iff]

theorem occursIn_iff {p s : List Char} : occursIn p s = true ↔ p <:+: s := by
  induction s with
  | nil => simp [occursIn]
  | cons c r ih => simp [occursIn, startsWith_iff, ih, List.infix_cons_iff]

theorem replaceFrom_of_not_occursIn {old s : List Char} (new : List Char)
    (h : occursIn old s = false) : replaceFrom old new 0 s = s := by
  induction s with
  | nil => rfl
  | cons c r ih =>
    simp only [occursIn, Bool.or_eq_false_iff] at h
    simp [replaceFrom, h.1, ih h.2]

/-- A text in which `old` does not occur is left as it is. -/
theorem replaceAll_of_not_occursIn {old s : List Char} (new : List Char)
    (h : occursIn old s = false) : replaceAll old new s = s := by
  have hne : old ≠ [] := by
    rintro rfl
    have : occursIn [] s = true := occursIn_iff.2 List.nil_infix
    simp [this] at h
  simp [replaceAll, hne, replaceFrom_of_not_occursIn new h]

theorem cutWhere?_eq_some {p : Char → Bool} {s a b : List Char}
    (h : cutWhere? p s = some (a, b)) :
    ∃ c, p c = true ∧ s = a ++ c :: b ∧ ∀ x ∈ a, p x = false := by
  induction s generalizing a with
  | nil => simp [cutWhere?] at h
  | cons c r ih =>
    by_cases hc : p c = true
    · simp only [cutWhere?, hc, ↓reduceIte, Option.some.injEq, Prod.mk.injEq] at h
      obtain ⟨rfl, rfl⟩ := h
      exact ⟨c, hc, rfl, by simp⟩
    · simp only [cutWhere?, hc] at h
      obtain ⟨⟨a', b'⟩, h', heq⟩ := Option.map_eq_some_iff.1 h
      obtain ⟨rfl, rfl⟩ := Prod.mk.inj heq
      obtain ⟨d, hd, rfl, hall⟩ := ih h'
      refine ⟨d, hd, rfl, fun x hx => ?_⟩
      rcases List.mem_cons.1 hx with rfl | hx
      · simpa using hc
      · exact hall x hx

theorem cutWhere?_append {p : Char → Bool} {s : List Char} {c : Char} (hs : ∀ c ∈ s, p c = false)
    (hc : p c = true) (t : List Char) : cutWhere? p (s ++ c :: t) = some (s, t) := by
  induction s with
  | nil => simp only [List.nil_append, cutWhere?, hc, ↓reduceIte]
  | cons d s ih =>
    have hd := hs d List.mem_cons_self
    simp only [List.cons_append, cutWhere?, hd, Bool.false_eq_true, ↓reduceIte]
    rw [ih fun c hc => hs c (List.mem_cons_of_mem d hc)]
    rfl

theorem cutWhere?_eq_none_iff {p : Char → Bool} {s : List Char} :
    cutWhere? p s = none ↔ ∀ c ∈ s, p c = false := by
  induction s with
  | nil => simp [cutWhere?]
  | cons c r ih =>
    by_cases hc : p c = true
    · simp [cutWhere?, hc]
    · simp [cutWhere?, hc, ih]

end Imprint.Text
