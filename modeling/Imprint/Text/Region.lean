import Imprint.Text.Search

/-!
# Regions of a text

A reader that takes something off the front of a text cuts any text into regions: what it finds,
leftmost first and never overlapping, and the plain text in between.

## Main definitions

* `Imprint.Text.Region`: a stretch of plain text or something found.
* `Imprint.Text.regions`: the regions of a text.
* `Imprint.Text.findAll`, `Imprint.Text.removeAll`: only what is found, or only the plain text.

## Main results

* `Imprint.Text.regions_of_none`: a text in which nothing is found is one plain stretch.
-/

namespace Imprint.Text

/-- A stretch of a text. -/
inductive Region (α : Type) where
  | plain (text : List Char)
  | found (value : α)
  deriving Repr

/-- Regions with one more character in front. -/
def Region.consPlain {α : Type} (c : Char) : List (Region α) → List (Region α)
  | .plain t :: rest => .plain (c :: t) :: rest
  | rest => .plain [c] :: rest

/-- The regions of a text, after passing over some characters. The reader gives what it found at the
front together with what follows it. -/
def regionsFrom {α : Type} (read? : List Char → Option (α × List Char)) :
    Nat → List Char → List (Region α)
  | _, [] => []
  | k + 1, _ :: r => regionsFrom read? k r
  | 0, c :: r =>
    match read? (c :: r) with
    | some (a, rest) => .found a :: regionsFrom read? (r.length - rest.length) r
    | none => Region.consPlain c (regionsFrom read? 0 r)

/-- The regions of a text. -/
def regions {α : Type} (read? : List Char → Option (α × List Char)) (s : List Char) :
    List (Region α) :=
  regionsFrom read? 0 s

/-- What a reader finds in a text. -/
def findAll {α : Type} (read? : List Char → Option (α × List Char)) (s : List Char) : List α :=
  (regions read? s).filterMap fun
    | .plain _ => none
    | .found a => some a

/-- The text without what a reader finds in it. -/
def removeAll {α : Type} (read? : List Char → Option (α × List Char)) (s : List Char) :
    List Char :=
  (regions read? s).flatMap fun
    | .plain t => t
    | .found _ => []

/-! ### Small facts -/

@[simp] theorem regions_nil {α : Type} (read? : List Char → Option (α × List Char)) :
    regions read? [] = [] := rfl

@[simp] theorem findAll_nil {α : Type} (read? : List Char → Option (α × List Char)) :
    findAll read? [] = [] := rfl

@[simp] theorem removeAll_nil {α : Type} (read? : List Char → Option (α × List Char)) :
    removeAll read? [] = [] := rfl

/-- A text in which nothing is found is one plain stretch. -/
theorem regions_of_none {α : Type} {read? : List Char → Option (α × List Char)} {c : Char}
    {r : List Char} (h : ∀ t, t <:+ c :: r → t ≠ [] → read? t = none) :
    regions read? (c :: r) = [.plain (c :: r)] := by
  induction r generalizing c with
  | nil => simp [regions, regionsFrom, h [c] List.suffix_rfl, Region.consPlain]
  | cons d r ih =>
    have hc := h (c :: d :: r) List.suffix_rfl (by simp)
    have hd := ih (c := d) fun t ht hne => h t (ht.trans (List.suffix_cons c _)) hne
    simp only [regions] at hd ⊢
    rw [regionsFrom, hc, hd]
    rfl

end Imprint.Text
