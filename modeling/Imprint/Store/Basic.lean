import Imprint.Store.Fault

/-!
# The file store

The files that a run can see, as a value. A *location* is the list of names from the root down to an
entry. The store is a finite map from locations to entries, together with its *site*: the working
directory, the writes that the site does not take to the end, and the directories that it does not
take. The working directory and the directories above it are always there.

What a site answers depends on the location and on the bytes alone, so the same write is answered
alike whatever else the store holds and whenever it is made. A write that is cut short leaves the
bytes that were taken in the file. There are no links, nothing is kept from being read, moved,
removed or replaced, and names are texts.

## Main definitions

* `Imprint.Store.Entry`: a file with its bytes, or a directory.
* `Imprint.Store.Refusal`, `Imprint.Store.Site`: what is not taken, or not to the end.
* `Imprint.Store`: a finite map from locations to entries.
* `Imprint.Store.get?`, `Imprint.Store.insert`, `Imprint.Store.erase`: look up, put, remove.

## Main results

* `Imprint.Store.get?_insert`, `Imprint.Store.get?_erase`: what a look-up finds after a change.
* `Imprint.Store.Same`: two stores that look-ups cannot tell apart.
-/

namespace Imprint

/-- The names from the root down to an entry. -/
abbrev Location := List String

/-- What stands at a location. -/
inductive Store.Entry where
  | file (content : ByteArray)
  | directory

instance : DecidableEq Store.Entry
  | .file a, .file b => decidable_of_iff (a.data = b.data) (by simp [ByteArray.ext_iff])
  | .directory, .directory => isTrue rfl
  | .file _, .directory => isFalse Store.Entry.noConfusion
  | .directory, .file _ => isFalse Store.Entry.noConfusion

/-- A write of `content` that is not taken to the end. -/
structure Store.Refusal (content : ByteArray) where
  fault : Store.Fault
  /-- How many bytes were taken, always less than all; none stands for a file that could not be
  opened. -/
  taken? : Option (Fin content.size)

/-- What surrounds the entries of a store. -/
structure Store.Site where
  /-- The working directory. -/
  cwd : Location := []
  /-- The writes that are not taken to the end. -/
  refusal? : Location → (content : ByteArray) → Option (Store.Refusal content) := fun _ _ => none
  /-- The directories that cannot be made. -/
  barred? : Location → Option Store.Fault := fun _ => none

/-- The entries below the root, each location at most once, and what surrounds them. -/
structure Store where
  entries : List (Location × Store.Entry) := []
  site : Store.Site := {}

namespace Store

/-- The working directory and the directories above it, which stay what they are. -/
def IsFixed (s : Store) (l : Location) : Prop :=
  l <+: s.site.cwd

instance (s : Store) (l : Location) : Decidable (s.IsFixed l) :=
  inferInstanceAs (Decidable (_ <+: _))

/-- The entry at a location. -/
def get? (s : Store) (l : Location) : Option Entry :=
  if s.IsFixed l then some .directory else s.entries.lookup l

/-- The store with `e` at `l`. -/
def insert (s : Store) (l : Location) (e : Entry) : Store :=
  { s with entries := (l, e) :: s.entries.filter fun x => x.1 != l }

/-- The store without the entry at `l`. -/
def erase (s : Store) (l : Location) : Store :=
  { s with entries := s.entries.filter fun x => x.1 != l }

/-- Two stores at one site, with the same entry, or none, at every location. -/
structure Same (s t : Store) : Prop where
  site : s.site = t.site
  get? : ∀ l, s.get? l = t.get? l

/-! ### Look-ups after a change -/

theorem lookup_filter_ne (es : List (Location × Entry)) (l m : Location) :
    (es.filter fun x => x.1 != l).lookup m = if m = l then none else es.lookup m := by
  induction es with
  | nil => simp
  | cons x es ih =>
    obtain ⟨k, e⟩ := x
    by_cases hk : k = l
    · subst hk
      by_cases hm : m = k
      · simp [hm] at ih ⊢; exact ih
      · simpa [List.lookup_cons, hm, beq_eq_false_iff_ne.2 hm] using ih
    · by_cases hm : m = k
      · subst hm; simp [hk]
      · simpa [List.lookup_cons, hk, beq_eq_false_iff_ne.2 hm] using ih

@[simp] theorem site_insert (s : Store) (l : Location) (e : Entry) :
    (s.insert l e).site = s.site := rfl

@[simp] theorem isFixed_insert (s : Store) (l m : Location) (e : Entry) :
    (s.insert l e).IsFixed m ↔ s.IsFixed m := Iff.rfl

@[simp] theorem isFixed_erase (s : Store) (l m : Location) :
    (s.erase l).IsFixed m ↔ s.IsFixed m := Iff.rfl

theorem IsFixed.get?_eq {s : Store} {l : Location} (h : s.IsFixed l) :
    s.get? l = some .directory :=
  if_pos h

theorem get?_of_not_isFixed {s : Store} {l : Location} (h : ¬ s.IsFixed l) :
    s.get? l = s.entries.lookup l :=
  if_neg h

/-- Where no directory stands, entries come and go. -/
theorem not_isFixed {s : Store} {l : Location} (h : s.get? l ≠ some .directory) :
    ¬ s.IsFixed l :=
  fun hl => h hl.get?_eq

@[simp] theorem get?_nil (s : Store) : s.get? [] = some .directory :=
  IsFixed.get?_eq List.nil_prefix

theorem get?_insert (s : Store) (l m : Location) (e : Entry) (hl : ¬ s.IsFixed l) :
    (s.insert l e).get? m = if m = l then some e else s.get? m := by
  by_cases hm : s.IsFixed m
  · have hne : m ≠ l := fun h => hl (h ▸ hm)
    rw [if_neg hne, hm.get?_eq, ((isFixed_insert s l m e).2 hm).get?_eq]
  · rw [get?_of_not_isFixed hm, get?_of_not_isFixed (mt (isFixed_insert s l m e).1 hm)]
    by_cases h : m = l
    · subst h; simp [insert]
    · simp [insert, h, List.lookup_cons, beq_eq_false_iff_ne.2 h, lookup_filter_ne]

theorem get?_erase (s : Store) (l m : Location) (hl : ¬ s.IsFixed l) :
    (s.erase l).get? m = if m = l then none else s.get? m := by
  by_cases hm : s.IsFixed m
  · have hne : m ≠ l := fun h => hl (h ▸ hm)
    rw [if_neg hne, hm.get?_eq, ((isFixed_erase s l m).2 hm).get?_eq]
  · rw [get?_of_not_isFixed hm, get?_of_not_isFixed (mt (isFixed_erase s l m).1 hm), erase,
      lookup_filter_ne]

theorem Same.refl (s : Store) : s.Same s := ⟨rfl, fun _ => rfl⟩

theorem Same.symm {s t : Store} (h : s.Same t) : t.Same s :=
  ⟨h.site.symm, fun l => (h.get? l).symm⟩

theorem Same.trans {s t u : Store} (h : s.Same t) (h' : t.Same u) : s.Same u :=
  ⟨h.site.trans h'.site, fun l => (h.get? l).trans (h'.get? l)⟩

end Store

end Imprint
