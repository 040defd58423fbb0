import Imprint.Proofs.Text.Removal
import Mathlib.Data.String.Basic

/-!
# Byte offsets

A place in a text can be given by the number of bytes in front of it. Not every number is a place: a
character may take up to four bytes, and only where one of them ends and the next begins is a
*boundary*. Taking a part of a text between two offsets is possible only when both are boundaries
and the first one is not behind the second.

## Main definitions

* `Imprint.Text.IsBoundary`: offsets at which a text can be cut.
* `Imprint.Text.slice?`: the part of a text between two offsets.
* `Imprint.Text.byteAt?`: the byte at an offset.
* `Imprint.Text.offset?`: the offset at which another text occurs first.

## Main results

* `Imprint.Text.slice?_eq_some_iff`: what a part is.
* `Imprint.Text.isSome_slice?_iff`: when there is one.
* `Imprint.Text.byteAt?_append`: the byte in front of a boundary says whether a `$` stands there.
* `Imprint.Text.offset?_append`: the first occurrence is found.
-/

namespace Imprint.Text

open String (utf8Len)

variable {a b m p s : List Char} {i j n : Nat}

/-! ### Cutting -/

/-- An offset that has whole characters in front of it. -/
def IsBoundary (s : List Char) (n : Nat) : Prop :=
  ∃ a b, s = a ++ b ∧ utf8Len a = n

/-- The two sides of a boundary. -/
def cutAtOffset? : Nat → List Char → Option (List Char × List Char)
  | 0, s => some ([], s)
  | _ + 1, [] => none
  | n + 1, c :: r =>
    if c.utf8Size ≤ n + 1 then
      (cutAtOffset? (n + 1 - c.utf8Size) r).map fun x => (c :: x.1, x.2)
    else none

/-- The part of a text between two offsets. -/
def slice? (s : List Char) (start stop : Nat) : Option (List Char) := do
  let (front, _) ← cutAtOffset? stop s
  let (_, part) ← cutAtOffset? start front
  return part

theorem cutAtOffset?_append (a b : List Char) :
    cutAtOffset? (utf8Len a) (a ++ b) = some (a, b) := by
  induction a with
  | nil => rw [String.utf8Len_nil, List.nil_append, cutAtOffset?]
  | cons c a ih =>
    obtain ⟨k, hk⟩ : ∃ k, utf8Len (c :: a) = k + 1 :=
      Nat.exists_eq_add_one.2 (Nat.add_pos_right _ c.utf8Size_pos)
    have hlen : k + 1 - c.utf8Size = utf8Len a := by
      rw [← hk, String.utf8Len_cons, Nat.add_sub_cancel]
    have hsize : c.utf8Size ≤ k + 1 := by
      rw [← hk, String.utf8Len_cons]
      exact Nat.le_add_left _ _
    rw [hk, List.cons_append, cutAtOffset?, if_pos hsize, hlen, ih]
    rfl

theorem eq_append_of_cutAtOffset? (h : cutAtOffset? n s = some (a, b)) :
    s = a ++ b ∧ utf8Len a = n := by
  induction n, s using cutAtOffset?.induct generalizing a with
  | case1 s =>
    obtain ⟨rfl, rfl⟩ : [] = a ∧ s = b := by simpa [cutAtOffset?] using h
    exact ⟨rfl, rfl⟩
  | case2 n => simp [cutAtOffset?] at h
  | case3 n c r hsize ih =>
    rw [cutAtOffset?, if_pos hsize] at h
    obtain ⟨⟨a', b'⟩, h', heq⟩ := Option.map_eq_some_iff.1 h
    obtain ⟨rfl, rfl⟩ := Prod.mk.inj heq
    obtain ⟨rfl, hlen⟩ := ih h'
    refine ⟨rfl, ?_⟩
    rw [String.utf8Len_cons, hlen, Nat.sub_add_cancel hsize]
  | case4 n c r hsize => simp [cutAtOffset?, hsize] at h

theorem cutAtOffset?_eq_some_iff :
    cutAtOffset? n s = some (a, b) ↔ s = a ++ b ∧ utf8Len a = n := by
  refine ⟨eq_append_of_cutAtOffset?, ?_⟩
  rintro ⟨rfl, rfl⟩
  exact cutAtOffset?_append a b

/-- What stands between two offsets. -/
theorem slice?_eq_some_iff : slice? s i j = some m ↔
    ∃ a b, s = a ++ (m ++ b) ∧ utf8Len a = i ∧ utf8Len (a ++ m) = j := by
  simp only [slice?, Option.bind_eq_bind, Option.bind_eq_some_iff, Prod.exists,
    cutAtOffset?_eq_some_iff, pure, Option.some.injEq]
  constructor
  · rintro ⟨front, b, ⟨rfl, rfl⟩, a, part, ⟨rfl, rfl⟩, rfl⟩
    exact ⟨a, b, by simp, rfl, rfl⟩
  · rintro ⟨a, b, rfl, rfl, rfl⟩
    exact ⟨a ++ m, b, ⟨by simp, rfl⟩, a, m, ⟨rfl, rfl⟩, rfl⟩

theorem slice?_append (a m b : List Char) :
    slice? (a ++ (m ++ b)) (utf8Len a) (utf8Len (a ++ m)) = some m :=
  slice?_eq_some_iff.2 ⟨a, b, rfl, rfl, rfl⟩

theorem IsBoundary.le (h : IsBoundary s n) : n ≤ utf8Len s := by
  obtain ⟨a, b, rfl, rfl⟩ := h
  simp

/-- There is a part between two boundaries, the first one not behind the second. -/
theorem isSome_slice?_iff :
    (slice? s i j).isSome ↔ i ≤ j ∧ j ≤ utf8Len s ∧ IsBoundary s i ∧ IsBoundary s j := by
  rw [Option.isSome_iff_exists]
  constructor
  · rintro ⟨m, h⟩
    obtain ⟨a, b, rfl, rfl, rfl⟩ := slice?_eq_some_iff.1 h
    have hstop : IsBoundary (a ++ (m ++ b)) (utf8Len (a ++ m)) := ⟨a ++ m, b, by simp, rfl⟩
    exact ⟨by simp, hstop.le, ⟨a, m ++ b, rfl, rfl⟩, hstop⟩
  · rintro ⟨hle, -, ⟨a, b, rfl, rfl⟩, a', b', h, rfl⟩
    rcases List.append_eq_append_iff.1 h with ⟨m, rfl, rfl⟩ | ⟨m, rfl, rfl⟩
    · exact ⟨m, slice?_append a m b'⟩
    · -- the second boundary is not in front of the first, so nothing stands between them
      obtain rfl : m = [] := by simpa using hle
      exact ⟨[], by simpa using slice?_append a' [] b⟩

/-! ### Bytes -/

/-- The byte at an offset. -/
def byteAt? (s : List Char) (n : Nat) : Option UInt8 :=
  (s.flatMap String.utf8EncodeChar)[n]?

/-- The byte that stands for a `$`. -/
def dollarByte : UInt8 := 0x24

theorem length_flatMap_utf8EncodeChar (s : List Char) :
    (s.flatMap String.utf8EncodeChar).length = utf8Len s := by
  induction s with
  | nil => rfl
  | cons c s ih => simp [ih, Nat.add_comm]

/-- The last byte of a character is that of a `$` only for a `$`. -/
theorem getLast?_utf8EncodeChar (c : Char) :
    ∃ x, (String.utf8EncodeChar c).getLast? = some x ∧ (x = dollarByte ↔ c = '$') := by
  have hval : c = '$' ↔ c.val.toNat = 36 := by
    rw [← Char.val_inj, ← UInt32.toNat_inj]
    rfl
  -- a longer character ends in a byte of 128 or more
  have hlong : UInt8.ofNat (c.val.toNat % 64 + 128) ≠ dollarByte := by
    rw [ne_eq, ← UInt8.toNat_inj, UInt8.toNat_ofNat']
    simp only [dollarByte, UInt8.reduceToNat]
    omega
  simp only [String.utf8EncodeChar]
  split
  · next hsmall =>
    refine ⟨UInt8.ofNat c.val.toNat, rfl, ?_⟩
    rw [hval, ← UInt8.toNat_inj, UInt8.toNat_ofNat']
    simp only [dollarByte, UInt8.reduceToNat]
    omega
  · next hlarge =>
    have hne : c ≠ '$' := fun hc => hlarge (by rw [hval.1 hc]; decide)
    split
    · exact ⟨_, rfl, iff_of_false hlong hne⟩
    · split <;> exact ⟨_, rfl, iff_of_false hlong hne⟩

/-- The byte in front of a boundary says whether a `$` stands there. -/
theorem byteAt?_append (a : List Char) (c : Char) (b : List Char) :
    ∃ x, byteAt? (a ++ c :: b) (utf8Len (a ++ [c]) - 1) = some x ∧
      (x = dollarByte ↔ c = '$') := by
  obtain ⟨x, hx, hdollar⟩ := getLast?_utf8EncodeChar c
  refine ⟨x, ?_, hdollar⟩
  obtain ⟨init, hinit⟩ := List.getLast?_eq_some_iff.1 hx
  have hsize : c.utf8Size = init.length + 1 := by
    rw [← String.length_utf8EncodeChar, hinit, List.length_append, List.length_singleton]
  have hoffset : utf8Len (a ++ [c]) - 1 =
      (a.flatMap String.utf8EncodeChar ++ init).length := by
    rw [List.length_append, length_flatMap_utf8EncodeChar, String.utf8Len_append,
      String.utf8Len_cons, String.utf8Len_nil, hsize]
    omega
  have hbytes : (a ++ c :: b).flatMap String.utf8EncodeChar =
      (a.flatMap String.utf8EncodeChar ++ init) ++ x :: b.flatMap String.utf8EncodeChar := by
    rw [List.flatMap_append, List.flatMap_cons, hinit]
    simp
  rw [byteAt?, hbytes, hoffset, List.getElem?_append_right (Nat.le_refl _), Nat.sub_self]
  rfl

/-! ### Searching -/

/-- The offset at which another text occurs first. -/
def offset? (p : List Char) : List Char → Option Nat
  | [] => if p.isEmpty then some 0 else none
  | c :: r => if startsWith p (c :: r) then some 0 else (offset? p r).map (· + c.utf8Size)

theorem offset?_eq_none_iff : offset? p s = none ↔ ¬ p <:+: s := by
  induction s with
  | nil => simp [offset?]
  | cons c r ih =>
    rw [offset?, List.infix_cons_iff, ← startsWith_iff, not_or, ← ih]
    split
    · next hstart => simp [hstart]
    · next hstart => simp [hstart]

/-- The first occurrence is found. -/
theorem offset?_append (hp : p ≠ []) (h : ¬ p <:+: a ++ p.dropLast) (b : List Char) :
    offset? p (a ++ (p ++ b)) = some (utf8Len a) := by
  induction a with
  | nil =>
    obtain ⟨c, w, rfl⟩ := List.exists_cons_of_ne_nil hp
    have hstart : startsWith (c :: w) (c :: (w ++ b)) = true :=
      startsWith_iff.2 (List.prefix_append (c :: w) b)
    simp [offset?, hstart]
  | cons c a ih =>
    have ha : ¬ p <:+: a ++ p.dropLast := fun hp =>
      h (hp.trans (List.suffix_cons c (a ++ p.dropLast)).isInfix)
    simp [offset?, not_startsWith_of_first h b, ih ha]

end Imprint.Text
