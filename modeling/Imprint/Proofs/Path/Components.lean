import Mathlib.Data.List.DropRight
import Imprint.Path
import Imprint.Proofs.Text.Lines

/-!
# Components of parents, joins and siblings

The operations on paths are written on texts; what they mean is said by the components. The parent
of a path with a file name has the components before that name, joining with a plain name adds one
component, and so a path whose file name is exchanged differs from the old one in its last component
only.

A *plain* name is one that a directory can hold: not empty, no slash in it, neither `.` nor `..`.

## Main definitions

* `Imprint.Path.IsPlain`: names of entries.
* `Imprint.Path.ofSegs`: the components that a list of segments stands for.

## Main results

* `Imprint.Path.components_of_parent?`: the components of a parent.
* `Imprint.Path.components_join`: the components of a path joined with a plain name.
* `Imprint.Path.components_withFileName`: a sibling differs in the last component only.
-/

namespace Imprint.Path

open Text

/-! ### Components of segments -/

/-- A name that a directory can hold. -/
def IsPlain (name : String) : Prop :=
  name ≠ "" ∧ name ≠ "." ∧ name ≠ ".." ∧ '/' ∉ name.toList

instance (name : String) : Decidable (IsPlain name) :=
  inferInstanceAs (Decidable (_ ∧ _))

/-- The components that segments stand for. -/
def ofSegs : List (List Char) → List Component
  | [] => []
  | s :: rest =>
    Component.ofHead s rest.isEmpty ++ (rest.filter (!isIdle ·)).map Component.ofSegment

theorem components_eq_ofSegs (p : Path) : p.components = ofSegs p.segments := by
  unfold components
  cases p.segments <;> rfl

theorem segments_ne_nil (p : Path) : p.segments ≠ [] :=
  Text.segments_ne_nil '/' _

theorem ofSegment_eq_name_iff {s : List Char} {n : String} :
    Component.ofSegment s = .name n ↔ s ≠ ['.', '.'] ∧ n = String.ofList s := by
  by_cases hs : s = ['.', '.']
  · simp [Component.ofSegment, hs]
  · have hname : Component.ofSegment s = .name (String.ofList s) := by
      simp [Component.ofSegment, hs]
    simp only [hname, Component.name.injEq, ne_eq, hs, not_false_eq_true, true_and]
    exact eq_comm

theorem IsPlain.ofSegment {n : String} (h : IsPlain n) :
    Component.ofSegment n.toList = .name n := by
  refine ofSegment_eq_name_iff.2 ⟨fun hn => h.2.2.1 ?_, String.ofList_toList.symm⟩
  exact String.toList_inj.1 hn

theorem IsPlain.not_isIdle {n : String} (h : IsPlain n) : isIdle n.toList = false := by
  have h1 : n.toList ≠ [] := fun hn => h.1 (String.toList_eq_nil_iff.1 hn)
  have h2 : n.toList ≠ ['.'] := fun hn => h.2.1 (String.toList_inj.1 hn)
  simp [isIdle, h1, h2]

/-- A first segment that is not empty, or has others behind it, stands for the same component
wherever it is followed by more. -/
theorem ofHead_false {s : List Char} {rest : List (List Char)} (h : s ≠ [] ∨ rest ≠ []) :
    Component.ofHead s rest.isEmpty = Component.ofHead s false := by
  cases rest with
  | nil => simp_all [Component.ofHead]
  | cons a l => rfl

/-- Only the text without a character says nothing. -/
theorem components_ne_nil {p : Path} (h : p.text.toList ≠ []) : p.components ≠ [] := by
  obtain ⟨s, rest, hp⟩ := List.exists_cons_of_ne_nil p.segments_ne_nil
  have hhead : s ≠ [] ∨ rest ≠ [] := by
    by_contra hnot
    obtain ⟨rfl, rfl⟩ : s = [] ∧ rest = [] := by simpa using hnot
    refine h ?_
    rw [← intercalate_segments '/' p.text.toList, ← segments, hp]
    rfl
  rw [components_eq_ofSegs, hp, ofSegs, ofHead_false hhead]
  simp only [Component.ofHead]
  split
  · simp
  · split <;> simp

/-- Only the first component can be the root. -/
theorem root_notMem_tail {p : Path} {c : Component} {cs : List Component}
    (h : p.components = c :: cs) : .root ∉ cs := by
  obtain ⟨s, rest, hp⟩ := List.exists_cons_of_ne_nil p.segments_ne_nil
  have hname (x : List Char) : Component.ofSegment x ≠ .root := by
    simp only [Component.ofSegment]
    split <;> simp
  have hrest : .root ∉ (rest.filter (!isIdle ·)).map Component.ofSegment := fun hmem => by
    obtain ⟨x, -, hx⟩ := List.mem_map.1 hmem
    exact hname x hx
  rw [components_eq_ofSegs, hp, ofSegs] at h
  rcases List.cons_eq_append_iff.1 h.symm with ⟨-, htail⟩ | ⟨as, hhead, rfl⟩
  · exact fun hmem => hrest (htail ▸ List.mem_cons_of_mem _ hmem)
  · -- the head is one component at most
    have has : as = [] := by
      simp only [Component.ofHead] at hhead
      split at hhead
      · split at hhead <;> simp_all
      · split at hhead <;> simp_all
    rwa [has, List.nil_append]

/-- A plain name behind other segments adds a component. -/
theorem ofSegs_append {s : List Char} {rest : List (List Char)} {n : String} (h : IsPlain n) :
    ofSegs (s :: (rest ++ [n.toList])) =
      Component.ofHead s false ++ (rest.filter (!isIdle ·)).map Component.ofSegment ++
        [.name n] := by
  have he : (rest ++ [n.toList]).isEmpty = false := by cases rest <;> rfl
  simp [ofSegs, he, h.not_isIdle, h.ofSegment]

/-- A path put together from segments has them. -/
theorem segments_ofSegments {s : List Char} {rest : List (List Char)}
    (h : ∀ p ∈ s :: rest, '/' ∉ p) (hroot : ¬(s = [] ∧ rest = [])) :
    (ofSegments s rest).segments = s :: rest := by
  have hne : ¬(s.isEmpty && rest.isEmpty) = true := by simpa using hroot
  rw [ofSegments, if_neg hne]
  simpa only [segments, String.toList_ofList] using
    segments_intercalate (List.cons_ne_nil s rest) h

/-- The components of a path put together from a first segment and more. -/
theorem components_ofSegments {s : List Char} {rest : List (List Char)}
    (h : ∀ p ∈ s :: rest, '/' ∉ p) :
    (ofSegments s rest).components =
      Component.ofHead s false ++ (rest.filter (!isIdle ·)).map Component.ofSegment := by
  by_cases hroot : s = [] ∧ rest = []
  · obtain ⟨rfl, rfl⟩ := hroot
    rfl
  · rw [components_eq_ofSegs, segments_ofSegments h hroot, ofSegs,
      ofHead_false (not_and_or.1 hroot)]

/-! ### The parent -/

theorem dropIdleEnd_eq_rdropWhile (segs : List (List Char)) :
    dropIdleEnd segs = segs.rdropWhile isIdle := rfl

/-- Dropping idle segments drops no component. -/
theorem filter_dropIdleEnd (segs : List (List Char)) :
    (dropIdleEnd segs).filter (!isIdle ·) = segs.filter (!isIdle ·) := by
  rw [dropIdleEnd_eq_rdropWhile]
  induction segs using List.reverseRecOn with
  | nil => rfl
  | append_singleton l a ih =>
    by_cases ha : isIdle a
    · simpa [List.rdropWhile_concat, ha] using ih
    · simp [ha]

/-- The components of a path are those of its first segment and of what follows it, up to the last
segment that is not idle. -/
theorem components_of_segments {p : Path} {s : List Char} {rest : List (List Char)}
    (hp : p.segments = s :: rest) :
    p.components = Component.ofHead s rest.isEmpty ++
      ((dropIdleEnd rest).filter (!isIdle ·)).map Component.ofSegment := by
  rw [components_eq_ofSegs, hp, ofSegs, filter_dropIdleEnd]

/-- The parent of a path has all its components but the last. -/
theorem components_of_parent? {p q : Path} (h : p.parent? = some q) :
    ∃ c, p.components = q.components ++ [c] := by
  obtain ⟨s, rest, hp⟩ := List.exists_cons_of_ne_nil p.segments_ne_nil
  have hslash : ∀ x ∈ s :: rest, '/' ∉ x := fun x hx => notMem_of_mem_segments (hp ▸ hx)
  have hcomp := components_of_segments hp
  rcases List.eq_nil_or_concat' (dropIdleEnd rest) with hd | ⟨before, x, hd⟩
  · -- all that follows the first segment is idle, which then is the only component
    simp only [hd, List.filter_nil, List.map_nil, List.append_nil] at hcomp
    obtain ⟨hs, rfl⟩ : s ≠ [] ∧ ⟨""⟩ = q := by simpa [parent?, hp, hd] using h
    rw [hcomp]
    by_cases hdot : s = ['.']
    · exact ⟨.current, by simp [Component.ofHead, hdot]; rfl⟩
    · exact ⟨Component.ofSegment s, by simp [Component.ofHead, hs, hdot]; rfl⟩
  · obtain rfl : ofSegments s (dropIdleEnd before) = q := by simpa [parent?, hp, hd] using h
    have hx : isIdle x = false := by
      have := List.rdropWhile_last_not isIdle rest (by simp [← dropIdleEnd_eq_rdropWhile, hd])
      simpa [← dropIdleEnd_eq_rdropWhile, hd] using this
    have hsub : before ++ [x] <+: rest := hd ▸ List.rdropWhile_prefix isIdle rest
    have hmem : ∀ y ∈ s :: dropIdleEnd before, '/' ∉ y := by
      intro y hy
      rcases List.mem_cons.1 hy with rfl | hy
      · exact hslash _ List.mem_cons_self
      · have hyb : y ∈ before := (List.rdropWhile_prefix isIdle before).subset hy
        exact hslash y (List.mem_cons_of_mem _ (hsub.subset (List.mem_append_left _ hyb)))
    have hrest : rest ≠ [] := by
      rintro rfl
      simp [dropIdleEnd] at hd
    refine ⟨Component.ofSegment x, ?_⟩
    rw [components_ofSegments hmem, filter_dropIdleEnd, hcomp, ofHead_false (.inr hrest), hd]
    simp [hx]

/-- A path with a file name has a parent, which has the components before that name. -/
theorem parent?_of_fileName? {p : Path} {n : String} (h : p.fileName? = some n) :
    ∃ q, p.parent? = some q ∧ p.components = q.components ++ [.name n] := by
  have hlast : p.components.getLast? = some (.name n) := by
    simp only [fileName?] at h
    split at h <;> simp_all
  cases hq : p.parent? with
  | some q =>
    obtain ⟨c, hc⟩ := components_of_parent? hq
    rw [hc, List.getLast?_concat, Option.some.injEq] at hlast
    exact ⟨q, rfl, hlast ▸ hc⟩
  | none =>
    obtain ⟨s, rest, hp⟩ := List.exists_cons_of_ne_nil p.segments_ne_nil
    have hcomp := components_of_segments hp
    rcases List.eq_nil_or_concat' (dropIdleEnd rest) with hd | ⟨before, x, hd⟩
    · obtain rfl : s = [] := by simpa [parent?, hp, hd] using hq
      rw [hcomp, hd] at hlast
      cases hr : rest.isEmpty <;> simp [Component.ofHead, hr] at hlast
    · simp [parent?, hp, hd] at hq

/-- A plain name at the end is the file name. -/
theorem fileName?_of_segments {p : Path} {init : List (List Char)} {n : String} (hn : IsPlain n)
    (hp : p.segments = init ++ [n.toList]) : p.fileName? = some n := by
  rw [fileName?, components_eq_ofSegs, hp]
  cases init with
  | nil =>
    have hidle := hn.not_isIdle
    simp only [isIdle, Bool.or_eq_false_iff, beq_eq_false_iff_ne] at hidle
    simp [ofSegs, Component.ofHead, hidle, hn.ofSegment]
  | cons a init => simp [ofSegs_append hn]

/-- A segment that stands for a name stands for a plain one. -/
theorem isPlain_of_ofSegment {x : List Char} {n : String} (hslash : '/' ∉ x)
    (hidle : isIdle x = false) (hn : Component.ofSegment x = .name n) : IsPlain n := by
  obtain ⟨hup, rfl⟩ := ofSegment_eq_name_iff.1 hn
  simp only [isIdle, Bool.or_eq_false_iff, beq_eq_false_iff_ne, ne_eq] at hidle
  refine ⟨?_, ?_, ?_, by simpa using hslash⟩ <;>
    rw [ne_eq, ← String.toList_inj, String.toList_ofList]
  exacts [hidle.1, hidle.2, hup]

/-- The names among the components of a path are plain. -/
theorem isPlain_of_mem_components {p : Path} {n : String} (h : .name n ∈ p.components) :
    IsPlain n := by
  obtain ⟨s, rest, hp⟩ := List.exists_cons_of_ne_nil p.segments_ne_nil
  have hslash : ∀ x ∈ s :: rest, '/' ∉ x := fun x hx => notMem_of_mem_segments (hp ▸ hx)
  rw [components_eq_ofSegs, hp, ofSegs, List.mem_append] at h
  rcases h with h | h
  · simp only [Component.ofHead] at h
    split at h
    · split at h <;> simp at h
    · split at h
      · simp at h
      · exact isPlain_of_ofSegment (hslash s List.mem_cons_self) (by simp_all [isIdle])
          (by simp_all)
  · obtain ⟨x, hx, hn⟩ := List.mem_map.1 h
    rw [List.mem_filter] at hx
    exact isPlain_of_ofSegment (hslash x (List.mem_cons_of_mem _ hx.1)) (by simpa using hx.2) hn

/-- The file name of a path is plain. -/
theorem isPlain_of_fileName? {p : Path} {n : String} (h : p.fileName? = some n) : IsPlain n := by
  obtain ⟨q, -, hq⟩ := parent?_of_fileName? h
  exact isPlain_of_mem_components (p := p) (by simp [hq])

/-! ### Joining -/

theorem IsPlain.not_isAbsolute {n : String} (h : IsPlain n) :
    (⟨n⟩ : Path).isAbsolute = false := by
  simp only [isAbsolute, beq_eq_false_iff_ne, ne_eq]
  exact fun hn => h.2.2.2 (List.mem_of_head? hn)

/-- Joining with a relative path adds its segments, in the place of an empty one at the end. -/
theorem segments_join_of_not_isAbsolute {p q : Path} (hq : q.isAbsolute = false) :
    ∃ front, (p.join q).segments = front ++ q.segments ∧
      (p.segments = front ++ [[]] ∨ p.segments = front ∧ front ≠ [[]]) := by
  obtain ⟨t⟩ := p
  simp only [join, hq, Bool.false_eq_true, ↓reduceIte]
  split
  · next hend =>
    -- the text is empty or ends in a slash: its last segment is empty
    rcases List.eq_nil_or_concat' t.toList with hnil | ⟨r, c, hrc⟩
    · exact ⟨[], by simp [segments, hnil], .inl (by simp [segments, hnil, Text.segments])⟩
    · obtain rfl : c = '/' := by simpa [hrc] using hend
      refine ⟨Text.segments '/' r, ?_, .inl ?_⟩
      · simp [segments, hrc, segments_append_sep]
      · rw [segments, hrc, segments_append_sep]
        rfl
  · next hend =>
    refine ⟨Text.segments '/' t.toList, ?_, .inr ⟨rfl, fun hnil => hend ?_⟩⟩
    · simp [segments, segments_append_sep]
    · have ht := intercalate_segments '/' t.toList
      rw [hnil] at ht
      rw [← ht]
      rfl

/-- Joining with a plain name adds a segment, in the place of an empty one at the end. -/
theorem segments_join {n : String} (h : IsPlain n) (q : Path) :
    (∃ init, q.segments = init ++ [[]] ∧ (q.join ⟨n⟩).segments = init ++ [n.toList]) ∨
      q.segments ≠ [[]] ∧ (q.join ⟨n⟩).segments = q.segments ++ [n.toList] := by
  obtain ⟨front, hjoin, hq⟩ := segments_join_of_not_isAbsolute (p := q) h.not_isAbsolute
  have hn : (⟨n⟩ : Path).segments = [n.toList] := segments_of_notMem h.2.2.2
  rw [hn] at hjoin
  rcases hq with hq | ⟨rfl, hne⟩
  · exact .inl ⟨front, hq, hjoin⟩
  · exact .inr ⟨hne, hjoin⟩

/-- The segments that are not idle stand for components, and only a `.` at the start is left out. -/
theorem filter_ofSegs {s : List Char} {rest : List (List Char)} (h : s ≠ [] ∨ rest = []) :
    (ofSegs (s :: rest)).filter (· ≠ .current) =
      ((s :: rest).filter (!isIdle ·)).map Component.ofSegment := by
  have hname (x : List Char) : Component.ofSegment x ≠ .current := by
    simp only [Component.ofSegment]
    split <;> simp
  have hrest : ((rest.filter (!isIdle ·)).map Component.ofSegment).filter (· ≠ .current) =
      (rest.filter (!isIdle ·)).map Component.ofSegment :=
    List.filter_eq_self.2 fun c hc => by
      obtain ⟨x, -, rfl⟩ := List.mem_map.1 hc
      simpa using hname x
  rw [ofSegs, List.filter_append, hrest]
  by_cases hs : s = []
  · obtain rfl := h.resolve_left (not_not_intro hs)
    simp [hs, Component.ofHead, isIdle]
  · by_cases hdot : s = ['.']
    · simp [hdot, Component.ofHead, isIdle]
    · simp [hs, hdot, Component.ofHead, isIdle, hname]

/-- The first segment of a relative path is empty only when the path is. -/
theorem segments_of_not_isAbsolute {q : Path} (hq : q.isAbsolute = false) :
    ∃ s rest, q.segments = s :: rest ∧ (s ≠ [] ∨ rest = []) := by
  cases hcs : q.text.toList with
  | nil => exact ⟨[], [], by simp [segments, hcs, Text.segments], .inr rfl⟩
  | cons c r =>
    have hc : c ≠ '/' := by simpa [isAbsolute, hcs] using hq
    obtain ⟨x, rest, hr⟩ := List.exists_cons_of_ne_nil (Text.segments_ne_nil '/' r)
    exact ⟨c :: x, rest, by simp [segments, hcs, Text.segments, hc, hr], .inl (by simp)⟩

/-- Joining with a relative path adds its components, but for a `.` at its start when something
stands in front of it. -/
theorem components_join_of_not_isAbsolute {p q : Path} (hq : q.isAbsolute = false) :
    ∃ rest, (p.join q).components = p.components ++ rest ∧
      (rest = q.components ∨ rest = q.components.filter (· ≠ .current)) := by
  obtain ⟨front, hjoin, hp⟩ := segments_join_of_not_isAbsolute (p := p) hq
  cases front with
  | nil =>
    obtain hp : p.segments = [[]] := hp.resolve_right fun h => p.segments_ne_nil h.1
    refine ⟨q.components, ?_, .inl rfl⟩
    rw [components_eq_ofSegs, hjoin, components_eq_ofSegs, components_eq_ofSegs, hp]
    rfl
  | cons s rest =>
    have hcomponents :
        p.components = Component.ofHead s false ++ (rest.filter (!isIdle ·)).map .ofSegment := by
      rw [components_eq_ofSegs]
      rcases hp with hp | ⟨hp, hne⟩
      · have hrest : (rest ++ [[]]).isEmpty = false := by cases rest <;> rfl
        simp [hp, ofSegs, hrest, isIdle]
      · have hhead : s ≠ [] ∨ rest ≠ [] := by
          by_contra hnot
          obtain ⟨rfl, rfl⟩ : s = [] ∧ rest = [] := by simpa using hnot
          exact hne rfl
        rw [hp, ofSegs, ofHead_false hhead]
    obtain ⟨x, xs, hx, hhead⟩ := segments_of_not_isAbsolute hq
    have hmore : (rest ++ x :: xs).isEmpty = false := by cases rest <;> rfl
    refine ⟨q.components.filter (· ≠ .current), ?_, .inr rfl⟩
    rw [components_eq_ofSegs q, hx, filter_ofSegs hhead, components_eq_ofSegs, hjoin, hx,
      List.cons_append, ofSegs, hmore, List.filter_append, List.map_append, hcomponents,
      List.append_assoc]

/-- Joining with a plain name adds a component. -/
theorem components_join {n : String} (h : IsPlain n) (q : Path) :
    (q.join ⟨n⟩).components = q.components ++ [.name n] := by
  have hn : (⟨n⟩ : Path).components = [.name n] := by
    have hidle := h.not_isIdle
    simp only [isIdle, Bool.or_eq_false_iff, beq_eq_false_iff_ne] at hidle
    have hsegments : (⟨n⟩ : Path).segments = [n.toList] := segments_of_notMem h.2.2.2
    simp [components_eq_ofSegs, hsegments, ofSegs, Component.ofHead, hidle, h.ofSegment]
  obtain ⟨rest, hjoin, hrest⟩ := components_join_of_not_isAbsolute (p := q) h.not_isAbsolute
  rw [hjoin]
  rcases hrest with rfl | rfl <;> simp [hn]

/-- A path whose file name is exchanged differs from the old one in the last component only. -/
theorem components_withFileName {p : Path} {n m : String} (h : p.fileName? = some n)
    (hm : IsPlain m) :
    ∃ cs, p.components = cs ++ [.name n] ∧ (p.withFileName m).components = cs ++ [.name m] := by
  obtain ⟨q, hparent, hq⟩ := parent?_of_fileName? h
  refine ⟨q.components, hq, ?_⟩
  rw [withFileName, h, hparent]
  exact components_join hm q

end Imprint.Path
