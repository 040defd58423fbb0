import Mathlib.Data.Set.List
import Imprint.Proofs.Store.Denotation

/-!
# Spellings of a path

One file can be written in more ways than one: slashes may be repeated, and a `.` may stand between
them or at the start. What a path says apart from that is its *spine*, and two paths are about the
same file when they have the same spine. A path in which every segment counts is *tidy*; it is the
only tidy spelling of its file.

## Main definitions

* `Imprint.Path.spine`: the components of a path without a `.` at the start.
* `Imprint.Path.SameFile`: paths that differ in their spelling only.
* `Imprint.Path.IsTidy`: paths without repeated slashes and without a `.`.

## Main results

* `Imprint.Path.sameFile_join_iff`: the directory in front has no part in this.
* `Imprint.Path.IsTidy.eq_of_sameFile`: tidy paths of the same file are equal.
* `Imprint.Path.location_join_eq_iff`: the same file is the same location.
-/

namespace Imprint.Path

variable {p q : Path} {dir : Path} {cwd : Location}

/-- What a path says, whether or not it starts with a `.`. -/
def spine (p : Path) : List Component :=
  p.components.filter (· ≠ .current)

/-- Paths that say the same once slashes and every `.` that do not count are left out. -/
def SameFile (p q : Path) : Prop :=
  p.spine = q.spine

instance (p q : Path) : Decidable (SameFile p q) :=
  inferInstanceAs (Decidable (_ = _))

/-- No segment is empty or a `.`. -/
def IsTidy (p : Path) : Prop :=
  ∀ segment ∈ p.segments, isIdle segment = false

instance (p : Path) : Decidable (IsTidy p) :=
  inferInstanceAs (Decidable (∀ _ ∈ _, _))

theorem SameFile.refl (p : Path) : SameFile p p :=
  rfl

/-! ### Joining -/

theorem spine_join (hq : q.isAbsolute = false) : (p.join q).spine = p.spine ++ q.spine := by
  obtain ⟨rest, hjoin, hrest⟩ := components_join_of_not_isAbsolute (p := p) hq
  rw [spine, hjoin, List.filter_append]
  rcases hrest with rfl | rfl
  · rfl
  · rw [List.filter_filter]
    simp [spine]

/-- Relative paths are about the same file in every directory or in none. -/
theorem sameFile_join_iff (hp : p.isAbsolute = false) (hq : q.isAbsolute = false) :
    SameFile (dir.join p) (dir.join q) ↔ SameFile p q := by
  rw [SameFile, spine_join hp, spine_join hq, List.append_right_inj, SameFile]

/-! ### Tidy paths -/

theorem ofSegment_injective : Function.Injective Component.ofSegment := by
  intro s t h
  by_cases hs : s = ['.', '.']
  · by_contra hne
    have hname : Component.ofSegment t = .name (String.ofList t) :=
      ofSegment_eq_name_iff.2 ⟨fun ht => hne (hs.trans ht.symm), rfl⟩
    rw [hs, hname] at h
    cases h
  · have hname : Component.ofSegment s = .name (String.ofList s) :=
      ofSegment_eq_name_iff.2 ⟨hs, rfl⟩
    exact String.ofList_injective (ofSegment_eq_name_iff.1 (h.symm.trans hname)).2

/-- In a tidy path each segment is a component. -/
theorem IsTidy.spine_eq (h : p.IsTidy) : p.spine = p.segments.map Component.ofSegment := by
  obtain ⟨s, rest, hp⟩ := List.exists_cons_of_ne_nil p.segments_ne_nil
  have hkept : (s :: rest).filter (!isIdle ·) = s :: rest :=
    List.filter_eq_self.2 fun x hx => by simpa using h x (hp ▸ hx)
  have hhead : s ≠ [] := by
    rintro rfl
    exact absurd (h [] (by simp [hp])) (by decide)
  rw [spine, components_eq_ofSegs, hp, filter_ofSegs (.inl hhead), hkept]

/-- Tidy paths of the same file are equal. -/
theorem IsTidy.eq_of_sameFile (hp : p.IsTidy) (hq : q.IsTidy) (h : SameFile p q) : p = q := by
  rw [SameFile, hp.spine_eq, hq.spine_eq] at h
  have hsegments : p.segments = q.segments := ofSegment_injective.list_map h
  have htext : p.text.toList = q.text.toList := by
    rw [← Text.intercalate_segments '/' p.text.toList, ← segments, hsegments, segments,
      Text.intercalate_segments]
  cases p
  cases q
  exact congrArg Path.mk (String.toList_inj.1 htext)

/-! ### Locations -/

theorem location_eq_foldl_spine (cwd : Location) (p : Path) :
    p.location cwd = p.spine.foldl Component.follow cwd := by
  rw [spine, foldl_follow_filter, location]

theorem SameFile.location_eq (h : SameFile p q) : p.location cwd = q.location cwd := by
  rw [location_eq_foldl_spine, location_eq_foldl_spine, h]

theorem foldl_follow_names (names : List String) (l : Location) :
    (names.map Component.name).foldl Component.follow l = l ++ names := by
  induction names generalizing l with
  | nil => simp
  | cons n names ih => simp [Component.follow, ih]

/-- The spine of a path that neither starts at the root nor goes up is made of names. -/
theorem exists_names_of_spine (hup : .parent ∉ p.components) (hroot : .root ∉ p.components) :
    ∃ names : List String, p.spine = names.map .name := by
  have hnames : ∀ c ∈ p.spine, ∃ n, .name n = c := by
    intro c hc
    obtain ⟨hc, hcurrent⟩ := List.mem_filter.1 hc
    cases c with
    | root => exact absurd hc hroot
    | current => simp at hcurrent
    | parent => exact absurd hc hup
    | name n => exact ⟨n, rfl⟩
  have hrange : p.spine ∈ Set.range (List.map Component.name) := by
    rw [Set.range_list_map]
    exact hnames
  obtain ⟨names, hspine⟩ := hrange
  exact ⟨names, hspine.symm⟩

/-- Below a directory the same file is the same location. -/
theorem location_join_eq_iff
    (hp : p.isAbsolute = false) (hpup : .parent ∉ p.components) (hproot : .root ∉ p.components)
    (hq : q.isAbsolute = false) (hqup : .parent ∉ q.components) (hqroot : .root ∉ q.components) :
    (dir.join p).location cwd = (dir.join q).location cwd ↔ SameFile p q := by
  refine ⟨fun h => ?_, fun h => ((sameFile_join_iff hp hq).2 h).location_eq⟩
  have hbelow {r : Path} (hr : r.isAbsolute = false) {names : List String}
      (hnames : r.spine = names.map .name) :
      (dir.join r).location cwd = dir.location cwd ++ names := by
    rw [location_eq_foldl_spine, location_eq_foldl_spine, spine_join hr, List.foldl_append, hnames,
      foldl_follow_names]
  obtain ⟨ms, hms⟩ := exists_names_of_spine hpup hproot
  obtain ⟨ns, hns⟩ := exists_names_of_spine hqup hqroot
  rw [hbelow hp hms, hbelow hq hns, List.append_right_inj] at h
  rw [SameFile, hms, hns, h]

end Imprint.Path
