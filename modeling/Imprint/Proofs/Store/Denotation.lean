import Imprint.Proofs.Path.Components
import Imprint.Proofs.Store.Walk
import Imprint.Store.Operations

/-!
# What a path denotes

The components of a path say which location it is about, whatever stands in the store: a name goes
down, a `..` goes up, the root leads to the root. Resolving a path in a store asks in addition that
every directory on the way is there. When it succeeds it ends where the components say, so a path
denotes the same location in every store with the same working directory in which it can be
resolved.

## Main definitions

* `Imprint.Path.location`, `Imprint.Store.locate`: what the components of a path say.
* `Imprint.Store.Denotes`: a path that can be resolved up to its last name.
* `Imprint.Store.KeepsDirectories`, `Imprint.Store.SameDirectories`: directories that stay
  directories.

## Main results

* `Imprint.Path.length_foldl_follow`, `Imprint.Path.isPrefix_foldl_follow`: without a `..` every
  name leads one step down.
* `Imprint.Store.locate_of_denotes`: resolving a path agrees with its components.
* `Imprint.Store.Denotes.mono`: a path that can be resolved stays so while directories stay.
* `Imprint.Store.Denotes.unique`: a path denotes one location at most.
-/

namespace Imprint

/-! ### What the components say -/

namespace Path

/-- The location that a component leads to. Above the root is the root. -/
def Component.follow : Location → Component → Location
  | _, .root => []
  | l, .current => l
  | l, .parent => l.dropLast
  | l, .name n => l ++ [n]

/-- The location that a path is about, read from a working directory. -/
def location (cwd : Location) (p : Path) : Location :=
  p.components.foldl Component.follow cwd

/-- A last name is a last name of the location. -/
theorem location_concat {p : Path} {cs : List Component} {n : String} (cwd : Location)
    (hp : p.components = cs ++ [.name n]) :
    p.location cwd = cs.foldl Component.follow cwd ++ [n] := by
  simp [location, hp, Component.follow]

/-- Paths that differ in their last names are about different locations. -/
theorem location_ne_of_name_ne {p q : Path} {cs : List Component} {m n : String}
    (cwd : Location) (hp : p.components = cs ++ [.name m]) (hq : q.components = cs ++ [.name n])
    (hmn : m ≠ n) : p.location cwd ≠ q.location cwd := by
  rw [location_concat cwd hp, location_concat cwd hq]
  simpa using hmn

/-- A `.` leads nowhere. -/
theorem foldl_follow_filter (cs : List Component) (l : Location) :
    (cs.filter (· ≠ .current)).foldl Component.follow l = cs.foldl Component.follow l := by
  induction cs generalizing l with
  | nil => rfl
  | cons c cs ih =>
    cases c with
    | current => exact ih l
    | root | parent | name n =>
      rw [List.filter_cons_of_pos (by simp), List.foldl_cons, List.foldl_cons, ih]

/-- Whether a component is a name. -/
def Component.isName : Component → Bool
  | .name _ => true
  | _ => false

/-- Components that neither start at the root nor go up lead down, by one step for every name. -/
theorem length_foldl_follow {cs : List Component} (hup : .parent ∉ cs) (hroot : .root ∉ cs)
    (l : Location) :
    (cs.foldl Component.follow l).length = l.length + cs.countP Component.isName := by
  induction cs generalizing l with
  | nil => simp
  | cons c cs ih =>
    simp only [List.mem_cons, not_or] at hup hroot
    rw [List.foldl_cons, ih hup.2 hroot.2]
    cases c with
    | root => exact absurd rfl hroot.1
    | parent => exact absurd rfl hup.1
    | current => simp [Component.follow, Component.isName]
    | name n =>
      simp only [Component.follow, List.length_append, List.length_singleton, List.countP_cons,
        Component.isName, ↓reduceIte]
      omega

/-- Nothing but a `..` and the root leads out of a location again. -/
theorem isPrefix_foldl_follow {cs : List Component} (hup : .parent ∉ cs) (hroot : .root ∉ cs)
    (l : Location) : l <+: cs.foldl Component.follow l := by
  induction cs generalizing l with
  | nil => exact List.prefix_rfl
  | cons c cs ih =>
    simp only [List.mem_cons, not_or] at hup hroot
    refine List.IsPrefix.trans ?_ (ih hup.2 hroot.2 _)
    cases c with
    | root => exact absurd rfl hroot.1
    | parent => exact absurd rfl hup.1
    | current => exact List.prefix_rfl
    | name n => exact List.prefix_append l [n]

end Path

namespace Store

open Imprint.Path

/-- The location that a path is about. -/
def locate (s : Store) (p : Path) : Location :=
  p.location s.site.cwd

theorem locate_eq_of_site {s t : Store} (h : s.site = t.site) (p : Path) :
    s.locate p = t.locate p := by
  rw [locate, locate, h]

/-! ### Walks -/

/-- Directories of the first store are directories of the second, at the same site. -/
structure KeepsDirectories (s t : Store) : Prop where
  site : s.site = t.site
  keeps : ∀ l, s.get? l = some .directory → t.get? l = some .directory

theorem KeepsDirectories.refl (s : Store) : s.KeepsDirectories s := ⟨rfl, fun _ h => h⟩

theorem KeepsDirectories.trans {s t u : Store} (h : s.KeepsDirectories t)
    (h' : t.KeepsDirectories u) : s.KeepsDirectories u :=
  ⟨h.site.trans h'.site, fun l hl => h'.keeps l (h.keeps l hl)⟩

/-- The two stores have directories at the same locations of one site. -/
structure SameDirectories (s t : Store) : Prop where
  site : s.site = t.site
  same : ∀ l, s.get? l = some .directory ↔ t.get? l = some .directory

theorem SameDirectories.refl (s : Store) : s.SameDirectories s := ⟨rfl, fun _ => Iff.rfl⟩

theorem SameDirectories.symm {s t : Store} (h : s.SameDirectories t) : t.SameDirectories s :=
  ⟨h.site.symm, fun l => (h.same l).symm⟩

theorem SameDirectories.trans {s t u : Store} (h : s.SameDirectories t)
    (h' : t.SameDirectories u) : s.SameDirectories u :=
  ⟨h.site.trans h'.site, fun l => (h.same l).trans (h'.same l)⟩

theorem SameDirectories.keepsDirectories {s t : Store} (h : s.SameDirectories t) :
    s.KeepsDirectories t := ⟨h.site, fun l => (h.same l).1⟩

/-- A segment that an operation sees as a name stands for that name. -/
theorem name_of_ofSegment {x : List Char} {n : String} (hne : x ≠ [])
    (h : Last.ofSegment x = .ok (.name n)) :
    isIdle x = false ∧ Component.ofSegment x = .name n := by
  obtain ⟨-, ⟨⟩⟩ | ⟨-, ⟨⟩⟩ | ⟨⟨hdot, hup, -⟩, hn⟩ := ofSegment_eq_ok_iff.1 h
  exact ⟨by simp [isIdle, hne, hdot], ofSegment_eq_name_iff.2 ⟨hup, Last.name.inj hn⟩⟩

/-- A step that succeeds leads where the component of the segment leads; an idle one stays. -/
theorem follow_of_enter {s : Store} {l m : Location} {x : List Char} (hne : x ≠ [])
    (h : enter s l x = .ok m) :
    m = if isIdle x then l else Component.follow l (Component.ofSegment x) := by
  obtain ⟨last, hlast, ⟨rfl, rfl⟩ | ⟨rfl, rfl⟩ | ⟨n, rfl, -, rfl⟩⟩ := enter_eq_ok_iff.1 h
  · obtain ⟨rfl, -⟩ | ⟨-, ⟨⟩⟩ | ⟨-, ⟨⟩⟩ := ofSegment_eq_ok_iff.1 hlast
    rfl
  · obtain ⟨-, ⟨⟩⟩ | ⟨rfl, -⟩ | ⟨-, ⟨⟩⟩ := ofSegment_eq_ok_iff.1 hlast
    rfl
  · obtain ⟨hidle, hname⟩ := name_of_ofSegment hne hlast
    rw [hidle, hname]
    rfl

theorem enter_mono {s t : Store} (hst : s.KeepsDirectories t) {l m : Location} {x : List Char}
    (h : enter s l x = .ok m) : enter t l x = .ok m := by
  obtain ⟨last, hlast, hcases⟩ := enter_eq_ok_iff.1 h
  refine enter_eq_ok_iff.2 ⟨last, hlast, hcases.imp_right (Or.imp_right ?_)⟩
  rintro ⟨n, rfl, hdir, rfl⟩
  exact ⟨n, rfl, hst.keeps _ hdir, rfl⟩

/-- A walk that succeeds ends where the components of its segments lead. -/
theorem follow_of_walk {s : Store} {segs : List (List Char)} (hne : ∀ x ∈ segs, x ≠ [])
    {l m : Location} (h : walk s l segs = .ok m) :
    ((segs.filter (!isIdle ·)).map Component.ofSegment).foldl Component.follow l = m := by
  induction segs generalizing l with
  | nil =>
    obtain rfl : l = m := Except.ok.inj h
    rfl
  | cons x segs ih =>
    obtain ⟨next, hx, hsegs⟩ := walk_cons.1 h
    have hrest := ih (fun y hy => hne y (List.mem_cons_of_mem _ hy)) hsegs
    have hstep := follow_of_enter (hne x List.mem_cons_self) hx
    by_cases hidle : isIdle x
    · rw [if_pos hidle] at hstep
      simpa [hidle, ← hstep] using hrest
    · rw [if_neg hidle] at hstep
      simpa [hidle, ← hstep] using hrest

theorem walk_mono {s t : Store} (hst : s.KeepsDirectories t) {segs : List (List Char)}
    {l m : Location} (h : walk s l segs = .ok m) : walk t l segs = .ok m := by
  induction segs generalizing l with
  | nil => exact h
  | cons x segs ih =>
    obtain ⟨next, hx, hsegs⟩ := walk_cons.1 h
    exact walk_cons.2 ⟨next, enter_mono hst hx, ih hsegs⟩

/-! ### Where a path points -/

/-- The segments of an absolute path begin with an empty one, which others follow. -/
theorem segments_of_isAbsolute {p : Path} (h : p.isAbsolute = true) :
    ∃ rest, p.segments = [] :: rest ∧ rest ≠ [] := by
  obtain ⟨r, hr⟩ := List.head?_eq_some_iff.1 (beq_iff_eq.1 h)
  exact ⟨Text.segments '/' r, by simp [segments, hr, Text.segments], Text.segments_ne_nil '/' r⟩

/-- The components of a path lead where its segments that are not idle lead. -/
theorem locate_eq_foldl (s : Store) (p : Path) :
    s.locate p = ((p.segments.filter (!isIdle ·)).map Component.ofSegment).foldl Component.follow
      (s.startOf p) := by
  rw [locate, location, components_eq_ofSegs]
  cases habs : p.isAbsolute with
  | true =>
    obtain ⟨rest, hp, hrest⟩ := segments_of_isAbsolute habs
    rw [startOf, if_pos habs, hp, ofSegs, ofHead_false (.inr hrest)]
    simp [Component.ofHead, Component.follow, isIdle]
  | false =>
    obtain ⟨x, rest, hp, hx⟩ := segments_of_not_isAbsolute habs
    have hspine := filter_ofSegs hx
    rw [startOf, if_neg (by simp [habs]), hp, ← hspine, foldl_follow_filter]

theorem startOf_eq_of_site {s t : Store} (h : s.site = t.site) (p : Path) :
    s.startOf p = t.startOf p := by
  rw [startOf, startOf, h]

theorem aim_mono {s t : Store} (hst : s.KeepsDirectories t) {p : Path} {a : Aim}
    (h : aim s p = .ok a) : aim t p = .ok a := by
  have hstart := startOf_eq_of_site hst.site p
  obtain ⟨hlegal, hnil | ⟨before, x, hsteps, hwalk, hlast⟩⟩ := aim_eq_ok_iff.1 h
  · exact aim_eq_ok_iff.2 ⟨hlegal, .inl (hstart ▸ hnil)⟩
  · exact aim_eq_ok_iff.2
      ⟨hlegal, .inr ⟨before, x, hsteps, walk_mono hst (hstart ▸ hwalk), hlast⟩⟩

/-! ### Denoted locations -/

/-- The path leads through directories to a last name, which no slash follows. -/
def Denotes (s : Store) (p : Path) (l : Location) : Prop :=
  ∃ m n, aim s p = .ok ⟨m, .name n, false⟩ ∧ l = m ++ [n]

/-- A path that can be resolved stays so while directories stay. -/
theorem Denotes.mono {s t : Store} (hst : s.KeepsDirectories t) {p : Path} {l : Location}
    (h : s.Denotes p l) : t.Denotes p l := by
  obtain ⟨m, n, ha, hl⟩ := h
  exact ⟨m, n, aim_mono hst ha, hl⟩

/-- How a path that aims at a name is made up: its last step is the name, and the steps before it
lead to the directory. -/
theorem steps_of_aim {s : Store} {p : Path} {m : Location} {n : String} {slash : Bool}
    (h : aim s p = .ok ⟨m, .name n, slash⟩) :
    ∃ before, IsPlain n ∧ p.steps = before ++ [n.toList] ∧ p.IsLegal ∧
      walk s (s.startOf p) before = .ok m ∧ slash = (p.text.toList.getLast? == some '/') := by
  obtain ⟨hlegal, ⟨-, ⟨⟩⟩ | ⟨before, x, hsteps, hwalk, hlast, hslash⟩⟩ := aim_eq_ok_iff.1 h
  have hmem : x ∈ p.steps := hsteps ▸ List.mem_append_right _ List.mem_cons_self
  obtain ⟨hidle, hname⟩ := name_of_ofSegment (ne_nil_of_mem_steps hmem) hlast
  have hplain := isPlain_of_ofSegment (Text.notMem_of_mem_segments (List.mem_filter.1 hmem).1)
    hidle hname
  obtain rfl : x = n.toList := by
    rw [(ofSegment_eq_name_iff.1 hname).2, String.toList_ofList]
  exact ⟨before, hplain, hsteps, hlegal, hwalk, hslash⟩

/-- A path that aims at a name is about that name in the directory. -/
theorem locate_of_aim {s : Store} {p : Path} {m : Location} {n : String} {slash : Bool}
    (h : aim s p = .ok ⟨m, .name n, slash⟩) : s.locate p = m ++ [n] := by
  obtain ⟨before, hplain, hsteps, -, hwalk, -⟩ := steps_of_aim h
  have hbefore : ∀ x ∈ before, x ≠ [] := fun x hx =>
    ne_nil_of_mem_steps (hsteps ▸ List.mem_append_left _ hx)
  have hidle : p.segments.filter (!isIdle ·) = before.filter (!isIdle ·) ++ [n.toList] := by
    rw [← filter_isIdle_filter, ← steps, hsteps, List.filter_append, List.filter_singleton,
      hplain.not_isIdle]
    rfl
  rw [locate_eq_foldl, hidle, List.map_append, List.foldl_append, follow_of_walk hbefore hwalk]
  simp [hplain.ofSegment, Component.follow]

/-- Resolving a path agrees with its components. -/
theorem locate_of_denotes {s : Store} {p : Path} {l : Location} (h : s.Denotes p l) :
    s.locate p = l := by
  obtain ⟨m, n, ha, rfl⟩ := h
  exact locate_of_aim ha

/-- The last segment of a path that denotes a location is a name. -/
theorem Denotes.segments {s : Store} {p : Path} {l : Location} (h : s.Denotes p l) :
    ∃ m n init, l = m ++ [n] ∧ IsPlain n ∧ p.segments = init ++ [n.toList] := by
  obtain ⟨m, n, ha, rfl⟩ := h
  obtain ⟨before, hplain, hsteps, hlegal, -, hslash⟩ := steps_of_aim ha
  -- no slash ends the path, so its last segment is not empty
  obtain ⟨r, c, hrc⟩ := (List.eq_nil_or_concat' p.text.toList).resolve_left hlegal.nonempty
  have hc : '/' ∉ [c] := by
    have hne : c ≠ '/' := by simpa [hrc] using hslash.symm
    simpa using hne.symm
  obtain ⟨init, last, -, hsegs⟩ := Text.segments_append_of_notMem hc r
  rw [← hrc] at hsegs
  have hp : p.segments = init ++ [last ++ [c]] := hsegs
  rw [steps, hp] at hsteps
  simp only [List.filter_append, ne_eq, List.append_eq_nil_iff, List.cons_ne_self, and_false,
    not_false_eq_true, decide_true, List.filter_cons_of_pos, List.filter_nil] at hsteps
  have hlastc := List.singleton_inj.1 (List.append_inj' hsteps rfl).2
  exact ⟨m, n, init, rfl, hplain, hlastc ▸ hp⟩

/-- A path denotes one location at most, in whatever store of a site it is resolved. -/
theorem Denotes.unique {s t : Store} {p : Path} {l m : Location} (h : s.Denotes p l)
    (h' : t.Denotes p m) (hst : s.site = t.site) : l = m := by
  rw [← locate_of_denotes h, ← locate_of_denotes h', locate_eq_of_site hst]

/-- The last name of a denoted location is the file name of the path. -/
theorem fileName?_of_denotes {s : Store} {p : Path} {l : Location} (h : s.Denotes p l) :
    ∃ m n, l = m ++ [n] ∧ p.fileName? = some n := by
  obtain ⟨m, n, init, rfl, hplain, hsegs⟩ := h.segments
  exact ⟨m, n, rfl, fileName?_of_segments hplain hsegs⟩

end Store

end Imprint
