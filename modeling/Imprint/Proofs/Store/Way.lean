import Mathlib.Data.List.Infix
import Imprint.Proofs.Results
import Imprint.Proofs.Store.Leading

/-!
# What lies on the way of a path

A path goes through the directories above its last name, and perhaps through others by a `..`. When
the directories of a path can be made in a store, they can also be made in a store that has more of
them, if no file stands on the way: directories that are there already are no obstacle.

## Main definitions

* `Imprint.Store.way`: the locations that a path goes through.
* `Imprint.Store.Stands`: a directory with all that are above it.
* `Imprint.Store.HasRoom`: the directories of another store are there or can be made.

## Main results

* `Imprint.Store.Leads.get?_of_mem_way`: all that a path goes through is there when it leads to a
  directory.
* `Imprint.Store.makeAll_of_hasRoom`, `Imprint.Store.parents_of_hasRoom`: making directories in a
  store with more of them.
-/

namespace Imprint

variable {p q : Path} {l m : Location}

/-! ### The way of a path -/

/-- The locations that a path goes through, its own and the working directory included. -/
def Store.way (s : Store) (p : Path) : List Location :=
  p.components.inits.map fun cs => cs.foldl Path.Component.follow s.site.cwd

namespace Path

theorem mem_way_iff {s : Store} : l ∈ s.way p ↔
    ∃ cs, cs <+: p.components ∧ cs.foldl Component.follow s.site.cwd = l := by
  simp only [Store.way, List.mem_map, List.mem_inits]

theorem locate_mem_way (s : Store) (p : Path) : s.locate p ∈ s.way p :=
  mem_way_iff.2 ⟨p.components, List.prefix_rfl, rfl⟩

theorem way_subset {s : Store} (h : q.components <+: p.components) : s.way q ⊆ s.way p :=
  fun _ hl => by
    obtain ⟨cs, hcs, hfold⟩ := mem_way_iff.1 hl
    exact mem_way_iff.2 ⟨cs, hcs.trans h, hfold⟩

theorem way_eq_of_site {s t : Store} (h : s.site = t.site) (p : Path) : s.way p = t.way p := by
  rw [Store.way, Store.way, h]

/-- The directories that a path needs lie on its way. -/
theorem mem_way_of_mem_needed {s : Store} {r : Path} (hr : r ∈ Store.needed q) :
    s.locate r ∈ s.way q := by
  refine way_subset ?_ (locate_mem_way s r)
  rcases List.mem_cons.1 hr with rfl | hr
  · exact List.prefix_rfl
  · exact Store.components_of_mem_pathsAbove hr

/-- The front of what is left of a list after a selection is left of a front of the list. -/
theorem exists_isPrefix_of_filter_map {α β : Type} {f : α → Bool} {g : α → β} {xs : List α}
    {cs : List β} (h : cs <+: (xs.filter f).map g) :
    ∃ ys, ys <+: xs ∧ cs = (ys.filter f).map g := by
  induction xs generalizing cs with
  | nil => exact ⟨[], List.prefix_rfl, List.prefix_nil.1 h⟩
  | cons x xs ih =>
    by_cases hx : f x = true
    · rw [List.filter_cons_of_pos hx, List.map_cons] at h
      rcases List.prefix_cons_iff.1 h with rfl | ⟨cs', rfl, hcs⟩
      · exact ⟨[], List.nil_prefix, rfl⟩
      · obtain ⟨ys, hys, rfl⟩ := ih hcs
        exact ⟨x :: ys, List.cons_prefix_cons.2 ⟨rfl, hys⟩, by simp [hx]⟩
    · rw [List.filter_cons_of_neg hx] at h
      obtain ⟨ys, hys, rfl⟩ := ih h
      exact ⟨x :: ys, List.cons_prefix_cons.2 ⟨rfl, hys⟩, by simp [hx]⟩

end Path

namespace Store

open Imprint.Path

variable {s t u : Store} {a : Aim}

/-! ### Directories on the way -/

/-- A location to which a walk has come: it and all above it are directories. -/
def Stands (s : Store) (l : Location) : Prop :=
  ∀ m, m <+: l → s.get? m = some .directory

theorem stands_startOf (s : Store) (p : Path) : s.Stands (s.startOf p) := by
  intro m hm
  refine IsFixed.get?_eq (hm.trans ?_)
  rw [startOf]
  split
  · exact List.nil_prefix
  · exact List.prefix_rfl

theorem Stands.dropLast (h : s.Stands l) : s.Stands l.dropLast :=
  fun m hm => h m (hm.trans (List.dropLast_prefix l))

theorem Stands.enter {x : List Char} (h : s.Stands l) (henter : Store.enter s l x = .ok m) :
    s.Stands m := by
  obtain ⟨last, -, ⟨-, rfl⟩ | ⟨-, rfl⟩ | ⟨n, -, he, rfl⟩⟩ := enter_eq_ok_iff.1 henter
  · exact h
  · exact h.dropLast
  · intro k hk
    rcases List.prefix_concat_iff.1 hk with rfl | hk
    · exact he
    · exact h k hk

theorem Stands.walk {segs : List (List Char)} (h : s.Stands l)
    (hwalk : Store.walk s l segs = .ok m) : s.Stands m := by
  induction segs generalizing l with
  | nil => exact Except.ok.inj hwalk ▸ h
  | cons x segs ih =>
    obtain ⟨next, hx, hsegs⟩ := walk_cons.1 hwalk
    exact ih (h.enter hx) hsegs

/-- A front of a walk that succeeds succeeds. -/
theorem exists_walk_of_isPrefix {xs ys : List (List Char)} (h : walk s l xs = .ok m)
    (hys : ys <+: xs) : ∃ next, walk s l ys = .ok next := by
  obtain ⟨zs, rfl⟩ := hys
  obtain ⟨next, hys, -⟩ := walk_append.1 h
  exact ⟨next, hys⟩

/-- What the front of a relative path says is what a front of its steps says. -/
theorem exists_steps_of_relative {x : List Char} {rest : List (List Char)}
    {cs : List Path.Component} (hp : p.segments = x :: rest) (hx : x ≠ [])
    (hcs : cs <+: p.components) (l : Location) :
    ∃ ys, ys <+: p.steps ∧ cs.foldl Component.follow l =
      ((ys.filter (!isIdle ·)).map Component.ofSegment).foldl Component.follow l := by
  have hsteps : p.steps = x :: rest.filter (· ≠ []) := by simp [steps, hp, hx]
  obtain ⟨c, hc, hfollow⟩ : ∃ c, Component.ofHead x false = [c] ∧ ∀ ds,
      (c :: ds).foldl Component.follow l =
        ((([x].filter (!isIdle ·)).map Component.ofSegment) ++ ds).foldl Component.follow l := by
    by_cases hdot : x = ['.']
    · exact ⟨.current, by simp [Component.ofHead, hdot], fun ds => by
        simp [hdot, isIdle, Component.follow]⟩
    · exact ⟨Component.ofSegment x, by simp [Component.ofHead, hdot, hx], fun ds => by
        simp [hdot, hx, isIdle]⟩
  rw [components_eq_ofSegs, hp, ofSegs, ofHead_false (.inl hx), ← filter_isIdle_filter rest, hc]
    at hcs
  rcases List.prefix_cons_iff.1 hcs with rfl | ⟨cs', rfl, hcs'⟩
  · exact ⟨[], List.nil_prefix, rfl⟩
  · obtain ⟨ys, hys, rfl⟩ := exists_isPrefix_of_filter_map hcs'
    refine ⟨x :: ys, hsteps ▸ List.cons_prefix_cons.2 ⟨rfl, hys⟩, ?_⟩
    rw [hfollow, ← List.map_append, ← List.filter_append]
    rfl

/-- What the front of an absolute path says, the root included, is what a front of its steps says
from the root. -/
theorem exists_steps_of_isAbsolute {cs : List Path.Component} (hp : p.isAbsolute = true)
    (hcs : cs <+: p.components) (l : Location) : cs = [] ∨
    ∃ ys, ys <+: p.steps ∧ cs.foldl Component.follow l =
      ((ys.filter (!isIdle ·)).map Component.ofSegment).foldl Component.follow [] := by
  obtain ⟨rest, hsegments, hrest⟩ := segments_of_isAbsolute hp
  have hsteps : p.steps = rest.filter (· ≠ []) := by simp [steps, hsegments]
  rw [components_eq_ofSegs, hsegments, ofSegs, ofHead_false (.inr hrest),
    ← filter_isIdle_filter rest] at hcs
  rcases List.prefix_cons_iff.1 hcs with rfl | ⟨cs', rfl, hcs'⟩
  · exact .inl rfl
  · obtain ⟨ys, hys, rfl⟩ := exists_isPrefix_of_filter_map hcs'
    exact .inr ⟨ys, hsteps ▸ hys, rfl⟩

/-- All that a path goes through is there when it leads to a directory. -/
theorem Leads.get?_of_mem_way (h : s.Leads p m) (hl : l ∈ s.way p) :
    s.get? l = some .directory := by
  obtain ⟨hlegal, hwalk⟩ := h
  obtain ⟨cs, hcs, rfl⟩ := mem_way_iff.1 hl
  -- the front of the path is the working directory itself, or is walked through
  obtain rfl | ⟨ys, hys, heq⟩ : cs = [] ∨ ∃ ys, ys <+: p.steps ∧
      cs.foldl Component.follow s.site.cwd =
        ((ys.filter (!isIdle ·)).map Component.ofSegment).foldl Component.follow
          (s.startOf p) := by
    cases habs : p.isAbsolute with
    | true =>
      rw [startOf, if_pos habs]
      exact exists_steps_of_isAbsolute habs hcs _
    | false =>
      obtain ⟨x, rest, hp, hx⟩ := segments_of_not_isAbsolute habs
      have hne : x ≠ [] := by
        rintro rfl
        obtain rfl := hx.resolve_left (· rfl)
        have htext : List.intercalate ['/'] p.segments = p.text.toList :=
          Text.intercalate_segments '/' p.text.toList
        rw [hp] at htext
        exact hlegal.nonempty htext.symm
      rw [startOf, if_neg (by simp [habs])]
      exact .inr (exists_steps_of_relative hp hne hcs _)
  · exact IsFixed.get?_eq List.prefix_rfl
  · obtain ⟨next, hnext⟩ := exists_walk_of_isPrefix hwalk hys
    have hsteps : ∀ y ∈ ys, y ≠ [] := fun y hy => ne_nil_of_mem_steps (hys.subset hy)
    rw [heq, follow_of_walk hsteps hnext]
    exact (stands_startOf s p).walk hnext next List.prefix_rfl

/-! ### Directories that are there already -/

/-- Where the second store, at the same site, has a directory, the first one has it too, or it can
be made. -/
structure HasRoom (u t : Store) : Prop where
  site : u.site = t.site
  free : ∀ l, t.get? l = some .directory →
    u.get? l = some .directory ∨ u.get? l = none ∧ u.site.barred? l = none

theorem HasRoom.mono (h : u.HasRoom t) (hst : s.KeepsDirectories t) : u.HasRoom s :=
  ⟨h.site.trans hst.site.symm, fun l hl => h.free l (hst.keeps l hl)⟩

theorem HasRoom.of_addsDirectories {u' : Store} (h : u.HasRoom t) (hu : u.AddsDirectories u') :
    u'.HasRoom t := by
  refine ⟨hu.site.symm.trans h.site, fun l hl => ?_⟩
  rcases h.free l hl with hd | ⟨hn, hb⟩
  · exact .inl (hu.keepsDirectories.keeps l hd)
  · rcases hu.kept l with heq | ⟨-, hd⟩
    · exact .inr ⟨heq.trans hn, hu.site ▸ hb⟩
    · exact .inl hd

theorem MadeAt.hasRoom {ps : List Path} (h : MadeAt ps s t) : s.HasRoom t := by
  refine ⟨h.site, fun l hl => ?_⟩
  rcases h.made l with heq | ⟨hn, hd, -⟩
  · exact .inl (heq ▸ hl)
  · exact .inr ⟨hn, h.free l hn hd⟩

theorem enter_or_notFound {x : List Char} (hroom : u.HasRoom t) (h : enter t l x = .ok m) :
    enter u l x = .ok m ∨ enter u l x = .error .notFound := by
  obtain ⟨last, hlast, hcases⟩ := enter_eq_ok_iff.1 h
  rcases hcases with hstay | hup | ⟨n, rfl, he, rfl⟩
  · exact .inl (enter_eq_ok_iff.2 ⟨last, hlast, .inl hstay⟩)
  · exact .inl (enter_eq_ok_iff.2 ⟨last, hlast, .inr (.inl hup)⟩)
  · rcases hroom.free _ he with hu | ⟨hu, -⟩
    · exact .inl (enter_eq_ok_iff.2 ⟨.name n, hlast, .inr (.inr ⟨n, rfl, hu, rfl⟩)⟩)
    · exact .inr (enter_eq_notFound hlast hu)

/-- A walk past directories that may be missing succeeds or ends at a name that is missing. -/
theorem walk_or_notFound {segs : List (List Char)} (hroom : u.HasRoom t)
    (h : walk t l segs = .ok m) :
    walk u l segs = .ok m ∨ walk u l segs = .error .notFound := by
  induction segs generalizing l with
  | nil => exact .inl h
  | cons x segs ih =>
    obtain ⟨next, hx, hsegs⟩ := walk_cons.1 h
    rw [walk, List.foldlM_cons]
    rcases enter_or_notFound hroom hx with hu | hu <;> rw [hu]
    · exact ih hsegs
    · exact .inr rfl

theorem aim_or_notFound (hroom : u.HasRoom t) (h : aim t p = .ok a) :
    aim u p = .ok a ∨ aim u p = .error .notFound := by
  have hlegal := isLegal_of_aim h
  rw [aim_of_isLegal hlegal, ← startOf_eq_of_site hroom.site] at h
  rw [aim_of_isLegal hlegal]
  split at h
  · exact .inl h
  · next x before hsteps =>
    obtain ⟨l, hwalk, hlast⟩ := bind_eq_ok.1 h
    rcases walk_or_notFound hroom hwalk with hu | hu <;> rw [hu]
    · exact .inl hlast
    · exact .inr rfl

/-! ### Paths that lead to a directory -/

theorem exists_leads_of_isDirectory (h : s.isDirectory p = true) : ∃ l, s.Leads p l := by
  simp only [isDirectory] at h
  split at h
  · next l hfind => exact ⟨l, leads_of_find hfind⟩
  · cases h

/-- Where nothing stands a directory is made, if it can be, and then the path leads to it. -/
theorem makeDirectory_of_get?_eq_none {n : String} (ha : aim s p = .ok a) (hlast : a.last = .name n)
    (hnone : s.get? (a.directory ++ [n]) = none)
    (hfree : s.site.barred? (a.directory ++ [n]) = none) :
    s.makeDirectory p = .ok (s.insert (a.directory ++ [n]) .directory) ∧
      (s.insert (a.directory ++ [n]) .directory).Leads p (a.directory ++ [n]) := by
  have hmake : s.makeDirectory p = .ok (s.insert (a.directory ++ [n]) .directory) := by
    simp [makeDirectory, ha, hlast, hnone, hfree, bind, Except.bind]
  have ha' := aim_mono (madeAt_makeDirectory hmake).addsDirectories.keepsDirectories ha
  refine ⟨hmake, (leads_iff_of_aim ha').2 (.inr (.inr ⟨n, hlast, ?_, rfl⟩))⟩
  rw [get?_insert _ _ _ _ (not_isFixed (by simp [hnone])), if_pos rfl]

/-- A directory can be made or is there, where the path leads to it in a store with room for it. -/
theorem leads_or_makeDirectory (hroom : u.HasRoom t) (h : t.Leads p l)
    (ha : aim u p = .ok a) :
    u.Leads p l ∨ ∃ u', u.makeDirectory p = .ok u' ∧ u'.Leads p l := by
  obtain ⟨b, hb⟩ := h.exists_aim
  obtain rfl : a = b := by
    rcases aim_or_notFound hroom hb with hu | hu
    · exact Except.ok.inj (ha.symm.trans hu)
    · cases ha.symm.trans hu
  rcases (leads_iff_of_aim hb).1 h with hstay | hup | ⟨n, hlast, he, rfl⟩
  · exact .inl ((leads_iff_of_aim ha).2 (.inl hstay))
  · exact .inl ((leads_iff_of_aim ha).2 (.inr (.inl hup)))
  · rcases hroom.free _ he with hu | ⟨hu, hb⟩
    · exact .inl ((leads_iff_of_aim ha).2 (.inr (.inr ⟨n, hlast, hu, rfl⟩)))
    · exact .inr ⟨_, makeDirectory_of_get?_eq_none ha hlast hu hb⟩

theorem leads_of_makeDirectory (h : s.makeDirectory p = .ok t) : ∃ l, t.Leads p l := by
  obtain ⟨a, ha, hmake⟩ := bind_eq_ok.1 h
  cases hlast : a.last with
  | name n =>
    rcases he : s.get? (a.directory ++ [n]) with _ | e
    · rcases hb : s.site.barred? (a.directory ++ [n]) with _ | e
      · obtain ⟨hmade, hleads⟩ := makeDirectory_of_get?_eq_none ha hlast he hb
        obtain rfl := Except.ok.inj (hmade.symm.trans h)
        exact ⟨_, hleads⟩
      · simp [hlast, he, hb] at hmake
    · simp [hlast, he] at hmake
  | _ => simp [hlast] at hmake

theorem exists_aim_of_makeDirectory (h : s.makeDirectory p = .ok t) : ∃ a, aim s p = .ok a := by
  obtain ⟨a, ha, -⟩ := bind_eq_ok.1 h
  exact ⟨a, ha⟩

theorem exists_aim_of_ensureDirectory (h : s.ensureDirectory p = .ok t) :
    ∃ a, aim s p = .ok a := by
  simp only [ensureDirectory] at h
  split at h
  · next hmake => exact exists_aim_of_makeDirectory hmake
  · split at h
    · next hdir =>
      obtain ⟨_, hthere⟩ := exists_leads_of_isDirectory hdir
      exact hthere.exists_aim
    · cases h

theorem leads_of_ensureDirectory (h : s.ensureDirectory p = .ok t) : ∃ l, t.Leads p l := by
  simp only [ensureDirectory] at h
  split at h
  · next hmake => exact Except.ok.inj h ▸ leads_of_makeDirectory hmake
  · split at h
    · next hdir => exact Except.ok.inj h ▸ exists_leads_of_isDirectory hdir
    · cases h

/-! ### Making directories -/

variable {ps : List Path}

/-- How directories are made when nothing goes wrong. -/
theorem makeAll_cons_eq (h : s.makeAll (p :: ps) = (none, t)) :
    s.makeDirectory p = .ok t ∨ s.isDirectory p = true ∧ t = s ∨
      s.makeDirectory p = .error .notFound ∧
        ∃ t₁, s.makeAll ps = (none, t₁) ∧ t₁.ensureDirectory p = .ok t := by
  simp only [makeAll] at h
  split at h
  · next hmake => exact .inl (by rw [hmake, ← (Prod.mk.inj h).2])
  · next hmake =>
    split at h
    · cases h
    · next t₁ habove =>
      split at h
      · next hensure =>
        exact .inr (.inr ⟨hmake, t₁, habove, by rw [hensure, ← (Prod.mk.inj h).2]⟩)
      · cases h
  · split at h
    · next hdir => exact .inr (.inl ⟨hdir, (Prod.mk.inj h).2.symm⟩)
    · cases h

/-- A directory whose path is not found, even where there are more directories, is made after those
above it. -/
theorem exists_makeAll_of_notFound (h : s.makeAll (p :: ps) = (none, t))
    (hst : s.KeepsDirectories u) (hu : aim u p = .error .notFound) :
    ∃ t₁, s.makeAll ps = (none, t₁) ∧ t₁.ensureDirectory p = .ok t := by
  have hnone (b : Aim) : aim s p ≠ .ok b := fun hb => by
    cases (aim_mono hst hb).symm.trans hu
  rcases makeAll_cons_eq h with hmake | ⟨hdir, -⟩ | ⟨-, hrest⟩
  · obtain ⟨b, hb⟩ := exists_aim_of_makeDirectory hmake
    exact absurd hb (hnone b)
  · obtain ⟨_, hthere⟩ := exists_leads_of_isDirectory hdir
    obtain ⟨b, hb⟩ := hthere.exists_aim
    exact absurd hb (hnone b)
  · exact hrest

/-- A path leads to its directory once that is made. -/
theorem leads_of_makeAll (h : s.makeAll (p :: ps) = (none, t)) : ∃ l, t.Leads p l := by
  rcases makeAll_cons_eq h with hmake | ⟨hdir, rfl⟩ | ⟨-, t₁, -, hensure⟩
  · exact leads_of_makeDirectory hmake
  · exact exists_leads_of_isDirectory hdir
  · exact leads_of_ensureDirectory hensure

/-- All directories that were made for a path are in every store in which the path leads to one. -/
theorem MadeAt.keepsDirectories_of_leads (hmade : MadeAt (p :: ps) s t)
    (hps : ∀ r ∈ ps, r.components <+: p.components) (hst : s.KeepsDirectories u)
    (h : u.Leads p m) : t.KeepsDirectories u := by
  refine ⟨hmade.site.symm.trans hst.site, fun l hl => ?_⟩
  rcases hmade.made l with hsame | ⟨-, -, r, hr, rfl⟩
  · exact hst.keeps l (hsame ▸ hl)
  · rw [locate_eq_of_site hst.site]
    refine h.get?_of_mem_way (way_subset ?_ (locate_mem_way u r))
    rcases List.mem_cons.1 hr with rfl | hr
    · exact List.prefix_rfl
    · exact hps r hr

/-- Directories that can be made in one store can be made in another that has more directories and
room for those that are made. -/
theorem makeAll_of_hasRoom (hps : ps.Pairwise fun p r => r.components <+: p.components)
    (h : s.makeAll ps = (none, t)) (hst : s.KeepsDirectories u) (hroom : u.HasRoom t) :
    ∃ u', u.makeAll ps = (none, u') ∧ t.KeepsDirectories u' := by
  induction ps generalizing t with
  | nil =>
    obtain rfl : s = t := (Prod.mk.inj h).2
    exact ⟨u, rfl, hst⟩
  | cons p ps ih =>
    obtain ⟨hp, hps⟩ := List.pairwise_cons.1 hps
    obtain ⟨l, hleads⟩ := leads_of_makeAll h
    have hmade : MadeAt (p :: ps) s t := by
      have hall := madeAt_makeAll s (p :: ps)
      rwa [h] at hall
    -- it is enough that the path leads to its directory in the end
    suffices hreach : ∃ u', u.makeAll (p :: ps) = (none, u') ∧ u'.Leads p l by
      obtain ⟨u', hu', hleads'⟩ := hreach
      have hadds := (madeAt_makeAll u (p :: ps)).addsDirectories.keepsDirectories
      rw [hu'] at hadds
      exact ⟨u', hu', hmade.keepsDirectories_of_leads hp (hst.trans hadds) hleads'⟩
    obtain ⟨a, ha⟩ := hleads.exists_aim
    rcases aim_or_notFound hroom ha with hu | hu
    · rcases leads_or_makeDirectory hroom hleads hu with hthere | ⟨u', hmake, hleads'⟩
      · exact ⟨u, by simp [makeAll, hthere.makeDirectory, hthere.isDirectory], hthere⟩
      · exact ⟨u', by simp [makeAll, hmake], hleads'⟩
    · have hmissing : u.makeDirectory p = .error .notFound := by
        simp [makeDirectory, hu, bind, Except.bind]
      obtain ⟨t₁, habove, hensure⟩ := exists_makeAll_of_notFound h hst hu
      have hkeeps := (madeAt_ensureDirectory hensure).addsDirectories.keepsDirectories
      obtain ⟨u₁, hu₁, hkept⟩ := ih hps habove (hroom.mono hkeeps)
      have hadds := (madeAt_makeAll u ps).addsDirectories
      rw [hu₁] at hadds
      obtain ⟨b, hb⟩ := exists_aim_of_ensureDirectory hensure
      rcases leads_or_makeDirectory (hroom.of_addsDirectories hadds) hleads (aim_mono hkept hb) with
        hthere | ⟨u', hmake, hleads'⟩
      · refine ⟨u₁, ?_, hthere⟩
        simp [makeAll, hmissing, hu₁, ensureDirectory, hthere.makeDirectory, hthere.isDirectory]
      · exact ⟨u', by simp [makeAll, hmissing, hu₁, ensureDirectory, hmake], hleads'⟩

theorem pairwise_pathsAbove (n : Nat) (p : Path) :
    (p :: pathsAbove n p).Pairwise fun p r => r.components <+: p.components := by
  induction n generalizing p with
  | zero => simp [pathsAbove]
  | succ n ih =>
    refine List.pairwise_cons.2 ⟨fun r hr => components_of_mem_pathsAbove hr, ?_⟩
    cases hp : p.parent? with
    | none => simp [pathsAbove, hp]
    | some q =>
      simp only [pathsAbove, hp]
      split
      · exact .nil
      · exact ih q

/-! ### The directories of a path -/

/-- Where the directories of a path were made there was room for them. -/
theorem hasRoom_parents (s : Store) (p : Path) : s.HasRoom (s.parents p).2 := by
  cases hq : p.parent? with
  | none =>
    simp only [parents, hq]
    exact (MadeAt.refl [] s).hasRoom
  | some q => exact (madeAt_parents hq s).hasRoom

/-- Directories are only added on the way of the path that needs them. -/
theorem get?_parents (s : Store) (p : Path) (l : Location) :
    (s.parents p).2.get? l = s.get? l ∨
      s.get? l = none ∧ (s.parents p).2.get? l = some .directory ∧ l ∈ s.way p := by
  cases hq : p.parent? with
  | none =>
    have hsame : (s.parents p).2 = s := by simp only [parents, hq]
    exact .inl (by rw [hsame])
  | some q =>
    rcases (madeAt_parents hq s).made l with hsame | ⟨hnone, hdir, r, hr, rfl⟩
    · exact .inl hsame
    · obtain ⟨c, hc⟩ := components_of_parent? hq
      exact .inr ⟨hnone, hdir, way_subset ⟨[c], hc.symm⟩ (mem_way_of_mem_needed hr)⟩

/-- Where the directories of a path can be made, they can be made after others have come, if there
is room for them. No directories but those are added. -/
theorem parents_of_hasRoom (h : s.parents p = (.ok (), t)) (hst : s.KeepsDirectories u)
    (hroom : u.HasRoom t) :
    ∃ u', u.parents p = (.ok (), u') ∧ t.KeepsDirectories u' ∧
      ∀ l, u'.get? l = u.get? l ∨ t.get? l = some .directory := by
  cases hq : p.parent? with
  | none =>
    simp only [parents, hq] at h ⊢
    obtain rfl : s = t := (Prod.mk.inj h).2
    exact ⟨u, rfl, hst, fun _ => .inl rfl⟩
  | some q =>
    have hmakes : s.makeDirectories q = (none, t) := by
      simp only [parents, hq] at h
      rcases hm : s.makeDirectories q with ⟨_ | fault, t'⟩
      · rw [hm] at h
        rw [(Prod.mk.inj h).2]
      · rw [hm] at h
        cases h
    cases hempty : q.text.isEmpty with
    | true =>
      simp only [makeDirectories, hempty, ↓reduceIte] at hmakes
      obtain rfl : s = t := (Prod.mk.inj hmakes).2
      exact ⟨u, by simp [parents, hq, makeDirectories, hempty], hst, fun _ => .inl rfl⟩
    | false =>
      simp only [makeDirectories, hempty, Bool.false_eq_true, ↓reduceIte] at hmakes
      obtain ⟨u', hu', hkeeps⟩ :=
        makeAll_of_hasRoom (pairwise_pathsAbove q.text.length q) hmakes hst hroom
      obtain ⟨m, hleads⟩ := leads_of_makeAll hmakes
      refine ⟨u', by simp [parents, hq, makeDirectories, hempty, hu'], hkeeps, fun l => ?_⟩
      have hmade := (madeAt_makeAll u (needed q)).made l
      rw [needed, hu'] at hmade
      rcases hmade with hsame | ⟨-, -, r, hr, rfl⟩
      · exact .inl hsame
      · rw [locate_eq_of_site hroom.site]
        exact .inr (hleads.get?_of_mem_way (mem_way_of_mem_needed hr))

end Store

end Imprint
