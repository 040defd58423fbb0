import Imprint.Proofs.Output.Target

/-!
# Paths that lead to a directory

A path leads to a directory when all its segments can be walked through. A plain name behind such a
path denotes a place in the directory, and what such a name needs is there already, so an output is
put there without making anything but the file.

## Main definitions

* `Imprint.Store.Leads`: a path all of whose segments lead to directories.

## Main results

* `Imprint.Store.leads_iff_of_aim`: where a path leads from the directory that it points into.
* `Imprint.Store.leads_of_find`: a path that names a directory leads to it.
* `Imprint.Store.denotes_join`: a name in a directory.
* `Imprint.Store.put_of_denotes`: putting a file where all directories are there.
-/

namespace Imprint

namespace Path

/-- A plain name adds a step. -/
theorem steps_join {n : String} (h : IsPlain n) (q : Path) :
    (q.join ⟨n⟩).steps = q.steps ++ [n.toList] := by
  have hn : n.toList ≠ [] := fun hn => h.1 (String.toList_eq_nil_iff.1 hn)
  rcases segments_join h q with ⟨init, hq, hjoin⟩ | ⟨-, hjoin⟩
  · simp [steps, hq, hjoin, hn]
  · simp [steps, hjoin, hn]

end Path

namespace Store

open Imprint.Path

variable {s t : Store} {p q : Path} {l m : Location} {n : String}

/-! ### Paths that can be resolved -/

theorem aim_of_steps_eq_nil (h : p.IsLegal) (hsteps : p.steps = []) :
    aim s p = .ok ⟨s.startOf p, .none, true⟩ :=
  aim_eq_ok_iff.2 ⟨h, .inl ⟨hsteps, rfl⟩⟩

/-- A path points at its last step, in the directory that the steps before it lead to. -/
theorem aim_of_steps_eq_append {before : List (List Char)} {x : List Char} {last : Last}
    (h : p.IsLegal) (hsteps : p.steps = before ++ [x])
    (hwalk : walk s (s.startOf p) before = .ok l) (hlast : Last.ofSegment x = .ok last) :
    aim s p = .ok ⟨l, last, p.text.toList.getLast? == some '/'⟩ :=
  aim_eq_ok_iff.2 ⟨h, .inr ⟨before, x, hsteps, hwalk, hlast, rfl⟩⟩

/-- All segments of the path lead to directories, the last of them to the given location. -/
def Leads (s : Store) (p : Path) (l : Location) : Prop :=
  p.IsLegal ∧ walk s (s.startOf p) p.steps = .ok l

theorem Leads.mono (h : s.Leads p l) (hst : s.KeepsDirectories t) : t.Leads p l :=
  ⟨h.1, by
    rw [← startOf_eq_of_site hst.site]
    exact walk_mono hst h.2⟩

/-- Where a path leads, it points at its last step behind a walk that succeeds. -/
theorem Leads.exists_aim (h : s.Leads p l) : ∃ a, aim s p = .ok a := by
  obtain ⟨hlegal, hwalk⟩ := h
  rcases List.eq_nil_or_concat' p.steps with hnil | ⟨before, x, hsteps⟩
  · exact ⟨_, aim_of_steps_eq_nil hlegal hnil⟩
  · rw [hsteps, walk_concat] at hwalk
    obtain ⟨m, hbefore, henter⟩ := hwalk
    obtain ⟨last, hlast, -⟩ := enter_eq_ok_iff.1 henter
    exact ⟨_, aim_of_steps_eq_append hlegal hsteps hbefore hlast⟩

theorem ne_none_of_ofSegment {x : List Char} {last : Last} (h : Last.ofSegment x = .ok last) :
    last ≠ .none := by
  obtain ⟨-, rfl⟩ | ⟨-, rfl⟩ | ⟨-, rfl⟩ := ofSegment_eq_ok_iff.1 h <;> simp

/-- A path leads where its last step leads from the directory that it points into. -/
theorem leads_iff_of_aim {a : Aim} (ha : aim s p = .ok a) : s.Leads p l ↔
    (a.last = .none ∨ a.last = .stay) ∧ l = a.directory ∨
      a.last = .up ∧ l = a.directory.dropLast ∨
      ∃ n, a.last = .name n ∧ s.get? (a.directory ++ [n]) = some .directory ∧
        l = a.directory ++ [n] := by
  obtain ⟨hlegal, ⟨hnil, rfl⟩ | ⟨before, x, hsteps, hwalk, hlast, -⟩⟩ := aim_eq_ok_iff.1 ha
  · simp [Leads, hlegal, hnil, walk, pure, Except.pure, eq_comm]
  · simp [Leads, hlegal, hsteps, walk_concat, hwalk, enter_eq_ok_iff, hlast,
      ne_none_of_ofSegment hlast]

/-- A path that names a directory leads to it. -/
theorem leads_of_find (h : s.find p = .ok ⟨l, .directory⟩) : s.Leads p l := by
  obtain ⟨a, ha, h⟩ := bind_eq_ok.1 h
  rw [leads_iff_of_aim ha]
  split at h
  · next hnone =>
    obtain rfl : a.directory = l := by simpa using h
    exact .inl ⟨.inl hnone, rfl⟩
  · next hstay =>
    obtain rfl : a.directory = l := by simpa using h
    exact .inl ⟨.inr hstay, rfl⟩
  · next hup =>
    obtain rfl : a.directory.dropLast = l := by simpa using h
    exact .inr (.inl ⟨hup, rfl⟩)
  · next n hname =>
    split at h
    · next e hthere =>
      split at h
      · cases h
      · simp only [Except.ok.injEq, Found.mk.injEq] at h
        obtain ⟨rfl, rfl⟩ := h
        exact .inr (.inr ⟨n, hname, hthere, rfl⟩)
    · cases h

/-- A path that leads to a directory names it. -/
theorem Leads.find (h : s.Leads p l) : s.find p = .ok ⟨l, .directory⟩ := by
  obtain ⟨a, ha⟩ := h.exists_aim
  simp only [Store.find, ha, bind, Except.bind]
  rcases (leads_iff_of_aim ha).1 h with
    ⟨hlast | hlast, rfl⟩ | ⟨hlast, rfl⟩ | ⟨n, hlast, hthere, rfl⟩
  · simp [hlast]
  · simp [hlast]
  · simp [hlast]
  · simp [hlast, hthere]

theorem Leads.isDirectory (h : s.Leads p l) : s.isDirectory p = true := by
  simp [Store.isDirectory, h.find]

/-- A directory that is there is not made again. -/
theorem Leads.makeDirectory (h : s.Leads p l) : s.makeDirectory p = .error .alreadyThere := by
  obtain ⟨a, ha⟩ := h.exists_aim
  simp only [Store.makeDirectory, ha, bind, Except.bind]
  rcases (leads_iff_of_aim ha).1 h with
    ⟨hlast | hlast, -⟩ | ⟨hlast, -⟩ | ⟨n, hlast, hthere, -⟩
  · rw [hlast]
  · rw [hlast]
  · rw [hlast]
  · simp [hlast, hthere]

theorem Leads.makeDirectories (h : s.Leads p l) : s.makeDirectories p = (none, s) := by
  simp only [Store.makeDirectories]
  split
  · rfl
  · simp [makeAll, h.makeDirectory, h.isDirectory]

/-! ### Names in a directory -/

theorem isAbsolute_join (hq : q.text.toList ≠ []) (hn : IsPlain n) :
    (q.join ⟨n⟩).isAbsolute = q.isAbsolute := by
  obtain ⟨c, r, hcr⟩ := List.exists_cons_of_ne_nil hq
  rcases join_text (p := q) hn.not_isAbsolute with htext | htext <;>
    simp [isAbsolute, htext, hcr]

theorem getLast?_join (hn : IsPlain n) :
    (q.join ⟨n⟩).text.toList.getLast? = n.toList.getLast? := by
  have hne : n.toList ≠ [] := fun hnil => hn.1 (String.toList_eq_nil_iff.1 hnil)
  obtain ⟨r, c, hrc⟩ := (List.eq_nil_or_concat' n.toList).resolve_left hne
  rcases join_text (p := q) hn.not_isAbsolute with htext | htext <;>
    simp [htext, hrc, List.getLast?_append, List.getLast?_cons]

/-- A plain name in a directory that a path leads to. -/
theorem denotes_join (h : s.Leads q l) (hn : IsPlain n)
    (hshort : n.utf8ByteSize ≤ maxName) (hlegal : (q.join ⟨n⟩).IsLegal) :
    s.Denotes (q.join ⟨n⟩) (l ++ [n]) := by
  have hstart : s.startOf (q.join ⟨n⟩) = s.startOf q := by
    simp [startOf, isAbsolute_join h.1.nonempty hn]
  have hlast : Last.ofSegment n.toList = .ok (.name n) := by
    have hdot : n.toList ≠ ['.'] := fun heq => hn.2.1 (String.toList_inj.1 heq)
    have hup : n.toList ≠ ['.', '.'] := fun heq => hn.2.2.1 (String.toList_inj.1 heq)
    simp [Last.ofSegment, hdot, hup, String.ofList_toList, hshort]
  have hslash : n.toList.getLast? ≠ some '/' := fun heq =>
    hn.2.2.2 (List.mem_of_mem_getLast? heq)
  have hwalk : s.walk (s.startOf (q.join ⟨n⟩)) q.steps = .ok l := by
    rw [hstart]
    exact h.2
  have ha := aim_of_steps_eq_append hlegal (steps_join hn q) hwalk hlast
  rw [getLast?_join hn, beq_eq_false_iff_ne.2 hslash] at ha
  exact ⟨l, n, ha, rfl⟩

/-! ### Putting a file -/

/-- What is dropped as idle is idle. -/
theorem exists_idle_append (segs : List (List Char)) :
    ∃ idle, segs = dropIdleEnd segs ++ idle ∧ ∀ x ∈ idle, isIdle x = true := by
  refine ⟨(segs.reverse.takeWhile isIdle).reverse, ?_, fun x hx => ?_⟩
  · rw [dropIdleEnd, ← List.reverse_append, List.takeWhile_append_dropWhile, List.reverse_reverse]
  · exact List.mem_takeWhile_imp (List.mem_reverse.1 hx)

/-- Idle segments lead nowhere. -/
theorem walk_of_idle {segs : List (List Char)} (h : ∀ x ∈ segs, isIdle x = true) (l : Location) :
    walk s l (segs.filter (· ≠ [])) = .ok l := by
  induction segs with
  | nil => rfl
  | cons x segs ih =>
    have hrest := ih fun y hy => h y (List.mem_cons_of_mem _ hy)
    have hx := h x List.mem_cons_self
    simp only [isIdle, Bool.or_eq_true, beq_iff_eq] at hx
    rcases hx with rfl | rfl
    · simpa using hrest
    · simpa [walk, enter, bind, Except.bind] using hrest

theorem walk_append_idle {segs idle : List (List Char)} (h : ∀ x ∈ idle, isIdle x = true)
    {start : Location} :
    walk s start ((segs ++ idle).filter (· ≠ [])) = walk s start (segs.filter (· ≠ [])) := by
  have hidle := walk_of_idle (s := s) h
  simp only [walk] at hidle ⊢
  rw [List.filter_append, List.foldlM_append]
  cases hw : (segs.filter (· ≠ [])).foldlM (enter s) start with
  | error e => rfl
  | ok l => exact hidle l

theorem intercalate_isPrefix {sep : List Char} {a : List Char} {as bs : List (List Char)} :
    List.intercalate sep (a :: as) <+: List.intercalate sep (a :: (as ++ bs)) := by
  induction as generalizing a with
  | nil => cases bs <;> simp [List.intercalate]
  | cons b as ih => simpa [List.intercalate, List.prefix_append_right_inj] using ih

/-- The text of a path with an empty segment at its start, and others behind it, starts with a
slash. -/
theorem isAbsolute_of_segments {rest : List (List Char)} (hq : q.segments = [] :: rest)
    (hrest : rest ≠ []) : q.isAbsolute = true := by
  obtain ⟨y, rest, rfl⟩ := List.exists_cons_of_ne_nil hrest
  have hjoin : List.intercalate ['/'] q.segments = q.text.toList :=
    Text.intercalate_segments '/' q.text.toList
  rw [isAbsolute, ← hjoin, hq]
  simp [List.intercalate]

/-- The first segment says where a path is read from: an empty one stands for the root. -/
theorem startOf_of_segments {x : List Char} {rest : List (List Char)}
    (hq : q.segments = x :: rest) (h : x ≠ [] ∨ rest ≠ []) (s : Store) :
    s.startOf q = if x = [] then [] else s.site.cwd := by
  by_cases hx : x = []
  · subst hx
    rw [startOf, if_pos (isAbsolute_of_segments hq (h.resolve_left (· rfl))), if_pos rfl]
  · rw [startOf, if_neg hx, if_neg fun habs => ?_]
    obtain ⟨rest', hq', -⟩ := segments_of_isAbsolute habs
    exact hx (List.cons.inj (hq.symm.trans hq')).1

theorem leads_root (s : Store) : s.Leads ⟨"/"⟩ [] :=
  ⟨⟨by decide, by decide, by decide⟩, rfl⟩

/-- A path that can be resolved leads to the directory of its last name by all its segments but the
last. -/
theorem leads_parent {x : List Char} {mid : List (List Char)}
    (ha : aim s p = .ok ⟨m, .name n, false⟩) (hp : p.segments = x :: mid ++ [n.toList]) :
    s.Leads (ofSegments x (dropIdleEnd mid)) m := by
  obtain ⟨before, hplain, hsteps, hlegal, hwalk, -⟩ := steps_of_aim ha
  have hn : n.toList ≠ [] := fun hnil => hplain.1 (String.toList_eq_nil_iff.1 hnil)
  have hbefore : (x :: mid).filter (· ≠ []) = before := by
    rw [steps, hp, List.filter_append, List.filter_singleton] at hsteps
    exact (List.append_inj' (hsteps.trans rfl) (by simp [hn])).1
  rw [startOf_of_segments hp (.inr (by simp)), ← hbefore] at hwalk
  obtain ⟨idle, hmid, hidle⟩ := exists_idle_append mid
  generalize dropIdleEnd mid = kept at hmid ⊢
  subst hmid
  rw [← List.cons_append, walk_append_idle hidle] at hwalk
  by_cases hroot : x = [] ∧ kept = []
  · -- only the root is left
    obtain ⟨rfl, rfl⟩ := hroot
    obtain rfl : [] = m := by simpa [walk, pure, Except.pure] using hwalk
    exact leads_root s
  · have hslash : ∀ y ∈ x :: kept, '/' ∉ y := by
      intro y hy
      refine Text.notMem_of_mem_segments (s := p.text.toList) ?_
      have hmem : y ∈ x :: kept ++ (idle ++ [n.toList]) := List.mem_append_left _ hy
      rwa [← List.append_assoc, List.cons_append, ← hp] at hmem
    have hsegments : (ofSegments x kept).segments = x :: kept :=
      segments_ofSegments hslash hroot
    have hfront : (ofSegments x kept).text.toList <+: p.text.toList := by
      rw [← Text.intercalate_segments '/' (ofSegments x kept).text.toList,
        ← Text.intercalate_segments '/' p.text.toList]
      change List.intercalate ['/'] (ofSegments x kept).segments <+:
        List.intercalate ['/'] p.segments
      rw [hsegments, hp, List.cons_append, List.append_assoc]
      exact intercalate_isPrefix
    have hne : (ofSegments x kept).text.toList ≠ [] := by
      intro hnil
      rw [segments, hnil, Text.segments, List.cons.injEq] at hsegments
      exact hroot ⟨hsegments.1.symm, hsegments.2.symm⟩
    refine ⟨hlegal.of_isPrefix hfront hne, ?_⟩
    rwa [startOf_of_segments hsegments (not_and_or.1 hroot), steps, hsegments]

/-- The directories of a path that can be resolved are all there. -/
theorem parents_of_denotes (h : s.Denotes p l) : s.parents p = (.ok (), s) := by
  obtain ⟨m, n, ha, rfl⟩ := h
  obtain ⟨m', n', init, heq, hplain, hp⟩ := Denotes.segments ⟨m, n, ha, rfl⟩
  obtain ⟨rfl, rfl⟩ : m = m' ∧ n = n' := by simpa using heq
  have hlast : dropIdleEnd (init.tail ++ [n.toList]) = init.tail ++ [n.toList] := by
    rw [dropIdleEnd_eq_rdropWhile, List.rdropWhile_concat_neg _ _ _ (by simp [hplain.not_isIdle])]
  have hne : n.toList.isEmpty = false := by
    simpa using fun hnil => hplain.1 (String.toList_eq_nil_iff.1 hnil)
  cases init with
  | nil =>
    have hparent : p.parent? = some ⟨""⟩ := by
      rw [List.nil_append] at hp
      simp [parent?, hp, dropIdleEnd, hplain.1]
    simp [parents, hparent, Store.makeDirectories]
  | cons x mid =>
    have hparent : p.parent? = some (ofSegments x (dropIdleEnd mid)) := by
      simp only [parent?, hp, List.cons_append]
      rw [List.tail_cons] at hlast
      simp [hlast]
    simp only [parents, hparent, (leads_parent ha hp).makeDirectories]

/-- Where all directories are there, putting a file only writes it. -/
theorem put_of_denotes (h : s.Denotes p l) (hl : s.get? l ≠ some .directory) {c : ByteArray}
    (hc : s.site.refusal? l c = none) : s.put p c = (.ok (), s.insert l (.file c)) := by
  have hwrite : s.write p c = (none, s.insert l (.file c)) :=
    write_eq_none_iff.2 ⟨l, h, hl, hc, rfl⟩
  simp only [put, parents_of_denotes h, hwrite]

end Store

end Imprint
