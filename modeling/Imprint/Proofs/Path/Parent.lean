import Imprint.Proofs.Path.Components

/-!
# Siblings

The parent of a path is written without idle segments at its end, so a name that is added to it is
the only thing that is taken away again. A path whose file name is exchanged has the same parent.

## Main results

* `Imprint.Path.parent?_join`: the parent of a name in a parent.
* `Imprint.Path.parent?_withFileName`, `Imprint.Path.fileName?_withFileName`: a sibling has the same
  parent and the name that it was given.
* `Imprint.Path.components_withFileName_eq_iff`: siblings say the same when they have the same name.
-/

namespace Imprint.Path

variable {p q : Path} {m n : String}

/-- A plain name behind other segments is taken away by the parent, and idle segments with it. -/
theorem parent?_of_segments {s : List Char} {rest : List (List Char)} (hn : IsPlain n)
    (hp : p.segments = s :: (rest ++ [n.toList])) :
    p.parent? = some (ofSegments s (dropIdleEnd rest)) := by
  have hlast : dropIdleEnd (rest ++ [n.toList]) = rest ++ [n.toList] := by
    simp [dropIdleEnd, hn.not_isIdle]
  simp [parent?, hp, hlast]

/-- A parent is empty, or written with segments of which the last one is not idle. -/
theorem eq_ofSegments_of_parent? (h : p.parent? = some q) : q = ⟨""⟩ ∨
    ∃ s rest, q = ofSegments s rest ∧ dropIdleEnd rest = rest ∧ ∀ x ∈ s :: rest, '/' ∉ x := by
  obtain ⟨s, rest, hp⟩ := List.exists_cons_of_ne_nil p.segments_ne_nil
  have hslash : ∀ x ∈ s :: rest, '/' ∉ x := fun x hx =>
    Text.notMem_of_mem_segments (hp ▸ hx : x ∈ p.segments)
  rcases List.eq_nil_or_concat' (dropIdleEnd rest) with hd | ⟨before, x, hd⟩
  · obtain ⟨-, rfl⟩ : s ≠ [] ∧ ⟨""⟩ = q := by simpa [parent?, hp, hd] using h
    exact .inl rfl
  · obtain rfl : ofSegments s (dropIdleEnd before) = q := by simpa [parent?, hp, hd] using h
    refine .inr ⟨s, dropIdleEnd before, rfl, ?_, fun y hy => hslash y ?_⟩
    · simp only [dropIdleEnd_eq_rdropWhile, List.rdropWhile_idempotent]
    · have hsub : dropIdleEnd before <+: rest := by
        have hbefore : before <+: dropIdleEnd rest := hd ▸ List.prefix_append before [x]
        exact (List.rdropWhile_prefix isIdle before).trans
          (hbefore.trans (List.rdropWhile_prefix isIdle rest))
      rcases List.mem_cons.1 hy with rfl | hy
      · exact List.mem_cons_self
      · exact List.mem_cons_of_mem _ (hsub.subset hy)

/-- A name is added to such a parent as one more segment. -/
theorem segments_join_ofSegments {s : List Char} {rest : List (List Char)}
    (hrest : dropIdleEnd rest = rest) (hslash : ∀ x ∈ s :: rest, '/' ∉ x) (hn : IsPlain n) :
    ((ofSegments s rest).join ⟨n⟩).segments = s :: (rest ++ [n.toList]) := by
  by_cases hroot : s = [] ∧ rest = []
  · obtain ⟨rfl, rfl⟩ := hroot
    have htext : ((ofSegments [] []).join ⟨n⟩).text.toList = '/' :: n.toList := by
      simp [join, hn.not_isAbsolute, ofSegments]
    rw [segments, htext, Text.segments, if_pos rfl, Text.segments_of_notMem hn.2.2.2]
    rfl
  · have hsegments := segments_ofSegments hslash hroot
    rcases segments_join hn (ofSegments s rest) with ⟨init, hinit, -⟩ | ⟨-, hjoin⟩
    · -- an empty segment at the end would be idle
      rw [hsegments] at hinit
      rcases List.eq_nil_or_concat' rest with rfl | ⟨before, x, rfl⟩
      · obtain rfl : s = [] := by simpa using congrArg List.getLast? hinit
        exact absurd ⟨rfl, rfl⟩ hroot
      · have hlast : s :: before ++ [x] = init ++ [[]] := hinit
        obtain rfl : x = [] := List.singleton_inj.1 (List.append_inj' hlast rfl).2
        have hidle := List.rdropWhile_eq_self_iff.1 hrest (by simp)
        simp [isIdle] at hidle
    · rw [hjoin, hsegments, List.cons_append]

/-- The parent of a name in a parent is that parent. -/
theorem parent?_join (h : p.parent? = some q) (hn : IsPlain n) :
    (q.join ⟨n⟩).parent? = some q := by
  rcases eq_ofSegments_of_parent? h with rfl | ⟨s, rest, rfl, hrest, hslash⟩
  · have hjoin : (⟨""⟩ : Path).join ⟨n⟩ = ⟨n⟩ := by simp [join, hn.not_isAbsolute]
    have hsegments : (⟨n⟩ : Path).segments = [n.toList] := Text.segments_of_notMem hn.2.2.2
    have hne : n.toList ≠ [] := mt String.toList_eq_nil_iff.1 hn.1
    simp [hjoin, parent?, hsegments, dropIdleEnd, hne]
  · rw [parent?_of_segments hn (segments_join_ofSegments hrest hslash hn), hrest]

/-! ### Siblings -/

/-- A path whose file name is exchanged stays where it is. -/
theorem parent?_withFileName (h : p.fileName? = some n) (hm : IsPlain m) :
    (p.withFileName m).parent? = p.parent? := by
  obtain ⟨q, hq, -⟩ := parent?_of_fileName? h
  rw [withFileName, h, hq]
  exact parent?_join hq hm

theorem fileName?_of_components {cs : List Component} (h : p.components = cs ++ [.name n]) :
    p.fileName? = some n := by
  simp [fileName?, h]

/-- A path whose file name is exchanged has the new one. -/
theorem fileName?_withFileName (h : p.fileName? = some n) (hm : IsPlain m) :
    (p.withFileName m).fileName? = some m := by
  obtain ⟨cs, -, hcs⟩ := components_withFileName h hm
  exact fileName?_of_components hcs

/-- Siblings say the same when they have the same name. -/
theorem components_withFileName_eq_iff (h : p.fileName? = some n) (hm : IsPlain m) :
    (p.withFileName m).components = p.components ↔ m = n := by
  obtain ⟨cs, hp, hcs⟩ := components_withFileName h hm
  simp [hp, hcs]

end Imprint.Path
