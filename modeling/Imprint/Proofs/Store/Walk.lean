import Mathlib.Data.List.Basic
import Imprint.Proofs.Results
import Imprint.Store.Resolve

/-!
# Walks through a store

What a walk can do is said here once: what a directory has in it, where a step leads and where a
path points. Whatever else is true of walks is derived from this.

## Main definitions

* `Imprint.Path.IsLegal`: texts that can name something.
* `Imprint.Path.steps`: the segments of a path that are walked through.

## Main results

* `Imprint.Store.enter_eq_ok_iff`: where a step leads.
* `Imprint.Store.aim_eq_ok_iff`: where a path points.
-/

namespace Imprint

namespace Path

/-- A text that can name something: it is not empty, not too long, and has no NUL in it. -/
structure IsLegal (p : Path) : Prop where
  nonempty : p.text.toList ≠ []
  no_nul : '\x00' ∉ p.text.toList
  short : p.text.utf8ByteSize < Store.maxPath

/-- The front of a text that can name something, if it is not empty, can name something too. -/
theorem IsLegal.of_isPrefix {p q : Path} (h : p.IsLegal) (hq : q.text.toList <+: p.text.toList)
    (hne : q.text.toList ≠ []) : q.IsLegal := by
  refine ⟨hne, fun hnul => h.no_nul (hq.subset hnul), Nat.lt_of_le_of_lt ?_ h.short⟩
  obtain ⟨t, ht⟩ := hq
  rw [← String.ofList_toList (s := p.text), ← ht, String.ofList_append, String.ofList_toList,
    String.utf8ByteSize_append]
  exact Nat.le_add_right _ _

/-- The segments of a path that are walked through. -/
def steps (p : Path) : List (List Char) :=
  p.segments.filter (· ≠ [])

theorem ne_nil_of_mem_steps {p : Path} {x : List Char} (h : x ∈ p.steps) : x ≠ [] := by
  simpa using (List.mem_filter.1 h).2

/-- An empty segment is idle. -/
theorem filter_isIdle_filter (xs : List (List Char)) :
    (xs.filter (· ≠ [])).filter (!isIdle ·) = xs.filter (!isIdle ·) := by
  rw [List.filter_filter]
  refine List.filter_congr fun x _ => ?_
  by_cases hx : x = [] <;> simp [isIdle, hx]

end Path

namespace Store

open Imprint.Path

variable {s : Store} {p : Path} {l m : Location} {x : List Char} {n : String}

/-! ### Steps -/

theorem ofSegment_eq_ok_iff {last : Last} :
    Last.ofSegment x = .ok last ↔ x = ['.'] ∧ last = .stay ∨ x = ['.', '.'] ∧ last = .up ∨
      (x ≠ ['.'] ∧ x ≠ ['.', '.'] ∧ (String.ofList x).utf8ByteSize ≤ maxName) ∧
        last = .name (String.ofList x) := by
  rw [Last.ofSegment]
  split
  · next hdot => simp [hdot, eq_comm]
  · next hdot =>
    split
    · next hup => simp [hup, eq_comm]
    · next hup =>
      split
      · next hlong => simp [hdot, hup, Nat.not_le.2 hlong]
      · next hlong => simp [hdot, hup, Nat.not_lt.1 hlong, eq_comm]

/-- A step that succeeds stays, goes up, or finds a directory. -/
theorem enter_eq_ok_iff :
    enter s m x = .ok l ↔ ∃ last, Last.ofSegment x = .ok last ∧
      ((last = .stay ∧ l = m) ∨ (last = .up ∧ l = m.dropLast) ∨
        ∃ n, last = .name n ∧ s.get? (m ++ [n]) = some .directory ∧ l = m ++ [n]) := by
  simp only [enter, Last.ofSegment]
  split
  · simp [eq_comm]
  · split
    · simp [eq_comm]
    · split
      · simp
      · rcases hc : s.get? (m ++ [String.ofList x]) with _ | _ | _
        · simp [hc]
        · simp [hc]
        · simp [hc, eq_comm]

/-- A step to a name that is missing fails. -/
theorem enter_eq_notFound (hx : Last.ofSegment x = .ok (.name n))
    (h : s.get? (l ++ [n]) = none) : enter s l x = .error .notFound := by
  obtain ⟨-, ⟨⟩⟩ | ⟨-, ⟨⟩⟩ | ⟨⟨hdot, hup, hlong⟩, hn⟩ := ofSegment_eq_ok_iff.1 hx
  obtain rfl := Last.name.inj hn
  rw [enter, if_neg hdot, if_neg hup]
  simp [Nat.not_lt.2 hlong, h]

/-! ### Walks -/

theorem walk_cons {segs : List (List Char)} :
    walk s m (x :: segs) = .ok l ↔
      ∃ next, enter s m x = .ok next ∧ walk s next segs = .ok l := by
  rw [walk, List.foldlM_cons, bind_eq_ok]
  rfl

theorem walk_append {before after : List (List Char)} :
    walk s m (before ++ after) = .ok l ↔
      ∃ next, walk s m before = .ok next ∧ walk s next after = .ok l := by
  rw [walk, List.foldlM_append, bind_eq_ok]
  rfl

theorem walk_concat {before : List (List Char)} :
    walk s m (before ++ [x]) = .ok l ↔
      ∃ next, walk s m before = .ok next ∧ enter s next x = .ok l := by
  rw [walk_append]
  refine exists_congr fun next => and_congr_right fun _ => ?_
  rw [walk, List.foldlM_cons]
  simp only [List.foldlM_nil, bind_pure]

/-! ### Where a path points -/

/-- Where a legal path points is decided by its steps. -/
theorem aim_of_isLegal (h : p.IsLegal) :
    aim s p = (match p.steps.reverse with
      | [] => .ok ⟨s.startOf p, .none, true⟩
      | x :: before => do
        let directory ← walk s (s.startOf p) before.reverse
        let last ← Last.ofSegment x
        .ok ⟨directory, last, p.text.toList.getLast? == some '/'⟩) := by
  have hempty : ¬ p.text.isEmpty = true := by
    simpa [String.isEmpty_iff] using h.nonempty
  have hnul : ¬ p.text.toList.contains '\x00' = true := by simpa using h.no_nul
  have hlong : ¬ p.text.utf8ByteSize ≥ maxPath := by simpa using h.short
  simp only [aim, if_neg hempty, if_neg hnul, if_neg hlong]
  rfl

theorem isLegal_of_aim {a : Aim} (h : aim s p = .ok a) : p.IsLegal := by
  simp only [aim] at h
  split at h
  · cases h
  · next hempty =>
    split at h
    · cases h
    · next hnul =>
      split at h
      · cases h
      · next hlong =>
        exact ⟨by simpa [String.isEmpty_iff] using hempty, by simpa using hnul,
          by simpa using hlong⟩

/-- A path points at its last step, in the directory to which the steps before it lead. Without a
step it is the root. -/
theorem aim_eq_ok_iff {a : Aim} : aim s p = .ok a ↔ p.IsLegal ∧
    ((p.steps = [] ∧ a = ⟨s.startOf p, .none, true⟩) ∨
      ∃ before x, p.steps = before ++ [x] ∧ walk s (s.startOf p) before = .ok a.directory ∧
        Last.ofSegment x = .ok a.last ∧ a.slash = (p.text.toList.getLast? == some '/')) := by
  by_cases hlegal : p.IsLegal
  · rw [aim_of_isLegal hlegal]
    rcases List.eq_nil_or_concat' p.steps with hnil | ⟨before, x, hsteps⟩
    · rw [hnil]
      constructor
      · exact fun h => ⟨hlegal, .inl ⟨rfl, (Except.ok.inj h).symm⟩⟩
      · rintro ⟨-, ⟨-, rfl⟩ | ⟨before, x, hsteps, -⟩⟩
        · rfl
        · simp at hsteps
    · have hreverse : p.steps.reverse = x :: before.reverse := by simp [hsteps]
      simp only [hreverse, List.reverse_reverse, bind_eq_ok]
      constructor
      · rintro ⟨directory, hwalk, last, hlast, ha⟩
        obtain rfl := Except.ok.inj ha
        exact ⟨hlegal, .inr ⟨before, x, hsteps, hwalk, hlast, rfl⟩⟩
      · rintro ⟨-, ⟨hnil, -⟩ | ⟨before', x', hsteps', hwalk, hlast, hslash⟩⟩
        · simp [hsteps] at hnil
        · obtain ⟨rfl, hx⟩ := List.append_inj' (hsteps.symm.trans hsteps') rfl
          obtain rfl := List.singleton_inj.1 hx
          exact ⟨_, hwalk, _, hlast, by rw [← hslash]⟩
  · simp only [hlegal, false_and, iff_false]
    exact fun h => hlegal (isLegal_of_aim h)

end Store

end Imprint
