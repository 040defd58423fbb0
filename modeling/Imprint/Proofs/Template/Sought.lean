import Mathlib.Data.List.Find
import Imprint.Proofs.Template.Closure

/-!
# What loading looks at

A template is loaded from a text and a store, but nothing in the store counts except what stands
under the names that are looked for: those that the template, or one that it needs, refers to, apart
from its own. Stores and search paths in which these names stand for the same texts give the same
template, or the same error.

## Main definitions

* `Imprint.Template.Sought`: the names that may be looked for.
* `Imprint.Template.SameTexts`: stores in which these names stand for the same texts.
* `Imprint.Template.RenderError.within`: an error that names another search path.

## Main results

* `Imprint.Template.Loading.Visits.of_fetch_eq`: the visits are the same.
* `Imprint.Template.compile_of_fetch_eq`: so is the outcome, up to the search path that it names.
* `Imprint.Template.compile_of_sameTexts`: for one search path it is the same.
-/

namespace Imprint.Template

open Log

variable {store store' : Store} {searchPath : List Path} {name : String} {s t : List Char}

/-- A name that may be looked for: some template that is needed refers to it, and it is not the name
of the template itself. -/
def Sought (store : Store) (searchPath : List Path) (name : String) (t : List Char) (n : String) :
    Prop :=
  n ≠ name ∧ ∃ m u r, Needed store searchPath name t m u ∧ r ∈ references u ∧ r.name = n

/-- Every name that may be looked for stands for the same text, or for none, or is refused in the
same way. -/
def SameTexts (store store' : Store) (searchPath : List Path) (name : String) (t : List Char) :
    Prop :=
  ∀ n, Sought store searchPath name t n → fetch store' searchPath n = fetch store searchPath n

/-- Where a template has one reference, to a text without references, this is the only name. -/
theorem Sought.name_eq {n : String} {r : Reference} {u : List Char}
    (h : Sought store searchPath name t n) (ht : references t = [r]) (hr : r.name ≠ name)
    (hfetch : fetch store searchPath r.name = .ok (some u)) (hu : references u = []) :
    n = r.name := by
  have htexts (m : String) (v : List Char) (hneeded : Needed store searchPath name t m v) :
      v = t ∨ v = u := by
    induction hneeded with
    | self => exact .inl rfl
    | reference _ hr' hv ih =>
      rcases ih with rfl | rfl
      · obtain rfl := List.mem_singleton.1 (ht ▸ hr')
        rw [assigned_of_ne hr, hfetch] at hv
        exact .inr (by simpa using hv.symm)
      · simp [hu] at hr'
  obtain ⟨-, m, v, r', hneeded, hr', rfl⟩ := h
  rcases htexts m v hneeded with rfl | rfl
  · obtain rfl := List.mem_singleton.1 (ht ▸ hr')
    rfl
  · simp [hu] at hr'

/-- A name stands for the same text when the same files are there for it. -/
theorem fetch_congr {n : String} (h : ∀ dir ∈ searchPath, ∀ c,
      store'.FileAt (dir.join ⟨n⟩) c ↔ store.FileAt (dir.join ⟨n⟩) c) :
    fetch store' searchPath n = fetch store searchPath n := by
  have hlocate : locate store' searchPath n = locate store searchPath n := by
    refine List.find?_congr fun p hp => ?_
    obtain ⟨dir, hdir, rfl⟩ := List.mem_map.1 hp
    rw [Bool.eq_iff_iff, Store.isFile_iff, Store.isFile_iff]
    exact exists_congr (h dir hdir)
  simp only [fetch, hlocate]
  cases hfound : locate store searchPath n with
  | none => rfl
  | some path =>
    obtain ⟨before, dir, after, rfl, rfl, hfile, -⟩ := locate_eq_some_iff.1 hfound
    obtain ⟨c, hc⟩ := Store.isFile_iff.1 hfile
    have hc' := (h dir (by simp) c).2 hc
    simp only [Store.readText, Store.read_eq_ok_iff.2 hc, Store.read_eq_ok_iff.2 hc']

/-! ### Two runs -/

/-- The error with another search path in the place of the one that it names. -/
def RenderError.within (searchPath : List Path) : RenderError → RenderError
  | .notFound template reference _ => .notFound template reference searchPath
  | e => e

variable {searchPath' : List Path} {l l' : Loading} {next : Reference}
  {rest visited : List Reference}

/-- A pending name that was not seen may be looked for. -/
theorem Loading.Sound.sought (h : l.Sound store searchPath name t) (hnext : next ∈ l.pending)
    (hseen : next.name ∉ l.seen) : Sought store searchPath name t next.name := by
  obtain ⟨m, u, hneeded, hr⟩ := h.pending next hnext
  exact ⟨fun heq => hseen (heq ▸ h.self_seen), m, u, next, hneeded, hr, rfl⟩

/-- A visit looks only for names that may be looked for. -/
theorem Loading.Sound.visit_eq (h : l.Sound store searchPath name t)
    (hsame : ∀ n, Sought store searchPath name t n →
      fetch store' searchPath' n = fetch store searchPath n) (hnext : next ∈ l.pending) :
    l.visit store' searchPath' name next rest =
      (l.visit store searchPath name next rest).mapError (RenderError.within searchPath') := by
  by_cases hseen : next.name ∈ l.seen
  · simp [Loading.visit, hseen, Except.mapError]
  · simp only [Loading.visit, hsame next.name (h.sought hnext hseen), List.contains_eq_mem, hseen,
      decide_false, Bool.false_eq_true, ↓reduceIte]
    cases hfetch : fetch store searchPath next.name with
    | error e => rcases fetch_eq_error hfetch with ⟨path, fault, rfl⟩ | ⟨line, rfl⟩ <;> rfl
    | ok found =>
      cases found with
      | none => cases next.optional <;> rfl
      | some u => rfl

/-- The same references are visited. -/
theorem Loading.Visits.of_fetch_eq (hsame : ∀ n, Sought store searchPath name t n →
      fetch store' searchPath' n = fetch store searchPath n)
    (h : l.Visits store searchPath name Eq visited l') (hl : l.Sound store searchPath name t) :
    l.Visits store' searchPath' name Eq visited l' := by
  induction h with
  | nil l => exact .nil l
  | cons hnext hvisit _ ih =>
    refine .cons hnext ?_ (ih (hl.visit (hnext ▸ .refl _) hvisit))
    rw [hl.visit_eq hsame (hnext ▸ List.mem_cons_self), hvisit]
    rfl

/-- The visits end in the same way. -/
theorem Loading.Ends.of_fetch_eq {x : Except RenderError Loading}
    (hsame : ∀ n, Sought store searchPath name t n →
      fetch store' searchPath' n = fetch store searchPath n)
    (h : l.Ends store searchPath name Eq x) (hl : l.Sound store searchPath name t) :
    l.Ends store' searchPath' name Eq (x.mapError (RenderError.within searchPath')) := by
  cases h with
  | done hpending => exact .done hpending
  | failed hnext hvisit =>
    refine .failed hnext ?_
    rw [hl.visit_eq hsame (hnext ▸ List.mem_cons_self), hvisit]
    rfl

theorem Compiled.mapError_ofTexts (searchPath : List Path) (name : String)
    (texts : List (String × List Char)) :
    (Compiled.ofTexts name texts).mapError (RenderError.within searchPath) =
      Compiled.ofTexts name texts := by
  cases h : Compiled.ofTexts name texts with
  | ok c => rfl
  | error e =>
    obtain ⟨flaw, rfl⟩ := Compiled.ofTexts_eq_error h
    rfl

/-- Compiling depends on the store and the search path only through the texts that the names stand
for that may be looked for, and on the search path where an error names it. -/
theorem compile_of_fetch_eq (hsame : ∀ t, expanded name s = .ok t →
      ∀ n, Sought store searchPath name t n →
        fetch store' searchPath' n = fetch store searchPath n) (log log' : List Event) :
    ((compile store' searchPath' name s).run.run log').1 =
      ((compile store searchPath name s).run.run log).1.mapError
        (RenderError.within searchPath') := by
  obtain ⟨x, hx, hx'⟩ : ∃ x, Yields (compile store searchPath name s) x ∧
      Yields (compile store' searchPath' name s)
        (x.mapError (RenderError.within searchPath')) := by
    cases ht : expanded name s with
    | error e =>
      obtain ⟨line, rfl⟩ := expanded_eq_error ht
      exact ⟨_, yields_compile (yields_load_of_error ht), yields_compile (yields_load_of_error ht)⟩
    | ok t =>
      obtain ⟨visited, l, x, hvisits, hends, hload⟩ := load_of_expanded store searchPath ht
      have hsound := Loading.sound_start.visits hvisits.perm
      have hvisits' := hvisits.of_fetch_eq (hsame t ht) Loading.sound_start
      have hends' := hends.of_fetch_eq (hsame t ht) hsound
      refine ⟨_, yields_compile hload, ?_⟩
      have hcompile := yields_compile (hvisits'.yields_load ht hends')
      cases x with
      | error e => exact hcompile
      | ok l => exact (Compiled.mapError_ofTexts ..).symm ▸ hcompile
  rw [← hx.eq_of_run (Prod.eta _).symm, ← hx'.eq_of_run (Prod.eta _).symm]

/-- Compiling depends on the store only through the names that may be looked for. -/
theorem compile_of_sameTexts
    (hsame : ∀ t, expanded name s = .ok t → SameTexts store store' searchPath name t)
    (log log' : List Event) :
    ((compile store' searchPath name s).run.run log').1 =
      ((compile store searchPath name s).run.run log).1 :=
  (compile_of_fetch_eq hsame log log').trans (compile_of_fetch_eq (fun _ _ _ _ => rfl) log log).symm

end Imprint.Template
