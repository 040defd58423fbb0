import Imprint.Proofs.Output.Target

/-!
# Stores that differ in contents only

Making directories and writing files never looks at a content that is there. So two stores at one
site that have files and directories at the same locations, whatever the files hold, answer these
operations alike and go on having them at the same locations.

## Main definitions

* `Imprint.Store.SameKinds`: files and directories at the same locations.
* `Imprint.Store.Alike`: results that are the same fault or stores of this sort.

## Main results

* `Imprint.Store.SameKinds.aim`: a path points to the same place.
* `Imprint.Store.SameKinds.put`: putting an output goes alike.
-/

namespace Imprint.Store

variable {s t u : Store} {p : Path} {c : ByteArray}

/-- Whether an entry is a directory. -/
def Entry.isDirectory : Entry → Bool
  | .directory => true
  | .file _ => false

/-- Files and directories at the same locations of one site. -/
structure SameKinds (s t : Store) : Prop where
  site : s.site = t.site
  kinds : ∀ l, (s.get? l).map Entry.isDirectory = (t.get? l).map Entry.isDirectory

/-- The same fault, or stores with files and directories at the same locations. -/
inductive Alike : Except Fault Store → Except Fault Store → Prop
  | ok {s t : Store} (h : SameKinds s t) : Alike (.ok s) (.ok t)
  | error (fault : Fault) : Alike (.error fault) (.error fault)

theorem SameKinds.refl (s : Store) : SameKinds s s := ⟨rfl, fun _ => rfl⟩

theorem SameKinds.trans (h : SameKinds s t) (h' : SameKinds t u) : SameKinds s u :=
  ⟨h.site.trans h'.site, fun l => (h.kinds l).trans (h'.kinds l)⟩

/-- The entries at a location are both missing, both directories or both files. -/
theorem SameKinds.cases (h : SameKinds s t) (l : Location) :
    (s.get? l = none ∧ t.get? l = none) ∨
      (s.get? l = some .directory ∧ t.get? l = some .directory) ∨
      ∃ c c', s.get? l = some (.file c) ∧ t.get? l = some (.file c') := by
  have hl := h.kinds l
  rcases hs : s.get? l with _ | c | _ <;> rcases ht : t.get? l with _ | c' | _ <;>
    simp_all [Entry.isDirectory]

/-- Directories stand at the same locations. -/
theorem SameKinds.sameDirectories (h : SameKinds s t) : s.SameDirectories t := by
  refine ⟨h.site, fun l => ?_⟩
  rcases h.cases l with ⟨hs, ht⟩ | ⟨hs, ht⟩ | ⟨c, c', hs, ht⟩ <;> simp [hs, ht]

theorem SameKinds.ne_directory (h : SameKinds s t) {l : Location}
    (hl : s.get? l ≠ some .directory) : t.get? l ≠ some .directory :=
  fun ht => hl ((h.sameDirectories.same l).2 ht)

theorem SameKinds.insert (h : SameKinds s t) {l : Location} (hl : s.get? l ≠ some .directory)
    {e e' : Entry} (he : e.isDirectory = e'.isDirectory) :
    SameKinds (s.insert l e) (t.insert l e') := by
  refine ⟨h.site, fun k => ?_⟩
  rw [get?_insert _ _ _ _ (not_isFixed hl), get?_insert _ _ _ _ (not_isFixed (h.ne_directory hl))]
  split
  · simp [he]
  · exact h.kinds k

/-! ### Looking at a path -/

theorem SameKinds.enter (h : SameKinds s t) : enter s = enter t := by
  funext l segment
  simp only [Store.enter]
  rcases h.cases (l ++ [String.ofList segment]) with ⟨hs, ht⟩ | ⟨hs, ht⟩ | ⟨c, c', hs, ht⟩ <;>
    simp only [hs, ht]

/-- A path points to the same place. -/
theorem SameKinds.aim (h : SameKinds s t) : aim s p = aim t p := by
  simp only [Store.aim, walk, h.enter, startOf, h.site]

theorem SameKinds.isDirectory (h : SameKinds s t) : s.isDirectory p = t.isDirectory p := by
  simp only [Store.isDirectory, find, h.aim]
  cases Store.aim t p with
  | error e => rfl
  | ok a =>
    obtain ⟨l, last, slash⟩ := a
    cases last with
    | name n =>
      simp only [bind, Except.bind]
      rcases h.cases (l ++ [n]) with ⟨hs, ht⟩ | ⟨hs, ht⟩ | ⟨c, c', hs, ht⟩ <;> simp only [hs, ht]
      cases slash <;> rfl
    | _ => rfl

/-! ### Changing a store -/

theorem SameKinds.makeDirectory (h : SameKinds s t) :
    Alike (s.makeDirectory p) (t.makeDirectory p) := by
  simp only [Store.makeDirectory, h.aim]
  cases Store.aim t p with
  | error e => exact .error e
  | ok a =>
    obtain ⟨l, last, slash⟩ := a
    cases last with
    | name n =>
      simp only [bind, Except.bind]
      rw [h.site]
      rcases h.cases (l ++ [n]) with ⟨hs, ht⟩ | ⟨hs, ht⟩ | ⟨c, c', hs, ht⟩ <;> rw [hs, ht]
      · cases t.site.barred? (l ++ [n]) with
        | some e => exact .error e
        | none => exact .ok (h.insert (by simp [hs]) rfl)
      · exact .error _
      · exact .error _
    | _ => exact .error _

theorem SameKinds.ensureDirectory (h : SameKinds s t) :
    Alike (s.ensureDirectory p) (t.ensureDirectory p) := by
  simp only [Store.ensureDirectory, h.isDirectory]
  have hmake := h.makeDirectory (p := p)
  cases hs : s.makeDirectory p <;> cases ht : t.makeDirectory p <;> rw [hs, ht] at hmake <;>
    cases hmake
  · dsimp only
    split
    · exact .ok h
    · exact .error _
  · exact .ok ‹_›

theorem SameKinds.makeAll (h : SameKinds s t) (ps : List Path) :
    (s.makeAll ps).1 = (t.makeAll ps).1 ∧ SameKinds (s.makeAll ps).2 (t.makeAll ps).2 := by
  induction ps with
  | nil => exact ⟨rfl, h⟩
  | cons p above ih =>
    simp only [Store.makeAll, h.isDirectory]
    have hmake := h.makeDirectory (p := p)
    rcases hs : s.makeDirectory p with fault | s' <;>
      rcases ht : t.makeDirectory p with fault' | t' <;>
      rw [hs, ht] at hmake <;> cases hmake
    · cases fault with
      | notFound =>
        rcases hs : s.makeAll above with ⟨fault, s'⟩
        rcases ht : t.makeAll above with ⟨fault', t'⟩
        rw [hs, ht] at ih
        obtain ⟨rfl, hst⟩ : fault = fault' ∧ SameKinds s' t' := ih
        cases fault with
        | some e => exact ⟨rfl, hst⟩
        | none =>
          have hensure := hst.ensureDirectory (p := p)
          dsimp only
          rcases hs' : s'.ensureDirectory p with e | s'' <;>
            rcases ht' : t'.ensureDirectory p with e' | t'' <;>
            rw [hs', ht'] at hensure <;> cases hensure
          · exact ⟨rfl, hst⟩
          · exact ⟨rfl, ‹_›⟩
      | _ =>
        dsimp only
        split <;> exact ⟨rfl, h⟩
    · exact ⟨rfl, ‹_›⟩

theorem SameKinds.makeDirectories (h : SameKinds s t) (p : Path) :
    (s.makeDirectories p).1 = (t.makeDirectories p).1 ∧
      SameKinds (s.makeDirectories p).2 (t.makeDirectories p).2 := by
  simp only [Store.makeDirectories]
  split
  · exact ⟨rfl, h⟩
  · exact h.makeAll _

theorem SameKinds.parents (h : SameKinds s t) (p : Path) :
    (s.parents p).1 = (t.parents p).1 ∧ SameKinds (s.parents p).2 (t.parents p).2 := by
  simp only [Store.parents]
  cases p.parent? with
  | none => exact ⟨rfl, h⟩
  | some q =>
    obtain ⟨hfault, hst⟩ := h.makeDirectories q
    dsimp only
    rcases hs : s.makeDirectories q with ⟨fault, s'⟩
    rcases ht : t.makeDirectories q with ⟨fault', t'⟩
    rw [hs, ht] at hfault hst
    obtain rfl : fault = fault' := hfault
    cases fault with
    | none => exact ⟨rfl, hst⟩
    | some e => exact ⟨rfl, hst⟩

theorem SameKinds.writeLocation (h : SameKinds s t) :
    s.writeLocation p = t.writeLocation p := by
  simp only [Store.writeLocation, h.aim]
  cases Store.aim t p with
  | error e => rfl
  | ok a =>
    obtain ⟨l, last, slash⟩ := a
    cases last with
    | name n =>
      simp only [bind, Except.bind]
      rcases h.cases (l ++ [n]) with ⟨hs, ht⟩ | ⟨hs, ht⟩ | ⟨c, c', hs, ht⟩ <;> rw [hs, ht]
    | _ => rfl

/-- A write goes alike, also one that is cut short. -/
theorem SameKinds.write (h : SameKinds s t) (p : Path) (c : ByteArray) :
    (s.write p c).1 = (t.write p c).1 ∧ SameKinds (s.write p c).2 (t.write p c).2 := by
  simp only [Store.write, ← h.writeLocation]
  cases hl : s.writeLocation p with
  | error e => exact ⟨rfl, h⟩
  | ok l =>
    have hd := (writeLocation_eq_ok_iff.1 hl).2
    simp only [fill, ← h.site]
    rcases s.site.refusal? l c with _ | ⟨e, _ | n⟩
    · exact ⟨rfl, h.insert hd rfl⟩
    · exact ⟨rfl, h⟩
    · exact ⟨rfl, h.insert hd rfl⟩

/-- Putting an output goes alike. -/
theorem SameKinds.put (h : SameKinds s t) (p : Path) (c : ByteArray) :
    (s.put p c).1 = (t.put p c).1 ∧ SameKinds (s.put p c).2 (t.put p c).2 := by
  obtain ⟨hresult, hst⟩ := h.parents p
  simp only [Store.put]
  rcases hs : s.parents p with ⟨r, s'⟩
  rcases ht : t.parents p with ⟨r', t'⟩
  rw [hs, ht] at hresult hst
  obtain rfl : r = r' := hresult
  cases r with
  | error e => exact ⟨rfl, hst⟩
  | ok _ =>
    obtain ⟨hfault, hwrite⟩ := hst.write p c
    dsimp only
    rcases hs' : s'.write p c with ⟨fault, s''⟩
    rcases ht' : t'.write p c with ⟨fault', t''⟩
    rw [hs', ht'] at hfault hwrite
    obtain rfl : fault = fault' := hfault
    cases fault with
    | none => exact ⟨rfl, hwrite⟩
    | some e => exact ⟨rfl, hwrite⟩

end Imprint.Store
