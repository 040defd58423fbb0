import Imprint.Output.Target
import Imprint.Proofs.Session.Effect
import Imprint.Proofs.Store.Operations

/-!
# What writing an output in place does

Writing an output first makes the directories that its path needs and then writes the file. On the
store this is one operation, `put`, which adds directories and changes the one entry that the path
denotes.

## Main definitions

* `Imprint.Store.parents`: the directories that a path needs.
* `Imprint.Store.put`: an output with its directories.

## Main results

* `Imprint.Output.gives_writeTarget`: writing an output is putting its file.
* `Imprint.Store.fileAt_of_put`, `Imprint.Store.get?_put`: what is there afterwards.
-/

namespace Imprint

namespace Store

variable {s t u : Store} {p : Path} {c : ByteArray} {e : FileError}

/-- Makes the directories that a path needs. -/
def parents (s : Store) (p : Path) : Except FileError Unit × Store :=
  match p.parent? with
  | none => (.ok (), s)
  | some q =>
    match s.makeDirectories q with
    | (some fault, t) => (.error ⟨q, fault⟩, t)
    | (none, t) => (.ok (), t)

/-- Puts a file at a path, together with the directories that the path needs. -/
def put (s : Store) (p : Path) (c : ByteArray) : Except FileError Unit × Store :=
  match s.parents p with
  | (.error e, t) => (.error e, t)
  | (.ok (), t) =>
    match t.write p c with
    | (none, u) => (.ok (), u)
    | (some fault, u) => (.error ⟨p, fault⟩, u)

/-- The directories of a path are made at the paths above it. -/
theorem madeAt_parents {q : Path} (hq : p.parent? = some q) (s : Store) :
    MadeAt (needed q) s (s.parents p).2 := by
  have h := madeAt_makeDirectories s q
  simp only [parents, hq]
  rcases hm : s.makeDirectories q with ⟨_ | fault, t⟩ <;> rw [hm] at h <;> exact h

/-- The directories of a path are all made, unless it has none. -/
theorem store_parents {q : Path} (hq : p.parent? = some q) (hne : q.text.isEmpty = false)
    (s : Store) : (s.parents p).2 = (s.makeAll (needed q)).2 := by
  simp only [parents, hq, makeDirectories, hne, Bool.false_eq_true, ↓reduceIte, needed]
  rcases s.makeAll (q :: pathsAbove q.text.length q) with ⟨_ | fault, t⟩ <;> rfl

theorem addsDirectories_parents (s : Store) (p : Path) : s.AddsDirectories (s.parents p).2 := by
  cases hq : p.parent? with
  | none =>
    simp only [parents, hq]
    exact .refl s
  | some q => exact (madeAt_parents hq s).addsDirectories

/-- A file is put in two steps. -/
theorem put_eq_ok (h : s.put p c = (.ok (), u)) :
    ∃ t, s.parents p = (.ok (), t) ∧ t.write p c = (none, u) := by
  simp only [put] at h
  split at h
  · cases h
  · next t ht =>
    refine ⟨t, ht, ?_⟩
    split at h
    · next hw => cases h; exact hw
    · cases h

/-- What has been put can be read. -/
theorem fileAt_of_put (h : s.put p c = (.ok (), u)) : u.FileAt p c := by
  obtain ⟨t, -, hw⟩ := put_eq_ok h
  exact fileAt_of_write hw

/-- What was put was taken by the site. -/
theorem refusal?_of_put (h : s.put p c = (.ok (), u)) :
    s.site.refusal? (s.locate p) c = none := by
  obtain ⟨t, hp, hw⟩ := put_eq_ok h
  have hsite := (addsDirectories_parents s p).site
  rw [hp] at hsite
  obtain ⟨l, hl, -, htaken, -⟩ := write_eq_none_iff.1 hw
  rwa [locate_eq_of_site hsite, locate_of_denotes hl, hsite]

/-- Directories stay when a file is put, also when that fails. -/
theorem keepsDirectories_put (s : Store) (p : Path) (c : ByteArray) :
    s.KeepsDirectories (s.put p c).2 := by
  have hadds := (addsDirectories_parents s p).keepsDirectories
  simp only [put]
  rcases hp : s.parents p with ⟨e | ⟨⟩, t⟩ <;> rw [hp] at hadds
  · exact hadds
  · have hwrite := (sameDirectories_write t p c).keepsDirectories
    dsimp only
    rcases hw : t.write p c with ⟨_ | fault, u⟩ <;> rw [hw] at hwrite <;>
      exact hadds.trans hwrite

/-- Putting a file changes the one entry that the path is about; elsewhere directories may have been
added. -/
theorem get?_put (h : s.put p c = (.ok (), u)) (l : Location) :
    if s.locate p = l then u.get? l = some (.file c)
    else u.get? l = s.get? l ∨ s.get? l = none ∧ u.get? l = some .directory := by
  obtain ⟨t, hp, hw⟩ := put_eq_ok h
  have hadds := addsDirectories_parents s p
  rw [hp] at hadds
  rw [get?_write hw l, locate_eq_of_site hadds.site]
  split
  · rfl
  · exact hadds.kept l

end Store

namespace Output

open Session

/-- A change gives what the operation on the store says and leaves the store that it leaves. -/
theorem gives_change (p : Path) (f : Store → Option Store.Fault × Store) (s : Store) :
    Gives (change p f).run s
      (match (f s).1 with
        | some fault => .error ⟨p, fault⟩
        | none => .ok ()) (f s).2 := by
  refine (gives_currentStore s).lift.bind_ok ?_
  refine (gives_setStore s (f s).2).lift.bind_ok ?_
  cases (f s).1 with
  | none => exact gives_pure _ _
  | some fault => exact gives_pure _ _

theorem gives_makeParents (p : Path) (s : Store) :
    Gives (makeParents p).run s (s.parents p).1 (s.parents p).2 := by
  cases hp : p.parent? with
  | none =>
    simp only [makeParents, Store.parents, hp]
    exact gives_pure _ s
  | some q =>
    have hchange := gives_change q (·.makeDirectories q) s
    simp only [makeParents, Store.parents, hp]
    rcases hm : s.makeDirectories q with ⟨_ | fault, t⟩ <;> simpa only [hm] using hchange

/-- Writing an output is putting its file. -/
theorem gives_writeTarget (dir : Path) (filename : String) (content : List Char) (s : Store) :
    let path := dir.join ⟨filename⟩
    let r := s.put path (String.ofList content).toUTF8
    Gives (writeTarget dir filename content).run s (r.1.map fun _ => path) r.2 := by
  intro path r
  have hparents := gives_makeParents path s
  rcases hp : s.parents path with ⟨e | ⟨⟩, t⟩
  · rw [hp] at hparents
    have hr : r = (.error e, t) := by simp only [r, Store.put, hp]
    rw [hr]
    exact hparents.bind_error
  · rw [hp] at hparents
    refine hparents.bind_ok ?_
    have hchange := gives_change path (·.write path (String.ofList content).toUTF8) t
    rcases hw : t.write path (String.ofList content).toUTF8 with ⟨_ | fault, u⟩ <;>
      simp only [hw] at hchange
    · have hr : r = (.ok (), u) := by simp only [r, Store.put, hp, hw]
      rw [hr]
      exact hchange.bind_ok ((gives_report _ u).lift.bind_ok (gives_pure _ u))
    · have hr : r = (.error ⟨path, fault⟩, u) := by simp only [r, Store.put, hp, hw]
      rw [hr]
      exact hchange.bind_error

end Output

end Imprint
