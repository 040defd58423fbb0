import Imprint.Proofs.Run.Plan

/-!
# What a single file touches

A single file is written beside its final path first. So a run touches three paths: the final one,
the one with the staging prefix, and the one for the result of the formatter. A file that already
stands at the second or the third is lost, also when it is the template; every other file is kept.
What is refused at the final path or at the staging path can leave less than was there: a write that
is cut short leaves what was taken of it.

## Main definitions

* `Imprint.Run.ownPaths`: the paths that a run with a single file touches.

## Main results

* `Imprint.Run.single_unformatted_keptAt`: all that stands elsewhere is kept.
-/

namespace Imprint.Run

open Session

variable {programs : Formatting.Programs} {around : Nat → Template.Surroundings} {r : Request}
  {given : Option String} {outputDir : Option Path} {s : Store} {σ τ : Session}

/-- The final path of a single file with a name, and the paths at which it stands before. -/
def ownPaths (r : Request) (given : Option String) (outputDir : Option Path) (name : String) :
    List Path :=
  let final := finalPath r given.isSome outputDir name
  let staging := OutputName.staging final r.config.stagingPrefix
  [final, staging, OutputName.formatted staging]

/-- A run with a single file and without a formatter keeps what stands elsewhere than at its own
paths, whether it ends well or not. When it fails with anything but a refusal of the final path or
of the staging path, it keeps what stands there too. -/
theorem single_unformatted_keptAt {result : Except RunError Report}
    (hmode : r.mode = .single given outputDir) (hf : r.config.formatter.enabled = false)
    (hrun : (run programs around r).run.run σ = (result, τ)) :
    (∀ l, (∀ name, outputName r given = .ok name →
        ∀ p ∈ ownPaths r given outputDir name, σ.store.locate p ≠ l) →
      σ.store.KeptAt τ.store l) ∧
    (∀ e, result = .error e →
      (∀ name fault, outputName r given = .ok name →
        let final := finalPath r given.isSome outputDir name
        e ≠ .file ⟨final, fault⟩ ∧
          e ≠ .file ⟨OutputName.staging final r.config.stagingPrefix, fault⟩) →
      σ.store.AddsDirectories τ.store) := by
  cases hplan : singlePlan around r given outputDir σ.store with
  | error e =>
    obtain ⟨-, hstore⟩ := (gives_run_single_error programs around hmode hplan).eq_of_run hrun
    rw [← hstore]
    exact ⟨fun l _ => .refl σ.store l, fun _ _ _ => .refl σ.store⟩
  | ok plan =>
    obtain ⟨final, text⟩ := plan
    obtain ⟨name, hname, rfl⟩ := singlePlan_eq_ok hplan
    obtain ⟨outcome, t, hends⟩ := Output.Staged.exists_ends programs
      (stagedFor r (finalPath r given.isSome outputDir name) text) .parents σ.store
    obtain ⟨hresult, rfl⟩ := (gives_run_single programs around hmode hplan hends).eq_of_run hrun
    refine ⟨fun l hl => hends.keptAt_of_disabled hf (hl name hname), ?_⟩
    rintro e rfl hpath
    cases outcome with
    | ok status =>
      -- only the size of the file at the final path was refused
      simp only [entryFor, entryOf] at hresult
      cases hsize : τ.store.size (finalPath r given.isSome outputDir name) with
      | ok n => simp [hsize, Except.map] at hresult
      | error fault =>
        simp only [hsize, Except.map, Except.error.injEq] at hresult
        exact absurd hresult.symm (hpath name fault hname).1
    | error failure =>
      cases failure with
      | panic why => exact absurd rfl (hends.ne_panic_of_disabled hf why)
      | file fe =>
        obtain rfl : RunError.file fe = e := by
          simpa [entryFor, ofFailure, Except.map] using hresult
        obtain ⟨path, fault⟩ := fe
        rcases hends.path_eq_or_addsDirectories with rfl | rfl | hadds
        · exact absurd rfl (hpath name fault hname).1
        · exact absurd rfl (hpath name fault hname).2
        · exact hadds

/-- A template, a file with the name under which its output is staged, and another file. -/
def stagedNameStore : Store where
  entries := [(["srv", "t.mako.txt"], .file "hi\n".toUTF8),
    (["srv", ".t.txt"], .file "mine".toUTF8),
    (["srv", "notes.txt"], .file "also mine".toUTF8)]
  site := { cwd := ["srv"] }

/-- A request for a single file from `t.mako.txt`, without a formatter. -/
def singleRequest : Request where
  template := ⟨"t.mako.txt"⟩
  mode := .single none none
  config := { formatter := { enabled := false } }

/-- The same request with the path of the directory. -/
def absoluteRequest : Request :=
  { singleRequest with mode := .single none (some ⟨"/srv"⟩) }

/-- The run writes its file and keeps the other file. -/
theorem single_unformatted_keptAt_notes :
    let τ := ((run Formatting.noPrograms (fun _ => {}) absoluteRequest).run.run
      ⟨stagedNameStore, []⟩).2
    τ.store.get? ["srv", "t.txt"] = some (.file "hi".toUTF8) ∧
      stagedNameStore.KeptAt τ.store ["srv", "notes.txt"] := by
  refine ⟨by decide +kernel, ?_⟩
  rcases hrun : (run Formatting.noPrograms (fun _ => {}) absoluteRequest).run.run
      ⟨stagedNameStore, []⟩ with ⟨result, τ⟩
  refine (single_unformatted_keptAt rfl rfl hrun).1 ["srv", "notes.txt"] fun name hname => ?_
  obtain rfl : name = "t.txt" := by
    have hderive : outputName absoluteRequest none = .ok "t.txt" := by rfl
    exact (Except.ok.inj (hderive.symm.trans hname)).symm
  decide +kernel

/-- The file with the name under which the output is staged is lost: not all that stands elsewhere
than at the final path is kept. -/
theorem not_single_touches_final_only :
    ¬ ∀ (programs : Formatting.Programs) (around : Nat → Template.Surroundings) (r : Request)
      (given : Option String) (outputDir : Option Path) (name : String) (σ τ : Session)
      (result : Except RunError Report) (p : Path) (c : ByteArray),
      r.config.check = .ok () → r.mode = .single given outputDir →
      r.config.formatter.enabled = false → (run programs around r).run.run σ = (result, τ) →
      outputName r given = .ok name →
      σ.store.locate p ≠ σ.store.locate (finalPath r given.isSome outputDir name) →
      σ.store.read p = .ok c → τ.store.read p = .ok c := by
  intro h
  have hgone : ((run Formatting.noPrograms (fun _ => {}) singleRequest).run.run
      ⟨stagedNameStore, []⟩).2.store.isFile ⟨".t.txt"⟩ = false := by decide +kernel
  rcases hrun : (run Formatting.noPrograms (fun _ => {}) singleRequest).run.run
      ⟨stagedNameStore, []⟩ with ⟨result, τ⟩
  have hread := h Formatting.noPrograms (fun _ => {}) singleRequest none none "t.txt"
    ⟨stagedNameStore, []⟩ τ result ⟨".t.txt"⟩ "mine".toUTF8 rfl rfl rfl hrun rfl
    (by decide +kernel) (by rfl)
  rw [hrun, Store.isFile_iff.2 ⟨_, Store.read_eq_ok_iff.1 hread⟩] at hgone
  cases hgone

end Imprint.Run
