import Imprint.Proofs.Run.Spared

/-!
# What is on disk when formatting is skipped

That formatting was skipped is meant to say that the file holds the text as it was rendered. The
formatter works on the one copy of the text that there is, though: on the file itself, or on the
staging file, which is moved to the final path when formatting fails. So a formatter that writes to
this copy and then fails leaves what it wrote. All else that a run does afterwards keeps the copy,
as long as no later output is written over it.

## Main definitions

* `Imprint.Run.formattedEach`: outputs that are written and formatted in place one after another.
* `Imprint.Run.KeepsCopy`: the formatter leaves the rendered text in the copy it is handed.

## Main results

* `Imprint.Output.Staged.fileAt_final_iff`: what a staged output holds without formatting.
* `Imprint.Run.targets_keptAt`: what the files of the directives leave of all others.
* `Imprint.Run.fileAt_iff_keepsCopy`: the file of a skipped output holds its text exactly when the
  formatter leaves it.
-/

namespace Imprint

open Formatting

/-! ### A staged output -/

namespace Output.Staged

variable {programs : Programs} {w : Staged} {s t : Store} {why : Skip}

/-- The formatter leaves the text in the staging file. -/
def KeepsCopy (programs : Programs) (w : Staged) (s : Store) : Prop :=
  ∀ t, (s.parents w.final).2.write w.staging w.bytes = (none, t) →
    (w.formatted programs t).2.FileAt w.staging w.bytes

/-- When formatting is skipped, the staging file is moved to the final path as the formatter left
it. -/
theorem fileAt_final_iff (hapart : w.ResultApart)
    (h : Ends programs w .parents s (.ok (.skipped why)) t) :
    t.FileAt w.final w.bytes ↔ w.KeepsCopy programs s := by
  obtain ⟨s₁, s₂, s₃, hparents, hwrite, -, hmove, rfl⟩ := exists_of_ends_ok h
  have hcopy : w.KeepsCopy programs s ↔ (w.formatted programs s₂).2.FileAt w.staging w.bytes := by
    simp only [KeepsCopy, hparents, hwrite, Prod.mk.injEq, true_and, forall_eq']
  rw [hcopy]
  refine ⟨fun hfinal => ?_, fileAt_final_of_rename hapart hmove⟩
  obtain ⟨c, hc⟩ := Store.exists_fileAt_of_rename hmove
  exact (fileAt_final_of_rename hapart hmove hc).unique hfinal ▸ hc

end Output.Staged

namespace Run

open Session

variable {programs : Programs} {around : Nat → Template.Surroundings} {config : Config}
  {compiled : Template.Compiled} {dir : Path} {d : Directive} {ds : List Directive} {o : Rendered}
  {outputs before after : List Rendered} {s t : Store} {l : Location}

/-! ### One file for each directive -/

/-- The store in which outputs have been written and formatted in place, one after another. -/
def formattedEach (programs : Programs) (f : Config.Formatter) (outputs : List Rendered)
    (s : Store) : Store :=
  outputs.foldl (fun t o => (inPlace programs f o.path (t.put o.path o.bytes).2).2) s

theorem store_of_target (h : target programs around config compiled dir d s = (.ok o, t)) :
    t = formattedEach programs config.formatter [o] s := by
  obtain ⟨u, -, -, hput, hformat, -⟩ := exists_put_of_target h
  simp [formattedEach, hput, hformat]

/-- The files of the directives have been written and formatted one after another. -/
theorem store_of_targets (h : targets programs around config compiled dir ds s = (.ok outputs, t)) :
    t = formattedEach programs config.formatter outputs s := by
  induction ds generalizing s outputs with
  | nil =>
    obtain ⟨rfl, rfl⟩ : [] = outputs ∧ s = t := by simpa [targets] using h
    rfl
  | cons d ds ih =>
    obtain ⟨o, os, u, hd, hds, rfl⟩ := targets_cons_eq_ok _ _ _ _ _ h
    rw [ih hds, store_of_target hd]
    rfl

/-- A confined formatter has its hands on no file but that of the directive. -/
theorem target_keptAt (hconf : Confined programs config.formatter.program)
    (h : target programs around config compiled dir d s = (.ok o, t)) :
    s.KeepsDirectories t ∧ ∃ k, t.Denotes o.path k ∧ ∀ l, l ≠ k → s.KeptAt t l := by
  obtain ⟨u, -, -, hput, hformat, -⟩ := exists_put_of_target h
  obtain rfl : (inPlace programs config.formatter o.path u).2 = t := congrArg Prod.snd hformat
  have hdirs := hconf.sameDirectories_inPlace o.path u
  obtain ⟨k, hk, -⟩ := Store.fileAt_of_put hput
  have hkeeps := Store.keepsDirectories_put s o.path o.bytes
  rw [hput] at hkeeps
  refine ⟨hkeeps.trans hdirs.keepsDirectories, k, hk.mono hdirs.keepsDirectories, fun l hlk => ?_⟩
  have hsu := Store.get?_put hput l
  rw [Store.locate_eq_of_site hkeeps.site, Store.locate_of_denotes hk, if_neg (Ne.symm hlk)] at hsu
  refine Store.KeptAt.trans hsu ?_
  rcases hconf.get?_inPlace o.path u l with heq | ⟨c, hl, -⟩
  · exact .of_eq heq
  · exact absurd (hl.unique hk rfl) hlk

/-- The files of the directives leave all files that are none of them. -/
theorem targets_keptAt (hconf : Confined programs config.formatter.program)
    (h : targets programs around config compiled dir ds s = (.ok outputs, t)) :
    s.KeepsDirectories t ∧ ∀ l, (∀ o ∈ outputs, ¬ t.Denotes o.path l) → s.KeptAt t l := by
  induction ds generalizing s outputs with
  | nil =>
    obtain ⟨rfl, rfl⟩ : [] = outputs ∧ s = t := by simpa [targets] using h
    exact ⟨.refl s, fun l _ => .refl s l⟩
  | cons d ds ih =>
    obtain ⟨o, os, u, hd, hds, rfl⟩ := targets_cons_eq_ok _ _ _ _ _ h
    obtain ⟨hkeeps, k, hk, hframe⟩ := target_keptAt hconf hd
    obtain ⟨hkeeps', hframe'⟩ := ih hds
    refine ⟨hkeeps.trans hkeeps', fun l hl => ?_⟩
    have hlk : l ≠ k := by
      rintro rfl
      exact hl o List.mem_cons_self (hk.mono hkeeps')
    exact (hframe l hlk).trans (hframe' l fun o' ho' => hl o' (List.mem_cons_of_mem _ ho'))

/-- An output over which no later one is written is as it was once it had been formatted. -/
theorem fileAt_iff_formattedEach (hconf : Confined programs config.formatter.program)
    (h : targets programs around config compiled dir ds s = (.ok (before ++ o :: after), t))
    (hlater : ∀ o' ∈ after, ∀ l, t.Denotes o.path l → ¬ t.Denotes o'.path l) (c : ByteArray) :
    t.FileAt o.path c ↔
      (formattedEach programs config.formatter (before ++ [o]) s).FileAt o.path c := by
  obtain ⟨ds₁, d, ds₂, s₁, s₂, rfl, hbefore, hd, hafter⟩ := targets_append_eq_ok _ _ _ _ _ h
  have hstore : s₂ = formattedEach programs config.formatter (before ++ [o]) s := by
    rw [store_of_target hd, store_of_targets hbefore]
    simp only [formattedEach, List.foldl_append]
  obtain ⟨-, k, hk, -⟩ := target_keptAt hconf hd
  obtain ⟨hkeeps, hframe⟩ := targets_keptAt hconf hafter
  have hkept : s₂.KeptAt t k := hframe k fun o' ho' => hlater o' ho' k (hk.mono hkeeps)
  rw [← hstore, Store.fileAt_iff_of_denotes hk, Store.fileAt_iff_of_denotes (hk.mono hkeeps)]
  exact hkept.file_iff

/-! ### Whole runs -/

variable {r : Request} {σ τ : Session} {report : Report} {why : Skip}

/-- The formatter leaves the rendered text of an output in the copy it is handed. -/
def KeepsCopy (programs : Programs) (r : Request) (s : Store) (before : List Rendered)
    (o : Rendered) : Prop :=
  match r.mode with
  | .multi _ =>
    (formattedEach programs r.config.formatter (before ++ [o]) s).FileAt o.path o.bytes
  | .single _ _ => (stagedFor r o.path o.text).KeepsCopy programs s

/-- When formatting is skipped for an output of a run that ends well, and no later output is written
over it, its file holds the rendered text exactly when the formatter leaves the text in the copy it
is handed. -/
theorem fileAt_iff_keepsCopy (hconf : Confined programs r.config.formatter.program)
    (hrun : (run programs around r).run.run σ = (.ok report, τ))
    (hsplit : report.outputs = before ++ o :: after) (hskip : o.status = .skipped why)
    (hlater : ∀ o' ∈ after, ∀ l, τ.store.Denotes o.path l → ¬ τ.store.Denotes o'.path l) :
    τ.store.FileAt o.path o.bytes ↔ KeepsCopy programs r σ.store before o := by
  cases hmode : r.mode with
  | multi dir =>
    obtain ⟨ds, compiled, -, hts⟩ := run_multi_eq_ok hmode hrun
    rw [hsplit] at hts
    simpa only [KeepsCopy, hmode] using fileAt_iff_formattedEach hconf hts hlater o.bytes
  | single given outputDir =>
    obtain ⟨final, text, status, o', -, hends, hentry, rfl⟩ := run_single_eq_ok hmode hrun
    obtain ⟨rfl, rfl, rfl⟩ : before = [] ∧ o = o' ∧ after = [] := by
      simpa [List.append_eq_singleton_iff] using hsplit.symm
    obtain ⟨size, -, rfl⟩ := entryOf_eq_ok hentry
    obtain rfl : status = .skipped why := hskip
    simp only [KeepsCopy, hmode]
    exact Output.Staged.fileAt_final_iff (Output.Staged.resultApart_ofFinal ..) hends

/-- A request for the one file, with a shell for a formatter that writes over the file and fails. -/
def spoilingRequest : Request where
  template := ⟨"t.mako"⟩
  mode := .multi ⟨"gen"⟩
  config := {
    formatter := {
      program := "sh", args := ["-c", "echo bad > \"$0\"; exit 1"], inPlaceFlag := "" } }

/-- What the run reports for the file: the text as it was rendered, and the size of what the
formatter has left. -/
def spoiledOutput : Rendered :=
  ⟨⟨"gen/a.txt"⟩, ['1'], 4, .skipped (.failed "sh" (.exit 1) "")⟩

theorem run_spoiling :
    ∃ τ, (run spoiler (fun _ => {}) spoilingRequest).run.run ⟨oneFileStore, []⟩ =
        (.ok ⟨⟨"t.mako"⟩, true, [spoiledOutput]⟩, τ) ∧
      τ.store.FileAt ⟨"gen/a.txt"⟩ "bad\n".toUTF8 := by
  refine ⟨_, eq_pair_of_toOption ?_, Store.read_eq_ok_iff.1 ?_⟩
  · decide +kernel
  · decide +kernel

/-- A formatter that writes over the file and fails does not leave the text. -/
theorem fileAt_iff_keepsCopy_spoiling :
    ∃ τ, (run spoiler (fun _ => {}) spoilingRequest).run.run ⟨oneFileStore, []⟩ =
        (.ok ⟨⟨"t.mako"⟩, true, [spoiledOutput]⟩, τ) ∧
      ¬ KeepsCopy spoiler spoilingRequest oneFileStore [] spoiledOutput ∧
      ¬ τ.store.FileAt spoiledOutput.path spoiledOutput.bytes := by
  obtain ⟨τ, hrun, -⟩ := run_spoiling
  have hsplit : [spoiledOutput] = [] ++ spoiledOutput :: [] := rfl
  have hiff := fileAt_iff_keepsCopy (r := spoilingRequest) (confined_spoiler "sh") hrun hsplit rfl
    (by simp)
  have hspoiled : ¬ KeepsCopy spoiler spoilingRequest oneFileStore [] spoiledOutput := by
    intro hkept
    have hread := Store.read_eq_ok_iff.2 hkept
    exact absurd hread (by decide +kernel)
  exact ⟨τ, hrun, hspoiled, fun hfile => hspoiled (hiff.1 hfile)⟩

/-- A skipped output does not always hold its text. -/
theorem not_skipped_keeps_text :
    ¬ ∀ (programs : Programs) (around : Nat → Template.Surroundings) (r : Request) (σ τ : Session)
        (report : Report) (before after : List Rendered) (o : Rendered) (why : Skip),
      Confined programs r.config.formatter.program →
      (run programs around r).run.run σ = (.ok report, τ) →
      report.outputs = before ++ o :: after → o.status = .skipped why →
      (∀ o' ∈ after, ∀ l, τ.store.Denotes o.path l → ¬ τ.store.Denotes o'.path l) →
      τ.store.FileAt o.path o.bytes := by
  intro h
  obtain ⟨τ, hrun, hbad⟩ := run_spoiling
  have htext := h spoiler _ spoilingRequest _ τ _ [] [] spoiledOutput _ (confined_spoiler "sh") hrun
    rfl rfl (by simp)
  have hsize := congrArg ByteArray.size (hbad.unique htext)
  exact absurd hsize (by decide +kernel)

end Run

end Imprint
