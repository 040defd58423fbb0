import Imprint.Proofs.Output.Atomicity
import Imprint.Proofs.Output.Spared
import Imprint.Proofs.Results

/-!
# When a staged output is empty

A text that is not empty should not become an empty output, and a formatter that prints nothing for
it is meant to have failed. Whether it printed nothing for something is told from the sizes of two
files once it has ended, and one of these is the staging file, which it was handed: when that is
empty or gone by then, nothing printed counts as success and the empty result is moved. When the
formatter fails, the staging file is moved, whatever is in it by then. So the output is empty
exactly when nothing is left in the file that is moved.

## Main definitions

* `Imprint.Output.Staged.LeavesText`: the formatter leaves something to be moved.

## Main results

* `Imprint.Output.Staged.exists_moved`: work that ends well moves a file to the final path.
* `Imprint.Output.Staged.leavesTextFrom_iff`: when that file has bytes.
* `Imprint.Output.Staged.final_nonempty_iff`: when the output has bytes.
* `Imprint.Output.Staged.leavesText_of_onlyPrints`: a formatter that only prints leaves some.
-/

namespace Imprint

open Session Formatting

namespace Formatting

variable {programs : Programs} {f : Config.Formatter} {input output p : Path} {s t : Store}
  {c : ByteArray}

theorem sizeOrZero_of_fileAt (h : s.FileAt p c) : sizeOrZero s p = c.size := by
  rw [sizeOrZero, h.size]

/-- A success with something left in the file that was formatted has printed something. -/
theorem sizeOrZero_output_pos (h : filled programs f input output s = (.ok .formatted, t))
    (hinput : 0 < sizeOrZero t input) : 0 < sizeOrZero t output := by
  obtain ⟨hstatus, rfl⟩ := Prod.mk.inj h
  cases hstart : (programs.start (stagedInvocation f input output) s).1 with
  | error why =>
    rw [hstart] at hstatus
    cases hstatus
  | ok o =>
    rw [hstart, Except.map, Except.ok.injEq, Outcome.filledStatus] at hstatus
    split at hstatus
    · cases hstatus
    · split at hstatus
      · cases hstatus
      · next hnot => exact Nat.pos_of_ne_zero fun hzero => hnot ⟨hzero, hinput⟩

end Formatting

namespace Output.Staged

variable {programs : Programs} {w : Staged} {s t : Store} {status : Status} {final : Path}
  {content : List Char} {front : String} {f : Config.Formatter} {σ τ : Session}

/-- When the formatter is started on the staging file, it leaves bytes there, or it succeeds and
leaves some in the file for the result. Work that breaks off moves nothing. -/
def LeavesTextFrom (programs : Programs) (w : Staged) (s : Store) : Prop :=
  match opened w.formatter w.result s with
  | (some _, _) => True
  | (none, t) =>
    match filled programs w.formatter w.staging w.result t with
    | (.ok .formatted, u) => 0 < sizeOrZero u w.staging ∨ 0 < sizeOrZero u w.result
    | (.ok (.skipped _), u) => 0 < sizeOrZero u w.staging
    | (.error _, _) => True

/-- The formatter leaves something to be moved, once the staging file is written. -/
def LeavesText (programs : Programs) (w : Staged) (s : Store) : Prop :=
  ∀ t, (s.parents w.final).2.write w.staging w.bytes = (none, t) → LeavesTextFrom programs w t

theorem bytes_size_pos (h : w.content ≠ []) : 0 < w.bytes.size := by
  have hne : String.ofList w.content ≠ "" := by simpa using h
  exact Nat.pos_of_ne_zero fun hzero => hne (String.utf8ByteSize_eq_zero_iff.1 hzero)

/-- The file that is moved has bytes exactly when the formatter leaves some to be moved. -/
theorem leavesTextFrom_iff (h : 0 < sizeOrZero s w.staging)
    (hstatus : (w.formatted programs s).1 = .ok status) :
    LeavesTextFrom programs w s ↔
      0 < sizeOrZero (w.formatted programs s).2 (w.choice status).1 := by
  rcases hopened : opened w.formatter w.result s with ⟨_ | why, t⟩
  · simp only [LeavesTextFrom, formatted, hopened] at hstatus ⊢
    rcases hfilled : filled programs w.formatter w.staging w.result t with ⟨why | _ | why, u⟩ <;>
      rw [hfilled] at hstatus <;> cases hstatus
    · exact or_iff_right_of_imp (sizeOrZero_output_pos hfilled)
    · exact Iff.rfl
  · obtain rfl := opened_eq_some hopened
    simp only [LeavesTextFrom, formatted, hopened] at hstatus ⊢
    obtain rfl := Except.ok.inj hstatus
    exact iff_of_true trivial h

/-- Work that ends well has moved one of the two files to the final path, where it still is. -/
theorem exists_moved (hsep : w.Separate) (h : Ends programs w .parents s (.ok status) t) :
    ∃ s₁ s₂ c, s.parents w.final = (.ok (), s₁) ∧ s₁.write w.staging w.bytes = (none, s₂) ∧
      (w.formatted programs s₂).1 = .ok status ∧
      (w.formatted programs s₂).2.FileAt (w.choice status).1 c ∧ t.FileAt w.final c := by
  obtain ⟨s₁, s₂, s₃, hparents, hwrite, hstatus, hmove, rfl⟩ := exists_of_ends_ok h
  obtain ⟨c, hc⟩ := Store.exists_fileAt_of_rename hmove
  have hfinal := Store.fileAt_of_rename hmove hc
  refine ⟨s₁, s₂, c, hparents, hwrite, hstatus, hc, Store.fileAt_removed hfinal ?_⟩
  rintro k l hk hl rfl
  refine (hsep.choice_final status s₃).2 ?_
  rw [Store.locate_of_denotes hk, Store.locate_of_denotes hl]

theorem separate_of_ends (hfront : Config.isNamePrefix front = true)
    (h : Ends programs (ofFinal final content front f) .parents s (.ok status) t) :
    (ofFinal final content front f).Separate := by
  obtain ⟨s₁, s₂, s₃, -, -, -, hmove, -⟩ := exists_of_ends_ok h
  obtain ⟨-, -, k, -, -, hk, -⟩ := Store.rename_eq_ok_iff.1 hmove
  obtain ⟨-, n, -, hname⟩ := Store.fileName?_of_denotes hk
  exact separate_ofFinal hname hfront

/-- An output that is written for a text that is not empty has bytes exactly when the formatter
leaves something to be moved, whatever else the formatter does. -/
theorem final_nonempty_iff (hfront : Config.isNamePrefix front = true) (hcontent : content ≠ [])
    (hrun : (writeStaged programs (ofFinal final content front f)).run.run σ = (.ok status, τ)) :
    (∃ c, τ.store.FileAt final c ∧ 0 < c.size) ↔
      LeavesText programs (ofFinal final content front f) σ.store := by
  have hends := ends_of_run hrun
  obtain ⟨s₁, s₂, c, hparents, hwrite, hstatus, hmoved, hfinal⟩ :=
    exists_moved (separate_of_ends hfront hends) hends
  have hstaged : 0 < sizeOrZero s₂ (ofFinal final content front f).staging := by
    rw [sizeOrZero_of_fileAt (Store.fileAt_of_write hwrite)]
    exact bytes_size_pos hcontent
  have hleaves : LeavesText programs (ofFinal final content front f) σ.store ↔
      LeavesTextFrom programs (ofFinal final content front f) s₂ := by
    simp only [LeavesText, hparents, hwrite, Prod.mk.injEq, true_and, forall_eq']
  rw [hleaves, leavesTextFrom_iff hstaged hstatus, sizeOrZero_of_fileAt hmoved]
  refine ⟨fun ⟨b, hb, hpos⟩ => ?_, fun hpos => ⟨c, hfinal, hpos⟩⟩
  rwa [hfinal.unique hb]

/-- A formatter that only prints leaves the text in the staging file. -/
theorem leavesText_of_onlyPrints {print : Store → ByteArray} (hsep : w.Separate)
    (hcontent : w.content ≠ [])
    (h : OnlyPrints programs (stagedInvocation w.formatter w.staging w.result) print) (s : Store) :
    LeavesText programs w s := by
  intro t hwrite
  rcases hopened : opened w.formatter w.result t with ⟨_ | why, u⟩
  · have hresult := opened_eq_none hopened
    have hprinted := Store.fileAt_of_write hresult
    have hopen := Store.sameDirectories_write t w.result .empty
    rw [hresult] at hopen
    have hdirs := hopen.trans (h.sameDirectories_filled hprinted)
    have hstaged :
        (filled programs w.formatter w.staging w.result u).2.FileAt w.staging w.bytes := by
      refine (Store.fileAt_of_write hwrite).mono hdirs.keepsDirectories ?_
      have hne := (hsep.staging_result t).symm
      have hne' : u.locate w.result ≠ t.locate w.staging := by
        rwa [← Store.locate_eq_of_site hopen.site]
      rw [h.get?_filled hprinted, if_neg hne', Store.get?_write hresult, if_neg hne]
    have hpos : 0 < sizeOrZero (filled programs w.formatter w.staging w.result u).2 w.staging := by
      rw [sizeOrZero_of_fileAt hstaged]
      exact bytes_size_pos hcontent
    simp only [LeavesTextFrom, hopened]
    rcases hfilled : filled programs w.formatter w.staging w.result u with ⟨why | _ | why, v⟩
    · trivial
    · exact .inl (by rwa [hfilled] at hpos)
    · rwa [hfilled] at hpos
  · simp only [LeavesTextFrom, hopened]

/-- A formatter that prints nothing and leaves the staging file alone: the text is kept. -/
theorem final_nonempty_iff_silent :
    let programs := printer fun _ => .empty
    let w := ofFinal ⟨"out.txt"⟩ ['t', 'e', 'x', 't'] "." { program := "true" }
    ∃ τ, Config.isNamePrefix "." = true ∧ w.content ≠ [] ∧
      (writeStaged programs w).run.run ⟨{}, []⟩ = (.ok (.skipped (.noOutput "true")), τ) ∧
      LeavesText programs w {} ∧ ∃ c, τ.store.FileAt ⟨"out.txt"⟩ c ∧ 0 < c.size := by
  intro programs w
  have hstatus : ((writeStaged programs w).run.run ⟨{}, []⟩).1.toOption =
      some (.skipped (.noOutput "true")) := by decide +kernel
  have hrun := eq_pair_of_toOption hstatus
  have hleaves : LeavesText programs w {} :=
    leavesText_of_onlyPrints (separate_ofFinal (n := "out.txt") (by decide +kernel) (by decide))
      (by decide) (onlyPrints_printer _ _) {}
  exact ⟨_, by decide, by decide, hrun, hleaves,
    (final_nonempty_iff (by decide) (by decide) hrun).2 hleaves⟩

/-- A formatter that removes the file it is handed and prints nothing: it counts as a success. -/
theorem not_final_nonempty :
    ¬ ∀ (programs : Programs) (final : Path) (content : List Char) (front : String)
      (f : Config.Formatter) (σ τ : Session) (status : Status),
      Confined programs f.program → Config.isNamePrefix front = true → content ≠ [] →
      (writeStaged programs (ofFinal final content front f)).run.run σ = (.ok status, τ) →
      ∃ c, τ.store.FileAt final c ∧ 0 < c.size := by
  intro h
  let w := ofFinal ⟨"out.txt"⟩ ['t', 'e', 'x', 't'] "." { program := "rm" }
  have hstatus : ((writeStaged remover w).run.run ⟨{}, []⟩).1.toOption = some .formatted := by
    decide +kernel
  have hsize : ((writeStaged remover w).run.run ⟨{}, []⟩).2.store.size ⟨"out.txt"⟩ = .ok 0 := by
    decide +kernel
  rcases hrun : (writeStaged remover w).run.run ⟨{}, []⟩ with ⟨outcome, τ⟩
  rw [hrun] at hstatus hsize
  obtain ⟨c, hc, hpos⟩ := h remover _ _ _ _ _ τ .formatted (confined_remover "rm") (by decide)
    (by decide) (hrun.trans (congrArg (·, τ) (eq_ok_of_toOption hstatus)))
  rw [hc.size] at hsize
  exact absurd (Except.ok.inj hsize) (Nat.ne_of_gt hpos)

end Output.Staged

end Imprint
