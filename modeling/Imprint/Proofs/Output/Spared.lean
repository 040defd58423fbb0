import Imprint.Proofs.Output.Siblings
import Imprint.Proofs.Output.Staged

/-!
# What a formatter can break of a staged output

A formatter is handed the staging file and fills another. When it succeeds that other file is moved
to the final path, so the staging file may be gone by then. When it does not, the staging file is
moved and has to be there. And when the staging path and the final path denote one file, as they do
when the text in front of the name adds nothing to it, the clean-up after a success removes the
output itself. Last, the work breaks off when the time at which the formatter is to be stopped is
beyond the last second of the clock.

## Main definitions

* `Imprint.Output.Staged.Spares`: the formatter leaves what is to be moved.
* `Imprint.Output.Staged.formatted`: the formatting of a staged output.

## Main results

* `Imprint.Output.Staged.exists_of_ends_ok`: what has been done by work that ends well.
* `Imprint.Output.Staged.ends_of_spares`: with the formatter the work ends well exactly when that
  leaves what is to be moved.
-/

namespace Imprint.Output.Staged

open Session Formatting

variable {programs : Programs} {w : Staged} {s s₁ t : Store} {status : Status}
  {outcome : Except Failure Status}

/-- The formatter leaves what is to be moved, when it is started on the staging file. -/
def SparesFrom (programs : Programs) (w : Staged) (s : Store) : Prop :=
  match opened w.formatter w.result s with
  | (some _, _) => True
  | (none, t) =>
    match filled programs w.formatter w.staging w.result t with
    | (.ok .formatted, _) => s.locate w.staging ≠ s.locate w.final
    | (.ok (.skipped _), u) => u.isFile w.staging = true
    | (.error _, _) => False

/-- The formatter leaves what is to be moved, once the staging file is written. -/
def Spares (programs : Programs) (w : Staged) (s : Store) : Prop :=
  ∀ t, (s.parents w.final).2.write w.staging w.bytes = (none, t) → SparesFrom programs w t

/-- The work, gone on with from a phase, ends with a file at the final path. -/
def EndsWell (programs : Programs) (w : Staged) (p : Phase) (s : Store) : Prop :=
  ∃ status t, Ends programs w p s (.ok status) t ∧ t.isFile w.final = true

/-- The work, gone on with from a phase, ends with no file to be found for the final path, or breaks
off. -/
def Loses (programs : Programs) (w : Staged) (p : Phase) (s : Store) : Prop :=
  ∃ outcome t, Ends programs w p s outcome t ∧
    (outcome = .error (.file ⟨w.final, .notFound⟩) ∨
      (∃ why, outcome = .error (.panic why)) ∨
      ∃ status, outcome = .ok status ∧ t.size w.final = .error .notFound)

theorem EndsWell.step {p q : Phase} (hp : w.advance programs p s = (q, t))
    (h : EndsWell programs w q t) : EndsWell programs w p s := by
  obtain ⟨status, u, hends, hfile⟩ := h
  exact ⟨status, u, .step (by rw [hp]; exact hends), hfile⟩

theorem Loses.step {p q : Phase} (hp : w.advance programs p s = (q, t))
    (h : Loses programs w q t) : Loses programs w p s := by
  obtain ⟨outcome, u, hends, hlost⟩ := h
  exact ⟨outcome, u, .step (by rw [hp]; exact hends), hlost⟩

/-! ### How the work goes on -/

/-- The work from a move that succeeds. -/
theorem ends_promote_ok (status : Status) (h : s.rename (w.choice status).1 w.final = .ok t) :
    Ends programs w (.promote status) s (.ok status) (t.removed (w.choice status).2) := by
  refine .step ?_
  simp only [advance, h]
  exact .step (.done _ _)

/-- The work from a move that is refused. -/
theorem ends_promote_error (status : Status) {fault : Store.Fault}
    (h : s.rename (w.choice status).1 w.final = .error fault) :
    Ends programs w (.promote status) s (.error (.file ⟨w.final, fault⟩))
      ((s.removed w.staging).removed w.result) := by
  refine .step ?_
  simp only [advance, h]
  exact .step (.step (.done _ _))

/-- The formatting of a staged output: the file for the result is filled, when it can be made. -/
def formatted (programs : Programs) (w : Staged) (s : Store) : Except Panic Status × Store :=
  match opened w.formatter w.result s with
  | (some why, t) => (.ok (.skipped why), t)
  | (none, t) => filled programs w.formatter w.staging w.result t

/-- Work goes on from formatting with the move, unless it breaks off. -/
theorem Ends.promote (h : Ends programs w .openResult s outcome t) :
    (∃ status, (w.formatted programs s).1 = .ok status ∧
      Ends programs w (.promote status) (w.formatted programs s).2 outcome t) ∨
      ∃ why, outcome = .error (.panic why) := by
  have h₁ := h.advance
  simp only [Staged.advance] at h₁
  simp only [formatted]
  rcases hopened : opened w.formatter w.result s with ⟨_ | why, u⟩ <;> rw [hopened] at h₁
  · have h₂ := h₁.advance
    simp only [Staged.advance] at h₂
    dsimp only
    rcases hfilled : filled programs w.formatter w.staging w.result u with ⟨why | status, v⟩ <;>
      rw [hfilled] at h₂
    · exact .inr ⟨why, h₂.of_done.1⟩
    · exact .inl ⟨status, rfl, h₂⟩
  · exact .inl ⟨_, rfl, h₁⟩

/-- Work that ends well has written the staging file, and moved what the status says once this file
was formatted. -/
theorem exists_of_ends_ok (h : Ends programs w .parents s (.ok status) t) :
    ∃ s₁ s₂ s₃, s.parents w.final = (.ok (), s₁) ∧ s₁.write w.staging w.bytes = (none, s₂) ∧
      (w.formatted programs s₂).1 = .ok status ∧
      (w.formatted programs s₂).2.rename (w.choice status).1 w.final = .ok s₃ ∧
      t = s₃.removed (w.choice status).2 := by
  have h₁ := h.advance
  rcases hparents : s.parents w.final with ⟨e | ⟨⟩, s₁⟩
  · simp only [advance, hparents] at h₁
    exact absurd h₁.of_done.1 (by simp)
  · simp only [advance, hparents] at h₁
    have h₂ := h₁.advance
    rcases hwrite : s₁.write w.staging w.bytes with ⟨_ | fault, s₂⟩
    · simp only [advance, hwrite] at h₂
      obtain ⟨status', hstatus, h₃⟩ := h₂.promote.resolve_right (by simp)
      cases hrename : (w.formatted programs s₂).2.rename (w.choice status').1 w.final with
      | error fault => exact absurd (h₃.unique (ends_promote_error _ hrename)).1 (by simp)
      | ok s₃ =>
        obtain ⟨heq, rfl⟩ := h₃.unique (ends_promote_ok _ hrename)
        obtain rfl : status = status' := Except.ok.inj heq
        exact ⟨s₁, s₂, s₃, rfl, hwrite, hstatus, hrename, rfl⟩
    · simp only [advance, hwrite] at h₂
      exact absurd h₂.of_done.1 (by simp)

/-- Work without a formatter that ends well has moved the staging file. -/
theorem exists_of_ends_disabled (hf : w.formatter.enabled = false)
    (h : Ends programs w .parents s (.ok status) t) :
    ∃ s₁ s₂ s₃, s.parents w.final = (.ok (), s₁) ∧ s₁.write w.staging w.bytes = (none, s₂) ∧
      s₂.rename w.staging w.final = .ok s₃ := by
  obtain ⟨s₁, s₂, s₃, hparents, hwrite, hstatus, hrename, -⟩ := exists_of_ends_ok h
  have hformatted : w.formatted programs s₂ = (.ok (.skipped .disabled), s₂) := by
    simp [formatted, opened, hf]
  rw [hformatted] at hstatus hrename
  obtain rfl := Except.ok.inj hstatus
  exact ⟨s₁, s₂, s₃, hparents, hwrite, hrename⟩

/-! ### With the formatter -/

variable {c : ByteArray} {u s₃ : Store}

/-- What is moved to the final path stays there when the file for the result is removed. -/
theorem fileAt_final_of_rename (hapart : w.ResultApart) (h : s.rename w.staging w.final = .ok t)
    (hfile : s.FileAt w.staging c) : (t.removed w.result).FileAt w.final c :=
  Store.fileAt_removed (Store.fileAt_of_rename h hfile) fun _ _ hk hl => hapart.final hk hl

/-- The file for the result is there after a confined formatter has filled it. -/
theorem fileAt_result_filled (hapart : w.ResultApart)
    (hconf : Confined programs w.formatter.program) (hopen : s.FileAt w.result .empty) :
    ∃ c, (filled programs w.formatter w.staging w.result s).2.FileAt w.result c := by
  obtain ⟨l, hl, he⟩ := hopen
  have hl' := hl.mono (hconf.sameDirectories_filled w.staging w.result s).keepsDirectories
  rcases hconf.get?_filled w.staging w.result s l with h | ⟨b, hk, -⟩ | ⟨b, c, -, -, h⟩
  · exact ⟨.empty, l, hl', h.trans he⟩
  · exact absurd rfl (hapart.staging hk hl)
  · exact ⟨c, l, hl', h⟩

/-- A success moves the result; the output stays when the staging file is another one. -/
theorem endsWell_promote_formatted (hfile : u.FileAt w.result c)
    (hmove : s.rename w.staging w.final = .ok s₃) (hdirs : s.SameDirectories u)
    (hne : s.locate w.staging ≠ s.locate w.final) :
    EndsWell programs w (.promote .formatted) u := by
  obtain ⟨v, hv⟩ := Store.exists_rename_of_fileAt hmove hdirs hfile
  have hfinal := Store.fileAt_of_rename hv hfile
  refine ⟨_, _, ends_promote_ok .formatted hv, Store.isFile_iff.2 ⟨c, ?_⟩⟩
  have hsite : s.site = v.site := hdirs.site.trans (Store.sameDirectories_rename hv).site
  refine Store.fileAt_removed hfinal fun k l hk hl hkl => hne ?_
  rw [Store.locate_eq_of_site hsite, Store.locate_eq_of_site hsite, Store.locate_of_denotes hk,
    ← hkl]
  exact Store.locate_of_denotes hl

/-- A success that moves the result over the staging file removes it again. -/
theorem loses_promote_formatted (hfile : u.FileAt w.result c)
    (hmove : s.rename w.staging w.final = .ok s₃) (hdirs : s.SameDirectories u)
    (heq : s.locate w.staging = s.locate w.final) :
    Loses programs w (.promote .formatted) u := by
  obtain ⟨v, hv⟩ := Store.exists_rename_of_fileAt hmove hdirs hfile
  obtain ⟨k, hk, hc⟩ := Store.fileAt_of_rename hv hfile
  obtain ⟨l, -, -, hl, -⟩ := Store.rename_eq_ok_iff.1 hmove
  have hkeeps := hdirs.keepsDirectories.trans (Store.sameDirectories_rename hv).keepsDirectories
  have hl' : v.Denotes w.staging l := hl.mono hkeeps
  obtain rfl : l = k := by
    rwa [Store.locate_eq_of_site hkeeps.site, Store.locate_eq_of_site hkeeps.site,
      Store.locate_of_denotes hl', Store.locate_of_denotes hk] at heq
  have hremove : v.remove w.staging = .ok (v.erase l) :=
    Store.remove_eq_ok_iff.2 ⟨l, c, hl', hc, rfl⟩
  have herase := Store.sameDirectories_removed v w.staging
  rw [Store.removed_of_ok hremove] at herase
  refine ⟨_, _, ends_promote_ok .formatted hv, .inr (.inr ⟨.formatted, rfl, ?_⟩)⟩
  have hchoice : (w.choice .formatted).2 = w.staging := rfl
  rw [hchoice, Store.removed_of_ok hremove]
  refine Store.size_of_get?_eq_none (hk.mono herase.keepsDirectories) ?_
  rw [Store.get?_erase _ _ _ (Store.not_isFixed (by simp [hc])), if_pos rfl]

/-- Without a success the staging file is moved, when it is there. -/
theorem endsWell_promote_skipped (hapart : w.ResultApart) (why : Skip)
    (hmove : s.rename w.staging w.final = .ok s₃) (hdirs : s.SameDirectories u)
    (hfile : u.isFile w.staging = true) : EndsWell programs w (.promote (.skipped why)) u := by
  obtain ⟨c, hc⟩ := Store.isFile_iff.1 hfile
  obtain ⟨v, hv⟩ := Store.exists_rename_of_fileAt hmove hdirs hc
  exact ⟨_, _, ends_promote_ok (.skipped why) hv,
    Store.isFile_iff.2 ⟨c, fileAt_final_of_rename hapart hv hc⟩⟩

theorem loses_promote_skipped (why : Skip) (hmove : s.rename w.staging w.final = .ok s₃)
    (hdirs : s.SameDirectories u) (hgone : u.isFile w.staging = false) :
    Loses programs w (.promote (.skipped why)) u :=
  ⟨_, _, ends_promote_error (.skipped why)
    (Store.rename_eq_notFound hmove hdirs hgone), .inl rfl⟩

/-- Where the work ends well without a formatter, it does so with a confined one exactly when that
leaves what is to be moved; otherwise the output is lost. -/
theorem ends_of_sparesFrom (hapart : w.ResultApart)
    (hconf : Confined programs w.formatter.program) (hfile : s.isFile w.staging = true)
    (hmove : s.rename w.staging w.final = .ok s₃) :
    (SparesFrom programs w s → EndsWell programs w .openResult s) ∧
      (¬ SparesFrom programs w s → Loses programs w .openResult s) := by
  rcases hopened : opened w.formatter w.result s with ⟨_ | why, t⟩
  · have hwrite := opened_eq_none hopened
    have hopen : w.advance programs .openResult s = (.fillResult, t) := by
      simp only [advance, hopened]
    have hdirs : s.SameDirectories t := by
      have hdirs := Store.sameDirectories_write s w.result .empty
      rwa [hwrite] at hdirs
    have hfilled' := hconf.sameDirectories_filled w.staging w.result t
    have hresult := fileAt_result_filled hapart hconf (Store.fileAt_of_write hwrite)
    rcases hfilled : filled programs w.formatter w.staging w.result t with ⟨r, u⟩
    rw [hfilled] at hfilled' hresult
    simp only [SparesFrom, hopened, hfilled]
    rcases r with why | _ | why
    · have hfill : w.advance programs .fillResult t = (.done (.error (.panic why)), u) := by
        simp only [advance, hfilled]
      refine ⟨False.elim, fun _ => .step hopen (.step hfill ?_)⟩
      exact ⟨_, _, .done _ _, .inr (.inl ⟨why, rfl⟩)⟩
    · have hfill : w.advance programs .fillResult t = (.promote .formatted, u) := by
        simp only [advance, hfilled]
      obtain ⟨c, hc⟩ := hresult
      refine ⟨fun hne => ?_, fun heq => ?_⟩
      · exact .step hopen (.step hfill
          (endsWell_promote_formatted hc hmove (hdirs.trans hfilled') hne))
      · exact .step hopen (.step hfill
          (loses_promote_formatted hc hmove (hdirs.trans hfilled') (not_not.1 heq)))
    · have hfill : w.advance programs .fillResult t = (.promote (.skipped why), u) := by
        simp only [advance, hfilled]
      refine ⟨fun hfile => ?_, fun hgone => ?_⟩
      · exact .step hopen (.step hfill
          (endsWell_promote_skipped hapart why hmove (hdirs.trans hfilled') hfile))
      · exact .step hopen (.step hfill (loses_promote_skipped why hmove (hdirs.trans hfilled')
          (Bool.eq_false_iff.2 hgone)))
  · obtain rfl := opened_eq_some hopened
    have hopen : w.advance programs .openResult t = (.promote (.skipped why), t) := by
      simp only [advance, hopened]
    simp only [SparesFrom, hopened, not_true_eq_false, false_implies, and_true]
    exact fun _ => .step hopen (endsWell_promote_skipped hapart why hmove (.refl _) hfile)

/-- Where the work ends well without a formatter, it does so with a confined one exactly when that
leaves what is to be moved, from its beginning on. -/
theorem ends_of_spares (hapart : w.ResultApart) (hconf : Confined programs w.formatter.program)
    {f : Config.Formatter} (hf : f.enabled = false) {programs' : Programs}
    (h : Ends programs' { w with formatter := f } .parents s (.ok status) t) :
    (Spares programs w s → EndsWell programs w .parents s) ∧
      (¬ Spares programs w s → Loses programs w .parents s) := by
  obtain ⟨s₁, s₂, s₃, hparents, hwrite, hmove⟩ := exists_of_ends_disabled hf h
  have hparents' : w.advance programs .parents s = (.stage, s₁) := by
    simp only [advance, show s.parents w.final = (.ok (), s₁) from hparents]
  have hwrite' : w.advance programs .stage s₁ = (.openResult, s₂) := by
    simp only [advance, show s₁.write w.staging w.bytes = (none, s₂) from hwrite]
  have hspares : Spares programs w s ↔ SparesFrom programs w s₂ := by
    simp only [Spares, show s.parents w.final = (.ok (), s₁) from hparents,
      show s₁.write w.staging w.bytes = (none, s₂) from hwrite, Prod.mk.injEq, true_and,
      forall_eq']
  obtain ⟨hwell, hloses⟩ := ends_of_sparesFrom hapart hconf
    (Store.isFile_iff.2 ⟨_, Store.fileAt_of_write hwrite⟩) hmove
  rw [hspares]
  exact ⟨fun h => .step hparents' (.step hwrite' (hwell h)),
    fun h => .step hparents' (.step hwrite' (hloses h))⟩

end Imprint.Output.Staged
