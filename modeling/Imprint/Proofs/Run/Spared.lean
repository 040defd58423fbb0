import Imprint.Proofs.Output.Kinds
import Imprint.Proofs.Output.Spared
import Imprint.Proofs.Run.Targets

/-!
# What a formatter can break

A formatter is meant to decide nothing but the status of an output. It is handed the only copy of
an output, though, and a run that ends well without it fails when the formatter removes that copy:
the size of the file, or the file to be moved, is not found. And a run breaks off when the time at
which the formatter is to be stopped is beyond the last second of the clock. A confined formatter
can break a run in no other way.

## Main definitions

* `Imprint.Run.Spares`: the formatter can be waited for, and leaves every copy of an output that is
  still needed.
* `Imprint.Run.Agrees`, `Imprint.Run.Loses`: the two ways in which a run with the formatter ends.

## Main results

* `Imprint.Run.targets_formatted`, `Imprint.Run.agrees_single`: what the formatter decides about the
  files of the directives, and about a single file.
* `Imprint.Run.agrees_iff_spares`: a run goes on to end well exactly when it is spared.
-/

namespace Imprint

/-- The configuration with its formatter switched off. -/
def Config.unformatted (c : Config) : Config :=
  { c with formatter := { c.formatter with enabled := false } }

/-- The request with the formatter switched off. -/
def Request.unformatted (r : Request) : Request :=
  { r with config := r.config.unformatted }

/-- The path and the text of an output. -/
def Rendered.named (o : Rendered) : Path × List Char :=
  (o.path, o.text)

namespace Run

open Session Formatting

variable {programs programs' : Programs} {around : Nat → Template.Surroundings} {config : Config}
  {compiled : Template.Compiled} {dir : Path} {d : Directive} {ds : List Directive} {o : Rendered}
  {outputs : List Rendered} {s s' t : Store}

/-! ### One file for each directive -/

/-- The formatting of a file in place did not break off, and the file is still there. -/
def Kept (p : Path) (r : Except Panic Status × Store) : Prop :=
  r.1.isOk = true ∧ r.2.isFile p = true

/-- Every file is still there after it was formatted in place. -/
def SparesEach (programs : Programs) (f : Config.Formatter) : List Rendered → Store → Prop
  | [], _ => True
  | o :: os, s =>
    let r := inPlace programs f o.path (s.put o.path o.bytes).2
    Kept o.path r ∧ SparesEach programs f os r.2

/-- The error of a run that has lost an output: it is not found, or the run broke off. -/
def IsLoss (outputs : List Rendered) (e : RunError) : Prop :=
  (∃ o ∈ outputs, e = .file ⟨o.path, .notFound⟩) ∨ ∃ why, e = .panic why

theorem IsLoss.mono {outputs' : List Rendered} {e : RunError} (h : IsLoss outputs e)
    (hsub : outputs ⊆ outputs') : IsLoss outputs' e :=
  h.imp_left fun ⟨o, ho, he⟩ => ⟨o, hsub ho, he⟩

/-- A confined program that spares the file changes contents only. -/
theorem sameKinds_inPlace {f : Config.Formatter} (hconf : Confined programs f.program) {p : Path}
    {s : Store} (hfile : (inPlace programs f p s).2.isFile p = true) :
    Store.SameKinds s (inPlace programs f p s).2 := by
  refine ⟨(hconf.sameDirectories_inPlace p s).site, fun l => ?_⟩
  rcases hconf.get?_inPlace p s l with h | ⟨c, hl, hc, -⟩
  · rw [h]
  · obtain ⟨c', hfile⟩ := Store.isFile_iff.1 hfile
    have hu : (inPlace programs f p s).2.Denotes p l :=
      hl.mono (hconf.sameDirectories_inPlace p s).keepsDirectories
    rw [hc, hfile.of_denotes hu rfl]
    rfl

/-- With the formatter the file of a directive is the same when the formatter spares it, and lost
when it does not. -/
theorem target_formatted (hconf : Confined programs config.formatter.program)
    (hst : Store.SameKinds s t)
    (h : target programs' around config.unformatted compiled dir d s = (.ok o, s')) :
    let r := inPlace programs config.formatter o.path (t.put o.path o.bytes).2
    (Kept o.path r → Store.SameKinds s' r.2 ∧
      ∃ o', target programs around config compiled dir d t = (.ok o', r.2) ∧
        o'.named = o.named) ∧
    (¬ Kept o.path r → ∃ e,
      target programs around config compiled dir d t = (.error e, r.2) ∧ IsLoss [o] e) := by
  intro r
  obtain ⟨⟨hpath, hbinding, -, -⟩, hput⟩ := target_unformatted rfl h
  have htext : textFor config compiled around d = .ok o.text := textFor_eq_ok.2 hbinding
  obtain ⟨hresult, hkinds⟩ := hst.put o.path o.bytes
  rcases hput' : t.put o.path o.bytes with ⟨written, t₁⟩
  rw [hput, hput'] at hresult hkinds
  obtain rfl : .ok () = written := hresult
  have htarget := target_of_put_ok programs htext (hpath ▸ hput')
  rw [← hpath] at htarget
  have hr : r = inPlace programs config.formatter o.path t₁ := by simp only [r, hput']
  have hfile := Store.fileAt_of_put hput'
  have hsame := sameKinds_inPlace (s := t₁) (p := o.path) hconf
  have hsize := hconf.size_inPlace hfile
  rw [← hr] at htarget hsame hsize
  obtain ⟨outcome, u⟩ := r
  constructor
  · rintro ⟨hgoes, hspared⟩
    obtain ⟨c, hc⟩ := Store.isFile_iff.1 hspared
    cases outcome with
    | error why => cases hgoes
    | ok status =>
      simp only [entryFor, entryOf, hc.size] at htarget
      exact ⟨hkinds.trans (hsame hspared), _, htarget, rfl⟩
  · intro hlost
    cases outcome with
    | error why => exact ⟨_, htarget, .inr ⟨why, rfl⟩⟩
    | ok status =>
      have hgone : u.isFile o.path = false := by
        simpa [Kept, Except.isOk, Except.toBool] using hlost
      simp only [entryFor, entryOf, hsize hgone] at htarget
      exact ⟨_, htarget, .inl ⟨o, List.mem_cons_self, rfl⟩⟩

/-- With the formatter the files of the directives are the same when the formatter spares each of
them, and otherwise one of them is lost. -/
theorem targets_formatted (hconf : Confined programs config.formatter.program)
    (hst : Store.SameKinds s t)
    (h : targets programs' around config.unformatted compiled dir ds s = (.ok outputs, s')) :
    (SparesEach programs config.formatter outputs t →
      ∃ outputs' t', targets programs around config compiled dir ds t = (.ok outputs', t') ∧
        outputs'.map Rendered.named = outputs.map Rendered.named) ∧
    (¬ SparesEach programs config.formatter outputs t →
      ∃ e t', targets programs around config compiled dir ds t = (.error e, t') ∧
        IsLoss outputs e) := by
  induction ds generalizing s t outputs with
  | nil =>
    obtain ⟨rfl, rfl⟩ : [] = outputs ∧ s = s' := by simpa [targets] using h
    exact ⟨fun _ => ⟨[], t, rfl, rfl⟩, fun hnot => absurd trivial hnot⟩
  | cons d ds ih =>
    obtain ⟨o, os, s₁, hd, hds, rfl⟩ := targets_cons_eq_ok _ _ _ _ _ h
    obtain ⟨hspared, hlost⟩ := target_formatted hconf hst hd
    by_cases hkept : Kept o.path (inPlace programs config.formatter o.path (t.put o.path o.bytes).2)
    · obtain ⟨hkinds, o', htarget, hnamed⟩ := hspared hkept
      obtain ⟨hrest, hrest'⟩ := ih hkinds hds
      constructor
      · rintro ⟨-, hall⟩
        obtain ⟨os', t', hts, hos⟩ := hrest hall
        refine ⟨o' :: os', t', ?_, by simp [hnamed, hos]⟩
        rw [targets_cons_ok _ _ _ _ _ htarget, hts]
        rfl
      · intro hnot
        obtain ⟨e, t', hts, he⟩ := hrest' fun hall => hnot ⟨hkept, hall⟩
        refine ⟨e, t', ?_, he.mono (List.subset_cons_self _ _)⟩
        rw [targets_cons_ok _ _ _ _ _ htarget, hts]
        rfl
    · obtain ⟨e, htarget, he⟩ := hlost hkept
      exact ⟨fun hall => absurd hall.1 hkept, fun _ =>
        ⟨e, _, targets_cons_error _ _ _ _ _ htarget, he.mono (by simp)⟩⟩

/-! ### Whole runs -/

variable {r : Request} {given : Option String} {outputDir : Option Path} {σ τ : Session}
  {report : Report}

theorem multiPlan_unformatted (r : Request) (s : Store) :
    multiPlan r.unformatted s = multiPlan r s := rfl

theorem singlePlan_unformatted (r : Request) (s : Store) :
    singlePlan around r.unformatted given outputDir s = singlePlan around r given outputDir s := rfl

/-- The formatter can be waited for, and leaves every copy of an output that is still needed. -/
def Spares (programs : Programs) (r : Request) (s : Store) (outputs : List Rendered) : Prop :=
  match r.mode with
  | .multi _ => SparesEach programs r.config.formatter outputs s
  | .single _ _ => ∀ o ∈ outputs, (stagedFor r o.path o.text).Spares programs s

/-- The run ends well and reports the same paths and texts as another. -/
def Agrees (programs : Programs) (around : Nat → Template.Surroundings) (r : Request) (σ : Session)
    (report : Report) : Prop :=
  ∃ report' τ, (run programs around r).run.run σ = (.ok report', τ) ∧
    report'.outputs.map Rendered.named = report.outputs.map Rendered.named

/-- The run fails because an output is not found at its path, or breaks off. -/
def Loses (programs : Programs) (around : Nat → Template.Surroundings) (r : Request) (σ : Session)
    (outputs : List Rendered) : Prop :=
  ∃ e τ, (run programs around r).run.run σ = (.error e, τ) ∧ IsLoss outputs e

theorem agrees_multi (hmode : r.mode = .multi dir)
    (hconf : Confined programs r.config.formatter.program)
    (h : (run programs' around r.unformatted).run.run σ = (.ok report, τ)) :
    (SparesEach programs r.config.formatter report.outputs σ.store →
        Agrees programs around r σ report) ∧
      (¬ SparesEach programs r.config.formatter report.outputs σ.store →
        Loses programs around r σ report.outputs) := by
  obtain ⟨ds, compiled, hplan, hts⟩ := run_multi_eq_ok (r := r.unformatted) hmode h
  rw [multiPlan_unformatted] at hplan
  obtain ⟨hspared, hlost⟩ := targets_formatted hconf (.refl σ.store) hts
  have hgives := gives_run_multi programs around hmode hplan
  constructor
  · intro hall
    obtain ⟨os, t, hts', hnamed⟩ := hspared hall
    rw [hts'] at hgives
    obtain ⟨log, hrun⟩ := hgives σ.log
    exact ⟨_, _, hrun, hnamed⟩
  · intro hnot
    obtain ⟨e, t, hts', he⟩ := hlost hnot
    rw [hts'] at hgives
    obtain ⟨log, hrun⟩ := hgives σ.log
    exact ⟨e, _, hrun, he⟩

theorem agrees_single (hmode : r.mode = .single given outputDir)
    (hconf : Confined programs r.config.formatter.program)
    (h : (run programs' around r.unformatted).run.run σ = (.ok report, τ)) :
    ∃ o, report.outputs = [o] ∧
      ((stagedFor r o.path o.text).Spares programs σ.store → Agrees programs around r σ report) ∧
      (¬ (stagedFor r o.path o.text).Spares programs σ.store →
        Loses programs around r σ report.outputs) := by
  obtain ⟨final, text, status, o, hplan, hends, hentry, rfl⟩ :=
    run_single_eq_ok (r := r.unformatted) hmode h
  rw [singlePlan_unformatted] at hplan
  obtain ⟨rfl, rfl⟩ : o.path = final ∧ o.text = text := by
    obtain ⟨size, -, rfl⟩ := entryOf_eq_ok hentry
    exact ⟨rfl, rfl⟩
  obtain ⟨hwell, hloses⟩ := Output.Staged.ends_of_spares (w := stagedFor r o.path o.text)
    (Output.Staged.resultApart_ofFinal ..) hconf
    (f := r.unformatted.config.formatter) rfl hends
  refine ⟨o, rfl, fun hspares => ?_, fun hnot => ?_⟩
  · obtain ⟨status', t, hends', hfile⟩ := hwell hspares
    obtain ⟨c, hc⟩ := Store.isFile_iff.1 hfile
    have hsize : t.size o.path = .ok c.size := hc.size
    have hgives := gives_run_single programs around hmode hplan hends'
    simp only [entryFor, entryOf, hsize] at hgives
    obtain ⟨log, hrun⟩ := hgives σ.log
    exact ⟨_, _, hrun, rfl⟩
  · obtain ⟨outcome, t, hends', hlost⟩ := hloses hnot
    have hgives := gives_run_single programs around hmode hplan hends'
    obtain ⟨log, hrun⟩ := hgives σ.log
    rcases hlost with rfl | ⟨why, rfl⟩ | ⟨status', rfl, hsize⟩
    · exact ⟨_, _, hrun, .inl ⟨o, List.mem_cons_self, rfl⟩⟩
    · exact ⟨_, _, hrun, .inr ⟨why, rfl⟩⟩
    · have hsize' : t.size o.path = .error .notFound := hsize
      simp only [entryFor, entryOf, hsize'] at hrun
      exact ⟨_, _, hrun, .inl ⟨o, List.mem_cons_self, rfl⟩⟩

/-- Where a run ends well without its formatter, it ends well with a confined one in the same
surroundings, with the same paths and texts, exactly when the formatter can be waited for and leaves
every copy of an output that is still needed. Otherwise it fails because an output is not found, or
breaks off. -/
theorem agrees_iff_spares (hconf : Confined programs r.config.formatter.program)
    (h : (run programs' around r.unformatted).run.run σ = (.ok report, τ)) :
    (Agrees programs around r σ report ↔ Spares programs r σ.store report.outputs) ∧
      (¬ Spares programs r σ.store report.outputs →
        Loses programs around r σ report.outputs) := by
  have hboth : (Spares programs r σ.store report.outputs → Agrees programs around r σ report) ∧
      (¬ Spares programs r σ.store report.outputs →
        Loses programs around r σ report.outputs) := by
    cases hmode : r.mode with
    | multi dir =>
      simp only [Spares, hmode]
      exact agrees_multi hmode hconf h
    | single given outputDir =>
      obtain ⟨o, ho, hagrees⟩ := agrees_single hmode hconf h
      simpa only [Spares, hmode, ho, List.mem_singleton, forall_eq] using hagrees
  refine ⟨⟨fun hagrees => ?_, hboth.1⟩, hboth.2⟩
  by_contra hnot
  obtain ⟨report', τ', hok, -⟩ := hagrees
  obtain ⟨e, τ'', herror, -⟩ := hboth.2 hnot
  rw [hok] at herror
  cases herror

/-- A template for one file. -/
def oneFileStore : Store where
  entries := [(["srv", "t.mako"], .file "## a.txt v=1;\n${v}\n".toUTF8)]
  site := { cwd := ["srv"] }

/-- A request for that file, with `rm` for a formatter. -/
def removingRequest : Request where
  template := ⟨"t.mako"⟩
  mode := .multi ⟨"gen"⟩
  config := { formatter := { program := "rm", args := [], inPlaceFlag := "" } }

/-- A formatter that removes the file does not spare it, and the run fails. -/
theorem agrees_iff_spares_removing :
    ∃ report τ, (run remover (fun _ => {}) removingRequest.unformatted).run.run
        ⟨oneFileStore, []⟩ = (.ok report, τ) ∧
      report.outputs.map Rendered.named = [(⟨"gen/a.txt"⟩, ['1'])] ∧
      ¬ Agrees remover (fun _ => {}) removingRequest ⟨oneFileStore, []⟩ report ∧
      Loses remover (fun _ => {}) removingRequest ⟨oneFileStore, []⟩ report.outputs := by
  have hreport : ((run remover (fun _ => {}) removingRequest.unformatted).run.run
      ⟨oneFileStore, []⟩).1.toOption =
        some ⟨⟨"t.mako"⟩, true, [⟨⟨"gen/a.txt"⟩, ['1'], 1, .skipped .disabled⟩]⟩ := by
    decide +kernel
  rcases hrun : (run remover (fun _ => {}) removingRequest.unformatted).run.run
      ⟨oneFileStore, []⟩ with ⟨e | report, τ⟩
  · rw [hrun] at hreport
    cases hreport
  · rw [hrun] at hreport
    obtain rfl := Option.some.inj hreport
    have hlost : ¬ Spares remover removingRequest oneFileStore
        [⟨⟨"gen/a.txt"⟩, ['1'], 1, .skipped .disabled⟩] := by
      rintro ⟨⟨-, hfile⟩, -⟩
      exact absurd hfile (by decide +kernel)
    obtain ⟨hiff, hloses⟩ :=
      agrees_iff_spares (r := removingRequest) (confined_remover "rm") hrun
    exact ⟨_, τ, rfl, rfl, fun h => hlost (hiff.1 h), hloses hlost⟩

/-- A formatter that removes the file it is handed turns a run that ends well into one that
fails. -/
theorem not_formatter_harmless :
    ¬ ∀ (programs : Programs) (around : Nat → Template.Surroundings) (r : Request) (σ τ : Session)
      (report : Report),
      Confined programs r.config.formatter.program →
      (run programs around r.unformatted).run.run σ = (.ok report, τ) →
      Agrees programs around r σ report := by
  intro h
  have hok : ((run remover (fun _ => {}) removingRequest.unformatted).run.run
      ⟨oneFileStore, []⟩).1.toOption.isSome = true := by decide +kernel
  have hfails : ((run remover (fun _ => {}) removingRequest).run.run
      ⟨oneFileStore, []⟩).1.toOption = none := by decide +kernel
  rcases hrun : (run remover (fun _ => {}) removingRequest.unformatted).run.run
      ⟨oneFileStore, []⟩ with ⟨e | report, τ⟩
  · rw [hrun] at hok
    cases hok
  · obtain ⟨report', τ', hagrees, -⟩ := h _ _ _ _ _ _ (confined_remover "rm") hrun
    rw [hagrees] at hfails
    cases hfails

end Run

end Imprint
