import Imprint.Proofs.Run.Targets
import Imprint.Proofs.Template.Closure

/-!
# What a stopped run leaves

A run that stops has not written anything, unless the error is that of a directive: its variables
or the rendering for them. Then the files of the directives before it are there, and nothing of it
or of any directive after it. Errors of the file system are a case of their own.

## Main definitions

* `Imprint.RunError.isFile`, `Imprint.RunError.isOfDirective`: what an error is about.
* `Imprint.Run.PutAll`: outputs that are put one after another.

## Main results

* `Imprint.Run.targets_eq_error`: the directive that stops a run, and those before it.
* `Imprint.Run.store_of_error`: what a stopped run leaves.
-/

namespace Imprint

namespace Template

/-! ### Compiling does not render -/

/-- Whether an error is one of rendering. -/
def RenderError.isFailure : RenderError → Bool
  | failed _ _ => true
  | panic _ => true
  | _ => false

theorem isFailure_of_expanded {name : String} {s : List Char} {e : RenderError}
    (h : expanded name s = .error e) : e.isFailure = false := by
  obtain ⟨line, rfl⟩ := expanded_eq_error h
  rfl

theorem isFailure_of_visit {store : Store} {searchPath : List Path} {main : String}
    {l : Loading} {next : Reference} {rest : List Reference} {e : RenderError}
    (h : l.visit store searchPath main next rest = .error e) : e.isFailure = false := by
  rcases Loading.visit_eq_error h with hfetch | ⟨-, -, rfl⟩
  · rcases fetch_eq_error hfetch with ⟨path, fault, rfl⟩ | ⟨line, rfl⟩
    · rfl
    · rfl
  · rfl

/-- No error of compiling is one of rendering. -/
theorem isFailure_of_compile {store : Store} {searchPath : List Path} {name : String}
    {s : List Char} {e : RenderError} {log log' : List Log.Event}
    (h : (compile store searchPath name s).run.run log = (.error e, log')) :
    e.isFailure = false := by
  rcases compile_eq_error h with hs | ⟨t, visited, l, -, -, hends | ⟨-, flaw, rfl⟩⟩
  · exact isFailure_of_expanded hs
  · cases hends with
    | failed hnext hvisit => exact isFailure_of_visit hvisit
  · rfl

/-- Errors of rendering are of that kind, panics among them. -/
theorem isFailure_of_render {c : Compiled} {around : Surroundings} {b : Binding} {e : RenderError}
    (h : c.render around b = .error e) : e.isFailure = true := by
  obtain ⟨failure, -, rfl⟩ := mapError_eq_error.1 h
  simp only [RenderError.ofFailure]
  split <;> rfl

end Template

/-- Whether an error is a refusal of the file system. -/
def RunError.isFile : RunError → Bool
  | file _ => true
  | _ => false

/-- Whether an error is one of a directive: its variables or the rendering for them. -/
def RunError.isOfDirective : RunError → Bool
  | binding _ => true
  | template e => e.isFailure
  | _ => false

namespace Run

open Session

variable {programs : Formatting.Programs} {around : Nat → Template.Surroundings} {r : Request}
  {config : Config} {compiled : Template.Compiled} {dir : Path} {d : Directive}
  {ds : List Directive} {outputs : List Rendered} {s t : Store} {e : RunError} {σ τ : Session}

/-! ### Which error is whose -/

theorem isOfDirective_of_textFor (h : textFor config compiled around d = .error e) :
    e.isOfDirective = true := by
  simp only [textFor] at h
  split at h
  · obtain ⟨e', hrender, rfl⟩ := mapError_eq_error.1 h
    exact Template.isFailure_of_render hrender
  · cases h
    rfl

/-- No directive has a part in an error of the plan. -/
theorem isOfDirective_of_multiPlan (h : multiPlan r s = .error e) : e.isOfDirective = false := by
  rcases bind_eq_error.1 h with hsource | ⟨source, -, h⟩
  · simp only [readSource] at hsource
    split at hsource
    · cases hsource
    · cases hsource
      rfl
  rcases bind_eq_error.1 h with hds | ⟨ds, -, h⟩
  · obtain ⟨e', -, rfl⟩ := mapError_eq_error.1 hds
    rfl
  rcases bind_eq_error.1 h with hcompiled | ⟨compiled, -, h⟩
  · obtain ⟨e', he', rfl⟩ := mapError_eq_error.1 hcompiled
    exact Template.isFailure_of_compile (Prod.ext he' rfl)
  · cases h

theorem isFile_of_entryOf {path : Path} {text : List Char} {status : Formatting.Status}
    (h : entryOf path text status s = .error e) : e.isFile = true := by
  simp only [entryOf] at h
  split at h
  · cases h
  · cases h
    rfl

/-! ### The directive that stops a run -/

/-- A directive without a file has an error of its own, or the file system refuses its file. -/
theorem target_eq_error (hf : config.formatter.enabled = false)
    (h : target programs around config compiled dir d s = (.error e, t)) (he : e.isFile = false) :
    textFor config compiled around d = .error e ∧ s = t := by
  cases htext : textFor config compiled around d with
  | error e' =>
    rw [target_of_textFor_error _ htext] at h
    cases h
    exact ⟨rfl, rfl⟩
  | ok text =>
    rcases hp : s.put (dir.join ⟨d.filename⟩) (String.ofList text).toUTF8 with ⟨fe | ⟨⟩, t'⟩
    · rw [target_of_put_error _ htext hp] at h
      cases h
      cases he
    · rw [target_of_put_ok _ htext hp, Formatting.inPlace_of_disabled _ hf, Prod.mk.injEq] at h
      cases he.symm.trans (isFile_of_entryOf h.1)

/-- When a run stops at a directive, the files of all directives before it have been written, and
neither it nor any directive after it has left anything. -/
theorem targets_eq_error (hf : config.formatter.enabled = false)
    (h : targets programs around config compiled dir ds s = (.error e, t)) (he : e.isFile = false) :
    ∃ before d after outputs, ds = before ++ d :: after ∧
      targets programs around config compiled dir before s = (.ok outputs, t) ∧
      textFor config compiled around d = .error e := by
  induction ds generalizing s with
  | nil => cases h
  | cons d ds ih =>
    rcases hd : target programs around config compiled dir d s with ⟨e' | o, u⟩
    · rw [targets_cons_error _ _ _ _ _ hd] at h
      cases h
      obtain ⟨htext, rfl⟩ := target_eq_error hf hd he
      exact ⟨[], d, ds, [], rfl, rfl, htext⟩
    · rw [targets_cons_ok _ _ _ _ _ hd] at h
      rcases hds : targets programs around config compiled dir ds u with ⟨e' | os, v⟩
      · obtain ⟨rfl, rfl⟩ : e' = e ∧ v = t := by simpa [hds, Except.map] using h
        obtain ⟨before, d', after, outputs, rfl, hbefore, htext⟩ := ih hds
        refine ⟨d :: before, d', after, o :: outputs, rfl, ?_, htext⟩
        rw [targets_cons_ok _ _ _ _ _ hd, hbefore]
        rfl
      · simp [hds, Except.map] at h

/-! ### Outputs one after another -/

/-- The store after outputs have been put one after another, each with the directories that its path
needs. -/
inductive PutAll : Store → List Rendered → Store → Prop
  | nil (s : Store) : PutAll s [] s
  | cons {s t u : Store} {o : Rendered} {outputs : List Rendered}
      (hput : s.put o.path o.bytes = (.ok (), t)) (h : PutAll t outputs u) :
      PutAll s (o :: outputs) u

/-- The files of the directives are put one after another when nothing is formatted. -/
theorem putAll_of_targets (hf : config.formatter.enabled = false)
    (h : targets programs around config compiled dir ds s = (.ok outputs, t)) :
    PutAll s outputs t := by
  induction ds generalizing s outputs with
  | nil =>
    obtain ⟨rfl, rfl⟩ : [] = outputs ∧ s = t := by simpa [targets] using h
    exact .nil s
  | cons d ds ih =>
    obtain ⟨o, os, u, hd, hds, rfl⟩ := targets_cons_eq_ok _ _ _ _ _ h
    exact .cons (target_unformatted hf hd).2 (ih hds)

/-! ### Stopped runs -/

/-- Once there is a plan for a single file, only the file system can refuse it. -/
theorem store_of_single_error {given : Option String} {outputDir : Option Path}
    (hmode : r.mode = .single given outputDir) (hf : r.config.formatter.enabled = false)
    (hrun : (run programs around r).run.run σ = (.error e, τ)) (he : e.isFile = false) :
    τ.store = σ.store := by
  cases hplan : singlePlan around r given outputDir σ.store with
  | error e' => exact ((gives_run_single_error programs around hmode hplan).eq_of_run hrun).2.symm
  | ok plan =>
    obtain ⟨final, text⟩ := plan
    obtain ⟨outcome, t, hends⟩ := Output.Staged.exists_ends programs (stagedFor r final text)
      .parents σ.store
    obtain ⟨hresult, -⟩ := (gives_run_single programs around hmode hplan hends).eq_of_run hrun
    cases outcome with
    | error failure =>
      cases failure with
      | panic why => exact absurd rfl (hends.ne_panic_of_disabled hf why)
      | file fe =>
        obtain rfl : RunError.file fe = e := by
          simpa [entryFor, ofFailure, Except.map] using hresult
        cases he
    | ok status =>
      simp only [entryFor] at hresult
      cases hentry : entryOf final text status t with
      | error e' =>
        obtain rfl : e' = e := by simpa [hentry, Except.map] using hresult
        cases he.symm.trans (isFile_of_entryOf hentry)
      | ok o => simp [hentry, Except.map] at hresult

/-- What a run without a formatter leaves when it stops with an error that is none of the file
system. With one file for each directive an error of a directive leaves the files of those before
it, each written over what the earlier ones left, and no other change. Any other error, and every
error with a single file, leaves the store as it was. -/
theorem store_of_error (hf : r.config.formatter.enabled = false)
    (hrun : (run programs around r).run.run σ = (.error e, τ)) (he : e.isFile = false) :
    (∀ dir, r.mode = .multi dir →
      (e.isOfDirective = true → ∃ text ds compiled events before d after outputs,
        σ.store.readText r.template = .ok text ∧
        (let source : Source := ⟨r.template, text, r.config.markerOrStandard⟩
        source.directives = .ok ds ∧
          (Template.compileSource σ.store (r.searchPath source) source).run.run [] =
            (.ok compiled, events)) ∧
        ds = before ++ d :: after ∧
        List.Forall₂ (IsOutputOf around r.config compiled dir) before outputs ∧
        textFor r.config compiled around d = .error e ∧
        PutAll σ.store outputs τ.store ∧ Holds σ.store outputs τ.store) ∧
      (e.isOfDirective = false → τ.store = σ.store)) ∧
    (∀ given outputDir, r.mode = .single given outputDir → τ.store = σ.store) := by
  refine ⟨fun dir hmode => ?_, fun given outputDir hmode => ?_⟩
  · cases hplan : multiPlan r σ.store with
    | error e' =>
      obtain ⟨hresult, hstore⟩ := (gives_run_multi_error programs around hmode hplan).eq_of_run hrun
      cases hresult
      have hd := isOfDirective_of_multiPlan hplan
      exact ⟨fun hd' => absurd (hd.symm.trans hd') Bool.false_ne_true, fun _ => hstore.symm⟩
    | ok plan =>
      obtain ⟨ds, compiled⟩ := plan
      obtain ⟨hresult, hstore⟩ := (gives_run_multi programs around hmode hplan).eq_of_run hrun
      rcases hts : targets programs around r.config compiled dir ds σ.store with ⟨e' | os, t⟩
      · obtain rfl : e' = e := by simpa [hts, Except.map] using hresult
        obtain rfl : t = τ.store := by simpa [hts] using hstore
        obtain ⟨before, d, after, outputs, rfl, hbefore, htext⟩ := targets_eq_error hf hts he
        obtain ⟨text, events, hread, hsource⟩ := multiPlan_eq_ok hplan
        obtain ⟨houts, hholds⟩ := targets_unformatted hf hbefore
        have hd := isOfDirective_of_textFor htext
        refine ⟨fun _ => ?_, fun hd' => absurd (hd'.symm.trans hd) Bool.false_ne_true⟩
        exact ⟨text, _, compiled, events, before, d, after, outputs, hread, hsource, rfl, houts,
          htext, putAll_of_targets hf hbefore, hholds⟩
      · simp [hts, Except.map] at hresult
  · exact store_of_single_error hmode hf hrun he

/-- A template whose second directive has no value for the variable of the body. -/
def partialStore : Store where
  entries := [(["srv", "t.mako"],
    .file "## a.txt v=1;\n## b.txt w=2;\n## c.txt v=3;\n$\x7bv\x7d\n".toUTF8)]
  site := { cwd := ["srv"] }

/-- The file of the first directive is there, and no other. -/
theorem store_of_error_partial :
    ∃ e τ, (run Formatting.noPrograms (fun _ => {}) aliasingRequest).run.run ⟨partialStore, []⟩ =
        (.error e, τ) ∧
      e.isOfDirective = true ∧ τ.store.get? ["tmp", "gen", "a.txt"] = some (.file "1".toUTF8) ∧
      τ.store.get? ["tmp", "gen", "b.txt"] = none ∧ τ.store.get? ["tmp", "gen", "c.txt"] = none ∧
      ∃ outputs, PutAll partialStore outputs τ.store := by
  have hfails : ((run Formatting.noPrograms (fun _ => {}) aliasingRequest).run.run
      ⟨partialStore, []⟩).1.mapError (fun e => (e.isOfDirective, e.isFile)) =
        .error (true, false) := by decide +kernel
  have hstore : let store := ((run Formatting.noPrograms (fun _ => {}) aliasingRequest).run.run
      ⟨partialStore, []⟩).2.store
      store.get? ["tmp", "gen", "a.txt"] = some (.file "1".toUTF8) ∧
        store.get? ["tmp", "gen", "b.txt"] = none ∧ store.get? ["tmp", "gen", "c.txt"] = none := by
    decide +kernel
  rcases hrun : (run Formatting.noPrograms (fun _ => {}) aliasingRequest).run.run
      ⟨partialStore, []⟩ with ⟨e | report, τ⟩
  · rw [hrun] at hfails hstore
    obtain ⟨hd, he⟩ : e.isOfDirective = true ∧ e.isFile = false := by
      simpa [Except.mapError] using hfails
    obtain ⟨-, -, -, -, -, -, -, outputs, -, -, -, -, -, hput, -⟩ :=
      ((store_of_error (r := aliasingRequest) rfl hrun he).1 _ rfl).1 hd
    exact ⟨e, τ, rfl, hd, hstore.1, hstore.2.1, hstore.2.2, outputs, hput⟩
  · rw [hrun] at hfails
    cases hfails

end Run

end Imprint
