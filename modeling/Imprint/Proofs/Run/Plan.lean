import Imprint.Proofs.Formatting.Behaviour
import Imprint.Proofs.Output.Staged
import Imprint.Proofs.Results
import Imprint.Run.Basic

/-!
# What a run does to the store

A run first reads: the template, its header, the templates that its body needs. This decides its
*plan* without changing the store, or stops the run. Then it writes, either one file for each
directive, each of them an operation on the store, or a single file by way of the phases of a staged
output.

## Main definitions

* `Imprint.Run.multiPlan`, `Imprint.Run.singlePlan`: what a run decides before it writes.
* `Imprint.Run.target`, `Imprint.Run.targets`: the files of the directives as operations on the
  store.

## Main results

* `Imprint.Run.gives_run_multi`, `Imprint.Run.gives_run_single`: what a run gives and leaves.
* `Imprint.Run.run_multi_eq_ok`, `Imprint.Run.run_single_eq_ok`: what a run that ends well has done.
-/

namespace Imprint.Run

open Session

variable {α β ε : Type} {s t : Store} {around : Nat → Template.Surroundings}

/-! ### Plans -/

/-- The template of a request. -/
def readSource (r : Request) (s : Store) : Except RunError Source :=
  match s.readText r.template with
  | .ok text => .ok ⟨r.template, text, r.config.markerOrStandard⟩
  | .error fault => .error (.file ⟨r.template, fault⟩)

/-- The compiled body of a template. -/
def compiledFrom (r : Request) (source : Source) (s : Store) : Except RunError Template.Compiled :=
  ((Template.compileSource s (r.searchPath source) source).run.run []).1.mapError .template

/-- The text of a template for a directive. -/
def textFor (config : Config) (compiled : Template.Compiled) (around : Nat → Template.Surroundings)
    (d : Directive) : Except RunError (List Char) :=
  match Binding.resolve config.knownKeys d.vars with
  | .ok b => (compiled.render (around d.index) b).mapError .template
  | .error e => .error (.binding e)

/-- The directives of a run and the template that it renders for them. -/
def multiPlan (r : Request) (s : Store) :
    Except RunError (List Directive × Template.Compiled) := do
  let source ← readSource r s
  let ds ← source.directives.mapError .header
  let compiled ← compiledFrom r source s
  return (ds, compiled)

/-- Whether the header of a template is one that a single file can ignore. -/
def ignorable (source : Source) : Except RunError Unit :=
  match source.directives with
  | .ok _ => .ok ()
  | .error (.empty _) => .ok ()
  | .error e => .error (.header e)

/-- The path and the text of a single file. -/
def singlePlan (around : Nat → Template.Surroundings) (r : Request) (given : Option String)
    (outputDir : Option Path) (s : Store) : Except RunError (Path × List Char) := do
  let source ← readSource r s
  let name ← (outputName r given).mapError .name
  ignorable source
  let compiled ← compiledFrom r source s
  let text ← (compiled.render (around 0) Binding.empty).mapError .template
  return (finalPath r given.isSome outputDir name, text)

/-- The entry for a file, with its size in the store. -/
def entryOf (path : Path) (text : List Char) (status : Formatting.Status) (s : Store) :
    Except RunError Rendered :=
  match s.size path with
  | .ok size => .ok ⟨path, text, size, status⟩
  | .error fault => .error (.file ⟨path, fault⟩)

/-- The entry for a file once it is known how its formatting went. -/
def entryFor (failed : ε → RunError) (path : Path) (text : List Char) (s : Store) :
    Except ε Formatting.Status → Except RunError Rendered
  | .ok status => entryOf path text status s
  | .error e => .error (failed e)

/-! ### Plans that are made -/

theorem readSource_eq_ok {r : Request} {source : Source} :
    readSource r s = .ok source ↔
      ∃ text, s.readText r.template = .ok text ∧
        source = ⟨r.template, text, r.config.markerOrStandard⟩ := by
  simp only [readSource]
  cases s.readText r.template <;> simp [eq_comm]

theorem textFor_eq_ok {config : Config} {compiled : Template.Compiled} {d : Directive}
    {text : List Char} :
    textFor config compiled around d = .ok text ↔
      ∃ b, Binding.resolve config.knownKeys d.vars = .ok b ∧
        compiled.render (around d.index) b = .ok text := by
  simp only [textFor]
  cases Binding.resolve config.knownKeys d.vars <;> simp [mapError_eq_ok]

theorem compiledFrom_eq_ok {r : Request} {source : Source} {compiled : Template.Compiled} :
    compiledFrom r source s = .ok compiled ↔
      ∃ events, (Template.compileSource s (r.searchPath source) source).run.run [] =
        (.ok compiled, events) := by
  rw [compiledFrom, mapError_eq_ok]
  constructor
  · exact fun h => ⟨_, Prod.ext h rfl⟩
  · rintro ⟨events, h⟩
    rw [h]

/-- A plan that was made says what was read. -/
theorem multiPlan_eq_ok {r : Request} {ds : List Directive} {compiled : Template.Compiled}
    (h : multiPlan r s = .ok (ds, compiled)) :
    ∃ text events, s.readText r.template = .ok text ∧
      let source : Source := ⟨r.template, text, r.config.markerOrStandard⟩
      source.directives = .ok ds ∧
        (Template.compileSource s (r.searchPath source) source).run.run [] =
          (.ok compiled, events) := by
  obtain ⟨source, hsource, h⟩ := bind_eq_ok.1 h
  obtain ⟨ds', hds, h⟩ := bind_eq_ok.1 h
  obtain ⟨compiled', hcompiled, h⟩ := bind_eq_ok.1 h
  obtain ⟨rfl, rfl⟩ : ds' = ds ∧ compiled' = compiled := by simpa [pure, Except.pure] using h
  obtain ⟨text, htext, rfl⟩ := readSource_eq_ok.1 hsource
  obtain ⟨events, hevents⟩ := compiledFrom_eq_ok.1 hcompiled
  exact ⟨text, events, htext, mapError_eq_ok.1 hds, hevents⟩

/-- A plan that was made has a name for the file. -/
theorem singlePlan_eq_ok {r : Request} {given : Option String} {outputDir : Option Path}
    {final : Path} {text : List Char}
    (h : singlePlan around r given outputDir s = .ok (final, text)) :
    ∃ name, outputName r given = .ok name ∧ final = finalPath r given.isSome outputDir name := by
  obtain ⟨source, -, h⟩ := bind_eq_ok.1 h
  obtain ⟨name, hname, h⟩ := bind_eq_ok.1 h
  obtain ⟨-, -, h⟩ := bind_eq_ok.1 h
  obtain ⟨compiled, -, h⟩ := bind_eq_ok.1 h
  obtain ⟨text', -, h⟩ := bind_eq_ok.1 h
  obtain ⟨rfl, -⟩ : finalPath r given.isSome outputDir name = final ∧ text' = text := by
    simpa [pure, Except.pure] using h
  exact ⟨name, mapError_eq_ok.1 hname, rfl⟩

theorem entryOf_eq_ok {path : Path} {text : List Char} {status : Formatting.Status} {o : Rendered}
    (h : entryOf path text status s = .ok o) :
    ∃ size, s.size path = .ok size ∧ o = ⟨path, text, size, status⟩ := by
  simp only [entryOf] at h
  split at h
  · next size hsize => exact ⟨size, hsize, (Except.ok.inj h).symm⟩
  · cases h

theorem entryFor_eq_ok {failed : ε → RunError} {path : Path} {text : List Char}
    {outcome : Except ε Formatting.Status} {o : Rendered}
    (h : entryFor failed path text s outcome = .ok o) :
    ∃ status size, outcome = .ok status ∧ s.size path = .ok size ∧
      o = ⟨path, text, size, status⟩ := by
  cases outcome with
  | error e => cases h
  | ok status =>
    obtain ⟨size, hsize, ho⟩ := entryOf_eq_ok h
    exact ⟨status, size, rfl, hsize, ho⟩

/-! ### The parts of a run -/

/-- A step that was decided before gives what was decided. -/
theorem gives_of_except {a : Action RunError α} (x : Except ε α) (f : ε → RunError) (s : Store)
    (hok : ∀ v, x = .ok v → a = pure v) (herror : ∀ e, x = .error e → a = throw (f e)) :
    Gives a.run s (x.mapError f) s := by
  cases hx : x with
  | ok v =>
    rw [hok v hx]
    exact gives_pure _ s
  | error e =>
    rw [herror e hx]
    exact gives_pure _ s

theorem gives_source (r : Request) (s : Store) : Gives (source r).run s (readSource r s) s := by
  refine (gives_currentStore s).lift.bind_ok ?_
  simp only [readSource]
  cases s.readText r.template <;> exact gives_pure _ s

theorem gives_directives (source : Source) (s : Store) :
    Gives (directives source).run s (source.directives.mapError .header) s := by
  refine (gives_reportAll _ s).lift.bind_ok ?_
  exact gives_of_except _ _ s (fun v h => by rw [h]) (fun e h => by rw [h])

theorem gives_ignoreDirectives (source : Source) (s : Store) :
    Gives (ignoreDirectives source).run s (ignorable source) s := by
  refine (gives_reportAll _ s).lift.bind_ok ?_
  simp only [ignorable]
  cases source.directives with
  | ok ds => exact (gives_report _ s).lift
  | error e => cases e <;> exact gives_pure _ s

theorem gives_compile (r : Request) (source : Source) (s : Store) :
    Gives (compile (r.searchPath source) source).run s (compiledFrom r source s) s := by
  have hlog := gives_logging (Template.compileSource s (r.searchPath source) source) s
  refine (gives_currentStore s).lift.bind_ok ?_
  exact hlog.withError RunError.template

theorem gives_render (compiled : Template.Compiled) (around : Template.Surroundings) (b : Binding)
    (s : Store) :
    Gives (render compiled around b).run s ((compiled.render around b).mapError .template) s :=
  gives_of_except _ _ s (fun v h => by rw [render, h]) (fun e h => by rw [render, h])

theorem gives_record (path : Path) (text : List Char) (status : Formatting.Status) (s : Store) :
    Gives (record path text status).run s (entryOf path text status s) s := by
  have hsize : Gives (do
      match (← currentStore).size path with
      | .ok size => return (⟨path, text, size, status⟩ : Rendered)
      | .error fault => throw (.file ⟨path, fault⟩) : Action RunError Rendered).run s
      (entryOf path text status s) s := by
    refine (gives_currentStore s).lift.bind_ok ?_
    simp only [entryOf]
    cases s.size path <;> exact gives_pure _ s
  simp only [record]
  cases status.skip? with
  | none => exact hsize
  | some why => exact (gives_report _ s).lift.bind_ok hsize

/-! ### One file for each directive -/

section Targets

variable (programs : Formatting.Programs) (around : Nat → Template.Surroundings) (config : Config)
  (compiled : Template.Compiled) (dir : Path)

/-- Renders, writes and formats the file of a directive. -/
def target (d : Directive) (s : Store) : Except RunError Rendered × Store :=
  match textFor config compiled around d with
  | .error e => (.error e, s)
  | .ok text =>
    let path := dir.join ⟨d.filename⟩
    match s.put path (String.ofList text).toUTF8 with
    | (.error e, t) => (.error (.file e), t)
    | (.ok (), t) =>
      let formatted := Formatting.inPlace programs config.formatter path t
      (entryFor .panic path text formatted.2 formatted.1, formatted.2)

/-- The files of the directives, one after another until one is refused. -/
def targets : List Directive → Store → Except RunError (List Rendered) × Store
  | [], s => (.ok [], s)
  | d :: ds, s =>
    match target programs around config compiled dir d s with
    | (.error e, t) => (.error e, t)
    | (.ok o, t) => ((targets ds t).1.map (o :: ·), (targets ds t).2)

theorem gives_resolve_ok {vars : String} {b : Binding}
    (h : Binding.resolve config.knownKeys vars = .ok b) (s : Store) :
    Gives (resolve config vars).run s (.ok b) s := by
  refine (gives_reportAll _ s).lift.bind_ok ?_
  rw [h]
  exact gives_pure _ s

theorem gives_resolve_error {vars : String} {e : BindingError}
    (h : Binding.resolve config.knownKeys vars = .error e) (s : Store) :
    Gives (resolve config vars).run s (.error (.binding e)) s := by
  refine (gives_reportAll _ s).lift.bind_ok ?_
  rw [h]
  exact gives_pure _ s

variable {around config compiled dir} {d : Directive} {text : List Char} {e : RunError}

theorem target_of_textFor_error (h : textFor config compiled around d = .error e) :
    target programs around config compiled dir d s = (.error e, s) := by
  simp only [target, h]

theorem target_of_put_error {e : FileError} (h : textFor config compiled around d = .ok text)
    (hp : s.put (dir.join ⟨d.filename⟩) (String.ofList text).toUTF8 = (.error e, t)) :
    target programs around config compiled dir d s = (.error (.file e), t) := by
  simp only [target, h, hp]

theorem target_of_put_ok (h : textFor config compiled around d = .ok text)
    (hp : s.put (dir.join ⟨d.filename⟩) (String.ofList text).toUTF8 = (.ok (), t)) :
    target programs around config compiled dir d s =
      let formatted := Formatting.inPlace programs config.formatter (dir.join ⟨d.filename⟩) t
      (entryFor .panic (dir.join ⟨d.filename⟩) text formatted.2 formatted.1, formatted.2) := by
  simp only [target, h, hp]

variable (around config compiled dir)

/-- The file of a directive is the operation on the store. -/
theorem gives_renderTarget (d : Directive) (s : Store) :
    Gives (renderTarget programs around config compiled dir d).run s
      (target programs around config compiled dir d s).1
      (target programs around config compiled dir d s).2 := by
  cases hb : Binding.resolve config.knownKeys d.vars with
  | error e =>
    have htext : textFor config compiled around d = .error (.binding e) := by
      simp only [textFor, hb]
    rw [target_of_textFor_error programs htext]
    exact (gives_resolve_error config hb s).bind_error
  | ok b =>
    have htext : textFor config compiled around d =
        (compiled.render (around d.index) b).mapError .template := by
      simp only [textFor, hb]
    have hrender := gives_render compiled (around d.index) b s
    refine (gives_resolve_ok config hb s).bind_ok ((gives_report _ s).lift.bind_ok ?_)
    rw [← htext] at hrender
    cases ht : textFor config compiled around d with
    | error e =>
      rw [ht] at hrender
      rw [target_of_textFor_error programs ht]
      exact hrender.bind_error
    | ok text =>
      rw [ht] at hrender
      refine hrender.bind_ok ?_
      have hwrite := (Output.gives_writeTarget dir d.filename text s).withError RunError.file
      rcases hp : s.put (dir.join ⟨d.filename⟩) (String.ofList text).toUTF8 with ⟨e | ⟨⟩, t⟩
      · rw [hp] at hwrite
        rw [target_of_put_error programs ht hp]
        exact hwrite.bind_error
      · rw [hp] at hwrite
        rw [target_of_put_ok programs ht hp]
        refine hwrite.bind_ok ?_
        have hformat := (Formatting.gives_formatInPlace programs config.formatter
          (dir.join ⟨d.filename⟩) t).withError RunError.panic
        rcases hin : Formatting.inPlace programs config.formatter (dir.join ⟨d.filename⟩) t with
          ⟨why | status, u⟩
        · rw [hin] at hformat
          exact hformat.bind_error
        · rw [hin] at hformat
          exact hformat.bind_ok (gives_record _ _ _ u)

theorem targets_cons_ok {ds : List Directive} {o : Rendered}
    (h : target programs around config compiled dir d s = (.ok o, t)) :
    targets programs around config compiled dir (d :: ds) s =
      ((targets programs around config compiled dir ds t).1.map (o :: ·),
        (targets programs around config compiled dir ds t).2) := by
  simp only [targets, h]

theorem targets_cons_error {ds : List Directive}
    (h : target programs around config compiled dir d s = (.error e, t)) :
    targets programs around config compiled dir (d :: ds) s = (.error e, t) := by
  simp only [targets, h]

/-- Files that were all written are a first one and the others. -/
theorem targets_cons_eq_ok {ds : List Directive} {outputs : List Rendered} {u : Store}
    (h : targets programs around config compiled dir (d :: ds) s = (.ok outputs, u)) :
    ∃ o os t, target programs around config compiled dir d s = (.ok o, t) ∧
      targets programs around config compiled dir ds t = (.ok os, u) ∧ outputs = o :: os := by
  rcases hd : target programs around config compiled dir d s with ⟨e | o, t⟩
  · rw [targets_cons_error _ _ _ _ _ hd] at h
    cases h
  · rw [targets_cons_ok _ _ _ _ _ hd] at h
    rcases hds : targets programs around config compiled dir ds t with ⟨e | os, v⟩
    · simp [hds, Except.map] at h
    · obtain ⟨rfl, rfl⟩ : o :: os = outputs ∧ v = u := by simpa [hds, Except.map] using h
      exact ⟨o, os, t, rfl, hds, rfl⟩

/-- Files that were all written are those before one of them, this one and those after it. -/
theorem targets_append_eq_ok {ds : List Directive} {before after : List Rendered} {o : Rendered}
    {u : Store}
    (h : targets programs around config compiled dir ds s = (.ok (before ++ o :: after), u)) :
    ∃ ds₁ d ds₂ s₁ t, ds = ds₁ ++ d :: ds₂ ∧
      targets programs around config compiled dir ds₁ s = (.ok before, s₁) ∧
      target programs around config compiled dir d s₁ = (.ok o, t) ∧
      targets programs around config compiled dir ds₂ t = (.ok after, u) := by
  induction before generalizing ds s with
  | nil =>
    cases ds with
    | nil => simp [targets] at h
    | cons d ds =>
      obtain ⟨o', os, t, hd, hds, heq⟩ := targets_cons_eq_ok _ _ _ _ _ h
      obtain ⟨rfl, rfl⟩ : o = o' ∧ after = os := by simpa using heq
      exact ⟨[], d, ds, s, t, rfl, rfl, hd, hds⟩
  | cons b before ih =>
    cases ds with
    | nil => simp [targets] at h
    | cons d ds =>
      obtain ⟨o', os, t, hd, hds, heq⟩ := targets_cons_eq_ok _ _ _ _ _ h
      obtain ⟨rfl, rfl⟩ : b = o' ∧ before ++ o :: after = os := by simpa using heq
      obtain ⟨ds₁, d', ds₂, s₁, t', rfl, hbefore, hd', hafter⟩ := ih hds
      refine ⟨d :: ds₁, d', ds₂, s₁, t', rfl, ?_, hd', hafter⟩
      rw [targets_cons_ok _ _ _ _ _ hd, hbefore]
      rfl

/-- The files of the directives are the operations one after another. -/
theorem gives_targets (ds : List Directive) (s : Store) :
    Gives (ds.mapM (renderTarget programs around config compiled dir)).run s
      (targets programs around config compiled dir ds s).1
      (targets programs around config compiled dir ds s).2 := by
  induction ds generalizing s with
  | nil => exact gives_pure _ s
  | cons d ds ih =>
    rw [List.mapM_cons]
    have hd := gives_renderTarget programs around config compiled dir d s
    rcases ht : target programs around config compiled dir d s with ⟨e | o, t⟩
    · rw [ht] at hd
      rw [targets_cons_error _ _ _ _ _ ht]
      exact hd.bind_error
    · rw [ht] at hd
      rw [targets_cons_ok _ _ _ _ _ ht]
      refine hd.bind_ok ?_
      have hds := ih t
      rcases hts : targets programs around config compiled dir ds t with ⟨e | os, u⟩
      · rw [hts] at hds
        exact hds.bind_error
      · rw [hts] at hds
        exact hds.bind_ok (gives_pure _ u)

end Targets

/-! ### Whole runs -/

variable (programs : Formatting.Programs) (around : Nat → Template.Surroundings) {r : Request}
  {dir : Path} {given : Option String} {outputDir : Option Path}

theorem gives_run_multi_error (hmode : r.mode = .multi dir) {e : RunError}
    (h : multiPlan r s = .error e) : Gives (run programs around r).run s (.error e) s := by
  refine (gives_source r s).bind_read_error h fun source h => ?_
  rw [hmode]
  refine Gives.bind_error ?_
  refine (gives_directives source s).bind_read_error h fun ds h => ?_
  exact (gives_compile r source s).bind_read_error h fun compiled h => nomatch h

/-- A run with one file for each directive writes these files as its plan says. -/
theorem gives_run_multi (hmode : r.mode = .multi dir) {ds : List Directive}
    {compiled : Template.Compiled} (h : multiPlan r s = .ok (ds, compiled)) :
    Gives (run programs around r).run s
      ((targets programs around r.config compiled dir ds s).1.map fun os => ⟨r.template, true, os⟩)
      (targets programs around r.config compiled dir ds s).2 := by
  refine (gives_source r s).bind_read_ok h fun source h => ?_
  rw [hmode]
  have hmulti : Gives (multi programs around r source dir).run s
      (targets programs around r.config compiled dir ds s).1
      (targets programs around r.config compiled dir ds s).2 := by
    refine (gives_directives source s).bind_read_ok h fun ds' h => ?_
    refine (gives_compile r source s).bind_read_ok h fun compiled' h => ?_
    cases h
    exact gives_targets programs around r.config compiled dir ds s
  rcases hts : targets programs around r.config compiled dir ds s with ⟨e | os, t⟩
  · rw [hts] at hmulti
    exact hmulti.bind_error
  · rw [hts] at hmulti
    exact hmulti.bind_ok (gives_pure _ t)

/-- A run with one file for each directive that ends well has written them all. -/
theorem run_multi_eq_ok {programs : Formatting.Programs} {around : Nat → Template.Surroundings}
    (hmode : r.mode = .multi dir) {σ τ : Session} {report : Report}
    (h : (run programs around r).run.run σ = (.ok report, τ)) :
    ∃ ds compiled, multiPlan r σ.store = .ok (ds, compiled) ∧
      targets programs around r.config compiled dir ds σ.store = (.ok report.outputs, τ.store) := by
  cases hplan : multiPlan r σ.store with
  | error e =>
    exact absurd ((gives_run_multi_error programs around hmode hplan).eq_of_run h).1 (by simp)
  | ok plan =>
    obtain ⟨ds, compiled⟩ := plan
    obtain ⟨hresult, hstore⟩ := (gives_run_multi programs around hmode hplan).eq_of_run h
    refine ⟨ds, compiled, rfl, ?_⟩
    rcases hts : targets programs around r.config compiled dir ds σ.store with ⟨e | os, t⟩
    · simp [hts, Except.map] at hresult
    · simp only [hts, Except.map, Except.ok.injEq] at hresult hstore
      rw [← hresult, ← hstore]

theorem gives_run_single_error (hmode : r.mode = .single given outputDir) {e : RunError}
    (h : singlePlan around r given outputDir s = .error e) :
    Gives (run programs around r).run s (.error e) s := by
  refine (gives_source r s).bind_read_error h fun source h => ?_
  rw [hmode]
  dsimp only
  cases hname : outputName r given with
  | error e' =>
    rw [hname] at h
    cases h
    exact gives_pure _ s
  | ok name =>
    rw [hname] at h
    refine Gives.bind_error ?_
    refine (gives_ignoreDirectives source s).bind_read_error h fun _ h => ?_
    refine (gives_compile r source s).bind_read_error h fun compiled h => ?_
    exact (gives_render compiled _ _ s).bind_read_error h fun text h => nomatch h

/-- The staged output of a run with a single file. -/
def stagedFor (r : Request) (final : Path) (text : List Char) : Output.Staged :=
  .ofFinal final text r.config.stagingPrefix r.config.formatter

/-- A run with a single file writes it by way of a staging file, as its plan says. -/
theorem gives_run_single (hmode : r.mode = .single given outputDir) {final : Path}
    {text : List Char} (h : singlePlan around r given outputDir s = .ok (final, text))
    {outcome : Except Output.Failure Formatting.Status}
    (hends : Output.Staged.Ends programs (stagedFor r final text) .parents s outcome t) :
    Gives (run programs around r).run s
      ((entryFor ofFailure final text t outcome).map fun o => ⟨r.template, false, [o]⟩) t := by
  refine (gives_source r s).bind_read_ok h fun source h => ?_
  rw [hmode]
  dsimp only
  cases hname : outputName r given with
  | error e' =>
    rw [hname] at h
    cases h
  | ok name =>
    rw [hname] at h
    have hwrite := (Output.Staged.gives_writeStaged hends).withError ofFailure
    have hsingle :
        Gives (single programs around r source (finalPath r given.isSome outputDir name)).run s
          (entryFor ofFailure final text t outcome) t := by
      refine (gives_ignoreDirectives source s).bind_read_ok h fun _ h => ?_
      refine (gives_compile r source s).bind_read_ok h fun compiled h => ?_
      refine (gives_render compiled _ _ s).bind_read_ok h fun text' h => ?_
      cases h
      cases outcome with
      | error e => exact hwrite.bind_error
      | ok status => exact hwrite.bind_ok (gives_record _ _ _ t)
    cases hentry : entryFor ofFailure final text t outcome with
    | error e =>
      rw [hentry] at hsingle
      exact hsingle.bind_error
    | ok o =>
      rw [hentry] at hsingle
      exact hsingle.bind_ok (gives_pure _ t)

/-- A run with a single file that ends well has written it by way of a staging file. -/
theorem run_single_eq_ok {programs : Formatting.Programs} {around : Nat → Template.Surroundings}
    (hmode : r.mode = .single given outputDir) {σ τ : Session} {report : Report}
    (h : (run programs around r).run.run σ = (.ok report, τ)) :
    ∃ final text status o, singlePlan around r given outputDir σ.store = .ok (final, text) ∧
      Output.Staged.Ends programs (stagedFor r final text) .parents σ.store (.ok status) τ.store ∧
      entryOf final text status τ.store = .ok o ∧ report = ⟨r.template, false, [o]⟩ := by
  cases hplan : singlePlan around r given outputDir σ.store with
  | error e =>
    exact absurd ((gives_run_single_error programs around hmode hplan).eq_of_run h).1 (by simp)
  | ok plan =>
    obtain ⟨final, text⟩ := plan
    obtain ⟨outcome, t, hends⟩ := Output.Staged.exists_ends programs (stagedFor r final text)
      .parents σ.store
    obtain ⟨hresult, rfl⟩ := (gives_run_single programs around hmode hplan hends).eq_of_run h
    cases outcome with
    | error e => cases hresult
    | ok status =>
      simp only [entryFor] at hresult
      cases hentry : entryOf final text status τ.store with
      | error e => simp [hentry, Except.map] at hresult
      | ok o =>
        refine ⟨final, text, status, o, rfl, hends, hentry, ?_⟩
        simpa [hentry, Except.map, eq_comm] using hresult

end Imprint.Run
