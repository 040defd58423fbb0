import Imprint.Output.Staged
import Imprint.Run.Request

/-!
# Running a template

A template is read once. With one file for each directive, the header is read, the body compiled,
and then each directive in turn is resolved, rendered, written and formatted, so that an error
leaves the files of the directives before it. With a single file the directives are only counted.
Once a file is written, formatting decides nothing but its status.

What surrounds the rendering is given for each directive, by its position; a single file is
rendered as if for the first. A run that breaks off leaves what it has done until then, as every
run does that stops.

## Main definitions

* `Imprint.Request.searchPath`: the directories in which templates are looked for.
* `Imprint.Run.renderTarget`, `Imprint.Run.multi`: one file for each directive.
* `Imprint.Run.finalPath`, `Imprint.Run.single`: a single file.
* `Imprint.Run.run`: a whole run.
-/

namespace Imprint

/-- The directories in which templates are looked for: the one of the template, those of the
configuration, and those of the request. -/
def Request.searchPath (r : Request) (source : Source) : List Path :=
  source.directory :: r.config.includeDirs ++ r.includeDirs

namespace Run

open Session

variable (programs : Formatting.Programs) (around : Nat → Template.Surroundings)

/-- A file that may be refused. -/
def file {α : Type} (a : Action FileError α) : Action RunError α :=
  withError .file a

/-- The header of a template. -/
def directives (source : Source) : Action RunError (List Directive) := do
  reportAll source.headerEvents
  match source.directives with
  | .ok ds => return ds
  | .error e => throw (.header e)

/-- The binding of a directive. -/
def resolve (config : Config) (vars : String) : Action RunError Binding := do
  reportAll (Binding.repeatEvents config.knownKeys vars)
  match Binding.resolve config.knownKeys vars with
  | .ok b => return b
  | .error e => throw (.binding e)

/-- The compiled body of a template. -/
def compile (searchPath : List Path) (source : Source) :
    Action RunError Template.Compiled := do
  let store ← currentStore
  withError .template (logging (Template.compileSource store searchPath source))

/-- The text of a template for a binding, in some surroundings. -/
def render (compiled : Template.Compiled) (around : Template.Surroundings) (b : Binding) :
    Action RunError (List Char) :=
  match compiled.render around b with
  | .ok text => return text
  | .error e => throw (.template e)

/-- The entry for a file that has been written and formatted. Its size is that of the file as it
stands now; a formatter may have changed it. -/
def record (path : Path) (text : List Char) (status : Formatting.Status) :
    Action RunError Rendered := do
  if let some why := status.skip? then
    report ⟨.warn, .run, s!"{path.text}: {why.reason}"⟩
  match (← currentStore).size path with
  | .ok size => return ⟨path, text, size, status⟩
  | .error fault => throw (.file ⟨path, fault⟩)

/-! ### One file for each directive -/

/-- Renders, writes and formats the file of a directive. -/
def renderTarget (config : Config) (compiled : Template.Compiled) (outputDir : Path)
    (d : Directive) : Action RunError Rendered := do
  let b ← resolve config d.vars
  report ⟨.debug, .run, s!"rendering `{d.filename}` (directive {d.index}, {b.size} binding(s))"⟩
  let text ← render compiled (around d.index) b
  let path ← file (Output.writeTarget outputDir d.filename text)
  let status ← withError .panic (Formatting.formatInPlace programs config.formatter path)
  record path text status

/-- One file for each directive, in the order of the header. -/
def multi (r : Request) (source : Source) (outputDir : Path) : Action RunError (List Rendered) := do
  let ds ← directives source
  let compiled ← compile (r.searchPath source) source
  ds.mapM (renderTarget programs around r.config compiled outputDir)

/-! ### A single file -/

/-- Counts the directives, which a single file does not use. A header without any is no error
here. -/
def ignoreDirectives (source : Source) : Action RunError Unit := do
  reportAll source.headerEvents
  match source.directives with
  | .ok ds =>
    let advice := "in single-output mode; pass an output directory to use them"
    report ⟨.warn, .run, s!"{source.path.text}: ignoring {ds.length} directive(s) {advice}"⟩
  | .error (.empty _) => return ()
  | .error e => throw (.header e)

/-- The name of the single file. -/
def outputName (r : Request) (name : Option String) : Except OutputName.Collision String :=
  match name with
  | some name => .ok name
  | none => OutputName.derive r.template r.config.templateSuffix

/-- The path of the single file, whose name is `name`. -/
def finalPath (r : Request) (given : Bool) (outputDir : Option Path) (name : String) : Path :=
  match outputDir with
  | some dir => dir.join ⟨name⟩
  | none => if given then ⟨name⟩ else r.template.withFileName name

/-- Why an output was not written, as the error of a run. -/
def ofFailure : Output.Failure → RunError
  | .file e => .file e
  | .panic why => .panic why

/-- Renders the template to a single file, by way of a staging file. -/
def single (r : Request) (source : Source) (final : Path) : Action RunError Rendered := do
  ignoreDirectives source
  let compiled ← compile (r.searchPath source) source
  let text ← render compiled (around 0) Binding.empty
  let staged := Output.Staged.ofFinal final text r.config.stagingPrefix r.config.formatter
  let status ← withError ofFailure (Output.writeStaged programs staged)
  record final text status

/-! ### A run -/

/-- The template of a request. -/
def source (r : Request) : Action RunError Source := do
  match (← currentStore).readText r.template with
  | .ok text => return ⟨r.template, text, r.config.markerOrStandard⟩
  | .error fault => throw (.file ⟨r.template, fault⟩)

/-- A whole run. -/
def run (r : Request) : Action RunError Report := do
  let source ← source r
  match r.mode with
  | .multi outputDir => return ⟨r.template, true, ← multi programs around r source outputDir⟩
  | .single given outputDir =>
    match outputName r given with
    | .error e => throw (.name e)
    | .ok name =>
      let final := finalPath r given.isSome outputDir name
      return ⟨r.template, false, [← single programs around r source final]⟩

end Run

end Imprint
