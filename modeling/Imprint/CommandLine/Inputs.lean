import Imprint.CommandLine.Basic

/-!
# What a call depends on

Before the program works on a store, the store has to hold every entry that can matter: the
template, the configuration, the templates they refer to, and what stands where outputs go. Which
paths these are shows step by step, as more of them are known.

## Main definitions

* `Imprint.CommandLine.inputs`: the paths that can matter, as far as a store shows.
-/

namespace Imprint.CommandLine

/-- The configuration of a call, as far as a store shows; otherwise the standard one. -/
def knownConfig (o : Options) (s : Store) : Config :=
  match ((Config.discover s (o.config.map Path.mk) o.template).run.run []).1 with
  | .ok c => c
  | .error _ => {}

/-- The template of a call, as far as a store shows; otherwise an empty one. -/
def knownSource (o : Options) (c : Config) (s : Store) : Source :=
  let text := match s.readText o.template with
    | .ok text => text
    | .error _ => ""
  ⟨o.template, text, c.markerOrStandard⟩

/-- Where the outputs of a call go. -/
def targets (r : Request) (source : Source) : List Path :=
  match r.mode with
  | .multi dir =>
    match source.directives with
    | .ok ds => dir :: ds.map fun d => dir.join ⟨d.filename⟩
    | .error _ => [dir]
  | .single name dir =>
    match Run.outputName r name with
    | .ok text =>
      let final := Run.finalPath r name.isSome dir text
      let staging := OutputName.staging final r.config.stagingPrefix
      [final, staging, OutputName.formatted staging]
    | .error _ => []

/-- The paths that can matter for a call, as far as a store shows. -/
def inputs (o : Options) (s : Store) : List Path :=
  let c := knownConfig o s
  let source := knownSource o c s
  let r := request o c
  let names := (Template.referencesOfStore s).map (·.name)
  let templates := (r.searchPath source).flatMap fun dir => names.map fun n => dir.join ⟨n⟩
  let outputs := targets r source
  let parents := outputs.flatMap fun p => Store.pathsAbove p.text.length p
  let config := (o.config.map Path.mk).getD (Config.beside o.template)
  config :: o.template :: templates ++ outputs ++ parents

end Imprint.CommandLine
