import Imprint.Config.Reading
import Imprint.Log
import Imprint.Store.Operations

/-!
# Configuration files

A configuration is read from a file that is named, or else from the file `stencil.yaml` beside the
template when there is one. It has to be valid. Its relative include directories are seen from the
directory of the file.

## Main definitions

* `Imprint.ConfigError`: why a configuration cannot be used.
* `Imprint.Config.load`: the configuration in a file.
* `Imprint.Config.discover`: the configuration for a template.
-/

namespace Imprint

/-- Why the configuration in a file cannot be used. -/
inductive ConfigError where
  /-- The file cannot be read. -/
  | unreadable (path : Path) (fault : Store.Fault)
  /-- The file holds no configuration. -/
  | malformed (path : Path) (flaw : Yaml.Flaw)
  /-- A setting cannot be used. -/
  | invalid (path : Path) (setting : Config.Invalid)
  deriving DecidableEq, Repr

/-- The text of an error. -/
def ConfigError.message : ConfigError → String
  | .unreadable path fault => s!"failed to read configuration at {path.text}: {fault.message}"
  | .malformed path flaw =>
    match flaw.text? with
    | some text => s!"failed to parse configuration at {path.text}: {text}"
    | none => s!"failed to parse configuration at {path.text}"
  | .invalid path setting => s!"invalid configuration at {path.text}: {setting.message}"

namespace Config

/-- A configuration whose relative include directories are seen from the directory `base`. -/
def relativeTo (base : Path) (c : Config) : Config :=
  { c with includeDirs := c.includeDirs.map base.join }

/-- A configuration that came from `path`, once it is known to be valid. -/
def checkAt (path : Path) (c : Config) : Except ConfigError Unit :=
  match c.check with
  | .ok () => .ok ()
  | .error setting => .error (.invalid path setting)

/-- The configuration in the file at `path`. -/
def loadQuietly (s : Store) (path : Path) : Except ConfigError Config := do
  let text ← (s.readText path).mapError (.unreadable path)
  let c ← (ofText text).mapError (.malformed path)
  c.checkAt path
  return c.relativeTo (path.parent?.getD ⟨""⟩)

/-- The configuration in the file at `path`, reported when it could be loaded. -/
def load (s : Store) (path : Path) : Log.Logging ConfigError Config := do
  let c ← (loadQuietly s path : Except ConfigError Config)
  Log.report ⟨.debug, .config, s!"loaded configuration from {path.text}"⟩
  return c

/-- The name of the file that is looked for beside a template. -/
def fileName : Path := ⟨"stencil.yaml"⟩

/-- The path of the configuration file beside a template. -/
def beside (template : Path) : Path :=
  (template.parent?.getD ⟨""⟩).join fileName

/-- The configuration for a template: in the file that is named, else in the file beside the
template when there is one, else the standard one. -/
def discover (s : Store) (explicit : Option Path) (template : Path) :
    Log.Logging ConfigError Config :=
  match explicit with
  | some path => load s path
  | none => if s.isFile (beside template) then load s (beside template) else return {}

end Config

end Imprint
