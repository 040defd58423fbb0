import Imprint.Binding
import Imprint.Config.Basic
import Imprint.Directive
import Imprint.Formatting.Status
import Imprint.OutputName
import Imprint.Session
import Imprint.Template.Compile

/-!
# What a run is asked for and what it gives

A run renders one template: either to one file for each directive of its header, or to a single
file. It gives a report of the files it wrote, or stops with an error.

## Main definitions

* `Imprint.Mode`, `Imprint.Request`: what is asked for.
* `Imprint.Rendered`, `Imprint.Report`: what was written.
* `Imprint.RunError`: why a run stopped, or broke off.
-/

namespace Imprint

/-- Which files a run writes. -/
inductive Mode where
  /-- One file for each directive, in a directory. -/
  | multi (outputDir : Path)
  /-- One file. Without a name it is named after the template. Without a directory it is put beside
  the template when it has no name, and seen from the working directory when it has one. -/
  | single (outputName : Option String) (outputDir : Option Path)
  deriving DecidableEq, Repr

/-- What a run is asked for. -/
structure Request where
  template : Path
  mode : Mode
  config : Config
  /-- Directories that are searched for templates after those of the configuration. -/
  includeDirs : List Path := []

/-- One file that was written. -/
structure Rendered where
  path : Path
  /-- The text as it was rendered. -/
  text : List Char
  /-- The number of bytes of the file after formatting. -/
  size : Nat
  status : Formatting.Status
  deriving DecidableEq, Repr

/-- What a run wrote, in order. -/
structure Report where
  template : Path
  isMulti : Bool
  outputs : List Rendered
  deriving DecidableEq, Repr

/-- The number of files that were formatted. -/
def Report.formattedCount (r : Report) : Nat :=
  r.outputs.countP (·.status.isFormatted)

/-- Why a run stopped. -/
inductive RunError where
  | header (e : HeaderError)
  | binding (e : BindingError)
  | name (e : OutputName.Collision)
  | template (e : Template.RenderError)
  | file (e : FileError)
  /-- The run broke off while a file was formatted. -/
  | panic (why : Panic)

/-- The text of an error. -/
def RunError.message : RunError → String
  | .header e => e.message
  | .binding e => e.message
  | .name e => e.message
  | .template e => e.message
  | .file e => e.message
  | .panic why => why.message

/-- The panic with which a run broke off, if it did. -/
def RunError.panic? : RunError → Option Panic
  | .panic why => some why
  | .template (.panic why) => some why
  | _ => none

end Imprint
