import Imprint.Marker
import Imprint.Path
import Imprint.Text.Search

/-!
# Configurations

The settings of a run. A configuration is *valid* when its marker, suffix, prefix and formatter can
be used; the first setting that cannot is reported.

## Main definitions

* `Imprint.Config.Formatter`, `Imprint.Config`: the settings, with their standard values.
* `Imprint.Config.Invalid`, `Imprint.Config.check`: what can be wrong with them.
* `Imprint.Config.markerOrStandard`: the marker of a configuration.

## Main results

* `Imprint.Config.check_standard`: the standard settings are valid.
* `Imprint.Config.marker_of_check`: a valid configuration has a marker of its own.
-/

namespace Imprint

/-- How the formatter is run. -/
structure Config.Formatter where
  program : String := "clang-format"
  args : List String := ["-style=file"]
  /-- The argument that makes the formatter format the file it is given in place. -/
  inPlaceFlag : String := "-i"
  /-- The number of seconds after which the formatter is stopped. -/
  timeout : Nat := 30
  enabled : Bool := true
  deriving DecidableEq, Repr

/-- The settings of a run. -/
structure Config where
  /-- The text of the marker that opens directive lines. -/
  marker : String := "##"
  /-- What is removed from the name of a template to name a single output. -/
  templateSuffix : String := ".mako"
  /-- What stands in front of the name of an output while it is written. -/
  stagingPrefix : String := "."
  /-- Directories that are searched for templates after the directory of the template itself. -/
  includeDirs : List Path := []
  /-- The only keys that bindings may use, when they are restricted. -/
  knownKeys : Option (List String) := none
  formatter : Config.Formatter := {}
  deriving DecidableEq, Repr

namespace Config

/-- A setting that cannot be used. -/
inductive Invalid where
  | marker (text : String)
  | templateSuffix
  | stagingPrefix (text : String)
  | program
  | timeout
  deriving DecidableEq, Repr

/-- The text of a setting that cannot be used. -/
def Invalid.message : Invalid → String
  | .marker text => s!"marker `{text}` must be exactly two non-whitespace characters"
  | .templateSuffix => "template_suffix must not be empty"
  | .stagingPrefix text => s!"staging_prefix `{text}` must be a non-empty file name prefix"
  | .program => "formatter.program must not be empty"
  | .timeout => "formatter.timeout_secs must be positive"

/-- Whether a text can stand in front of a file name. -/
def isNamePrefix (text : String) : Bool :=
  !text.isEmpty && text.toList.all fun c => c != '/' && c != '\\'

/-- Whether a formatter can be run, or is not meant to be. -/
def Formatter.hasProgram (f : Formatter) : Bool :=
  !f.enabled || !Text.isAllBlank f.program.toList

/-- The first setting that cannot be used. -/
def check (c : Config) : Except Invalid Unit :=
  if (Marker.ofString? c.marker).isNone then .error (.marker c.marker)
  else if c.templateSuffix.isEmpty then .error .templateSuffix
  else if !isNamePrefix c.stagingPrefix then .error (.stagingPrefix c.stagingPrefix)
  else if !c.formatter.hasProgram then .error .program
  else if c.formatter.timeout = 0 then .error .timeout
  else .ok ()

/-- The marker of a configuration, or the standard one when its text is no marker. -/
def markerOrStandard (c : Config) : Marker :=
  (Marker.ofString? c.marker).getD .standard

/-! ### Small facts -/

theorem check_standard : ({} : Config).check = .ok () := by rfl

theorem marker_of_check {c : Config} (h : c.check = .ok ()) :
    c.markerOrStandard.text = c.marker := by
  unfold check at h
  split at h
  · cases h
  next hm =>
    obtain ⟨m, hm⟩ := Option.ne_none_iff_exists'.1 (by simpa using hm)
    simpa [markerOrStandard, hm] using Marker.ofString?_eq_some_iff.1 hm

end Config

end Imprint
