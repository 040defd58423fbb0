import Imprint.Config.Basic
import Imprint.Text.Blank
import Imprint.Yaml.Reading

/-!
# Configurations as texts

A configuration is written as a YAML record. Fields that are not given keep their standard values, a
blank text gives none, and a field that is not known is refused.

## Main definitions

* `Imprint.Config.ofDocument`: the configuration that a document holds.
* `Imprint.Config.ofText`: the configuration that a text holds.

## Main results

* `Imprint.Config.ofText_of_blank`: a blank text stands for the standard settings.
-/

namespace Imprint.Config

open Yaml

/-- A text of the user's choice. -/
def readText : Read String := Read.text "a string"

/-- A path. -/
def readPath : Read Path := fun p node => Path.mk <$> Read.text "path string" p node

/-- A number of seconds. -/
def readSeconds : Read Nat := Read.natural 64 "u64"

/-- The fields of the formatter. -/
def Formatter.fields : List String :=
  ["program", "args", "in_place_flag", "timeout_secs", "enabled"]

/-- Reads one field of the formatter. -/
def Formatter.readField (name : String) (f : Formatter) : Read Formatter := fun p node =>
  match name with
  | "program" => return { f with program := ← readText p node }
  | "args" => return { f with args := ← Read.list readText p node }
  | "in_place_flag" => return { f with inPlaceFlag := ← readText p node }
  | "timeout_secs" => return { f with timeout := ← readSeconds p node }
  | "enabled" => return { f with enabled := ← Read.truth p node }
  | _ => .error .malformed

/-- Reads the formatter. -/
def Formatter.read : Read Formatter :=
  Read.record "struct FormatterConfig" fields readField {}

/-- The fields of a configuration. -/
def fields : List String :=
  ["marker", "template_suffix", "staging_prefix", "include_dirs", "known_keys", "formatter"]

/-- Reads one field of a configuration. -/
def readField (name : String) (c : Config) : Read Config := fun p node =>
  match name with
  | "marker" => return { c with marker := ← readText p node }
  | "template_suffix" => return { c with templateSuffix := ← readText p node }
  | "staging_prefix" => return { c with stagingPrefix := ← readText p node }
  | "include_dirs" => return { c with includeDirs := ← Read.list readPath p node }
  | "known_keys" => return { c with knownKeys := ← Read.maybe (Read.list readText) p node }
  | "formatter" => return { c with formatter := ← Formatter.read p node }
  | _ => .error .malformed

/-- Reads a configuration. -/
def read : Read Config :=
  Read.record "struct StencilConfig" fields readField {}

/-- The configuration that a document holds. -/
def ofDocument (d : Document) : Except Flaw Config :=
  d.read read

/-- The configuration that a text holds. -/
def ofText (text : String) : Except Flaw Config :=
  if Text.isAllBlank text.toList then .ok {} else ofDocument (.ofText text.toList)

/-! ### Small facts -/

theorem ofText_of_blank {text : String} (h : Text.isAllBlank text.toList = true) :
    ofText text = .ok {} := by
  simp [ofText, h]

end Imprint.Config
