import Imprint.CommandLine.Options
import Imprint.CommandLine.Text
import Imprint.Log.Filter
import Imprint.Run.Basic

/-!
# The command line

The program reads its arguments, finds the configuration, renders the template, and prints
a report. What it reports on the way is shown as far as a filter lets it pass: the filter of the
environment when there is one that can be read, else one that the arguments choose.

## Main definitions

* `Imprint.CommandLine.Result`: what the program leaves besides files.
* `Imprint.CommandLine.filter`: which events are shown.
* `Imprint.CommandLine.run`: a call of the program.
-/

namespace Imprint.CommandLine

/-- What the program leaves besides files. -/
structure Result where
  exitCode : Nat
  output : String := ""
  log : List Log.Event := []
  error : Option String := none
  deriving DecidableEq, Repr

/-- What the program prints when it is asked for its version. -/
def version : String := "stencil 0.1.0\n"

/-- How the program is used. -/
def usage : String :=
  "Usage: stencil [OPTIONS] <TEMPLATE> [OUTPUT_DIR]\n"

/-- The level up to which events are shown when the environment does not choose a filter. -/
def level (verbosity : Nat) : Log.Level :=
  match verbosity with
  | 0 => .warn
  | 1 => .info
  | _ => .debug

/-- Which events are shown. -/
def filter (environment : Option String) (verbosity : Nat) : Log.Filter :=
  (environment.bind Log.Filter.ofText?).getD (.upTo (level verbosity))

/-- The request for a configuration and some options. -/
def request (o : Options) (c : Config) : Request :=
  let formatter := { c.formatter with enabled := c.formatter.enabled && !o.noFormat }
  ⟨o.template, o.mode, { c with formatter }, o.includeDirs.map Path.mk⟩

variable (programs : Formatting.Programs) (around : Nat → Template.Surroundings)

open Session in
/-- The work of the program. -/
def work (o : Options) : Action Failure Report := do
  let store ← currentStore
  let c ← withError .config
    (logging (Config.discover store (o.config.map Path.mk) o.template))
  withError (.run o.template) (Run.run programs around (request o c))

/-- A call of the program, with the filter of the environment. -/
def run (environment : Option String) (args : List String) (store : Store) : Result × Store :=
  match Options.read args with
  | .error .misused => ({ exitCode := 2, error := some usage }, store)
  | .error .version => ({ exitCode := 0, output := version }, store)
  | .error .help => ({ exitCode := 0, output := usage }, store)
  | .ok o =>
    let (outcome, s) := (work programs around o).run.run { store }
    let log := s.log.filter (filter environment o.verbosity).shows
    match outcome with
    | .ok report =>
      let output := if o.json then json report else summary report
      ({ exitCode := 0, output, log }, s.store)
    | .error e => ({ exitCode := e.exitCode, log, error := some e.text }, s.store)

end Imprint.CommandLine
