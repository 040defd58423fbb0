import Imprint.Config.Load
import Imprint.Run.Request
import Imprint.Text.Quoted

/-!
# What the program prints

The report of a run is printed as a summary with one line for each file, or in the JSON format. An
error is printed with the causes below it: one cause stands alone, several are numbered.

## Main definitions

* `Imprint.CommandLine.summary`: the report as a summary.
* `Imprint.CommandLine.json`: the report in the JSON format.
* `Imprint.CommandLine.Failure`, `Imprint.CommandLine.Failure.text`: an error with its causes.
-/

namespace Imprint.CommandLine

/-- A text with a line break behind it. -/
def line (s : String) : String :=
  s ++ "\n"

/-! ### The summary -/

/-- The line of a file. -/
def summaryLine (r : Rendered) : String :=
  match r.status.skip? with
  | none => s!"  ✎  {r.path.text}"
  | some why => s!"  ~  {r.path.text} ({why.reason})"

/-- The report as a summary. -/
def summary (r : Report) : String :=
  let counts := s!"({r.outputs.length} file(s), {r.formattedCount} formatted)"
  let head := s!"✓ '{r.template.text}' rendered {counts}"
  String.join ((head :: r.outputs.map summaryLine).map line)

/-! ### The JSON format -/

/-- A value of the JSON format, as far as reports need it. -/
inductive Value where
  | number (n : Nat)
  | text (s : String)
  | list (items : List Value)
  | record (fields : List (String × Value))

/-- Lines with a comma behind each but the last. -/
def withCommas : List (List String) → List String
  | [] => []
  | [item] => item
  | item :: items => item.dropLast ++ item.getLast?.toList.map (· ++ ",") ++ withCommas items

/-- Lines, two columns further to the right. -/
def indented (ls : List String) : List String :=
  ls.map ("  " ++ ·)

/-- Items between two brackets. Without items the brackets stand on one line. -/
def bracketed (opening closing : String) (items : List (List String)) : List String :=
  if items.isEmpty then [opening ++ closing]
  else opening :: indented (withCommas items) ++ [closing]

/-- A text in the JSON format. -/
def quoted (s : String) : String :=
  String.ofList (Text.Quoted.json s.toList)

/-- A name in front of the first of some lines. -/
def labelled (name : String) : List String → List String
  | [] => []
  | l :: ls => (quoted name ++ ": " ++ l) :: ls

mutual

/-- The lines of a value. -/
def Value.lines : Value → List String
  | .number n => [toString n]
  | .text s => [quoted s]
  | .list items => bracketed "[" "]" (Value.linesOfItems items)
  | .record fields => bracketed "\x7b" "\x7d" (Value.linesOfFields fields)

/-- The lines of each item. -/
def Value.linesOfItems : List Value → List (List String)
  | [] => []
  | v :: vs => v.lines :: Value.linesOfItems vs

/-- The lines of each field. -/
def Value.linesOfFields : List (String × Value) → List (List String)
  | [] => []
  | (name, v) :: fields => labelled name v.lines :: Value.linesOfFields fields

end

/-- A file as a value. -/
def valueOf (r : Rendered) : Value :=
  let status := match r.status.skip? with
    | none => [("status", Value.text "formatted")]
    | some why => [("status", .text "format_skipped"), ("reason", .text why.reason)]
  .record ([("path", .text r.path.text), ("bytes", .number r.size)] ++ status)

/-- The name of the mode of a report. -/
def modeName (r : Report) : String :=
  if r.isMulti then "multi" else "single"

/-- The report in the JSON format. -/
def json (r : Report) : String :=
  let value := Value.record [("template", .text r.template.text), ("mode", .text (modeName r)),
    ("outputs", .list (r.outputs.map valueOf))]
  line (String.intercalate "\n" value.lines)

/-! ### Errors -/

/-- Why the program fails. -/
inductive Failure where
  | config (e : ConfigError)
  | run (template : Path) (e : RunError)

/-- The panic on which the program ends, if it does. -/
def Failure.panic? : Failure → Option Panic
  | .config _ => none
  | .run _ e => e.panic?

/-- The code with which the program ends. -/
def Failure.exitCode (f : Failure) : Nat :=
  (f.panic?.map Panic.exitCode).getD 1

/-- What the program could not do. -/
def Failure.headline : Failure → String
  | .config _ => "failed to load configuration"
  | .run template _ => s!"failed to render {template.text}"

/-- The error that stopped the program. -/
def Failure.message : Failure → String
  | .config e => e.message
  | .run _ e => e.message

/-- Whether the error has a cause of its own, and the text of that cause as far as it is shown. -/
def Failure.cause? : Failure → Option (Option String)
  | .config (.unreadable _ fault) => some (some fault.message)
  | .config (.malformed _ flaw) => some flaw.text?
  | .run _ (.file e) => some (some e.fault.message)
  | .run _ (.template (.unreadable _ fault)) => some (some fault.message)
  | _ => none

/-- A text with `first` in front of its first line and blanks of that width in front of the
others. -/
def hanging (first text : String) : String :=
  let blanks := String.ofList (List.replicate first.length ' ')
  first ++ String.intercalate ("\n" ++ blanks) (text.splitOn "\n")

/-- An error with its causes. A panic has none and is shown without a headline. -/
def Failure.text (f : Failure) : String :=
  let head := s!"Error: {f.headline}\n\nCaused by:\n"
  match f.panic?, f.cause? with
  | some why, _ => why.message
  | none, none => head ++ hanging "    " f.message
  | none, some none => head ++ hanging "    0: " f.message
  | none, some (some cause) =>
    head ++ line (hanging "    0: " f.message) ++ hanging "    1: " cause

end Imprint.CommandLine
