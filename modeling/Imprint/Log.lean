/-!
# Log events

What a run reports about itself while it works. Each event has a level, the part of the program that
it came from, and a text. Events are kept in the order in which they happened; what of them is shown
is decided later by a filter.

## Main definitions

* `Imprint.Log.Level`, `Imprint.Log.Origin`, `Imprint.Log.Event`: one event.
* `Imprint.Log.Event.line`, `Imprint.Log.Event.terminalLine`: an event as a line.
* `Imprint.Log.Logging`: work that reports events.
-/

namespace Imprint.Log

/-- How much an event matters. -/
inductive Level where
  | error
  | warn
  | info
  | debug
  | trace
  deriving DecidableEq, Repr

/-- The number of a level; the more an event matters, the smaller it is. -/
def Level.rank : Level → Nat
  | .error => 1
  | .warn => 2
  | .info => 3
  | .debug => 4
  | .trace => 5

/-- The name of a level as it is shown in front of an event. -/
def Level.label : Level → String
  | .error => "ERROR"
  | .warn => "WARN"
  | .info => "INFO"
  | .debug => "DEBUG"
  | .trace => "TRACE"

/-- The part of the program that an event came from. -/
inductive Origin where
  | header
  | binding
  | config
  | templates
  | formatter
  | output
  | run
  deriving DecidableEq, Repr

/-- The target under which filters know the events of a part. -/
def Origin.target : Origin → String
  | .header => "stencil_core::directive"
  | .binding => "stencil_core::binding"
  | .config => "stencil_core::config"
  | .templates => "stencil_renderer::engine"
  | .formatter => "stencil_writer::formatter"
  | .output => "stencil_writer::writer"
  | .run => "stencil_writer::pipeline"

/-- One event. -/
structure Event where
  level : Level
  origin : Origin
  text : String
  deriving DecidableEq, Repr

/-- An event as a line. -/
def Event.line (e : Event) : String :=
  e.level.label ++ " " ++ e.text

/-- A character as a terminal may be given it: a control that terminals act on is written by its
number. -/
def terminalChar (c : Char) : List Char :=
  match c with
  | '\x1b' => "\\x1b".toList
  | '\x07' => "\\x07".toList
  | '\x08' => "\\x08".toList
  | '\x0c' => "\\x0c".toList
  | '\x7f' => "\\x7f".toList
  | c =>
    if 0x80 ≤ c.toNat ∧ c.toNat ≤ 0x9F then
      "\\u\x7b".toList ++ Nat.toDigits 16 c.toNat ++ ['}']
    else [c]

/-- An event as a line for a terminal. -/
def Event.terminalLine (e : Event) : String :=
  e.level.label ++ " " ++ String.ofList (e.text.toList.flatMap terminalChar)

/-- Work that reports events and may fail. What was reported before a failure stays reported. -/
abbrev Logging (ε α : Type) := ExceptT ε (StateM (List Event)) α

/-- Reports an event. -/
def report {ε : Type} (e : Event) : Logging ε Unit :=
  modify (· ++ [e])

end Imprint.Log
