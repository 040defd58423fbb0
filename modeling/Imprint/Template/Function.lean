import Imprint.Template.Test

/-!
# Functions

A function makes a value from named arguments. Some functions ask what surrounds the rendering: what
the clock shows, what is drawn at random, what the environment holds. The same template can so be
rendered differently another time. What the surroundings answer is not known here; it is given for
each question by its number.

The surroundings also have filters and tests in addition to those that are described here.

## Main definitions

* `Imprint.Template.Surroundings`: what surrounds a rendering.
* `Imprint.Template.Function`, `Imprint.Template.function?`: a function, and the function with a
  name.
-/

namespace Imprint.Template

/-- What a clock shows. -/
structure Moment where
  /-- The number of seconds since the beginning of 1970. -/
  seconds : Int
  /-- The moment as it is written where the program runs. -/
  written : String
  /-- The moment as it is written in universal time. -/
  universal : String

/-- What surrounds a rendering. The clock and the draws are asked again and again; the number says
how many functions have been called before. -/
structure Surroundings where
  environment : String → Option String := fun _ => none
  clock : Nat → Moment := fun _ => ⟨0, "", ""⟩
  draw : Nat → Nat := fun _ => 0
  /-- Filters that are not described here. -/
  filter? : String → Option Filter := fun _ => none
  /-- Tests that are not described here. -/
  test? : String → Option Test := fun _ => none

/-- A function of named values, called in some surroundings after a number of other calls. -/
abbrev Function := Surroundings → Nat → Arguments → Except Fault Value

namespace Function

/-- An argument as a kind, when it is given. In messages it may have another name. -/
def argument? {α : Type} (function name shown expected : String) (view : Value → Option α)
    (args : Arguments) : Except Fault (Option α) :=
  match args.lookup name with
  | none => .ok none
  | some v =>
    match view v with
    | some a => .ok (some a)
    | none => .error (.wrongForFunction function name shown v expected)

/-- The integers from `start` up to `finish`, without it, in steps. -/
def range : Function := fun _ _ args => do
  let start := (← argument? "range" "start" "start" "number" Value.count? args).getD 0
  let step := (← argument? "range" "step_by" "step" "number" Value.count? args).getD 1
  match ← argument? "range" "end" "end" "number" Value.count? args with
  | none => .error (.calledWithout "range" "end")
  | some finish =>
    if finish < start then .error .reversedRange
    else if step = 0 ∧ start < finish then .error (.panic .outOfMemory)
    else
      let count := (finish - start + step - 1) / step
      .ok (.array ((List.range count).map fun i => .int (start + i * step : Nat)))

/-- What the clock shows. -/
def now : Function := fun around n args => do
  let universal ← argument? "now" "utc" "utc" "boolean" Value.bool? args
  let counted ← argument? "now" "timestamp" "timestamp" "boolean" Value.bool? args
  let moment := around.clock n
  if counted.getD false then .ok (.int moment.seconds)
  else .ok (.text (if universal.getD false then moment.universal else moment.written).toList)

/-- An integer from `start` up to `finish`, without it, drawn at random. -/
def random : Function := fun around n args => do
  let start := (← argument? "get_random" "start" "start" "number" Value.int? args).getD 0
  match ← argument? "get_random" "end" "end" "number" Value.int? args with
  | none => .error (.notReceived "get_random" "end")
  | some finish =>
    if finish ≤ start then .error (.panic .emptyRange)
    else .ok (.int (start + around.draw n % (finish - start)))

/-- The value of a variable of the environment, or a default. -/
def environment : Function := fun around _ args => do
  match ← argument? "get_env" "name" "name" "string" Value.text? args with
  | none => .error (.notReceived "get_env" "name")
  | some name =>
    match around.environment (String.ofList name), args.lookup "default" with
    | some s, _ => .ok (.text s.toList)
    | none, some v => .ok v
    | none, none => .error (.notInEnvironment (String.ofList name))

/-- A fault in words of the template. -/
def fail : Function := fun _ _ args => do
  match ← argument? "throw" "message" "message" "string" Value.text? args with
  | some message => .error (.worded (String.ofList message))
  | none => .error (.calledWithout "throw" "message")

end Function

/-- The function with a name. -/
def function? (name : String) : Option Function :=
  match name with
  | "range" => some .range
  | "now" => some .now
  | "get_random" => some .random
  | "get_env" => some .environment
  | "throw" => some .fail
  | _ => none

end Imprint.Template
