/-!
# Panics

A run breaks off when it comes upon a state that it takes to be impossible. Nothing is reported then
and nothing is cleaned up.

## Main definitions

* `Imprint.Panic`: why a run breaks off.
* `Imprint.Panic.message`, `Imprint.Panic.exitCode`: its text, and how a program ends on it.
-/

namespace Imprint

/-- Why a run breaks off. -/
inductive Panic where
  /-- The time at which a program is to be stopped is beyond the last second of the clock. -/
  | overflow
  /-- A random number is asked for between bounds that leave none. -/
  | emptyRange
  /-- A number that is beyond the greatest one, or an argument that is missing. -/
  | noValue
  /-- The remainder of the least integer by minus one. -/
  | remainder
  /-- Calls that are nested without end. No error is given for them; the run goes on until its stack
  is used up. -/
  | stackOverflow
  /-- A list that is made without end, until the memory is used up. -/
  | outOfMemory
  /-- Arithmetic on an expression that makes no number. -/
  | unreachable (shown : String)
  deriving DecidableEq, Repr

/-- The text of a panic. -/
def Panic.message : Panic → String
  | .overflow => "overflow when adding duration to instant"
  | .emptyRange => "cannot sample empty range"
  | .noValue => "called \x60Option::unwrap()\x60 on a \x60None\x60 value"
  | .remainder => "attempt to calculate the remainder with overflow"
  | .stackOverflow => "thread 'main' has overflowed its stack"
  | .outOfMemory => "memory allocation failed"
  | .unreachable shown =>
    s!"internal error: entered unreachable code: unimplemented math expression for {shown}"

/-- The code with which a program ends on a panic. One that is killed ends with the code that a
shell shows for it. -/
def Panic.exitCode : Panic → Nat
  | .stackOverflow | .outOfMemory => 134
  | _ => 101

end Imprint
