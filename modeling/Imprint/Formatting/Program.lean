import Imprint.Panic
import Imprint.Store.Operations

/-!
# Programs as formatters see them

A formatter is a program of its own: it is started with arguments, does something to the file store,
may write to an output, and ends. What a program does is not known here; it is given as a function
from the way it is started and the store to what comes out.

Once a program runs, the time at which it is to be stopped is added up. A clock shows whole seconds
up to a last one, and the sum may lie beyond that: then the whole run breaks off.

## Main definitions

* `Imprint.Formatting.Invocation`: how a program is started.
* `Imprint.Formatting.Ending`, `Imprint.Formatting.Outcome`: what comes out.
* `Imprint.Formatting.Programs`, `Imprint.Formatting.Programs.start`: what all programs do.
-/

namespace Imprint.Formatting

/-- How a program is started. -/
structure Invocation where
  program : String
  args : List String
  /-- The file, already made, that takes what the program writes; otherwise it is dropped. -/
  output : Option Path
  /-- The number of seconds after which the program is stopped. -/
  timeout : Nat
  deriving DecidableEq, Repr

/-- How a program ends. -/
inductive Ending where
  | exit (code : Nat)
  | signal (number : Nat)
  deriving DecidableEq, Repr

/-- The names of the signals, from number one on. -/
def signalNames : List String :=
  ["SIGHUP", "SIGINT", "SIGQUIT", "SIGILL", "SIGTRAP", "SIGABRT", "SIGBUS", "SIGFPE", "SIGKILL",
    "SIGUSR1", "SIGSEGV", "SIGUSR2", "SIGPIPE", "SIGALRM", "SIGTERM", "SIGSTKFLT", "SIGCHLD",
    "SIGCONT", "SIGSTOP", "SIGTSTP", "SIGTTIN", "SIGTTOU", "SIGURG", "SIGXCPU", "SIGXFSZ",
    "SIGVTALRM", "SIGPROF", "SIGWINCH", "SIGIO", "SIGPWR", "SIGSYS"]

/-- The name of a signal. -/
def signalName? : Nat → Option String
  | 0 => none
  | n + 1 => signalNames[n]?

/-- The text of an ending. -/
def Ending.text : Ending → String
  | .exit code => s!"exit status: {code}"
  | .signal number =>
    match signalName? number with
    | some name => s!"signal: {number} ({name})"
    | none => s!"signal: {number}"

/-- Whether an ending means success. -/
def Ending.isSuccess (e : Ending) : Bool :=
  e == .exit 0

/-- What comes out of starting a program. -/
inductive Outcome where
  /-- There was no file for its messages, so it was not started. -/
  | unheard (fault : Store.Fault)
  /-- It could not be started. -/
  | notStarted (fault : Store.Fault)
  /-- It was stopped. -/
  | timedOut (after : Store)
  /-- It was stopped because there was no telling whether it had ended. -/
  | unwatched (fault : Store.Fault) (after : Store)
  /-- It ended by itself and left a message. -/
  | ended (ending : Ending) (message : ByteArray) (after : Store)

/-- The store after a program was started, or not. No program changes what surrounds it. -/
def Outcome.store (before : Store) : Outcome → Store
  | .unheard _ | .notStarted _ => before
  | .timedOut after | .unwatched _ after => { after with site := before.site }
  | .ended _ _ after => { after with site := before.site }

/-- Whether a program was started. -/
def Outcome.isStarted : Outcome → Bool
  | .unheard _ | .notStarted _ => false
  | _ => true

/-- What all programs do, and what the clock shows once a program was started. -/
structure Programs where
  run : Invocation → Store → Outcome
  /-- In seconds. -/
  clock : Invocation → Store → Nat := fun _ _ => 0

instance : CoeFun Programs fun _ => Invocation → Store → Outcome := ⟨Programs.run⟩

/-- The last second that a clock can show. -/
def lastSecond : Nat := Nat.pow 2 63 - 1

/-- Starts a program and adds up the time at which it is to be stopped. -/
def Programs.start (programs : Programs) (i : Invocation) (s : Store) :
    Except Panic Outcome × Store :=
  let o := programs i s
  let late := o.isStarted && decide (lastSecond < programs.clock i s + i.timeout)
  (if late then .error .overflow else .ok o, o.store s)

end Imprint.Formatting
