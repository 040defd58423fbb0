import Imprint.Formatting.Program

/-!
# The status of an output

An output has been formatted, or formatting was skipped for a reason. A formatter that fails is such
a reason, never an error of the run.

## Main definitions

* `Imprint.Formatting.Skip`: why formatting was skipped.
* `Imprint.Formatting.Status`: formatted or skipped.
-/

namespace Imprint.Formatting

/-- Why formatting was skipped. -/
inductive Skip where
  | disabled
  /-- The file for the result cannot be made. -/
  | noFile (path : Path) (fault : Store.Fault)
  /-- The messages of the program cannot be kept. -/
  | unheard (program : String) (fault : Store.Fault)
  /-- The program cannot be started. -/
  | notStarted (program : String) (fault : Store.Fault)
  /-- The program was stopped after some seconds. -/
  | timedOut (program : String) (seconds : Nat)
  /-- There is no telling whether the program has ended. -/
  | unwatched (program : String) (fault : Store.Fault)
  /-- The program failed and left a message, which may be empty. -/
  | failed (program : String) (ending : Ending) (message : String)
  /-- The program wrote nothing for a file that is not empty. -/
  | noOutput (program : String)
  deriving DecidableEq, Repr

/-- The reason as a text. -/
def Skip.reason : Skip → String
  | .disabled => "formatting disabled"
  | .noFile path fault => s!"cannot create {path.text}: {fault.message}"
  | .unheard program fault => s!"cannot capture stderr of `{program}`: {fault.message}"
  | .notStarted program fault => s!"could not start `{program}`: {fault.message}"
  | .timedOut program seconds => s!"`{program}` timed out after {seconds}s"
  | .unwatched program fault => s!"waiting on `{program}` failed: {fault.message}"
  | .failed program ending message =>
    if message.isEmpty then s!"`{program}` exited with {ending.text}"
    else s!"`{program}` exited with {ending.text}: {message}"
  | .noOutput program => s!"`{program}` produced no output"

/-- Whether an output has been formatted. -/
inductive Status where
  | formatted
  | skipped (why : Skip)
  deriving DecidableEq, Repr

/-- Whether an output has been formatted. -/
def Status.isFormatted : Status → Bool
  | .formatted => true
  | .skipped _ => false

/-- Why formatting was skipped, if it was. -/
def Status.skip? : Status → Option Skip
  | .formatted => none
  | .skipped why => some why

/-- The text of a status. -/
def Status.text : Status → String
  | .formatted => "formatted"
  | .skipped why => s!"format skipped: {why.reason}"

end Imprint.Formatting
