import Imprint.Config.Basic
import Imprint.Formatting.Status
import Imprint.Session
import Imprint.Text.Blank

/-!
# Running the formatter

The formatter either formats a file in place, or reads one file and writes its result to another.
Whatever goes wrong with the program, formatting is skipped and the work goes on.

## Main definitions

* `Imprint.Formatting.excerpt`: what is shown of a message that a program left.
* `Imprint.Formatting.invoke`: starts the formatter and looks at what came out.
* `Imprint.Formatting.formatInPlace`, `Imprint.Formatting.formatTo`: the two ways to format.
-/

namespace Imprint.Formatting

open Session

/-- The greatest number of characters that are shown of a message. -/
def excerptLength : Nat := 200

/-- What is shown of a message: its first characters, without the blanks around it. A message that
is no text is not shown. -/
def excerpt (message : ByteArray) : String :=
  match String.fromUTF8? message with
  | some s => String.ofList ((Text.trim s.toList).take excerptLength)
  | none => ""

/-- Why an outcome does not count as formatted, if it does not. -/
def Outcome.skip? (f : Config.Formatter) : Outcome → Option Skip
  | .unheard fault => some (.unheard f.program fault)
  | .notStarted fault => some (.notStarted f.program fault)
  | .timedOut _ => some (.timedOut f.program f.timeout)
  | .unwatched fault _ => some (.unwatched f.program fault)
  | .ended ending message _ =>
    if ending.isSuccess then none else some (.failed f.program ending (excerpt message))

variable (programs : Programs) (f : Config.Formatter)

/-- What is logged when the formatter is to be started. -/
def startEvents (args : List String) : Except Panic Outcome → List Log.Event
  | .ok (.unheard _) => []
  | _ => [⟨.debug, .formatter, s!"running `{f.program}` with {args.length} argument(s)"⟩]

/-- Starts the formatter and tells why that does not count as formatted, if it does not. -/
def invoke (args : List String) (output : Option Path) : Action Panic (Option Skip) := do
  let (started, after) := programs.start ⟨f.program, args, output, f.timeout⟩ (← currentStore)
  reportAll (startEvents f args started)
  setStore after
  match started with
  | .ok outcome => return outcome.skip? f
  | .error panic => throw panic

/-- The arguments with which the formatter formats a file in place. -/
def inPlaceArgs (p : Path) : List String :=
  (if f.inPlaceFlag.isEmpty then [] else [f.inPlaceFlag]) ++ f.args ++ [p.text]

/-- Lets the formatter format a file in place. -/
def formatInPlace (p : Path) : Action Panic Status := do
  if !f.enabled then return .skipped .disabled
  match ← invoke programs f (inPlaceArgs f p) none with
  | some why => return .skipped why
  | none => return .formatted

/-- Makes the file for the result, or tells why formatting is skipped. -/
def openResult (output : Path) : Work (Option Skip) := do
  if !f.enabled then return some .disabled
  let (fault, t) := (← currentStore).write output .empty
  setStore t
  return fault.map (.noFile output ·)

/-- The number of bytes of a file; one that is not there counts as empty. -/
def sizeOrZero (s : Store) (p : Path) : Nat :=
  match s.size p with
  | .ok n => n
  | .error _ => 0

/-- Lets the formatter fill the file for the result. A result may not be empty unless the file that
was formatted is. -/
def fillResult (input output : Path) : Action Panic Status := do
  match ← invoke programs f (f.args ++ [input.text]) (some output) with
  | some why => return .skipped why
  | none =>
    let s ← currentStore
    if sizeOrZero s output = 0 ∧ 0 < sizeOrZero s input then
      return .skipped (.noOutput f.program)
    else return .formatted

/-- Formats one file into another, which may be left behind incomplete when formatting is
skipped. -/
def formatTo (input output : Path) : Action Panic Status := do
  match ← openResult f output with
  | some why => return .skipped why
  | none => fillResult programs f input output

end Imprint.Formatting
