import Imprint.Formatting.Formatter
import Imprint.Output.Target

/-!
# Writing an output by way of a staging file

A single output is first written beside its final path, formatted into a second file, and then moved
to its final path: the formatted file when formatting went well, else the file as it was written.
So the final path only ever shows a complete output.

The work is cut into phases, each of which does one thing to the store. Two staged outputs can be
written side by side, a phase of one between two phases of the other.

## Main definitions

* `Imprint.Output.Staged`: what is to be written, and where.
* `Imprint.Output.Failure`: why it was not written.
* `Imprint.Output.Phase`, `Imprint.Output.Staged.step`: the phases of the work.
* `Imprint.Output.Staged.finish`: the rest of the work from a phase on.
* `Imprint.Output.writeStaged`: the whole work.

## Main results

* `Imprint.Output.Staged.rank_step`: the work ends.
-/

namespace Imprint.Output

open Session Formatting

/-- What is to be written, and where. -/
structure Staged where
  final : Path
  content : List Char
  /-- Where the output is written first. -/
  staging : Path
  /-- Where the formatter leaves its result. -/
  result : Path
  formatter : Config.Formatter

/-- The output at `final`, whose staging file has the text `front` before its name. -/
def Staged.ofFinal (final : Path) (content : List Char) (front : String)
    (formatter : Config.Formatter) : Staged :=
  let staging := OutputName.staging final front
  ⟨final, content, staging, OutputName.formatted staging, formatter⟩

/-- Why an output was not written. -/
inductive Failure where
  | file (e : FileError)
  /-- The run broke off; nothing is cleaned up. -/
  | panic (why : Panic)
  deriving DecidableEq, Repr

/-- What is to be done next. -/
inductive Phase where
  /-- Make the directories. -/
  | parents
  /-- Write the staging file. -/
  | stage
  /-- Make the file for the result of the formatter. -/
  | openResult
  /-- Let the formatter fill that file. -/
  | fillResult
  /-- Move one of the two files to the final path. -/
  | promote (status : Status)
  /-- Remove the other. -/
  | clean (status : Status)
  /-- Remove the staging file after a failure. -/
  | dropStaging (error : FileError)
  /-- Remove the file for the result after a failure. -/
  | dropResult (error : FileError)
  /-- Nothing. -/
  | done (outcome : Except Failure Status)

/-- The greatest number of phases that can follow. -/
def Phase.rank : Phase → Nat
  | .parents => 7
  | .stage => 6
  | .openResult => 5
  | .fillResult => 4
  | .promote _ => 3
  | .clean _ => 1
  | .dropStaging _ => 2
  | .dropResult _ => 1
  | .done _ => 0

namespace Staged

/-- The file that is moved to the final path, and the one that is left over. -/
def choice (w : Staged) (status : Status) : Path × Path :=
  if status.isFormatted then (w.result, w.staging) else (w.staging, w.result)

variable (programs : Programs) (w : Staged)

/-- An action that decides how the work goes on. -/
def afterwards (a : Action FileError Unit) (next : Phase) (failed : FileError → Phase) :
    Work Phase := do
  match ← a.run with
  | .ok () => return next
  | .error e => return failed e

/-- One phase of the work, and what is to be done next. -/
def step : Phase → Work Phase
  | .parents => afterwards (makeParents w.final) .stage (.done <| .error <| .file ·)
  | .stage =>
    let bytes := (String.ofList w.content).toUTF8
    afterwards (change w.staging (·.write w.staging bytes)) .openResult (.done <| .error <| .file ·)
  | .openResult => do
    match ← Formatting.openResult w.formatter w.result with
    | some why => return .promote (.skipped why)
    | none => return .fillResult
  | .fillResult => do
    match ← (Formatting.fillResult programs w.formatter w.staging w.result).run with
    | .ok status => return .promote status
    | .error why => return .done (.error (.panic why))
  | .promote status =>
    let move := Store.attempt (·.rename (w.choice status).1 w.final)
    afterwards (change w.final move) (.clean status) .dropStaging
  | .clean status => do
    removeLeftover (w.choice status).2
    report ⟨.info, .output, s!"wrote: {w.final.text} ({status.text})"⟩
    return .done (.ok status)
  | .dropStaging e => do
    removeLeftover w.staging
    return .dropResult e
  | .dropResult e => do
    removeLeftover w.result
    return .done (.error (.file e))
  | .done outcome => return .done outcome

theorem rank_afterwards {a : Action FileError Unit} {next : Phase} {failed : FileError → Phase}
    {n : Nat} (h : next.rank ≤ n) (h' : ∀ e, (failed e).rank ≤ n) (s : Session) :
    ((afterwards a next failed).run s).1.rank ≤ n := by
  simp only [afterwards, StateT.run_bind]
  rcases (StateT.run (ExceptT.run a) s) with ⟨r, t⟩
  cases r with
  | ok u => exact h
  | error e => exact h' e

theorem rank_step (p : Phase) (s : Session) :
    ((w.step programs p).run s).1.rank ≤ p.rank - 1 := by
  cases p with
  | parents => exact rank_afterwards (by simp [Phase.rank]) (by simp [Phase.rank]) s
  | stage => exact rank_afterwards (by simp [Phase.rank]) (by simp [Phase.rank]) s
  | openResult =>
    simp only [step, StateT.run_bind]
    rcases (StateT.run (Formatting.openResult w.formatter w.result) s) with ⟨r, t⟩
    cases r with
    | none => exact Nat.le_refl _
    | some why => exact Nat.le_succ _
  | fillResult =>
    simp only [step, StateT.run_bind]
    rcases (StateT.run (ExceptT.run
      (Formatting.fillResult programs w.formatter w.staging w.result)) s) with ⟨r, t⟩
    cases r with
    | ok status => exact Nat.le_refl _
    | error why => exact Nat.zero_le _
  | promote status => exact rank_afterwards (by simp [Phase.rank]) (by simp [Phase.rank]) s
  | clean status => exact Nat.le_refl _
  | dropStaging e => exact Nat.le_refl _
  | dropResult e => exact Nat.le_refl _
  | done outcome => exact Nat.le_refl _

/-- The rest of the work from a phase on, which takes at most `n` phases. -/
def finish : (n : Nat) → (p : Phase) → p.rank ≤ n → Session → Except Failure Status × Session
  | _, .done outcome, _, s => (outcome, s)
  | n + 1, p, h, s =>
    finish n ((w.step programs p).run s).1
      (Nat.le_trans (w.rank_step programs p s) (by omega)) ((w.step programs p).run s).2

end Staged

/-- Writes an output by way of a staging file. -/
def writeStaged (programs : Programs) (w : Staged) : Action Failure Status :=
  ExceptT.mk fun s => w.finish programs 7 .parents (Nat.le_refl _) s

end Imprint.Output
