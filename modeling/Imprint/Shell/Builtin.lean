import Imprint.Shell.Comparison
import Imprint.Shell.Files
import Imprint.Shell.Filter

/-!
# The utilities of the shell, and their names

Some utilities belong to the shell itself and can change its variables, leave a repetition or end
the script.

## Main definitions

* `Imprint.Shell.program?`: the utilities that are programs of their own.
* `Imprint.Shell.builtin?`: the utilities of the shell.
-/

namespace Imprint.Shell

open Formatting

/-! ### Waiting -/

/-- The milliseconds of a number of seconds, which may have a fraction. -/
def milliseconds? (s : String) : Option Nat :=
  let whole := s.toList.takeWhile (· != '.')
  let fraction := ((s.toList.dropWhile (· != '.')).drop 1).take 3
  if (whole ++ fraction).all Char.isDigit && !(whole ++ fraction).isEmpty then
    some (1000 * frontNumber whole +
      frontNumber fraction * Nat.pow 10 (3 - fraction.length))
  else none

/-- Waits. -/
def sleep : Utility := fun args st => do
  match args.find? fun a => (milliseconds? a).isNone with
  | some a => refuse "sleep" s!"invalid time interval {quoted a}" st
  | none =>
    if args.isEmpty then refuse "sleep" "missing operand" st
    else
      wait ((args.filterMap milliseconds?).foldl (· + ·) 0)
      return 0

/-! ### Signals -/

/-- The number of a signal that is given by its number or its name. -/
def signal? (s : String) : Option Nat :=
  match s.toNat? with
  | some n => some n
  | none =>
    let name := if s.startsWith "SIG" then s else "SIG" ++ s
    (signalNames.idxOf? name).map (· + 1)

/-- The signals that do not end a program. -/
def isHarmless (signal : Nat) : Bool :=
  signal == 0 || signal == 17 || signal == 18 || signal == 23 || signal == 28

/-- The signal and the processes that the arguments of `kill` name, or the message about them. -/
def killArguments (args : List String) : Except String (Nat × List String) :=
  match args with
  | "-s" :: s :: rest =>
    match signal? s with
    | some n => .ok (n, rest)
    | none => .error s!"invalid signal number or name: {s}"
  | a :: rest =>
    if a.startsWith "-" && a != "--" then
      match signal? (String.ofList a.toList.tail) with
      | some n => .ok (n, rest)
      | none => .error s!"Illegal option {a.take 2}"
    else .ok (15, args.filter (· != "--"))
  | [] => .ok (15, [])

/-- The message that says how `kill` is used. -/
def killUsage : String :=
  "Usage: kill [-s sigspec | -signum | -sigspec] [pid | job]... or\nkill -l [exitstatus]"

/-- Sends a signal to the script itself; other processes cannot be reached. -/
def kill : Utility := fun args st => do
  match killArguments args with
  | .error message =>
    report st s!"kill: {message}"
    return 2
  | .ok (_, []) =>
    report st s!"kill: {killUsage}"
    return 2
  | .ok (signal, processes) =>
    if processes.contains (toString processNumber) then
      if isHarmless signal then return 0
      throw (.ended (.signal signal))
    match processes.find? fun p => (integer? p).isNone with
    | some p =>
      report st s!"kill: Illegal number: {p}"
      return 2
    | none =>
      report st "kill: No such process\n"
      return 1

/-! ### Ending and repeating -/

/-- The script ends because it uses a utility in the wrong way. -/
def abort {α : Type} (st : Streams) (message : String) : Act α := do
  report st message
  throw (.ended (.exit 2))

/-- Ends the script. -/
def exit : Utility := fun args st => do
  match args with
  | [] => throw (.ended (.exit (← get).status))
  | n :: _ =>
    match n.toNat? with
    | some n => throw (.ended (.exit (n % 256)))
    | none => abort st s!"exit: Illegal number: {n}"

/-- Leaves some repetitions, or goes on with the outermost of them. -/
def leaveLoops (name : String) (stop : Nat → Stop) : Utility := fun args st => do
  match (args.head?.getD "1").toNat? with
  | some (n + 1) =>
    let around := (← get).loops
    if around = 0 then return 0
    throw (stop (min n (around - 1)))
  | _ => abort st (name ++ ": Illegal number: " ++ args.headD "")

/-! ### Variables -/

/-- The values of variables that a line is read into; the last takes all that is left. -/
def lineValues (s : List Char) : List String → List (String × String)
  | [] => []
  | [name] =>
    [(name, String.ofList ((s.dropWhile isSeparator).reverse.dropWhile isSeparator).reverse)]
  | name :: names =>
    let s := s.dropWhile isSeparator
    (name, String.ofList (s.takeWhile (!isSeparator ·))) ::
      lineValues (s.dropWhile (!isSeparator ·)) names

/-- Reads a line into variables. -/
def read : Utility := fun args st => do
  match (splitOptions args).2 with
  | [] =>
    report st "read: arg count"
    return 2
  | names =>
    let (bytes, ended) ← readLine st.input
    let text := (String.fromUTF8? ⟨bytes.toArray⟩).getD ""
    for (name, value) in lineValues text.toList names do
      modify (·.assign name value)
    return if ended then 0 else 1

/-- Drops arguments. -/
def shift : Utility := fun args st => do
  let m ← get
  match (args.head?.getD "1").toNat? with
  | some n =>
    if m.arguments.length < n then abort st "shift: can't shift that many"
    set { m with arguments := m.arguments.drop n }
    return 0
  | none => abort st ("shift: Illegal number: " ++ args.headD "")

/-- Replaces the arguments. -/
def replaceArguments : Utility := fun args _ => do
  if args.head? == some "--" then modify ({ · with arguments := args.tail })
  else if !(args.head?.any fun a => a.startsWith "-" || a.startsWith "+") && !args.isEmpty then
    modify ({ · with arguments := args })
  return 0

/-- Sets variables. -/
def setVariables : Utility := fun args _ => do
  for arg in args do
    match arg.splitOn "=" with
    | name :: value@(_ :: _) => modify (·.assign name (String.intercalate "=" value))
    | _ => pure ()
  return 0

/-- Removes variables. -/
def unset : Utility := fun args _ => do
  modify fun m => { m with values := m.values.filter fun (name, _) => !args.contains name }
  return 0

/-! ### Names -/

/-- The utilities that are programs of their own. -/
def program? (name : String) : Option Utility :=
  match name with
  | "echo" => some echo
  | "printf" => some printf
  | "cat" => some cat
  | "rm" => some rm
  | "cp" => some cp
  | "mv" => some mv
  | "touch" => some touch
  | "mkdir" => some mkdir
  | "ls" => some ls
  | "basename" => some basename
  | "dirname" => some dirname
  | "head" => some head
  | "wc" => some wc
  | "tr" => some tr
  | "test" => some test
  | "[" => some bracket
  | "sleep" => some sleep
  | "true" => some succeed
  | "false" => some fail
  | _ => none

/-- The utilities of the shell, which come before programs of the same name. -/
def builtin? (name : String) : Option Utility :=
  match name with
  | "echo" => some echoEscaped
  | ":" => some succeed
  | "wait" => some succeed
  | "exit" => some exit
  | "break" => some (leaveLoops "break" .leave)
  | "continue" => some (leaveLoops "continue" .resume)
  | "kill" => some kill
  | "read" => some read
  | "shift" => some shift
  | "set" => some replaceArguments
  | "export" => some setVariables
  | "unset" => some unset
  | _ => none

/-- The directories that hold programs. -/
def programDirectories : List String :=
  ["/bin/", "/usr/bin/"]

/-- The name of the program that a path leads to. -/
def programName (path : String) : String :=
  match programDirectories.find? (fun d => path.startsWith d) with
  | some d =>
    let name := String.ofList (path.toList.drop d.length)
    if name.toList.contains '/' then path else name
  | none => path

end Imprint.Shell
