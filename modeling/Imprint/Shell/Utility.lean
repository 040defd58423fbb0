import Imprint.Shell.Print

/-!
# Utilities

A utility is a small program that scripts use. It reads its arguments and streams and gives
a number, which is zero when all went well.

Options are arguments that start with a dash; they may stand anywhere in front of a double dash.

## Main definitions

* `Imprint.Shell.Utility`: a utility.
* `Imprint.Shell.complain`, `Imprint.Shell.report`: the messages of utilities and of the shell.
* `Imprint.Shell.withOptions`: a utility that knows some options.
-/

namespace Imprint.Shell

/-- A utility: from arguments and streams to a number. -/
abbrev Utility := List String → Streams → Act Nat

/-! ### Messages -/

/-- The text of a fault without its number. -/
def faultText : Store.Fault → String
  | .notFound => "No such file or directory"
  | .deviceError => "Input/output error"
  | .notPermitted => "Permission denied"
  | .busy => "Device or resource busy"
  | .alreadyThere => "File exists"
  | .notDirectory => "Not a directory"
  | .isDirectory => "Is a directory"
  | .fileTooLarge => "File too large"
  | .noSpace => "No space left on device"
  | .nameTooLong => "File name too long"
  | .nulInPath => "Invalid argument"
  | .nulInWord => "Invalid argument"
  | .notText => "Invalid argument"

/-- Leaves a message. -/
def complain (st : Streams) (message : String) : Act Unit :=
  writeText st.errors (message ++ "\n")

/-- Leaves a message of the shell itself, which says where the script is. -/
def report (st : Streams) (message : String) : Act Unit := do
  let m ← get
  complain st s!"{m.name}: {m.line}: {message}"

/-- A text in the quotes that it needs: single ones, or double ones around a single one. -/
def quoted (s : String) : String :=
  if s.toList.contains '\'' then "\"" ++ s ++ "\"" else "'" ++ s ++ "'"

/-- A character that has no meaning to the shell. -/
def isOrdinary (c : Char) : Bool :=
  c.isAlphanum || 0x80 ≤ c.toNat || ['-', '_', '.', '/', ',', ':', '@', '%', '+'].contains c

/-- A text in quotes, but only when it holds characters with a meaning. -/
def quotedIfNeeded (s : String) : String :=
  if !s.isEmpty && s.toList.all isOrdinary then s else quoted s

/-! ### Arguments -/

/-- The options and the other arguments. -/
def splitOptions (args : List String) : List String × List String :=
  let isOption := fun (a : String) => a.length > 1 && a.startsWith "-"
  let front := args.takeWhile (· != "--")
  (front.filter isOption, front.filter (!isOption ·) ++ (args.drop front.length).tail)

/-- The message about an option that a utility does not know, if there is one. -/
def unknownOption? (known : List Char) (given : List String) : Option String :=
  given.findSome? fun o =>
    if o.startsWith "--" then some s!"unrecognized option {quoted o}"
    else (o.toList.tail.find? (!known.contains ·)).map fun c =>
      "invalid option -- " ++ quoted (String.singleton c)

/-- Refuses the arguments of the utility with a name. -/
def refuse (name message : String) (st : Streams) : Act Nat := do
  complain st s!"{name}: {message}"
  complain st ("Try " ++ quoted (name ++ " --help") ++ " for more information.")
  return 1

/-- A utility that knows some options; it gets their letters. -/
def withOptions (name : String) (known : List Char) (u : List Char → Utility) : Utility :=
  fun args st => do
    let (given, rest) := splitOptions args
    match unknownOption? known given with
    | some message => refuse name message st
    | none => u (given.flatMap (·.toList.tail)) rest st

/-- The greatest of the numbers that a utility gives for each of some things. -/
def worst {α : Type} (xs : List α) (f : α → Act Nat) : Act Nat :=
  xs.foldlM (fun n x => do return max n (← f x)) 0

/-! ### Nothing -/

/-- Does nothing and succeeds. -/
def succeed : Utility := fun _ _ => return 0

/-- Does nothing and fails. -/
def fail : Utility := fun _ _ => return 1

end Imprint.Shell
