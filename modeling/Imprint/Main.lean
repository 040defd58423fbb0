import Imprint.CommandLine.Inputs
import Imprint.Shell.Run
import Imprint.Store.Changes

/-!
# The program

The outermost layer: it reads the files that a call can depend on into a store, lets the call work
on the store, and writes what has changed. The only formatters are the programs of
`Imprint.Shell.programs`.

What surrounds a call is asked for once, before it works: the environment, the time, to the second
and in universal time, and a seed for what is drawn at random.
-/

namespace Imprint

/-! ### What surrounds a call -/

/-- Year, month and day, so many days after the beginning of 1970. Years are counted from March on
and in cycles of 400. -/
def date (days : Nat) : Nat × Nat × Nat :=
  let day := (days + 719468) % 146097
  let year := (day - day / 1460 + day / 36524 - day / 146096) / 365
  let day := day - (365 * year + year / 4 - year / 100)
  let month := (5 * day + 2) / 153
  let year := year + 400 * ((days + 719468) / 146097)
  let day := day - (153 * month + 2) / 5 + 1
  if month < 10 then (year, month + 3, day) else (year + 1, month - 9, day)

example : date 0 = (1970, 1, 1) := by decide

example : date 19782 = (2024, 2, 29) := by decide

/-- A number with at least so many digits. -/
def padded (width n : Nat) : String :=
  let digits := toString n
  String.ofList (List.replicate (width - digits.length) '0') ++ digits

/-- The moment so many seconds after the beginning of 1970. -/
def momentAt (seconds : Nat) : Template.Moment :=
  let (year, month, day) := date (seconds / 86400)
  let hour := seconds / 3600 % 24
  let written := s!"{padded 4 year}-{padded 2 month}-{padded 2 day}T" ++
    s!"{padded 2 hour}:{padded 2 (seconds / 60 % 60)}:{padded 2 (seconds % 60)}+00:00"
  ⟨seconds, written, written⟩

/-- What the system tells in a file, nothing when there is no such file. -/
def told (name : String) : IO String := do
  try IO.FS.readFile name catch _ => return ""

/-- The number of seconds since the beginning of 1970: those until the system was started, and those
since then. -/
def currentSeconds : IO Nat := do
  let started := (← told "/proc/stat").splitOn "\n" |>.findSome? fun line =>
    match line.splitOn " " with
    | ["btime", seconds] => seconds.toNat?
    | _ => none
  let running := ((← told "/proc/uptime").splitOn ".").head?.bind String.toNat?
  return started.getD 0 + running.getD 0

/-- The variables of the environment with their values. -/
def environment : IO (List (String × String)) := do
  return (← told "/proc/self/environ").splitOn "\x00" |>.filterMap fun entry =>
    match entry.splitOn "=" with
    | name :: value => some (name, String.intercalate "=" value)
    | [] => none

/-- What surrounds the rendering for each directive. -/
def surroundings : IO (Nat → Template.Surroundings) := do
  let known ← environment
  let moment := momentAt (← currentSeconds)
  let seed := hash (← IO.getRandomBytes 8)
  return fun directive => {
    environment := fun name => List.lookup name known
    clock := fun _ => moment
    draw := fun n => (mixHash seed (hash (directive, n))).toNat }

/-! ### The store and the disk -/

/-- The location of the working directory. -/
def workingDirectory : IO Location := do
  return (Path.segments ⟨(← IO.currentDir).toString⟩).filterMap fun segment =>
    if segment.isEmpty then none else some (String.ofList segment)

/-- The store with the entry at a path as it stands. -/
def fetch (s : Store) (p : Path) : IO Store := do
  try
    let content ← IO.FS.readBinFile p.text
    let s := (s.makeDirectories (p.parent?.getD ⟨""⟩)).2
    return (s.write p content).2
  catch
    | .inappropriateType .. => return (s.makeDirectories p).2
    | _ => return s

/-- The store with all entries that a call can depend on; `known` are the paths already looked
at. -/
partial def gather (o : CommandLine.Options) (known : List Path) (s : Store) : IO Store := do
  match ((CommandLine.inputs o s).filter (!known.contains ·)).eraseDups with
  | [] => return s
  | paths => gather o (paths ++ known) (← paths.foldlM fetch s)

/-- Brings one change of the store to the disk. -/
def apply (change : Location × Option Store.Entry) : IO Unit := do
  let name := "/" ++ String.intercalate "/" change.1
  match change.2 with
  | some .directory => IO.FS.createDirAll name
  | some (.file content) => IO.FS.writeBinFile name content
  | none => IO.FS.removeFile name

/-- Whether a change makes a directory. -/
def makesDirectory (change : Location × Option Store.Entry) : Bool :=
  change.2 matches some .directory

/-- Brings the changes of a store to the disk, directories first. -/
def applyAll (changes : List (Location × Option Store.Entry)) : IO Unit := do
  changes.filter makesDirectory |>.forM apply
  changes.filter (!makesDirectory ·) |>.forM apply

end Imprint

open Imprint in
/-- A call of the program. -/
def main (args : List String) : IO UInt32 := do
  let around ← surroundings
  let empty : Store := { site := { cwd := ← workingDirectory } }
  let before ← match CommandLine.Options.read args with
    | .ok o => gather o [] empty
    | .error _ => pure empty
  let (result, after) := CommandLine.run Shell.programs around (← IO.getEnv "RUST_LOG") args before
  applyAll (before.changes after)
  for event in result.log do
    IO.eprintln event.terminalLine
  IO.print result.output
  if let some text := result.error then
    IO.eprintln text
  return result.exitCode.toUInt32
