import Imprint.Formatting.Program
import Imprint.Shell.Command

/-!
# The state of a running script

A script runs with a file store, open files, variables and arguments. Its streams are open files:
a place that is read or written, with a position. An open file that is removed or replaced can no
longer be found in the store; what is written to it is lost.

Time passes only by waiting. A script is stopped when its time is over.

## Main definitions

* `Imprint.Shell.OpenFile`, `Imprint.Shell.Machine`: the state.
* `Imprint.Shell.Machine.value`: the value of a parameter.
* `Imprint.Shell.Stop`, `Imprint.Shell.Act`: work of a script, which can end at any point.
* `Imprint.Shell.write`, `Imprint.Shell.readAll`, `Imprint.Shell.readLine`: work on streams.
* `Imprint.Shell.removeFile`, `Imprint.Shell.moveFile`, `Imprint.Shell.content`: work on the store.
-/

namespace Imprint.Shell

open Formatting

/-- Where the bytes of an open file are. -/
inductive Backing where
  | memory (content : ByteArray)
  | stored (location : Location)
  /-- Nowhere: it has been removed or replaced, or is not wanted. -/
  | lost

/-- An open file with the position of the next reading or writing. -/
structure OpenFile where
  backing : Backing
  position : Nat := 0
  /-- Whether writing always adds at the end. -/
  append : Bool := false

/-- The streams of a command, as numbers of open files. -/
structure Streams where
  input : Nat
  output : Nat
  errors : Nat
  deriving DecidableEq, Repr

/-- The state of a running script. -/
structure Machine where
  store : Store
  files : List OpenFile
  values : List (String × String) := []
  /-- The name of the script. -/
  name : String := "sh"
  arguments : List String := []
  /-- The line of the last simple command. -/
  line : Nat := 1
  /-- How the last command ended. -/
  status : Nat := 0
  /-- The number of repetitions that are under way. -/
  loops : Nat := 0
  /-- The milliseconds that are left. -/
  time : Nat

/-- Why work of a script stops. -/
inductive Stop where
  /-- The script ends. -/
  | ended (e : Ending)
  /-- The time of the script is over. -/
  | timedOut
  /-- A repetition ends that has the given number of repetitions inside. -/
  | leave (inner : Nat)
  /-- A repetition goes on that has the given number of repetitions inside. -/
  | resume (inner : Nat)
  deriving DecidableEq, Repr

/-- Work of a script. -/
abbrev Act (α : Type) := ExceptT Stop (StateM Machine) α

/-! ### Values -/

/-- The number that a process is known by. -/
def processNumber : Nat := 4242

/-- The value of a parameter that is a single text, when it has one. -/
def Machine.value? (m : Machine) (name : String) : Option String :=
  if name = "?" then some (toString m.status)
  else if name = "#" then some (toString m.arguments.length)
  else if name = "$" then some (toString processNumber)
  else if name = "@" || name = "*" then
    if m.arguments.isEmpty then none else some (String.intercalate " " m.arguments)
  else match name.toNat? with
    | some 0 => some m.name
    | some (n + 1) => m.arguments[n]?
    | none => m.values.lookup name

/-- The value of a parameter that is a single text; without one it is empty. -/
def Machine.value (m : Machine) (name : String) : String :=
  (m.value? name).getD ""

/-- The state in which a variable has a value. -/
def Machine.assign (m : Machine) (name value : String) : Machine :=
  { m with values := (name, value) :: m.values.filter (·.1 != name) }

/-! ### Bytes -/

/-- The greatest part of `n` bytes at the end is cut off, or zeros are added. -/
def fit (content : ByteArray) (n : Nat) : ByteArray :=
  if n ≤ content.size then content.extract 0 n
  else content ++ ⟨Array.replicate (n - content.size) 0⟩

/-- Bytes with other bytes written over them from a position on. -/
def overwrite (content : ByteArray) (position : Nat) (bytes : ByteArray) : ByteArray :=
  fit content position ++ bytes ++ content.extract (position + bytes.size) content.size

/-- The bytes of a file of a store. -/
def contentAt (s : Store) (l : Location) : ByteArray :=
  match s.get? l with
  | some (.file content) => content
  | _ => .empty

/-! ### Streams -/

/-- Adds an open file and gives its number. -/
def openFile (f : OpenFile) : Act Nat := do
  let m ← get
  set { m with files := m.files ++ [f] }
  return m.files.length

/-- The open file with a number. -/
def openFile? (n : Nat) : Act (Option OpenFile) :=
  return (← get).files[n]?

/-- Replaces the open file with a number. -/
def setFile (n : Nat) (f : OpenFile) : Act Unit :=
  modify fun m => { m with files := m.files.set n f }

/-- Writes to a stream. -/
def write (n : Nat) (bytes : ByteArray) : Act Unit := do
  match ← openFile? n with
  | some ⟨.memory content, position, append⟩ =>
    setFile n ⟨.memory (content ++ bytes), position, append⟩
  | some ⟨.stored l, position, append⟩ =>
    let m ← get
    let content := contentAt m.store l
    let position := if append then content.size else position
    set { m with store := m.store.insert l (.file (overwrite content position bytes)) }
    setFile n ⟨.stored l, position + bytes.size, append⟩
  | _ => return ()

/-- Writes a text to a stream. -/
def writeText (n : Nat) (text : String) : Act Unit :=
  write n text.toUTF8

/-- What is left to read from a stream. -/
def remaining (n : Nat) : Act ByteArray := do
  match ← openFile? n with
  | some ⟨.memory content, position, _⟩ => return content.extract position content.size
  | some ⟨.stored l, position, _⟩ =>
    let content := contentAt (← get).store l
    return content.extract position content.size
  | _ => return .empty

/-- Moves the position of a stream forward. -/
def moveOn (n count : Nat) : Act Unit := do
  match ← openFile? n with
  | some f => setFile n { f with position := f.position + count }
  | none => return ()

/-- Reads all that is left of a stream. -/
def readAll (n : Nat) : Act ByteArray := do
  let bytes ← remaining n
  moveOn n bytes.size
  return bytes

/-- Reads a line from a stream; the second result tells whether it has an end. -/
def readLine (n : Nat) : Act (List UInt8 × Bool) := do
  let bytes := (← remaining n).toList
  let line := bytes.takeWhile (· != 10)
  let ended := line.length < bytes.length
  moveOn n (line.length + if ended then 1 else 0)
  return (line, ended)

/-! ### The store -/

/-- The open files are cut off from the file at a location. -/
def detach (l : Location) : Act Unit :=
  modify fun m =>
    { m with files := m.files.map fun f =>
        match f.backing with
        | .stored k => if k = l then { f with backing := .lost } else f
        | _ => f }

/-- Removes the file at a path. -/
def removeFile (p : Path) : Act (Option Store.Fault) := do
  let m ← get
  match m.store.remove p with
  | .ok t =>
    if let .ok ⟨l, _⟩ := m.store.find p then detach l
    modify ({ · with store := t })
    return none
  | .error fault => return some fault

/-- Removes a directory with all that is in it. -/
def removeTree (l : Location) : Act Unit := do
  let below := (← get).store.entries.filterMap fun (k, _) => if l <+: k then some k else none
  below.forM fun k => do
    detach k
    modify fun m => { m with store := m.store.erase k }

/-- Moves a file. -/
def moveFile (p q : Path) : Act (Option Store.Fault) := do
  let m ← get
  match m.store.rename p q with
  | .ok t =>
    if let .ok ⟨l, _⟩ := m.store.find q then detach l
    if let .ok ⟨l, _⟩ := m.store.find p then detach l
    modify ({ · with store := t })
    return none
  | .error fault => return some fault

/-- A path at which nothing is read and what is written is lost. -/
def isNowhere (p : Path) : Bool :=
  p.text == "/dev/null"

/-- Opens a file for writing, which is made, and emptied unless it is to be added to. -/
def openForWriting (p : Path) (append : Bool) : Act (Except Store.Fault Nat) := do
  let m ← get
  if isNowhere p then return .ok (← openFile ⟨.lost, 0, false⟩)
  match m.store.writeLocation p with
  | .error fault => return .error fault
  | .ok l =>
    let content := if append then contentAt m.store l else .empty
    set { m with store := m.store.insert l (.file content) }
    return .ok (← openFile ⟨.stored l, 0, append⟩)

/-- Opens a file for reading. -/
def openForReading (p : Path) : Act (Except Store.Fault Nat) := do
  if isNowhere p then return .ok (← openFile ⟨.lost, 0, false⟩)
  match (← get).store.find p with
  | .error fault => return .error fault
  | .ok ⟨l, .file _⟩ => return .ok (← openFile ⟨.stored l, 0, false⟩)
  | .ok _ => return .ok (← openFile ⟨.lost, 0, false⟩)

/-- The bytes of the file at a path. -/
def content (p : Path) : Act (Except Store.Fault ByteArray) := do
  if isNowhere p then return .ok .empty
  else return (← get).store.read p

/-! ### Time -/

/-- Waits for some milliseconds. -/
def wait (milliseconds : Nat) : Act Unit := do
  let m ← get
  if m.time ≤ milliseconds then
    set { m with time := 0 }
    throw .timedOut
  else set { m with time := m.time - milliseconds }

end Imprint.Shell
