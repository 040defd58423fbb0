import Imprint.Shell.Builtin
import Imprint.Shell.Script

/-!
# Running scripts

A command is run with three streams and leaves the number of its last utility. The number of steps
is bounded; a script that needs more counts as one that does not end in time.

## Main definitions

* `Imprint.Shell.run`: runs a command.
* `Imprint.Shell.shell`: the shell as a utility.
* `Imprint.Shell.programs`: the programs that can be started, the shell among them.
-/

namespace Imprint.Shell

open Formatting

/-- Sets the number that a command leaves. -/
def setStatus (n : Nat) : Act Unit :=
  modify ({ · with status := n })

/-! ### Streams -/

/-- How the shell names a fault in making a file. -/
def creationText : Store.Fault → String
  | .notFound => "Directory nonexistent"
  | fault => faultText fault

/-- How the shell names a fault in opening a file. -/
def openingText : Store.Fault → String
  | .notFound => "No such file"
  | fault => faultText fault

/-- The open file of a stream. -/
def Streams.get (st : Streams) : Nat → Nat
  | 0 => st.input
  | 1 => st.output
  | _ => st.errors

/-- The streams with another open file for one of them. -/
def Streams.set (st : Streams) (stream file : Nat) : Streams :=
  match stream with
  | 0 => { st with input := file }
  | 1 => { st with output := file }
  | _ => { st with errors := file }

/-- The stream that a path stands for. -/
def streamAt? (path : String) : Option Nat :=
  match path with
  | "/dev/stdin" => some 0
  | "/dev/stdout" => some 1
  | "/dev/stderr" => some 2
  | _ => none

/-- The streams after a redirection to a target; none when a file cannot be opened. -/
def redirect (st : Streams) (r : Redirection) (target : String) : Act (Option Streams) := do
  match r.direction, streamAt? target with
  | .same, _ =>
    match target.toNat? with
    | some n => return some (st.set r.stream (st.get n))
    | none => return some (st.set r.stream (← openFile ⟨.lost, 0, false⟩))
  | _, some n => return some (st.set r.stream (st.get n))
  | .read, none =>
    match ← openForReading ⟨target⟩ with
    | .ok n => return some (st.set r.stream n)
    | .error fault =>
      report st s!"cannot open {target}: {openingText fault}"
      return none
  | direction, none =>
    match ← openForWriting ⟨target⟩ (direction == .append) with
    | .ok n => return some (st.set r.stream n)
    | .error fault =>
      report st s!"cannot create {target}: {creationText fault}"
      return none

/-! ### Parts of a script -/

/-- Work whose end does not end the script, and whose changes to variables are forgotten. -/
def contained (a : Act Unit) : Act Unit := do
  let before ← get
  tryCatch a fun
    | .ended (.exit n) => setStatus n
    | .leave _ | .resume _ => return ()
    | stop => throw stop
  modify fun m =>
    { m with values := before.values, arguments := before.arguments, loops := before.loops }

/-- Work that takes no time and does not end the script. -/
def unattended (a : Act Unit) : Act Unit := do
  let time := (← get).time
  tryCatch (contained a) fun _ => return ()
  modify ({ · with time })
  setStatus 0

/-- A round of a repetition; the result tells whether there may be another one. -/
def round (a : Act Bool) : Act Bool := do
  let around := (← get).loops
  modify ({ · with loops := around + 1 })
  let goesOn ← tryCatch a fun
    | .leave 0 => do
      setStatus 0
      return false
    | .resume 0 => do
      setStatus 0
      return true
    | .leave (n + 1) => throw (.leave n)
    | .resume (n + 1) => throw (.resume n)
    | stop => throw stop
  modify ({ · with loops := around })
  return goesOn

/-- The text that some bytes are when they are printed into a word. -/
def printedText (bytes : ByteArray) : String :=
  let text := (String.fromUTF8? ⟨(bytes.toList.filter (· != 0)).toArray⟩).getD ""
  String.ofList (text.toList.reverse.dropWhile (· == '\n')).reverse

/-- The message that demands the value of a parameter. -/
def demandText (name : String) (orEmpty : Bool) (message : String) : String :=
  if !message.isEmpty then s!"{name}: {message}"
  else if orEmpty then s!"{name}: parameter not set or null"
  else s!"{name}: parameter not set"

/-- Why no program can be found under a name, and the number that this leaves. -/
def missingProgram (s : Store) (name : String) : String × Nat :=
  let isThere := s.isFile ⟨name⟩ || s.isDirectory ⟨name⟩
  if name.toList.contains '/' && isThere then (s!"{name}: Permission denied", 126)
  else (s!"{name}: not found", 127)

/-- The greatest number of steps of a script. -/
def maxSteps : Nat := 20000

/-- What the arguments of the shell ask for: a script that is given, with its name and arguments, or
one in a file. -/
inductive Task where
  | given (script : String) (name : Option String) (args : List String)
  | inFile (path : String) (args : List String)
  | idle

/-- The task that arguments of the shell stand for. -/
def Task.ofArgs : List String → Task
  | [] => .idle
  | "-c" :: script :: [] => .given script none []
  | "-c" :: script :: name :: args => .given script (some name) args
  | "--" :: path :: args => .inFile path args
  | arg :: rest =>
    if arg.startsWith "-" && arg.length > 1 then Task.ofArgs rest else .inFile arg rest

mutual

/-- Runs a command. -/
def run : Nat → Command → Streams → Act Unit
  | 0, _, _ => throw .timedOut
  | n + 1, c, st => do
    match c with
    | .nothing => return ()
    | .simple c =>
      modify ({ · with line := c.line })
      runSimple n c st
    | .sequence a b =>
      run n a st
      run n b st
    | .andThen a b =>
      run n a st
      if (← get).status = 0 then run n b st
    | .orElse a b =>
      run n a st
      if (← get).status ≠ 0 then run n b st
    | .pipe a b =>
      let between ← openFile ⟨.memory .empty, 0, false⟩
      contained (run n a { st with output := between })
      contained (run n b { st with input := between })
    | .negation a =>
      run n a st
      setStatus (if (← get).status = 0 then 1 else 0)
    | .choice c yes no =>
      run n c st
      if (← get).status = 0 then run n yes st
      else
        setStatus 0
        run n no st
    | .repetition whileTrue c body => runWhile n whileTrue c body st 0
    | .each name words body =>
      let values ← match words with
        | none => pure (← get).arguments
        | some ws => fields n ws st
      setStatus 0
      runEach n name values body st
    | .apart a => contained (run n a st)
    | .background a => unattended (run n a st)
    | .redirected a rs =>
      match ← redirectAll n st rs with
      | some st => run n a st
      | none => setStatus 2

/-- Runs a body while a condition succeeds, or fails; `last` is what the body has left. -/
def runWhile : Nat → Bool → Command → Command → Streams → (last : Nat) → Act Unit
  | 0, _, _, _, _, _ => throw .timedOut
  | n + 1, whileTrue, c, body, st, last => do
    let goesOn ← round do
      run n c st
      if ((← get).status == 0) == whileTrue then
        run n body st
        return true
      else
        setStatus last
        return false
    if goesOn then runWhile n whileTrue c body st (← get).status

/-- Runs a body once for each value of a variable. -/
def runEach : Nat → String → List String → Command → Streams → Act Unit
  | 0, _, _, _, _ => throw .timedOut
  | _ + 1, _, [], _, _ => return ()
  | n + 1, name, v :: vs, body, st => do
    modify (·.assign name v)
    let goesOn ← round do
      run n body st
      return true
    if goesOn then runEach n name vs body st

/-- The parts that a piece of a word stands for. -/
def parts : Nat → Streams → Piece → Act (List Part)
  | 0, _, _ => throw .timedOut
  | n + 1, st, p => do
    let m ← get
    match p with
    | .text s _ => return [.chars s]
    | .expansion (.parameter "@") quoted => return m.argumentParts quoted
    | .expansion (.parameter name) quoted => return valueParts quoted (m.value name)
    | .expansion (.length name) quoted => return valueParts quoted (toString (m.value name).length)
    | .expansion (.arithmetic e) quoted =>
      match evaluate m e with
      | .ok v => return valueParts quoted (toString v)
      | .error fault => abort st (fault.text e)
    | .expansion (.output script) quoted =>
      let printed ← openFile ⟨.memory .empty, 0, false⟩
      setStatus 0
      contained (runText n (String.ofList script) { st with output := printed })
      return valueParts quoted (printedText (← remaining printed))
    | .expansion (.fallback name kind orEmpty word) quoted =>
      let value := (m.value? name).filter fun v => !(orEmpty && v.isEmpty)
      match kind, value with
      | .present, none => return []
      | .present, some _ => otherParts n st quoted word
      | _, some v => return valueParts quoted v
      | .replace, none => otherParts n st quoted word
      | .assign, none =>
        let v := Part.text (← otherParts n st true word)
        modify (·.assign name v)
        return valueParts quoted v
      | .demand, none =>
        abort st (demandText name orEmpty (Part.text (← otherParts n st true word)))

/-- The parts of the text that stands in for a value. -/
def otherParts : Nat → Streams → (quoted : Bool) → List Char → Act (List Part)
  | 0, _, _, _ => throw .timedOut
  | n + 1, st, quoted, s => do
    let ws ← (fallbackWords quoted s).mapM fun w => do
      return (← w.mapM (parts n st)).flatten
    return (ws.intersperse [.split]).flatten

/-- The fields that some words stand for. -/
def fields : Nat → List Word → Streams → Act (List String)
  | 0, _, _ => throw .timedOut
  | n + 1, ws, st => do
    let fs ← ws.mapM fun w => do
      return join none (← w.mapM (parts n st)).flatten
    return fs.flatten

/-- The text that a word stands for where it is not split. -/
def wordText : Nat → Word → Streams → Act String
  | 0, _, _ => throw .timedOut
  | n + 1, w, st => do
    return Part.text (← w.mapM fun p => parts n st p.quote).flatten

/-- The streams after some redirections; none when a file cannot be opened. -/
def redirectAll : Nat → Streams → List Redirection → Act (Option Streams)
  | 0, _, _ => throw .timedOut
  | _ + 1, st, [] => return some st
  | n + 1, st, r :: rs => do
    match ← redirect st r (← wordText n r.target st) with
    | some st => redirectAll n st rs
    | none => return none

/-- Runs a simple command. -/
def runSimple : Nat → Simple → Streams → Act Unit
  | 0, _, _ => throw .timedOut
  | n + 1, c, st => do
    let words ← fields n c.words st
    match ← redirectAll n st c.redirections with
    | none => setStatus 2
    | some st =>
      match words with
      | [] =>
        let printing := (c.words ++ c.assignments.map (·.2)).any (·.any Piece.isOutput)
        for (name, w) in c.assignments do
          let value ← wordText n w st
          modify (·.assign name value)
        if !printing then setStatus 0
      | "exec" :: name :: args =>
        if !name.toList.contains '/' && name ≠ "sh" && (program? name).isNone then
          report st s!"exec: {name}: not found"
          throw (.ended (.exit 127))
        runNamed n name args st
        throw (.ended (.exit (← get).status))
      | "eval" :: args => runText n (String.intercalate " " args) st
      | name :: args => runNamed n name args st

/-- Runs the utility with a name. -/
def runNamed : Nat → String → List String → Streams → Act Unit
  | 0, _, _, _ => throw .timedOut
  | n + 1, name, args, st => do
    if programName name = "sh" then runShell n args st
    else match (builtin? name).or (program? (programName name)) with
      | some u => setStatus (← u args st)
      | none =>
        let (message, status) := missingProgram (← get).store name
        report st message
        setStatus status

/-- Runs the commands of a text. -/
def runText : Nat → (text : String) → Streams → Act Unit
  | 0, _, _ => throw .timedOut
  | n + 1, text, st => do
    let script := Script.ofText text.toList
    run n script.command st
    match script.fault with
    | some (fault, line) =>
      modify ({ · with line })
      abort st fault.text
    | none => return ()

/-- Runs the shell with some arguments. -/
def runShell : Nat → List String → Streams → Act Unit
  | 0, _, _ => throw .timedOut
  | n + 1, args, st => do
    match Task.ofArgs args with
    | .idle => setStatus 0
    | .given script name args => runScript n script (name.getD "sh") args st
    | .inFile path args =>
      match (← get).store.readText ⟨path⟩ with
      | .ok script => runScript n script path args st
      | .error fault =>
        complain st s!"sh: 0: cannot open {path}: {openingText fault}"
        setStatus 2

/-- Runs a script with its name and arguments. -/
def runScript : Nat → (script name : String) → List String → Streams → Act Unit
  | 0, _, _, _, _ => throw .timedOut
  | n + 1, script, name, args, st => do
    let before ← get
    set { before with values := [], name, arguments := args, line := 1, status := 0, loops := 0 }
    contained (runText n script st)
    modify fun m =>
      { m with
        values := before.values, name := before.name, arguments := before.arguments,
        line := before.line, loops := before.loops }

end

/-- The shell. -/
def shell : Utility := fun args st => do
  runShell maxSteps args st
  return (← get).status

/-! ### Programs -/

/-- The program with a name or a path. -/
def started? (name : String) : Option Utility :=
  if programName name = "sh" then some shell else program? (programName name)

/-- The state in which a program starts, and its streams. It reads nothing. -/
def start (inv : Invocation) (s : Store) : Machine × Streams :=
  let output := match inv.output.map s.find with
    | some (.ok ⟨l, .file _⟩) => Backing.stored l
    | _ => .lost
  let files := [⟨.lost, 0, false⟩, ⟨output, 0, false⟩, ⟨.memory .empty, 0, false⟩]
  ({ store := s, files, time := 1000 * inv.timeout }, ⟨0, 1, 2⟩)

/-- What a program has written to its stream for messages. -/
def messages (m : Machine) : ByteArray :=
  match m.files.drop 2 with
  | ⟨.memory content, _, _⟩ :: _ => content
  | _ => .empty

/-- What comes out of a utility that is started as a program. -/
def outcome (u : Utility) (inv : Invocation) (s : Store) : Outcome :=
  let (m, st) := start inv s
  match (u inv.args st).run.run m with
  | (.ok n, m) => .ended (.exit n) (messages m) m.store
  | (.error (.ended e), m) => .ended e (messages m) m.store
  | (.error .timedOut, m) => .timedOut m.store
  | (.error _, m) => .ended (.exit 0) (messages m) m.store

/-- Why a path cannot be started as a program: no file of the store may be run. -/
def pathFault (s : Store) (p : Path) : Store.Fault :=
  match s.find p with
  | .ok _ => .notPermitted
  | .error fault => fault

/-- Why a name without a slash cannot be started as a program. It is looked for in directories that
all hold the two names for directories. -/
def nameFault (name : String) : Store.Fault :=
  if name == "." || name == ".." then .notPermitted
  else if name.utf8ByteSize > Store.maxName then .nameTooLong
  else .notFound

/-- The programs that can be started. A program that has no time is stopped before it does
anything. -/
def programs : Programs where
  run inv s :=
    if (inv.program :: inv.args).any (·.toList.contains '\x00') then .notStarted .nulInWord
    else match started? inv.program with
    | some u => if inv.timeout = 0 then .timedOut s else outcome u inv s
    | none =>
      if inv.program.toList.contains '/' then .notStarted (pathFault s ⟨inv.program⟩)
      else .notStarted (nameFault inv.program)

end Imprint.Shell
