import Imprint.Shell.Utility

/-!
# Utilities for files

They print, remove, copy, move and make files, list directories and take paths apart.

## Main definitions

* `Imprint.Shell.cat`, `Imprint.Shell.rm`, `Imprint.Shell.cp`, `Imprint.Shell.mv`,
  `Imprint.Shell.touch`, `Imprint.Shell.mkdir`, `Imprint.Shell.ls`: work on files.
* `Imprint.Shell.basename`, `Imprint.Shell.dirname`: parts of a path.
-/

namespace Imprint.Shell

/-- Prints the files that it is given, or what it reads. -/
def cat : Utility := withOptions "cat" ['u'] fun _ args st => do
  worst (if args.isEmpty then ["-"] else args) fun arg => do
    if arg = "-" then
      write st.output (← readAll st.input)
      return 0
    match ← content ⟨arg⟩ with
    | .ok bytes =>
      write st.output bytes
      return 0
    | .error fault =>
      complain st s!"cat: {quotedIfNeeded arg}: {faultText fault}"
      return 1

/-- The message that asks whether a file is to be removed. -/
def removalQuestion (s : Store) (p : String) : String :=
  let kind := match s.size ⟨p⟩ with
    | .ok 0 => "regular empty file"
    | _ => "regular file"
  s!"rm: remove {kind} {quoted p}? "

/-- Removes files, and directories when it is told to. When it has to ask it takes the lack of an
answer for a no. -/
def rm : Utility := withOptions "rm" ['f', 'i', 'r', 'R', 'v', 'd'] fun letters args st => do
  let force := letters.contains 'f'
  let deep := letters.contains 'r' || letters.contains 'R'
  if args.isEmpty && !force then refuse "rm" "missing operand" st
  else worst args fun p => do
    let s := (← get).store
    let refused := fun (fault : Store.Fault) => do
      complain st s!"rm: cannot remove {quoted p}: {faultText fault}"
      return 1
    match s.find ⟨p⟩ with
    | .ok ⟨l, .directory⟩ =>
      if deep && !s.IsFixed l then
        removeTree l
        return 0
      else refused .isDirectory
    | .ok ⟨_, .file _⟩ =>
      if letters.contains 'i' then
        writeText st.errors (removalQuestion s p)
        return 0
      match ← removeFile ⟨p⟩ with
      | none => return 0
      | some fault => refused fault
    | .error .notFound => if force then return 0 else refused .notFound
    | .error fault => refused fault

/-- The path of a copy: the target itself, or a name in the directory that it names. -/
def copyTarget (s : Store) (source target : String) : Path :=
  if s.isDirectory ⟨target⟩ then (Path.mk target).join ⟨((Path.mk source).fileName?).getD ""⟩
  else ⟨target⟩

/-- A utility that takes one thing to another place. -/
def fromTo (name : String) (act : (source target : String) → Streams → Act Nat) : Utility :=
  withOptions name ['f', 'p', 'v', 'n'] fun _ args st => do
    match args with
    | [source, target] => act source target st
    | [source] => refuse name s!"missing destination file operand after {quoted source}" st
    | [] => refuse name "missing file operand" st
    | _ =>
      let last := args.getLastD ""
      complain st s!"{name}: target {quoted last}: {faultText .notDirectory}"
      return 1

/-- Copies a file. -/
def cp : Utility := fromTo "cp" fun source target st => do
  match ← content ⟨source⟩ with
  | .error .isDirectory =>
    complain st s!"cp: -r not specified; omitting directory {quoted source}"
    return 1
  | .error fault =>
    complain st s!"cp: cannot stat {quoted source}: {faultText fault}"
    return 1
  | .ok bytes =>
    match ← openForWriting (copyTarget (← get).store source target) false with
    | .ok n =>
      write n bytes
      return 0
    | .error fault =>
      complain st s!"cp: cannot create regular file {quoted target}: {faultText fault}"
      return 1

/-- Moves a file. -/
def mv : Utility := fromTo "mv" fun source target st => do
  let s := (← get).store
  match ← moveFile ⟨source⟩ (copyTarget s source target) with
  | none => return 0
  | some fault =>
    if s.isFile ⟨source⟩ then
      complain st s!"mv: cannot move {quoted source} to {quoted target}: {faultText fault}"
    else complain st s!"mv: cannot stat {quoted source}: {faultText fault}"
    return 1

/-- Makes files that are not there. -/
def touch : Utility := withOptions "touch" ['a', 'm', 'c'] fun letters args st => do
  if args.isEmpty then refuse "touch" "missing file operand" st
  else worst args fun p => do
    let s := (← get).store
    if letters.contains 'c' && !s.isFile ⟨p⟩ || s.isDirectory ⟨p⟩ then return 0
    match ← openForWriting ⟨p⟩ true with
    | .ok _ => return 0
    | .error fault =>
      complain st s!"touch: cannot touch {quoted p}: {faultText fault}"
      return 1

/-- Makes directories. -/
def mkdir : Utility := withOptions "mkdir" ['p', 'v'] fun letters args st => do
  if args.isEmpty then refuse "mkdir" "missing operand" st
  else worst args fun p => do
    let s := (← get).store
    let made := if letters.contains 'p' then
        match s.makeDirectories ⟨p⟩ with
        | (none, t) => Except.ok t
        | (some fault, _) => .error fault
      else s.makeDirectory ⟨p⟩
    match made with
    | .ok t =>
      modify ({ · with store := t })
      return 0
    | .error fault =>
      complain st s!"mkdir: cannot create directory {quoted p}: {faultText fault}"
      return 1

/-! ### Listing -/

/-- Whether a text comes before another one or is the same. -/
def precedes (a b : String) : Bool :=
  decide (a ≤ b)

/-- The names in a directory, in order. Names that start with a dot are hidden. -/
def namesIn (s : Store) (l : Location) (hidden : Bool) : List String :=
  let names := s.entries.filterMap fun (k, _) =>
    if k.dropLast = l then k.getLast? else none
  let names := if s.IsFixed l then
      names ++ ((s.site.cwd.drop l.length).take 1).filter (!names.contains ·)
    else names
  (names.filter fun n => hidden || !n.startsWith ".").mergeSort precedes

/-- The lines of the list of a directory. -/
def listing (s : Store) (l : Location) (letters : List Char) : List String :=
  let all := letters.contains 'a'
  (if all then [".", ".."] else []) ++ namesIn s l (all || letters.contains 'A')

/-- Lists directories, and files that it is given. -/
def ls : Utility := withOptions "ls" ['1', 'a', 'A'] fun letters args st => do
  let s := (← get).store
  let args := if args.isEmpty then ["."] else args.mergeSort precedes
  let missing ← worst args fun a => do
    match s.find ⟨a⟩ with
    | .ok _ => return 0
    | .error fault =>
      complain st s!"ls: cannot access {quoted a}: {faultText fault}"
      return 2
  let files := args.filter fun a => s.isFile ⟨a⟩
  let blocks := args.filterMap fun a =>
    match s.find ⟨a⟩ with
    | .ok ⟨l, .directory⟩ =>
      some ((if args.length > 1 then [a ++ ":"] else []) ++ listing s l letters)
    | _ => none
  let groups := (if files.isEmpty then [] else [files]) ++ blocks
  let lines := (groups.intersperse [""]).flatten
  writeText st.output (String.join (lines.map (· ++ "\n")))
  return missing

/-! ### Parts of a path -/

/-- A text without the slashes at its end. -/
def withoutEndSlashes (s : List Char) : List Char :=
  (s.reverse.dropWhile (· == '/')).reverse

/-- Prints the last segment of a path, without an ending that it is given. -/
def basename : Utility := fun args st => do
  match args with
  | [] => refuse "basename" "missing operand" st
  | p :: rest =>
    let name := ((withoutEndSlashes p.toList).reverse.takeWhile (· != '/')).reverse
    let name := if name.isEmpty && p.startsWith "/" then ['/'] else name
    let ending := (rest.headD "").toList
    let stem := if ending.isSuffixOf name && ending.length < name.length then
        name.take (name.length - ending.length)
      else name
    writeText st.output (String.ofList stem ++ "\n")
    return 0

/-- Prints what stands in front of the last segment of a path. -/
def dirname : Utility := fun args st => do
  match args with
  | [] => refuse "dirname" "missing operand" st
  | ps =>
    let parent := fun (p : String) =>
      let s := withoutEndSlashes p.toList
      let above := withoutEndSlashes (s.reverse.dropWhile (· != '/')).reverse
      if !above.isEmpty then String.ofList above
      else if p.startsWith "/" then "/"
      else "."
    writeText st.output (String.join (ps.map (parent · ++ "\n")))
    return 0

end Imprint.Shell
