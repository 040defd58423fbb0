import Imprint.Store.Resolve

/-!
# File operations

Reading, writing, making directories, renaming and removing, each as a function from a store to its
result and the store after it. An operation that is refused changes nothing, but for a write, which
empties the file before it fills it, and for directories, which are made one after the other.

## Main definitions

* `Imprint.Store.read`, `Imprint.Store.readText`: the bytes or the text of a file.
* `Imprint.Store.fill`, `Imprint.Store.write`: make or overwrite a file.
* `Imprint.Store.makeDirectory`, `Imprint.Store.makeDirectories`: make one directory, or all that a
  path needs.
* `Imprint.Store.remove`, `Imprint.Store.rename`: remove or move a file.
* `Imprint.Store.attempt`: a step that is taken whole or not at all.
* `Imprint.Store.isFile`, `Imprint.Store.isDirectory`, `Imprint.Store.size`: questions about a path.
-/

namespace Imprint.Store

/-- The bytes of a file. -/
def read (s : Store) (p : Path) : Except Fault ByteArray := do
  match (← s.find p).entry with
  | .file content => .ok content
  | .directory => .error .isDirectory

/-- The text of a file. -/
def readText (s : Store) (p : Path) : Except Fault String := do
  match String.fromUTF8? (← s.read p) with
  | some text => .ok text
  | none => .error .notText

/-- Whether a path names a file. -/
def isFile (s : Store) (p : Path) : Bool :=
  match s.find p with
  | .ok ⟨_, .file _⟩ => true
  | _ => false

/-- Whether a path names a directory. -/
def isDirectory (s : Store) (p : Path) : Bool :=
  match s.find p with
  | .ok ⟨_, .directory⟩ => true
  | _ => false

/-- The number of bytes of a file; a directory counts as empty. -/
def size (s : Store) (p : Path) : Except Fault Nat := do
  match (← s.find p).entry with
  | .file content => .ok content.size
  | .directory => .ok 0

/-- The location at which `write` puts a file: a name in a directory, with no slash after it, where
no directory stands. -/
def writeLocation (s : Store) (p : Path) : Except Fault Location := do
  let a ← aim s p
  match a.last with
  | .name n =>
    if a.slash then .error .isDirectory
    else
      let l := a.directory ++ [n]
      match s.get? l with
      | some .directory => .error .isDirectory
      | _ => .ok l
  | _ => .error .isDirectory

/-- The store after `content` was written to the file at `l`, as far as the site takes it. -/
def fill (s : Store) (l : Location) (content : ByteArray) : Option Fault × Store :=
  match s.site.refusal? l content with
  | none => (none, s.insert l (.file content))
  | some ⟨e, none⟩ => (some e, s)
  | some ⟨e, some n⟩ => (some e, s.insert l (.file (content.extract 0 n)))

/-- The store after `content` was written to the file at `p`, which is made when it is not there. A
write that is cut short leaves the bytes that were taken. -/
def write (s : Store) (p : Path) (content : ByteArray) : Option Fault × Store :=
  match s.writeLocation p with
  | .ok l => s.fill l content
  | .error e => (some e, s)

/-- The store with one more directory, whose parent has to be there. -/
def makeDirectory (s : Store) (p : Path) : Except Fault Store := do
  let a ← aim s p
  match a.last with
  | .name n =>
    let l := a.directory ++ [n]
    match s.get? l, s.site.barred? l with
    | some _, _ => .error .alreadyThere
    | none, some e => .error e
    | none, none => .ok (s.insert l .directory)
  | _ => .error .alreadyThere

/-- One directory that may be there already. -/
def ensureDirectory (s : Store) (p : Path) : Except Fault Store :=
  match s.makeDirectory p with
  | .ok t => .ok t
  | .error e => if s.isDirectory p then .ok s else .error e

/-- The directories that a path needs, given the paths above it that may have to be made first.
Directories made on the way stay when a later one is refused. -/
def makeAll (s : Store) : List Path → Option Fault × Store
  | [] => (none, s)
  | p :: above =>
    match s.makeDirectory p with
    | .ok t => (none, t)
    | .error .notFound =>
      match makeAll s above with
      | (some e, t) => (some e, t)
      | (none, t) =>
        match t.ensureDirectory p with
        | .ok u => (none, u)
        | .error e => (some e, t)
    | .error e => if s.isDirectory p then (none, s) else (some e, s)

/-- The non-empty paths that lie above `p`, nearest first, at most `n` of them. -/
def pathsAbove : Nat → Path → List Path
  | 0, _ => []
  | n + 1, p =>
    match p.parent? with
    | some q => if q.text.isEmpty then [] else q :: pathsAbove n q
    | none => []

/-- The directory at `p` together with every directory above it that is missing. -/
def makeDirectories (s : Store) (p : Path) : Option Fault × Store :=
  if p.text.isEmpty then (none, s)
  else s.makeAll (p :: pathsAbove p.text.length p)

/-- The store without the file at `p`. -/
def remove (s : Store) (p : Path) : Except Fault Store := do
  let a ← aim s p
  match a.last with
  | .name n =>
    let l := a.directory ++ [n]
    match s.get? l with
    | none => .error .notFound
    | some .directory => .error .isDirectory
    | some (.file _) => if a.slash then .error .notDirectory else .ok (s.erase l)
  | _ => .error .isDirectory

/-- The store with the file at `p` moved to `q`, where it takes the place of a file. -/
def rename (s : Store) (p q : Path) : Except Fault Store := do
  let a ← aim s p
  let b ← aim s q
  match a.last, b.last with
  | .name m, .name n =>
    let l := a.directory ++ [m]
    match s.get? l with
    | none => .error .notFound
    | some .directory => .error .isDirectory
    | some (.file content) =>
      if a.slash || b.slash then .error .notDirectory
      else
        let k := b.directory ++ [n]
        match s.get? k with
        | some .directory => .error .isDirectory
        | _ => .ok ((s.erase l).insert k (.file content))
  | _, _ => .error .busy

/-- A step that changes nothing when it is refused, as a refusal and the store after it. -/
def attempt (step : Store → Except Fault Store) (s : Store) : Option Fault × Store :=
  match step s with
  | .ok t => (none, t)
  | .error e => (some e, s)

end Imprint.Store
