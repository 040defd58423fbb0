import Imprint.Path
import Imprint.Store.Basic

/-!
# From a path to a place in the store

A path is walked segment by segment, from the root or from the working directory. Every segment
before the last has to lead to a directory: a name that is missing or that names a file stops the
walk, a `.` stays, a `..` goes up; above the root is the root. The last segment is left for the
operation to look at, because each operation has its own rules for a `.`, a `..` or a slash at the
end.

## Main definitions

* `Imprint.Store.Last`: the last segment of a path.
* `Imprint.Store.Aim`, `Imprint.Store.aim`: where a path points.
* `Imprint.Store.find`: the entry that a path names.
-/

namespace Imprint.Store

/-- The last segment of a path. -/
inductive Last where
  /-- There is no segment: the path is the root. -/
  | none
  /-- A `.`. -/
  | stay
  /-- A `..`. -/
  | up
  /-- A name. -/
  | name (text : String)
  deriving DecidableEq, Repr

/-- Where a path points: a last segment, seen from the directory that holds it. -/
structure Aim where
  directory : Location
  last : Last
  /-- Whether a slash follows the last segment. -/
  slash : Bool
  deriving DecidableEq, Repr

/-- The greatest number of bytes in a name. -/
def maxName : Nat := 255

/-- The least number of bytes that a path may not have. -/
def maxPath : Nat := 4096

/-- The directory that a path is read from. -/
def startOf (s : Store) (p : Path) : Location :=
  if p.isAbsolute then [] else s.site.cwd

/-- One step of a walk into a directory. -/
def enter (s : Store) (l : Location) (segment : List Char) : Except Fault Location :=
  if segment = ['.'] then .ok l
  else if segment = ['.', '.'] then .ok l.dropLast
  else
    let n := String.ofList segment
    if n.utf8ByteSize > maxName then .error .nameTooLong
    else match s.get? (l ++ [n]) with
      | some .directory => .ok (l ++ [n])
      | some (.file _) => .error .notDirectory
      | none => .error .notFound

/-- A walk through the segments of a path. -/
def walk (s : Store) (l : Location) (segs : List (List Char)) : Except Fault Location :=
  segs.foldlM (enter s) l

/-- The last segment as an operation sees it. -/
def Last.ofSegment (segment : List Char) : Except Fault Last :=
  if segment = ['.'] then .ok .stay
  else if segment = ['.', '.'] then .ok .up
  else if (String.ofList segment).utf8ByteSize > maxName then .error .nameTooLong
  else .ok (.name (String.ofList segment))

/-- Where a path points. The empty path points nowhere. -/
def aim (s : Store) (p : Path) : Except Fault Aim := do
  if p.text.isEmpty then .error .notFound
  else if p.text.toList.contains '\x00' then .error .nulInPath
  else if p.text.utf8ByteSize ≥ maxPath then .error .nameTooLong
  else
    let segs := p.segments.filter (· ≠ [])
    match segs.reverse with
    | [] => .ok ⟨s.startOf p, .none, true⟩
    | segment :: before =>
      let directory ← walk s (s.startOf p) before.reverse
      let last ← Last.ofSegment segment
      .ok ⟨directory, last, p.text.toList.getLast? == some '/'⟩

/-- What a path names. -/
structure Found where
  location : Location
  entry : Entry

/-- The entry that a path names. A slash at the end asks for a directory. -/
def find (s : Store) (p : Path) : Except Fault Found := do
  let a ← aim s p
  match a.last with
  | .none => .ok ⟨a.directory, .directory⟩
  | .stay => .ok ⟨a.directory, .directory⟩
  | .up => .ok ⟨a.directory.dropLast, .directory⟩
  | .name n =>
    match s.get? (a.directory ++ [n]) with
    | some e =>
      match e, a.slash with
      | .file _, true => .error .notDirectory
      | _, _ => .ok ⟨a.directory ++ [n], e⟩
    | Option.none => .error .notFound

end Imprint.Store
