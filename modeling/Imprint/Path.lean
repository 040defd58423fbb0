import Imprint.Text.Lines

/-!
# Path texts and their components

A path is a text in which slashes separate segments. Two readings of it are kept side by side. The
*text* is what messages show: joining only ever puts texts next to each other, so `./gen` joined
with `./z` reads `./gen/./z`. The *components* are what the text says: repeated slashes count once,
a `.` counts only at the very start, and a slash at the start stands for the root.

## Main definitions

* `Imprint.Path`: a path text.
* `Imprint.Path.Component`, `Imprint.Path.components`: what a path says.
* `Imprint.Path.join`, `Imprint.Path.parent?`, `Imprint.Path.fileName?`,
  `Imprint.Path.withFileName`: operations on the text.

## Main results

* `Imprint.Path.join_of_isAbsolute`, `Imprint.Path.join_text`: what joining writes.
-/

namespace Imprint

/-- A path, as the text that names it. -/
structure Path where
  text : String
  deriving DecidableEq, Repr

namespace Path

/-- One component of a path. -/
inductive Component where
  /-- The slash at the start of an absolute path. -/
  | root
  /-- A `.` at the start of a relative path. -/
  | current
  /-- A `..` anywhere. -/
  | parent
  /-- An ordinary file or directory name. -/
  | name (text : String)
  deriving DecidableEq, Repr

instance : ToString Path := ⟨Path.text⟩

/-- Whether the path starts at the root. -/
def isAbsolute (p : Path) : Bool :=
  p.text.toList.head? == some '/'

/-- The texts between the slashes of a path, at least one. -/
def segments (p : Path) : List (List Char) :=
  Text.segments '/' p.text.toList

/-- A segment that says nothing unless it comes first: nothing between two slashes, or a `.`. -/
def isIdle (segment : List Char) : Bool :=
  segment == [] || segment == ['.']

/-- The component that a segment stands for, when it is not idle. -/
def Component.ofSegment (segment : List Char) : Component :=
  if segment == ['.', '.'] then .parent else .name (String.ofList segment)

/-- The component that the first segment stands for; an empty one stands for the root when
another segment follows. -/
def Component.ofHead (segment : List Char) (last : Bool) : List Component :=
  if segment == [] then (if last then [] else [.root])
  else if segment == ['.'] then [.current]
  else [.ofSegment segment]

/-- What the path says, from left to right. -/
def components (p : Path) : List Component :=
  match p.segments with
  | [] => []
  | s :: rest =>
    Component.ofHead s rest.isEmpty ++ (rest.filter (!isIdle ·)).map Component.ofSegment

/-- The segments without the idle ones at their end. -/
def dropIdleEnd (segs : List (List Char)) : List (List Char) :=
  (segs.reverse.dropWhile isIdle).reverse

/-- The text that a first segment and the segments after it came from. -/
def ofSegments (first : List Char) (rest : List (List Char)) : Path :=
  if first.isEmpty && rest.isEmpty then ⟨"/"⟩
  else ⟨String.ofList (List.intercalate ['/'] (first :: rest))⟩

/-- The path up to its last component, without the slashes and idle segments in between. The root
and the empty path have none. -/
def parent? (p : Path) : Option Path :=
  match p.segments with
  | [] => none
  | s :: rest =>
    match (dropIdleEnd rest).reverse with
    | _ :: before => some (ofSegments s (dropIdleEnd before.reverse))
    | [] => if s.isEmpty then none else some ⟨""⟩

/-- The last component, when it is an ordinary name. -/
def fileName? (p : Path) : Option String :=
  match p.components.getLast? with
  | some (.name n) => some n
  | _ => none

/-- The path `q` read from the directory `p`. An absolute `q` stands alone; otherwise the texts are
put together, with a slash between them when the first is not empty and does not end in one. -/
def join (p q : Path) : Path :=
  if q.isAbsolute then q
  else if p.text.toList.getLast?.all (· == '/') then ⟨p.text ++ q.text⟩
  else ⟨p.text ++ "/" ++ q.text⟩

/-- The path with `name` in the place of its last component; `name` is added when the last
component is no ordinary name. -/
def withFileName (p : Path) (name : String) : Path :=
  match p.fileName?, p.parent? with
  | some _, some dir => dir.join ⟨name⟩
  | _, _ => p.join ⟨name⟩

/-! ### Small facts -/

theorem join_of_isAbsolute {p q : Path} (h : q.isAbsolute = true) : p.join q = q := by
  simp [join, h]

/-- Joining a relative path keeps both texts, with at most one slash between them. -/
theorem join_text {p q : Path} (h : q.isAbsolute = false) :
    (p.join q).text = p.text ++ q.text ∨ (p.join q).text = p.text ++ "/" ++ q.text := by
  simp only [join, h, Bool.false_eq_true, ↓reduceIte]
  split <;> simp

end Path

end Imprint
