import Imprint.Log
import Imprint.Source

/-!
# Directives

A directive is a header line that declares one output: after the marker, a file name, and after the
next blank character a list of variables. The file name must stay inside the output directory, so it
holds neither a `..` nor the root.

## Main definitions

* `Imprint.Directive`: one declared output.
* `Imprint.HeaderError`: what can be wrong with a header.
* `Imprint.Directive.Declaration.ofLine`: what one header line declares.
* `Imprint.Source.directives`: the directives of a header, in order.
* `Imprint.Source.headerEvents`: what reading the header reports.
-/

namespace Imprint

/-- One declared output. -/
structure Directive where
  /-- The output file, relative to the output directory. -/
  filename : String
  /-- The list of variables, not yet taken apart. -/
  vars : String
  /-- The position among the directives, from zero. -/
  index : Nat
  /-- The number of the line, from one. -/
  line : Nat
  deriving DecidableEq, Repr

/-- What is wrong with a directive line. -/
inductive DirectiveFlaw where
  /-- The file name or the list of variables is missing. -/
  | fields
  /-- The file name leads out of the output directory. -/
  | leaves (filename : String)
  deriving DecidableEq, Repr

/-- The text of a flaw. -/
def DirectiveFlaw.message : DirectiveFlaw → String
  | .fields => "expected `<marker> <filename> <variable-list>`"
  | .leaves filename => s!"output filename `{filename}` must stay inside the output directory"

/-- What is wrong with a header. -/
inductive HeaderError where
  /-- A directive line that declares nothing. -/
  | malformed (line : Nat) (content : String) (flaw : DirectiveFlaw)
  /-- No directive at all. -/
  | empty (path : Path)
  deriving DecidableEq, Repr

/-- The text of an error. -/
def HeaderError.message : HeaderError → String
  | .malformed line content flaw =>
    s!"malformed directive on line {line}: `{content}` ({flaw.message})"
  | .empty path => s!"no directives found in the header of {path.text}"

namespace Directive

/-- What a directive line says: an output file and a list of variables. -/
structure Declaration where
  filename : String
  vars : String
  line : Nat
  deriving DecidableEq, Repr

/-- The file name and the list of variables of a line from which the marker has been taken. Both
have to be there. -/
def fields? (rest : List Char) : Option (List Char × List Char) :=
  match Text.cutWhere? Text.isBlank rest with
  | some (filename, vars) =>
    if filename.isEmpty || (Text.trim vars).isEmpty then none else some (filename, Text.trim vars)
  | none => none

/-- Whether a file name leads out of the directory it is put into. -/
def leaves (filename : String) : Bool :=
  (Path.components ⟨filename⟩).any fun c => c == .parent || c == .root

/-- What a header line declares; a comment line declares nothing. -/
def Declaration.ofLine (m : Marker) (number : Nat) (line : List Char) :
    Except HeaderError (Option Declaration) :=
  let trimmed := Text.trim line
  if Text.startsWith commentOpening trimmed then .ok none
  else
    let flawed := HeaderError.malformed number (String.ofList trimmed)
    match fields? (Text.trimStart ((Text.after? m.chars trimmed).getD trimmed)) with
    | none => .error (flawed .fields)
    | some (filename, vars) =>
      let filename := String.ofList filename
      if leaves filename then .error (flawed (.leaves filename))
      else .ok (some ⟨filename, String.ofList vars, number⟩)

/-- Declarations as directives, numbered in order. -/
def number (ds : List Declaration) : List Directive :=
  ds.zipIdx.map fun x => ⟨x.1.filename, x.1.vars, x.2, x.1.line⟩

end Directive

/-- The results before the first error. -/
def beforeError {ε α : Type} : List (Except ε α) → List α
  | .ok a :: rest => a :: beforeError rest
  | _ => []

namespace Source

/-- What each header line declares. -/
def declarations (s : Source) : List (Except HeaderError (Option Directive.Declaration)) :=
  s.numberedHeader.map fun x => Directive.Declaration.ofLine s.marker x.1 x.2

/-- The directives of the header in order; the first faulty line is an error, and so is a header
without directives. -/
def directives (s : Source) : Except HeaderError (List Directive) := do
  let ds := (← s.declarations.mapM id).reduceOption
  if ds.isEmpty then .error (.empty s.path) else .ok (Directive.number ds)

/-- The declarations whose file name was declared before. -/
def repeated (ds : List Directive.Declaration) : List Directive.Declaration :=
  (ds.zipIdx.filter fun x => (ds.take x.2).any (·.filename == x.1.filename)).map Prod.fst

/-- What reading the header reports: every file name that is declared again, up to the first faulty
line, and the number of directives. -/
def headerEvents (s : Source) : List Log.Event :=
  (repeated (beforeError s.declarations).reduceOption).map (fun d =>
      ⟨.warn, .header,
        s!"line {d.line}: `{d.filename}` already declared; the later directive overwrites it"⟩) ++
    match s.directives with
    | .ok ds => [⟨.debug, .header, s!"{s.path.text}: {ds.length} directive(s) in header"⟩]
    | .error _ => []

end Source

end Imprint
