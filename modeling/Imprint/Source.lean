import Imprint.Marker
import Imprint.Path
import Imprint.Text.Lines

/-!
# Template sources

A template source is a text together with the path it was read from and the marker of its
directives. Its *header* is the leading run of lines that, trimmed, either begin with `/*` or are
opened by the marker; the first other line ends it. The *body* is the text without the header lines
that the marker opens.

## Main definitions

* `Imprint.Source`: path, text and marker.
* `Imprint.Source.header`, `Imprint.Source.numberedHeader`: the header lines, also with their
  numbers.
* `Imprint.Source.body`: what is left for rendering.
* `Imprint.Source.directory`: where the template lies.
-/

namespace Imprint

/-- A template text, where it came from, and the marker of its directives. -/
structure Source where
  path : Path
  text : String
  marker : Marker := .standard

/-- The beginning of a comment line. -/
def commentOpening : List Char := ['/', '*']

/-- Whether a line, trimmed, opens a comment. -/
def isCommentLine (line : List Char) : Bool :=
  Text.startsWith commentOpening (Text.trim line)

/-- Whether a line, trimmed, is opened by the marker. -/
def Marker.opensLine (m : Marker) (line : List Char) : Bool :=
  m.opens (Text.trim line)

/-- Whether a line may stand in a header. -/
def Marker.isHeaderLine (m : Marker) (line : List Char) : Bool :=
  isCommentLine line || m.opensLine line

namespace Source

/-- The lines of the text. -/
def lines (s : Source) : List (List Char) :=
  Text.lines s.text.toList

/-- The header lines. -/
def header (s : Source) : List (List Char) :=
  s.lines.takeWhile s.marker.isHeaderLine

/-- The lines after the header. -/
def afterHeader (s : Source) : List (List Char) :=
  s.lines.dropWhile s.marker.isHeaderLine

/-- The header lines with their numbers, which start at one. -/
def numberedHeader (s : Source) : List (Nat × List Char) :=
  s.header.zipIdx.map fun x => (x.2 + 1, x.1)

/-- The lines of the body: the comment lines of the header and all lines after it. -/
def bodyLines (s : Source) : List (List Char) :=
  s.header.filter (!s.marker.opensLine ·) ++ s.afterHeader

/-- The text that is rendered. -/
def body (s : Source) : List Char :=
  Text.joinLines s.bodyLines

/-- The directory that holds the template, `.` when its path names none. -/
def directory (s : Source) : Path :=
  match s.path.parent? with
  | some dir => if dir.text.isEmpty then ⟨"."⟩ else dir
  | none => ⟨"."⟩

/-- The name of the template: the file name of its path, when it has one. -/
def name (s : Source) : String :=
  s.path.fileName?.getD "template"

/-! ### Small facts -/

theorem header_append_afterHeader (s : Source) : s.header ++ s.afterHeader = s.lines :=
  List.takeWhile_append_dropWhile

theorem length_numberedHeader (s : Source) : s.numberedHeader.length = s.header.length := by
  simp [numberedHeader]

end Source

end Imprint
