import Imprint.Shell.Arithmetic

/-!
# From values to fields

What a parameter or an expression stands for is split at blanks, unless it stands between quotes.
A word can so become no field, one field or several.

## Main definitions

* `Imprint.Shell.Part`: a part of what a word stands for.
* `Imprint.Shell.join`: the fields that some parts make.
* `Imprint.Shell.fallbackWords`: the words that stand in for a value.
-/

namespace Imprint.Shell

/-- A part of what a word stands for: characters of a field, or the place where a new field
starts. -/
inductive Part where
  | chars (s : List Char)
  | split
  deriving DecidableEq, Repr

/-- A character at which values are split. -/
def isSeparator (c : Char) : Bool :=
  c == ' ' || c == '\t' || c == '\n'

/-- The parts of a value that is split at blanks. -/
def splitValue (s : List Char) : List Part :=
  s.map fun c => if isSeparator c then .split else .chars [c]

/-- The parts of a value, which is not split between quotes. -/
def valueParts (quoted : Bool) (s : String) : List Part :=
  if quoted then [.chars s.toList] else splitValue s.toList

/-- The parts that all arguments stand for. -/
def Machine.argumentParts (m : Machine) (quoted : Bool) : List Part :=
  ((m.arguments.map (valueParts quoted)).intersperse [.split]).flatten

/-- The fields that some parts make, with the characters of the field that has been begun. -/
def join : Option (List Char) → List Part → List String
  | none, [] => []
  | some s, [] => [String.ofList s]
  | s, .chars t :: ps => join (some (s.getD [] ++ t)) ps
  | none, .split :: ps => join none ps
  | some s, .split :: ps => String.ofList s :: join none ps

/-- The text that some parts make where they are not split into fields. -/
def Part.text (ps : List Part) : String :=
  String.ofList <| ps.flatMap fun
    | .chars s => s
    | .split => [' ']

/-- The words of the text that stands in for a value. -/
def fallbackWords (quoted : Bool) (s : List Char) : List Word :=
  if quoted then
    match doubleQuoted (s.length + 2) (s.filter (· != '"') ++ ['"']) with
    | .ok (ps, _) => [.text [] true :: ps]
    | .error _ => [[.text s true]]
  else
    let ws := (tokens s).filterMap fun
      | (.word w, _) => some w
      | _ => none
    if ws.length + 1 = (tokens s).length then ws else [[.text s true]]

end Imprint.Shell
