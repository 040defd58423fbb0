import Imprint.Yaml.Block
import Imprint.Yaml.Quoted

/-!
# Anchors, tags and directives

What can stand in front of a value or of a document. A tag is written with a handle, which
a directive may have given a meaning, or in full between angle brackets.

A tag is kept as the list of its octets, each as the character with that number. An octet that may
not stand in a tag is written as a percent sign and two digits.

## Main definitions

* `Imprint.Yaml.anchorName`: reads the name of an anchor or an alias.
* `Imprint.Yaml.Tag`, `Imprint.Yaml.tag`: a tag as it is written.
* `Imprint.Yaml.Directive`, `Imprint.Yaml.directive`: a directive.
-/

namespace Imprint.Yaml

/-- The name behind the mark of an anchor or an alias. -/
def anchorName : Scan String := do
  Scan.skip 1
  let name ← Scan.all isNameChar
  guard !name.isEmpty
  guard ((← Scan.rest).head?.all fun c =>
    isGap c || c == '?' || c == ':' || c == ',' || c == ']' || c == '}' || c == '%' || c == '@' ||
      c == '\x60')
  return String.ofList name

/-- A tag as it is written: a handle, which may be empty, and what follows it. -/
structure Tag where
  handle : String
  suffix : String
  deriving DecidableEq, Repr

/-- The characters that may stand in a tag as they are. -/
def isTagChar (c : Char) : Bool :=
  isNameChar c || [';', '/', '?', ':', '@', '&', '=', '+', '$', '.', '!', '~', '*', '\'', '(',
    ')'].contains c

/-- The characters that may stand in a tag only when it is written in full. -/
def isFullTagChar (c : Char) : Bool :=
  c == ',' || c == '[' || c == ']'

/-- An octet behind a percent sign. -/
def octet : Scan Nat := do
  Scan.expect '%'
  hexNumber 2

/-- The number of octets of a character whose first octet is given. -/
def octetCount? (first : Nat) : Option Nat :=
  if first < 0x80 then some 1
  else if 0xC0 ≤ first ∧ first < 0xE0 then some 2
  else if 0xE0 ≤ first ∧ first < 0xF0 then some 3
  else if 0xF0 ≤ first ∧ first < 0xF8 then some 4
  else none

/-- `n` octets that continue a character. -/
def moreOctets : Nat → Scan (List Char)
  | 0 => return []
  | n + 1 => do
    let o ← octet
    guard (0x80 ≤ o ∧ o < 0xC0)
    return Char.ofNat o :: (← moreOctets n)

/-- A character of a tag, as its octets. -/
def tagPiece (full : Bool) : Scan (Option (List Char)) := do
  match (← Scan.rest).head? with
  | none => return none
  | some c =>
    if c == '%' then
      let first ← octet
      let count ← octetCount? first
      return some (Char.ofNat first :: (← moreOctets (count - 1)))
    else if isTagChar c || (full && isFullTagChar c) then
      Scan.skip 1
      return some [c]
    else return none

/-- The characters of a tag, perhaps none. -/
def tagChars (full : Bool) : Scan (List Char) :=
  List.flatten <$> Scan.repeated (tagPiece full)

/-- A handle: an exclamation mark, or a name between two of them. The second result tells whether
it is closed by an exclamation mark. -/
def tagHandle : Scan (List Char × Bool) := do
  Scan.expect '!'
  let name ← Scan.all isNameChar
  if ← Scan.accept '!' then return ('!' :: name ++ ['!'], true)
  else return ('!' :: name, false)

/-- A tag that is written in full. -/
def fullTag : Scan Tag := do
  Scan.skip 2
  let cs ← tagChars true
  guard !cs.isEmpty
  Scan.expect '>'
  return ⟨"", String.ofList cs⟩

/-- A tag that is written with a handle. What looks like an open handle belongs to the suffix of
the handle `!`; a lone exclamation mark is a tag by itself. -/
def shortTag : Scan Tag := do
  let (handle, closed) ← tagHandle
  let cs ← tagChars false
  if closed then
    guard !cs.isEmpty
    return ⟨String.ofList handle, String.ofList cs⟩
  else
    let suffix := handle.tail ++ cs
    if suffix.isEmpty then return ⟨"", "!"⟩ else return ⟨"!", String.ofList suffix⟩

/-- A tag, and what has to follow it. -/
def tag (flow : Bool) : Scan Tag := do
  let t ← if (← Scan.rest).tail.head? == some '<' then fullTag else shortTag
  let rest ← Scan.rest
  guard (endsWord rest || (flow && rest.head? == some ','))
  return t

/-- A directive. -/
inductive Directive where
  /-- The version of the language. -/
  | version (major minor : Nat)
  /-- The meaning of a handle. -/
  | handle (name meaning : String)
  deriving DecidableEq, Repr

/-- A number of at most nine digits. -/
def versionNumber : Scan Nat := do
  let ds ← Scan.all Char.isDigit
  guard (0 < ds.length ∧ ds.length ≤ 9)
  return ds.foldl (fun n c => 10 * n + (c.toNat - '0'.toNat)) 0

/-- What follows the name of a version directive. -/
def versionDirective : Scan Directive := do
  discard (Scan.all isBlank)
  let major ← versionNumber
  Scan.expect '.'
  return .version major (← versionNumber)

/-- What follows the name of a handle directive. -/
def handleDirective : Scan Directive := do
  discard (Scan.all isBlank)
  let (name, closed) ← tagHandle
  guard (closed || name.length = 1)
  guard !(← Scan.all isBlank).isEmpty
  let meaning ← tagChars true
  guard !meaning.isEmpty
  guard (endsWord (← Scan.rest))
  return .handle (String.ofList name) (String.ofList meaning)

/-- A directive with the rest of its line. -/
def directive : Scan Directive := do
  Scan.expect '%'
  let name ← Scan.all isNameChar
  guard (endsWord (← Scan.rest))
  let d ←
    if name = ['Y', 'A', 'M', 'L'] then versionDirective
    else if name = ['T', 'A', 'G'] then handleDirective
    else failure
  finishLine
  return d

end Imprint.Yaml
