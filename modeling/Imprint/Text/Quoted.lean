import Imprint.Text.Blank
import Imprint.Text.HiddenTable

/-!
# Quoted texts

Two ways of writing a text between double quotes. The first is the string of the JSON format. The
second is for messages: every character that a reader cannot see is written by its number.

## Main definitions

* `Imprint.Text.Quoted.json`: a text as a JSON string.
* `Imprint.Text.Quoted.visible`: a text as messages show it.
-/

namespace Imprint.Text.Quoted

/-- A text between double quotes, each character written as `write` says. -/
def quote (write : Char → List Char) (s : List Char) : List Char :=
  '"' :: s.flatMap write ++ ['"']

/-- A number in base sixteen, with zeros in front up to the given width. -/
def hex (width n : Nat) : List Char :=
  let digits := Nat.toDigits 16 n
  List.replicate (width - digits.length) '0' ++ digits

/-- A character inside a JSON string. -/
def jsonChar (c : Char) : List Char :=
  if c = '"' then ['\\', '"']
  else if c = '\\' then ['\\', '\\']
  else if c = '\n' then ['\\', 'n']
  else if c = '\r' then ['\\', 'r']
  else if c = '\t' then ['\\', 't']
  else if c = '\x08' then ['\\', 'b']
  else if c = '\x0c' then ['\\', 'f']
  else if c.toNat < 0x20 then ['\\', 'u'] ++ hex 4 c.toNat
  else [c]

/-- A text as a JSON string. -/
def json (s : List Char) : List Char :=
  quote jsonChar s

/-- A character inside a quoted text of a message. -/
def visibleChar (c : Char) : List Char :=
  if c = '"' then ['\\', '"']
  else if c = '\\' then ['\\', '\\']
  else if c = '\n' then ['\\', 'n']
  else if c = '\r' then ['\\', 'r']
  else if c = '\t' then ['\\', 't']
  else if c = '\x00' then ['\\', '0']
  else if inRanges hiddenRanges c.toNat then ['\\', 'u', '{'] ++ hex 1 c.toNat ++ ['}']
  else [c]

/-- A text between double quotes as messages show it. -/
def visible (s : List Char) : List Char :=
  quote visibleChar s

/-! ### Small facts -/

@[simp] theorem json_nil : json [] = ['"', '"'] := rfl

@[simp] theorem visible_nil : visible [] = ['"', '"'] := rfl

/-- Quoting two texts one after the other writes the same characters between the quotes. -/
theorem quote_append (write : Char → List Char) (s t : List Char) :
    quote write (s ++ t) = '"' :: (s.flatMap write ++ (t.flatMap write ++ ['"'])) := by
  simp [quote]

end Imprint.Text.Quoted
