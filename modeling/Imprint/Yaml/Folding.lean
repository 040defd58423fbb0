import Imprint.Yaml.Cursor

/-!
# Folding lines

A value that is written over several lines without being a block is folded: the blanks around a line
break are dropped, one line break becomes a space, and of several line breaks the first is dropped.
A line break that is not a line feed is kept.

## Main definitions

* `Imprint.Yaml.Piece`: one piece of a value as it is written.
* `Imprint.Yaml.fold`: the value that some pieces stand for.
-/

namespace Imprint.Yaml

/-- One piece of a value as it is written. -/
inductive Piece where
  /-- A character that stands for itself. -/
  | char (c : Char)
  /-- A space or a tab. -/
  | blank (c : Char)
  /-- A line break, with what it contributes. -/
  | lineBreak (c : Char)
  /-- A line break that contributes nothing. -/
  | joint
  deriving DecidableEq, Repr

/-- What was read since the last character that stands for itself. -/
inductive Pause where
  /-- Blanks on the same line. -/
  | within (blanks : List Char)
  /-- At least one line break; `first` is what the first contributes. -/
  | between (first : Option Char) (others : List Char)
  deriving DecidableEq, Repr

/-- What a pause stands for. -/
def Pause.value : Pause → List Char
  | .within blanks => blanks
  | .between (some '\n') [] => [' ']
  | .between (some '\n') others => others
  | .between first others => first.toList ++ others

/-- The pause after one more piece that is no character. -/
def Pause.blank (c : Char) : Pause → Pause
  | .within blanks => .within (blanks ++ [c])
  | p => p

/-- The pause after one more line break. -/
def Pause.lineBreak (c : Char) : Pause → Pause
  | .within _ => .between (some c) []
  | .between first others => .between first (others ++ [c])

/-- The value of some pieces that follow a pause. -/
def foldAfter (p : Pause) : List Piece → List Char
  | [] => p.value
  | .char c :: r => p.value ++ c :: foldAfter (.within []) r
  | .blank c :: r => foldAfter (p.blank c) r
  | .lineBreak c :: r => foldAfter (p.lineBreak c) r
  | .joint :: r => p.value ++ foldAfter (.between none []) r

/-- The value that some pieces stand for. -/
def fold (pieces : List Piece) : List Char :=
  foldAfter (.within []) pieces

/-- The pieces of a text in which nothing but gaps is special. -/
def Piece.ofText : List Char → List Piece
  | [] => []
  | '\r' :: '\n' :: r => .lineBreak '\n' :: Piece.ofText r
  | c :: r =>
    (if isBreak c then .lineBreak (breakValue c)
      else if isBlank c then .blank c
      else .char c) :: Piece.ofText r

end Imprint.Yaml
