/-!
# Commands of a shell script

A script is a command. A simple command is a list of words, the first of which names what is run; it
can set variables and redirect its streams. Commands are put together by sequence, condition,
repetition and pipes.

A word is made of pieces, which are either there as they are written or stand for something that is
known only when the command is run. What stands between quotes is never split into several words.

## Main definitions

* `Imprint.Shell.Expansion`, `Imprint.Shell.Piece`, `Imprint.Shell.Word`: words.
* `Imprint.Shell.Redirection`: where a stream comes from or goes to.
* `Imprint.Shell.Command`: commands.
-/

namespace Imprint.Shell

/-- What a word does about a parameter that may have no value. -/
inductive Fallback where
  /-- Another word stands in for the value. -/
  | replace
  /-- Another word becomes the value. -/
  | assign
  /-- The script ends with another word as a message. -/
  | demand
  /-- Another word stands for a value that is there. -/
  | present
  deriving DecidableEq, Repr

/-- Something in a word that stands for a text. -/
inductive Expansion where
  /-- The value of a parameter. -/
  | parameter (name : String)
  /-- The number of characters of the value of a parameter. -/
  | length (name : String)
  /-- The value of an arithmetic expression. -/
  | arithmetic (expression : List Char)
  /-- What a script prints. -/
  | output (script : List Char)
  /-- The value of a parameter or another word; with `orEmpty` an empty value counts as none. -/
  | fallback (name : String) (kind : Fallback) (orEmpty : Bool) (word : List Char)
  deriving DecidableEq, Repr

/-- A piece of a word. -/
inductive Piece where
  /-- Characters that stand for themselves. -/
  | text (s : List Char) (quoted : Bool)
  /-- Something that stands for a text. -/
  | expansion (e : Expansion) (quoted : Bool)
  deriving DecidableEq, Repr

/-- The piece between quotes. -/
def Piece.quote : Piece → Piece
  | .text s _ => .text s true
  | .expansion e _ => .expansion e true

/-- Whether a piece stands for what a script prints. -/
def Piece.isOutput : Piece → Bool
  | .expansion (.output _) _ => true
  | _ => false

/-- A word. -/
abbrev Word := List Piece

/-- What is done with a stream. -/
inductive Direction where
  | read
  | write
  | append
  /-- The stream becomes the same as another one. -/
  | same
  deriving DecidableEq, Repr

/-- Where the stream with a number comes from or goes to. -/
structure Redirection where
  stream : Nat
  direction : Direction
  target : Word
  deriving DecidableEq, Repr

/-- A simple command, with the line on which it starts. -/
structure Simple where
  line : Nat
  assignments : List (String × Word) := []
  words : List Word := []
  redirections : List Redirection := []
  deriving DecidableEq, Repr

/-- A command. -/
inductive Command where
  | nothing
  | simple (c : Simple)
  | sequence (a b : Command)
  /-- The second is run when the first succeeds. -/
  | andThen (a b : Command)
  /-- The second is run when the first fails. -/
  | orElse (a b : Command)
  /-- The second reads what the first writes. -/
  | pipe (a b : Command)
  | negation (a : Command)
  | choice (condition yes no : Command)
  /-- Repeats while the condition succeeds, or fails. -/
  | repetition (whileTrue : Bool) (condition body : Command)
  /-- Runs the body once for each word; without a list, for each argument. -/
  | each (name : String) (words : Option (List Word)) (body : Command)
  /-- A command on its own: what it does to variables is forgotten. -/
  | apart (a : Command)
  /-- A command on its own that nothing waits for. -/
  | background (a : Command)
  | redirected (a : Command) (redirections : List Redirection)
  deriving Repr

end Imprint.Shell
