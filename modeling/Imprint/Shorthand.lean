import Imprint.Template.RawBlock

/-!
# Interpolation shorthand

In a template `${x}` may be written for `{{ x }}`. The text between the braces may hold braces that
are balanced, and `$${` stands for the characters `${` themselves. Raw blocks are left as they are.

The text is read as a list of tokens, and expanding it writes each token anew. The only thing that
can go wrong is a `${` whose closing brace is missing before the next raw block or the end.

## Main definitions

* `Imprint.Shorthand.Token`: a raw block, a plain character, an escape or an interpolation.
* `Imprint.Shorthand.tokens`: the tokens of a text.
* `Imprint.Shorthand.expand`: the text with its tokens written anew.
* `Imprint.Shorthand.escape`: the text in which each `${` is escaped.
-/

namespace Imprint.Shorthand

/-- A piece of a text. -/
inductive Token where
  | raw (block : List Char)
  | plain (c : Char)
  | escape
  | interpolation (expression : List Char)
  deriving DecidableEq, Repr

/-- How a token is written in the expanded text. -/
def Token.expansion : Token → List Char
  | .raw block => block
  | .plain c => [c]
  | .escape => ['$', '{']
  | .interpolation e => ['{', '{', ' '] ++ Text.trim e ++ [' ', '}', '}']

/-- How a token is written in the text that it was read from. -/
def Token.source : Token → List Char
  | .raw block => block
  | .plain c => [c]
  | .escape => ['$', '$', '{']
  | .interpolation e => ['$', '{'] ++ e ++ ['}']

/-- An interpolation without a closing brace, by the number of its line. -/
structure Unclosed where
  line : Nat
  deriving DecidableEq, Repr

/-- The text in front of the first closing brace that has no partner, some braces being open. -/
def enclosed? : Nat → List Char → Option (List Char)
  | _, [] => none
  | d, '{' :: r => (enclosed? (d + 1) r).map ('{' :: ·)
  | 0, '}' :: _ => some []
  | d + 1, '}' :: r => (enclosed? d r).map ('}' :: ·)
  | d, c :: r => (enclosed? d r).map (c :: ·)

/-- The number of the line after a character. -/
def nextLine (line : Nat) (c : Char) : Nat :=
  if c = '\n' then line + 1 else line

/-- The number of the line after a text. -/
def lineAfter (line : Nat) (s : List Char) : Nat :=
  s.foldl nextLine line

/-- The tokens of a text without raw blocks that starts on the given line, after passing over some
characters. -/
def tokensFrom : Nat → Nat → List Char → Except Unclosed (List Token)
  | _, _, [] => .ok []
  | line, k + 1, c :: r => tokensFrom (nextLine line c) k r
  | line, 0, '$' :: '$' :: '{' :: r => return .escape :: (← tokensFrom line 0 r)
  | line, 0, '$' :: '{' :: r =>
    match enclosed? 0 r with
    | some e => return .interpolation e :: (← tokensFrom line (e.length + 1) r)
    | none => .error ⟨line⟩
  | line, 0, c :: r => return .plain c :: (← tokensFrom (nextLine line c) 0 r)

/-- The tokens of regions, the first of which starts on the given line. -/
def tokensOfRegions : Nat → List (Text.Region (List Char)) → Except Unclosed (List Token)
  | _, [] => .ok []
  | line, .plain t :: rest =>
    return (← tokensFrom line 0 t) ++ (← tokensOfRegions (lineAfter line t) rest)
  | line, .found block :: rest =>
    return .raw block :: (← tokensOfRegions (lineAfter line block) rest)

/-- The tokens of a text. -/
def tokens (s : List Char) : Except Unclosed (List Token) :=
  tokensOfRegions 1 (Text.regions Template.rawBlock? s)

/-- The text with every token written anew. -/
def expand (s : List Char) : Except Unclosed (List Char) :=
  return (← tokens s).flatMap Token.expansion

/-- The text with one more `$` in front of each `${`. -/
def escape : List Char → List Char
  | '$' :: '{' :: r => '$' :: '$' :: '{' :: escape r
  | c :: r => c :: escape r
  | [] => []

/-! ### Small facts -/

@[simp] theorem expand_nil : expand [] = .ok [] := rfl

/-- A character that neither opens an interpolation nor an escape stays as it is. -/
theorem tokensFrom_cons {c : Char} (h : c ≠ '$') (line : Nat) (r : List Char) :
    tokensFrom line 0 (c :: r) = (.plain c :: ·) <$> tokensFrom (nextLine line c) 0 r := by
  rw [tokensFrom]
  · cases tokensFrom (nextLine line c) 0 r <;> rfl
  · rintro r' rfl; simp_all
  · rintro r' rfl; simp_all

end Imprint.Shorthand
