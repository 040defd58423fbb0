import Imprint.Shell.Command
import Imprint.Text.Search

/-!
# The tokens of a shell script

A script is read as words, redirections and operators, among them the line break. A backslash takes
the meaning from the next character, single quotes from everything between them, and double quotes
from all but the dollar sign, the backquote and some backslashes. A hash sign at the start of a word
makes the rest of the line a comment.

The last token tells why the tokens end: the script ends, or it cannot be read on.

## Main definitions

* `Imprint.Shell.Token`, `Imprint.Shell.SyntaxFault`: one token; why a script cannot be read.
* `Imprint.Shell.expansion`: what a dollar sign stands for.
* `Imprint.Shell.word`: a word.
* `Imprint.Shell.tokens`: the tokens of a script.
-/

namespace Imprint.Shell

/-- Why a script cannot be read. -/
inductive SyntaxFault where
  | unterminatedQuote
  | unterminatedBackquote
  | missingBrace
  | missingParentheses
  | badSubstitution
  | badLoopVariable
  /-- Something stands where it makes no sense; perhaps a certain word should stand there. -/
  | unexpected (found : String) (expected : Option String)
  deriving DecidableEq, Repr

/-- One token. -/
inductive Token where
  | word (w : Word)
  | redirect (stream : Nat) (direction : Direction)
  | operator (text : String)
  | newline
  /-- There are no more tokens. -/
  | stop (fault : Option SyntaxFault)
  deriving DecidableEq, Repr

/-- How messages name the end of a script. -/
def endName : String :=
  "end of file"

/-- A blank between words. -/
def isBlank (c : Char) : Bool :=
  c == ' ' || c == '\t'

/-- A character that ends a word. -/
def endsWord (c : Char) : Bool :=
  isBlank c || ['\n', ';', '&', '|', '<', '>', '(', ')'].contains c

/-- A character that names start with. -/
def isNameStart (c : Char) : Bool :=
  c.isAlpha || c == '_'

/-- A character of a name. -/
def isNameChar (c : Char) : Bool :=
  c.isAlphanum || c == '_'

/-- A parameter that is named by a single sign. -/
def isSpecial (c : Char) : Bool :=
  ['@', '*', '#', '?', '$', '!', '-'].contains c

/-- The characters up to a closing sign, and what follows it. Opening signs come with closing ones
of their own, and no sign counts between quotes or behind a backslash. -/
def enclosed? (opening closing : Char) :
    (quote : Option Char) → (depth : Nat) → List Char → Option (List Char × List Char)
  | _, _, [] => none
  | some '\'', d, c :: r =>
    (enclosed? opening closing (if c == '\'' then none else some '\'') d r).map fun (s, rest) =>
      (c :: s, rest)
  | quote, d, '\\' :: c :: r =>
    (enclosed? opening closing quote d r).map fun (s, rest) => ('\\' :: c :: s, rest)
  | some q, d, c :: r =>
    (enclosed? opening closing (if c == q then none else some q) d r).map fun (s, rest) =>
      (c :: s, rest)
  | none, d, c :: r =>
    if c == closing && d == 0 then some ([], r)
    else
      let quote := if c == '"' || c == '\'' then some c else none
      let d := if c == closing then d - 1 else if c == opening then d + 1 else d
      (enclosed? opening closing quote d r).map fun (s, rest) => (c :: s, rest)

/-- The characters up to the two closing parentheses of an arithmetic expression, which may hold
parentheses itself, and what follows them. -/
def arithmetic? : (depth : Nat) → List Char → Option (List Char × List Char)
  | 0, ')' :: ')' :: r => some ([], r)
  | _, [] => none
  | d, c :: r =>
    let next := if c == '(' then d + 1 else if c == ')' then d - 1 else d
    (arithmetic? next r).map fun (s, rest) => (c :: s, rest)

/-- The script between backquotes, in which a backslash takes the meaning from some characters, and
what follows it. -/
def backquoted? : List Char → Option (List Char × List Char)
  | [] => none
  | '\x60' :: r => some ([], r)
  | '\\' :: c :: r =>
    let kept := if ['$', '\\', '\x60'].contains c then [c] else ['\\', c]
    (backquoted? r).map fun (s, rest) => (kept ++ s, rest)
  | c :: r => (backquoted? r).map fun (s, rest) => (c :: s, rest)

/-- What a sign behind the name of a parameter says about a missing value. -/
def fallback? : Char → Option Fallback
  | '-' => some .replace
  | '=' => some .assign
  | '?' => some .demand
  | '+' => some .present
  | _ => none

/-- The name of a parameter at the start of a text, and what follows it. -/
def parameterName (s : List Char) : List Char × List Char :=
  match s with
  | c :: r =>
    if c.isDigit then s.span Char.isDigit
    else if isNameStart c then s.span isNameChar
    else if isSpecial c then ([c], r)
    else ([], s)
  | [] => ([], [])

/-- What stands for the text between braces behind a dollar sign. -/
def braced? (s : List Char) : Option Expansion :=
  match s with
  | '#' :: c :: r =>
    let (name, rest) := parameterName (c :: r)
    if rest.isEmpty && !name.isEmpty then some (.length (String.ofList name)) else none
  | _ =>
    let (name, rest) := parameterName s
    if name.isEmpty then none
    else match rest with
      | [] => some (.parameter (String.ofList name))
      | ':' :: c :: word => (fallback? c).map (.fallback (String.ofList name) · true word)
      | c :: word => (fallback? c).map (.fallback (String.ofList name) · false word)

/-- What a dollar sign stands for, given what follows it. A dollar sign that nothing can follow
stands for itself. -/
def expansion (quoted : Bool) (s : List Char) : Except SyntaxFault (Piece × List Char) :=
  match s with
  | '(' :: '(' :: r =>
    match arithmetic? 0 r with
    | some (e, rest) => .ok (.expansion (.arithmetic e) quoted, rest)
    | none => .error .missingParentheses
  | '(' :: r =>
    match enclosed? '(' ')' none 0 r with
    | some (script, rest) => .ok (.expansion (.output script) quoted, rest)
    | none => .error (.unexpected endName (some ")"))
  | '{' :: r =>
    match enclosed? '{' '}' none 0 r with
    | some (inside, rest) =>
      match braced? inside with
      | some e => .ok (.expansion e quoted, rest)
      | none => .error .badSubstitution
    | none => .error .missingBrace
  | c :: r =>
    if isSpecial c || c.isDigit then .ok (.expansion (.parameter (String.ofList [c])) quoted, r)
    else if isNameStart c then
      let (name, rest) := parameterName s
      .ok (.expansion (.parameter (String.ofList name)) quoted, rest)
    else .ok (.text ['$'] quoted, s)
  | [] => .ok (.text ['$'] quoted, [])

/-- What a backquote stands for, given what follows it. -/
def backquote (quoted : Bool) (s : List Char) : Except SyntaxFault (Piece × List Char) :=
  match backquoted? s with
  | some (script, rest) => .ok (.expansion (.output script) quoted, rest)
  | none => .error .unterminatedBackquote

/-- The pieces up to a double quote, at most `n`, and what follows it. -/
def doubleQuoted : Nat → List Char → Except SyntaxFault (List Piece × List Char)
  | 0, _ => .error .unterminatedQuote
  | n + 1, s =>
    match s with
    | [] => .error .unterminatedQuote
    | '"' :: r => .ok ([], r)
    | '\\' :: '\n' :: r => doubleQuoted n r
    | '\\' :: c :: r => do
      let (ps, rest) ← doubleQuoted n r
      let kept := if ['$', '"', '\\', '\x60'].contains c then [c] else ['\\', c]
      return (.text kept true :: ps, rest)
    | '$' :: r => do
      let (p, r) ← expansion true r
      let (ps, rest) ← doubleQuoted n r
      return (p :: ps, rest)
    | '\x60' :: r => do
      let (p, r) ← backquote true r
      let (ps, rest) ← doubleQuoted n r
      return (p :: ps, rest)
    | c :: r => do
      let (ps, rest) ← doubleQuoted n r
      return (.text [c] true :: ps, rest)

/-- A word of at most `n` pieces and what follows it. -/
def word : Nat → List Char → Except SyntaxFault (Word × List Char)
  | 0, _ => .error .unterminatedQuote
  | n + 1, s =>
    match s with
    | [] => .ok ([], [])
    | '\'' :: r =>
      match Text.cutWhere? (· == '\'') r with
      | none => .error .unterminatedQuote
      | some (inside, r) => do
        let (ps, rest) ← word n r
        return (.text inside true :: ps, rest)
    | '"' :: r => do
      let (inside, r) ← doubleQuoted (r.length + 1) r
      let (ps, rest) ← word n r
      return ((if inside.isEmpty then [.text [] true] else inside) ++ ps, rest)
    | '\\' :: '\n' :: r => word n r
    | '\\' :: c :: r => do
      let (ps, rest) ← word n r
      return (.text [c] true :: ps, rest)
    | '$' :: r => do
      let (p, r) ← expansion false r
      let (ps, rest) ← word n r
      return (p :: ps, rest)
    | '\x60' :: r => do
      let (p, r) ← backquote false r
      let (ps, rest) ← word n r
      return (p :: ps, rest)
    | c :: r =>
      if endsWord c then .ok ([], s)
      else do
        let (ps, rest) ← word n r
        match ps with
        | .text t false :: ps => return (.text (c :: t) false :: ps, rest)
        | ps => return (.text [c] false :: ps, rest)

/-- A redirection of a stream and what follows it. Without a number the direction chooses the
stream. -/
def redirect? (stream : Option Nat) (s : List Char) : Option (Token × List Char) :=
  match s with
  | '<' :: '<' :: _ => none
  | '<' :: '&' :: r => some (.redirect (stream.getD 0) .same, r)
  | '<' :: r => some (.redirect (stream.getD 0) .read, r)
  | '>' :: '>' :: r => some (.redirect (stream.getD 1) .append, r)
  | '>' :: '&' :: r => some (.redirect (stream.getD 1) .same, r)
  | '>' :: '|' :: r => some (.redirect (stream.getD 1) .write, r)
  | '>' :: r => some (.redirect (stream.getD 1) .write, r)
  | _ => none

/-- An operator and what follows it. -/
def operator? (s : List Char) : Option (Token × List Char) :=
  match s with
  | '\n' :: r => some (.newline, r)
  | '&' :: '&' :: r => some (.operator "&&", r)
  | '|' :: '|' :: r => some (.operator "||", r)
  | ';' :: ';' :: r => some (.operator ";;", r)
  | ';' :: r => some (.operator ";", r)
  | '&' :: r => some (.operator "&", r)
  | '|' :: r => some (.operator "|", r)
  | '(' :: r => some (.operator "(", r)
  | ')' :: r => some (.operator ")", r)
  | _ => none

/-- One token and what follows it. A digit right in front of a redirection is the number of its
stream. -/
def token (s : List Char) : Except SyntaxFault (Token × List Char) :=
  match s with
  | d :: c :: _ =>
    if d.isDigit && (c == '<' || c == '>') then
      match redirect? (some (d.toNat - '0'.toNat)) s.tail with
      | some t => .ok t
      | none => .error (.unexpected endName none)
    else general s
  | _ => general s
where
  /-- One token that is no redirection of a numbered stream. -/
  general (s : List Char) : Except SyntaxFault (Token × List Char) :=
    match (redirect? none s).or (operator? s) with
    | some t => .ok t
    | none =>
      if s.head?.any endsWord then .error (.unexpected endName none)
      else do
        let (w, rest) ← word (s.length + 1) s
        return (.word w, rest)

/-- The tokens of a script, at most `n`, each with its line. -/
def tokensFrom : (n line : Nat) → List Char → List (Token × Nat)
  | 0, line, _ => [(.stop none, line)]
  | n + 1, line, s =>
    match s with
    | [] => [(.stop none, line)]
    | '\\' :: '\n' :: r => tokensFrom n (line + 1) r
    | '#' :: r => tokensFrom n line (r.dropWhile (· != '\n'))
    | c :: r =>
      if isBlank c then tokensFrom n line r
      else match token s with
        | .ok (t, rest) =>
          let passed := (s.take (s.length - rest.length)).count '\n'
          (t, line) :: tokensFrom n (line + passed) rest
        | .error fault => [(.stop (some fault), line + s.count '\n')]

/-- The tokens of a script, each with its line. -/
def tokens (s : List Char) : List (Token × Nat) :=
  tokensFrom (s.length + 1) 1 s

end Imprint.Shell
