import Imprint.Shell.Token

/-!
# From a script to its commands

The tokens of a script are put together into commands. Some words have a meaning of their own where
a command may start: they begin and end conditions and repetitions.

A script is read line by line, so the lines in front of one that cannot be read still count.

## Main definitions

* `Imprint.Shell.Script`, `Imprint.Shell.Script.ofText`: the commands of a script.
* `Imprint.Shell.SyntaxFault.text`: the message of a fault.
-/

namespace Imprint.Shell

/-- The message of a fault. -/
def SyntaxFault.text : SyntaxFault → String
  | .unterminatedQuote => "Syntax error: Unterminated quoted string"
  | .unterminatedBackquote => "Syntax error: EOF in backquote substitution"
  | .missingBrace => "Syntax error: Missing '\x7d'"
  | .missingParentheses => "Syntax error: Missing '))'"
  | .badSubstitution => "Bad substitution"
  | .badLoopVariable => "Syntax error: Bad for loop variable"
  | .unexpected found none => s!"Syntax error: {found} unexpected"
  | .unexpected found (some expected) =>
    "Syntax error: " ++ found ++ " unexpected (expecting \"" ++ expected ++ "\")"

/-- Putting tokens together; a fault comes with its line. -/
abbrev Reader (α : Type) := StateT (List (Token × Nat)) (Except (SyntaxFault × Nat)) α

namespace Reader

/-- The line of the next token. -/
def line : Reader Nat :=
  return ((← get).head?.map (·.2)).getD 0

/-- The script cannot be read on. -/
def refuse {α : Type} (fault : SyntaxFault) : Reader α := do
  throw (fault, ← line)

/-- The next token; none at the end of the script. -/
def next? : Reader (Option Token) := do
  match ← get with
  | (.stop (some fault), _) :: _ => refuse fault
  | (.stop none, _) :: _ => return none
  | (t, _) :: _ => return some t
  | [] => return none

/-- Moves over the next token. -/
def advance : Reader Unit :=
  modify List.tail

/-- A word that is written without quotes and expansions. -/
def bareText? (w : Word) : Option String :=
  match w with
  | [.text s false] => some (String.ofList s)
  | _ => none

/-- The next word, when it is a bare one. -/
def bare? : Reader (Option String) := do
  match ← next? with
  | some (.word w) => return bareText? w
  | _ => return none

/-- The words that end a list of commands. -/
def closers : List String :=
  ["then", "else", "elif", "fi", "do", "done", "\x7d", "esac"]

/-- The words with a meaning of their own. -/
def reserved : List String :=
  ["if", "while", "until", "for", "case", "!", "\x7b"] ++ closers

/-- How messages name a token. -/
def tokenName : Option Token → String
  | none => endName
  | some (.word w) =>
    match (bareText? w).filter reserved.contains with
    | some text => "\"" ++ text ++ "\""
    | none => "word"
  | some (.redirect _ _) => "redirection"
  | some (.operator text) => "\"" ++ text ++ "\""
  | some .newline => "newline"
  | some (.stop _) => endName

/-- The next token makes no sense. -/
def unexpected {α : Type} (expected : Option String) : Reader α := do
  refuse (.unexpected (tokenName (← next?)) expected)

/-- Moves over the given word. -/
def expectWord (text : String) : Reader Unit := do
  if (← bare?) == some text then advance else unexpected (some text)

/-- Moves over the given operator. -/
def expectOperator (text : String) : Reader Unit := do
  if (← next?) == some (.operator text) then advance else unexpected (some text)

/-- Moves over line breaks, at most `n`. -/
def skipNewlines : Nat → Reader Unit
  | 0 => return ()
  | n + 1 => do
    if (← next?) == some .newline then
      advance
      skipNewlines n

/-- Moves over all line breaks that come next. -/
def newlines : Reader Unit := do
  skipNewlines (← get).length

/-- Whether a list of commands ends here. -/
def atEnd : Reader Bool := do
  match ← next? with
  | none => return true
  | some (.operator ")") => return true
  | some (.word w) => return (bareText? w).any closers.contains
  | _ => return false

/-- The variable and the value of a word that sets a variable. -/
def assignment? (w : Word) : Option (String × Word) :=
  match w with
  | .text s false :: rest =>
    let name := s.takeWhile isNameChar
    match s.dropWhile isNameChar with
    | '=' :: value =>
      if name.head?.any isNameStart then
        some (String.ofList name, (if value.isEmpty then [] else [.text value false]) ++ rest)
      else none
    | _ => none
  | _ => none

/-- The redirections that come next, at most `n`. -/
def redirections : Nat → Reader (List Redirection)
  | 0 => return []
  | n + 1 => do
    match ← next? with
    | some (.redirect stream direction) =>
      advance
      match ← next? with
      | some (.word target) =>
        advance
        return ⟨stream, direction, target⟩ :: (← redirections n)
      | _ => unexpected none
    | _ => return []

/-- The rest of a simple command, of at most `n` tokens. -/
def simple : Nat → Simple → Reader Simple
  | 0, c => return c
  | n + 1, c => do
    match ← next? with
    | some (.word w) =>
      advance
      match if c.words.isEmpty then assignment? w else none with
      | some a => simple n { c with assignments := c.assignments ++ [a] }
      | none => simple n { c with words := c.words ++ [w] }
    | some (.redirect _ _) =>
      let rs ← redirections 1
      simple n { c with redirections := c.redirections ++ rs }
    | _ => return c

/-- The variable of a repetition. -/
def loopVariable : Reader String := do
  match (← bare?).filter fun s => s.toList.all isNameChar && s.toList.head?.any isNameStart with
  | some name =>
    advance
    return name
  | none => refuse .badLoopVariable

mutual

/-- A list of commands; `nested` says whether it may go on behind a line break. Only where the
script ends may it be empty. -/
def list : Nat → (nested : Bool) → Reader Command
  | 0, _ => unexpected none
  | n + 1, nested => do
    if nested then newlines
    if (← next?).isNone then return .nothing
    let a ← chain n
    match ← next? with
    | some (.operator ";") =>
      advance
      return .sequence a (← listAfter n nested)
    | some (.operator "&") =>
      advance
      return .sequence (.background a) (← listAfter n nested)
    | some .newline => if nested then return .sequence a (← listAfter n nested) else return a
    | _ => return a

/-- What follows a command of a list. -/
def listAfter : Nat → (nested : Bool) → Reader Command
  | 0, _ => unexpected none
  | n + 1, nested => do
    if nested then newlines
    if (← next?) == some .newline || (← atEnd) then return .nothing else list n nested

/-- Commands that are run depending on the ones before them. -/
def chain : Nat → Reader Command
  | 0 => unexpected none
  | n + 1 => do chainFrom n (← pipeline n)

/-- The commands that depend on `a`. -/
def chainFrom : Nat → Command → Reader Command
  | 0, _ => unexpected none
  | n + 1, a => do
    match ← next? with
    | some (.operator "&&") =>
      advance
      newlines
      chainFrom n (.andThen a (← pipeline n))
    | some (.operator "||") =>
      advance
      newlines
      chainFrom n (.orElse a (← pipeline n))
    | _ => return a

/-- Commands with pipes between them, perhaps negated. -/
def pipeline : Nat → Reader Command
  | 0 => unexpected none
  | n + 1 => do
    if (← bare?) == some "!" then
      advance
      return .negation (← pipes n)
    else pipes n

/-- Commands with pipes between them. -/
def pipes : Nat → Reader Command
  | 0 => unexpected none
  | n + 1 => do
    let a ← command n
    if (← next?) == some (.operator "|") then
      advance
      newlines
      return .pipe a (← pipes n)
    else return a

/-- One command. -/
def command : Nat → Reader Command
  | 0 => unexpected none
  | n + 1 => do
    if (← next?) == some (.operator "(") then
      advance
      let a ← list n true
      expectOperator ")"
      return .redirected (.apart a) (← redirections n)
    match (← bare?).filter reserved.contains with
    | some "\x7b" =>
      advance
      let a ← list n true
      expectWord "\x7d"
      return .redirected a (← redirections n)
    | some "if" =>
      advance
      let a ← condition n
      return .redirected a (← redirections n)
    | some "while" =>
      advance
      let a ← repetition n true
      return .redirected a (← redirections n)
    | some "until" =>
      advance
      let a ← repetition n false
      return .redirected a (← redirections n)
    | some "for" =>
      advance
      let a ← each n
      return .redirected a (← redirections n)
    | some _ => unexpected none
    | none =>
      let start ← get
      let c ← simple start.length { line := ← line }
      if (← get).length < start.length then return .simple c else unexpected none

/-- What follows `if` or `elif`. -/
def condition : Nat → Reader Command
  | 0 => unexpected none
  | n + 1 => do
    let c ← list n true
    expectWord "then"
    let yes ← list n true
    match ← bare? with
    | some "elif" =>
      advance
      return .choice c yes (← condition n)
    | some "else" =>
      advance
      let no ← list n true
      expectWord "fi"
      return .choice c yes no
    | _ =>
      expectWord "fi"
      return .choice c yes .nothing

/-- What follows `while` or `until`. -/
def repetition : Nat → Bool → Reader Command
  | 0, _ => unexpected none
  | n + 1, whileTrue => do
    let c ← list n true
    expectWord "do"
    let body ← list n true
    expectWord "done"
    return .repetition whileTrue c body

/-- What follows `for`. -/
def each : Nat → Reader Command
  | 0 => unexpected none
  | n + 1 => do
    let name ← loopVariable
    newlines
    let words ← if (← bare?) == some "in" then do
        advance
        let c ← simple (← get).length { line := 0, words := [[]] }
        pure (some c.words.tail)
      else pure none
    if (← next?) == some (.operator ";") then advance
    newlines
    expectWord "do"
    let body ← list n true
    expectWord "done"
    return .each name words body

end

/-- The commands of a line; none when the script ends. -/
def scriptLine : Reader (Option Command) := do
  newlines
  match ← next? with
  | none => return none
  | some _ =>
    let a ← list (8 * (← get).length + 8) false
    match ← next? with
    | none | some .newline => return some a
    | some _ => unexpected none

end Reader

/-- The commands of a script up to the line that cannot be read, and the fault of that line. -/
structure Script where
  command : Command
  fault : Option (SyntaxFault × Nat)

/-- The commands that some tokens stand for, at most `n` lines. -/
def Script.ofTokens : Nat → List (Token × Nat) → Script
  | 0, _ => ⟨.nothing, none⟩
  | n + 1, ts =>
    match Reader.scriptLine.run ts with
    | .error fault => ⟨.nothing, some fault⟩
    | .ok (none, _) => ⟨.nothing, none⟩
    | .ok (some a, rest) =>
      let more := Script.ofTokens n rest
      ⟨.sequence a more.command, more.fault⟩

/-- The commands of a script. -/
def Script.ofText (text : List Char) : Script :=
  let ts := tokens text
  .ofTokens ts.length ts

end Imprint.Shell
