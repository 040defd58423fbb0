import Imprint.Yaml.Plain
import Imprint.Yaml.Tag

/-!
# The tokens of a YAML text

A text is read as tokens: values, punctuation, and the starts and ends of blocks, which are not
written but follow from the indentation.

That a value is a key shows only at the colon behind it. Until then it is a *candidate*. A candidate
has to meet its colon on the same line and within 1024 characters. When it does, the token that
marks a key, and if need be the start of a block, belongs in front of it: this is noted as
a *splice*, and the tokens themselves are only ever added at the end.

When a text cannot be read on, the tokens up to there count, except those that could still have
turned out to stand behind a splice.

## Main definitions

* `Imprint.Yaml.Token`, `Imprint.Yaml.Style`: one token.
* `Imprint.Yaml.Layout`: how far a text has been read.
* `Imprint.Yaml.Layout.step`: reads one more token.
* `Imprint.Yaml.tokens`: the tokens of a text.

## Main results

* `Imprint.Yaml.Layout.spliced_nil`: without splices the tokens are those that were read.
-/

namespace Imprint.Yaml

/-- How a value is written. -/
inductive Style where
  /-- Without quotes. -/
  | plain
  /-- As a block whose lines are kept. -/
  | literal
  /-- Between quotes, or as a block whose lines are folded. -/
  | other
  deriving DecidableEq, Repr

/-- One token. -/
inductive Token where
  | directive (d : Directive)
  | documentStart
  | documentEnd
  | textEnd
  | sequenceStart
  | mappingStart
  | blockEnd
  | flowSequenceStart
  | flowSequenceEnd
  | flowMappingStart
  | flowMappingEnd
  | comma
  | dash
  | key
  | value
  | alias (name : String)
  | anchor (name : String)
  | tag (t : Tag)
  | scalar (style : Style) (text : String)
  deriving DecidableEq, Repr

/-- A token that may turn out to start a key. -/
structure Candidate where
  /-- The number of tokens in front of it. -/
  position : Nat
  /-- Whether anything but a key would be misplaced here. -/
  required : Bool
  /-- Where it starts. -/
  mark : Mark
  deriving DecidableEq, Repr

/-- Whether it is too late for a candidate to become a key. -/
def Candidate.isLate (k : Candidate) (here : Mark) : Bool :=
  decide (k.mark.line < here.line) || decide (k.mark.index + 1024 < here.index)

/-- A key in front of the token with number `position`, perhaps the first of a block. -/
structure Splice where
  position : Nat
  startsBlock : Bool
  deriving DecidableEq, Repr

/-- How far a text has been read. -/
structure Layout where
  cursor : Cursor
  /-- The tokens read so far, the newest first. -/
  read : List Token := []
  splices : List Splice := []
  /-- The least column of the lines that belong to the innermost block. -/
  margin : Nat := 0
  /-- The margins of the blocks around it, the innermost first. -/
  margins : List Nat := []
  /-- Whether a key may start here. -/
  keyAllowed : Bool := true
  candidate : Option Candidate := none
  /-- The candidates outside of each flow collection that is open, the innermost first. -/
  outer : List (Option Candidate) := []
  deriving Repr

namespace Layout

/-- One step of reading; it fails when the text cannot be read on. -/
abbrev Step (α : Type) := StateT Layout Option α

/-- A reading of characters as a step. -/
def scan {α : Type} (p : Scan α) : Step α := do
  let (a, c) ← p.run (← get).cursor
  modify ({ · with cursor := c })
  return a

/-- Whether a flow collection is open. -/
def inFlow : Step Bool :=
  return !(← get).outer.isEmpty

/-- Adds a token at the end. -/
def add (t : Token) : Step Unit :=
  modify fun s => { s with read := t :: s.read }

/-- Says whether a key may start next. -/
def allowKey (allowed : Bool) : Step Unit :=
  modify ({ · with keyAllowed := allowed })

/-! ### Candidates -/

/-- The innermost candidate does not become a key. -/
def dropCandidate : Step Unit := do
  guard !((← get).candidate.any Candidate.required)
  modify ({ · with candidate := none })

/-- What is read next becomes a candidate where a key may start. -/
def saveCandidate : Step Unit := do
  if (← get).keyAllowed then
    dropCandidate
    modify fun s =>
      let mark := s.cursor.mark
      let required := s.outer.isEmpty && s.margin == mark.column + 1
      { s with candidate := some ⟨s.read.length, required, mark⟩ }

/-- A candidate that is not too late; none that is required may be too late. -/
def inTime? (here : Mark) : Option Candidate → Option (Option Candidate)
  | none => some none
  | some k =>
    if !k.isLate here then some (some k)
    else if k.required then none
    else some none

/-- Forgets the candidates for which it is too late. -/
def dropLate : Step Unit := do
  let s ← get
  let candidate ← inTime? s.cursor.mark s.candidate
  let outer ← (s.outer.mapM (inTime? s.cursor.mark) : Option (List (Option Candidate)))
  set { s with candidate, outer }

/-! ### Blocks -/

/-- Whether a block that starts in the given column lies inside the innermost one. -/
def opensBlock (s : Layout) (column : Nat) : Bool :=
  s.outer.isEmpty && decide (s.margin ≤ column)

/-- The layout inside of a block that starts in the given column. -/
def enterBlock (s : Layout) (column : Nat) : Layout :=
  { s with margin := column + 1, margins := s.margin :: s.margins }

/-- Starts a block in the column of the cursor when it lies inside the innermost one. -/
def openBlock (t : Token) : Step Unit := do
  let s ← get
  let column := s.cursor.mark.column
  if s.opensBlock column then
    set (s.enterBlock column)
    add t

/-- The margins that are left, and the number of blocks that end, when no margin may exceed
`limit`. -/
def leave (limit : Nat) : Nat → List Nat → Nat × Nat × List Nat
  | margin, [] => (0, margin, [])
  | margin, m :: ms =>
    if margin ≤ limit then (0, margin, m :: ms)
    else
      let (k, margin, ms) := leave limit m ms
      (k + 1, margin, ms)

/-- Ends the blocks whose margin exceeds `limit`. -/
def closeBlocks (limit : Nat) : Step Unit := do
  let s ← get
  if s.outer.isEmpty then
    let (k, margin, margins) := leave limit s.margin s.margins
    set { s with margin, margins, read := List.replicate k Token.blockEnd ++ s.read }

/-! ### Steps -/

/-- The mark of the byte order, which may stand at the start of a line. -/
def byteOrderMark : Char := '\uFEFF'

/-- Moves over blanks, comments and line breaks, at most `n` lines. A new line outside of flow
collections may start with a key; where a key may start, tabs are no blanks. -/
def skipGap : Nat → Step Unit
  | 0 => return ()
  | n + 1 => do
    let c := (← get).cursor
    if c.mark.column == 0 && c.rest.head? == some byteOrderMark then scan (Scan.skip 1)
    let tabs := (← inFlow) || !(← get).keyAllowed
    discard (scan (Scan.all fun c => c == ' ' || (tabs && c == '\t')))
    scan Scan.comment
    match ← scan Scan.lineBreak with
    | some _ =>
      if !(← inFlow) then allowKey true
      skipGap n
    | none => return ()

/-- The end of the text, which also ends a line. -/
def finish : Step Unit := do
  modify fun s => { s with cursor := { s.cursor with mark := s.cursor.mark.lineEnd } }
  closeBlocks 0
  dropCandidate
  allowKey false
  add .textEnd

/-- A directive. -/
def takeDirective : Step Unit := do
  closeBlocks 0
  dropCandidate
  allowKey false
  add (.directive (← scan directive))

/-- The start or the end of a document. -/
def takeDocumentMark (t : Token) : Step Unit := do
  closeBlocks 0
  dropCandidate
  allowKey false
  scan (Scan.skip 3)
  add t

/-- The start of a flow collection. -/
def openFlow (t : Token) : Step Unit := do
  saveCandidate
  modify fun s => { s with candidate := none, outer := s.candidate :: s.outer }
  allowKey true
  scan (Scan.skip 1)
  add t

/-- The end of a flow collection. -/
def closeFlow (t : Token) : Step Unit := do
  dropCandidate
  modify fun s =>
    match s.outer with
    | k :: ks => { s with candidate := k, outer := ks }
    | [] => s
  allowKey false
  scan (Scan.skip 1)
  add t

/-- A comma between the items of a flow collection. -/
def takeComma : Step Unit := do
  dropCandidate
  allowKey true
  scan (Scan.skip 1)
  add .comma

/-- The dash in front of an item of a block. -/
def takeDash : Step Unit := do
  if !(← inFlow) then
    guard (← get).keyAllowed
    openBlock .sequenceStart
  dropCandidate
  allowKey true
  scan (Scan.skip 1)
  add .dash

/-- The mark in front of a key that may be any value. -/
def takeKey : Step Unit := do
  if !(← inFlow) then
    guard (← get).keyAllowed
    openBlock .mappingStart
  dropCandidate
  allowKey !(← inFlow)
  scan (Scan.skip 1)
  add .key

/-- The colon between a key and its value. A candidate becomes the key. -/
def takeColon : Step Unit := do
  let s ← get
  match s.candidate with
  | some k =>
    let startsBlock := s.opensBlock k.mark.column
    let s := if startsBlock then s.enterBlock k.mark.column else s
    set { s with
      splices := ⟨k.position, startsBlock⟩ :: s.splices, candidate := none, keyAllowed := false }
  | none =>
    if !(← inFlow) then
      guard s.keyAllowed
      openBlock .mappingStart
    allowKey !(← inFlow)
  scan (Scan.skip 1)
  add .value

/-- A token that can start a key. -/
def takeWord (p : Scan Token) : Step Unit := do
  saveCandidate
  allowKey false
  add (← scan p)

/-- A quoted value. -/
def takeQuoted (q : Quote) : Step Unit :=
  takeWord do
    return .scalar .other (String.ofList (← quoted q))

/-- A block value. -/
def takeBlock : Step Unit := do
  dropCandidate
  allowKey true
  let (folded, text) ← scan (block (← get).margin)
  add (.scalar (if folded then .other else .literal) (String.ofList text))

/-- A plain value. Behind it a key may start when it has led to another line. -/
def takePlain : Step Unit := do
  saveCandidate
  allowKey false
  let (text, moved) ← scan (plain (← inFlow) (← get).margin)
  if moved then allowKey true
  add (.scalar .plain (String.ofList text))

/-- The characters that a plain value cannot start with, whatever follows. -/
def isReserved (c : Char) : Bool :=
  [',', '[', ']', '{', '}', '#', '&', '*', '!', '|', '>', '\'', '"', '%', '@', '\x60'].contains c

/-- Whether a plain value can start with `c`. -/
def startsPlain (flow : Bool) (c : Char) (next : List Char) : Bool :=
  if isGap c then false
  else if c == '-' then !next.head?.any isBlank
  else if c == '?' || c == ':' then !flow && !endsWord next
  else !isReserved c

/-- One more token, or several; the result tells whether the text has ended. -/
def take : Step Bool := do
  skipGap ((← get).cursor.rest.length + 1)
  dropLate
  let here := (← get).cursor
  closeBlocks (here.mark.column + 1)
  let flow ← inFlow
  match here.rest with
  | [] =>
    finish
    return true
  | c :: next =>
    let alone := endsWord next
    if here.mark.column == 0 && c == '%' then takeDirective
    else if here.mark.column == 0 && seesDocumentMark here.rest then
      takeDocumentMark (if c == '-' then .documentStart else .documentEnd)
    else if c == '[' then openFlow .flowSequenceStart
    else if c == '{' then openFlow .flowMappingStart
    else if c == ']' then closeFlow .flowSequenceEnd
    else if c == '}' then closeFlow .flowMappingEnd
    else if c == ',' then takeComma
    else if c == '-' && alone then takeDash
    else if c == '?' && (flow || alone) then takeKey
    else if c == ':' && (flow || alone) then takeColon
    else if c == '*' then takeWord (.alias <$> anchorName)
    else if c == '&' then takeWord (.anchor <$> anchorName)
    else if c == '!' then takeWord (.tag <$> tag flow)
    else if (c == '|' || c == '>') && !flow then takeBlock
    else if c == '\'' then takeQuoted .single
    else if c == '"' then takeQuoted .double
    else if startsPlain flow c next then takePlain
    else failure
    return false

/-- One more token, or several, after which it may be too late for some candidates. -/
def step : Step Bool := do
  let ended ← take
  dropLate
  return ended

/-! ### All tokens -/

/-- Some tokens with the keys in front of them, numbered from `n` on. -/
def splice (splices : List Splice) : Nat → List Token → List Token
  | _, [] => []
  | n, t :: ts =>
    match splices.find? (·.position == n) with
    | some p =>
      if p.startsBlock then .mappingStart :: .key :: t :: splice splices (n + 1) ts
      else .key :: t :: splice splices (n + 1) ts
    | none => t :: splice splices (n + 1) ts

/-- The tokens read so far, in order. -/
def tokens (s : Layout) : List Token :=
  splice s.splices 0 s.read.reverse

/-- The tokens that count when the text cannot be read on. -/
def firmTokens (s : Layout) : List Token :=
  let held := ((s.candidate :: s.outer).filterMap id).map Candidate.position
  splice s.splices 0 (s.read.reverse.take (held.foldl min s.read.length))

/-- The tokens that at most `n` more steps lead to. -/
def run : Nat → Layout → List Token
  | 0, s => s.firmTokens
  | n + 1, s =>
    match step.run s with
    | some (true, t) => t.tokens
    | some (false, t) => run n t
    | none => s.firmTokens

/-! ### Small facts -/

theorem spliced_nil (n : Nat) (ts : List Token) : splice [] n ts = ts := by
  induction ts generalizing n with
  | nil => rfl
  | cons t ts ih => simp [splice, ih]

end Layout

/-- The tokens of a text, up to where it cannot be read on. Each step moves over a character. -/
def tokens (text : List Char) : List Token :=
  if text.all isAllowed then Layout.run (text.length + 1) { cursor := { rest := text } } else []

end Imprint.Yaml
