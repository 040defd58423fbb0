import Imprint.Template.Expr.Described
import Imprint.Template.Function
import Imprint.Template.Origins
import Imprint.Template.Scope
import Imprint.Text.Cluster

/-!
# Rendering

Expressions are evaluated and nodes are rendered in a state of frames, blocks and macro origins, and
in surroundings that functions may ask. A fault ends the rendering and leaves the state as it was
when it arose, which is where the message says that it arose.

The rules for one expression or node are written over an `Evaluator` for whatever is nested in it or
called by it, and the evaluators are stacked to a height that no sensible template reaches.

## Main definitions

* `Imprint.Template.Rendering`: evaluation in a state.
* `Imprint.Template.Evaluator`, `Imprint.Template.evaluator`: evaluation of what is nested.
* `Imprint.Template.Library.render`: the text of a template for a binding.
-/

namespace Imprint.Template

/-- A block that is being rendered. -/
structure BlockRef where
  name : String
  template : String
  /-- The number of templates between it and the one that is rendered. -/
  level : Nat

/-- What a rendering goes by. -/
structure Setting where
  surroundings : Surroundings
  library : Library
  binding : Binding
  /-- The template that is rendered. -/
  main : Template
  /-- The templates that it extends, nearest first. -/
  parents : List String

/-- What a rendering changes. The frames and blocks on top come first. -/
structure State where
  frames : List Frame
  blocks : List BlockRef := []
  origins : Collection
  /-- The number of functions that have been called. -/
  calls : Nat := 0

/-- An evaluation. A fault keeps the state. -/
abbrev Rendering (α : Type) := ReaderT Setting (ExceptT Fault (StateM State)) α

/-- Whether a loop goes on after a part of it. -/
inductive Signal where
  | go
  | stop
  | skip
  deriving DecidableEq

/-- Evaluation of what is nested in an expression or a node. -/
structure Evaluator where
  value : Expr → Rendering Value
  /-- None is what cannot be written as a number. -/
  number : Operand → Rendering (Option Number)
  truth : Expr → Rendering Bool
  nodes : List Node → Rendering (List Char × Signal)

namespace Rendering

variable {α : Type}

/-- An evaluation that goes on in another way after a fault. Nothing goes on after a panic. -/
def rescue (x : Rendering α) (handle : Fault → Rendering α) : Rendering α :=
  tryCatch x fun e => if e.isPanic then throw e else handle e

/-- An evaluation whose fault is put into a wider one. -/
def within (wider : Fault → Fault) (x : Rendering α) : Rendering α :=
  rescue x fun e => throw (wider e)

/-- The name of the template whose text is being rendered. -/
def activeTemplate : Rendering String := do
  return ((← get).frames.head?.map (·.template)).getD (← read).main.name

/-- The value of a variable, or the text of all variables. -/
def valueAt (path : String) : Rendering Value := do
  if path = contextName then return .text (writtenContext (← read).binding (← get).frames)
  else ofExcept (valueOf (← read).binding (← get).frames (← activeTemplate) path)

/-- A frame on top of the others. -/
def push (f : Frame) : Rendering Unit :=
  modify fun s => { s with frames := f :: s.frames }

/-- The frames below the top. -/
def pop : Rendering Unit :=
  modify fun s => { s with frames := s.frames.tail }

end Rendering

open Rendering

/-! ### Calls -/

/-- The values of arguments, in the order in which they are written. An engine that keeps them in no
order may give the fault of any of them. -/
def argumentValues (ev : Evaluator) (args : List (String × Expr)) : Rendering Arguments :=
  args.mapM fun a => return (a.1, ← ev.value a.2)

/-- A filter applied to a value. -/
def applyFilter (ev : Evaluator) (v : Value) (c : Call) : Rendering Value := do
  match filter? c.name <|> (← read).surroundings.filter? c.name with
  | none => throw (.unknownFilter c.name)
  | some f =>
    within (.filterCall c.name) do
      let args ← argumentValues ev c.arguments
      ofExcept (f v args)

/-- The value of a function. -/
def applyFunction (ev : Evaluator) (c : Call) : Rendering Value := do
  match function? c.name with
  | none => throw (.unknownFunction c.name)
  | some f =>
    within (.functionCall c.name) do
      let args ← argumentValues ev c.arguments
      let calls := (← get).calls
      modify fun s => { s with calls := calls + 1 }
      ofExcept (f (← read).surroundings calls args)

/-- The outcome of a test. -/
def applyTest (ev : Evaluator) (path : String) (negated : Bool) (name : String)
    (args : List Expr) : Rendering Bool := do
  match test? name <|> (← read).surroundings.test? name with
  | none => throw (.unknownTest name)
  | some t =>
    within (.testCall name) do
      let args ← args.mapM ev.value
      let v ← rescue (some <$> valueAt path) fun _ => pure none
      let holds ← ofExcept (t v args)
      return holds != negated

/-- The template whose origins a call of a macro is looked up in. -/
def callingTemplate : Rendering String := do
  match (← get).blocks.head? with
  | some b => return b.template
  | none =>
    match (← read).parents.getLast? with
    | some root => return root
    | none => activeTemplate

/-- The text that a macro makes. -/
def applyMacro (ev : Evaluator) (origin name : String) (args : List (String × Expr)) :
    Rendering (List Char) := do
  let (template, m) ← ofExcept (findMacro (← get).origins (← callingTemplate) origin name)
  let values ← m.parameters.mapM fun p =>
    match args.lookup p.1, p.2 with
    | some e, _ => return (p.1, ← ev.value e)
    | none, some e => return (p.1, ← ev.value e)
    | none, none => throw (.missingParameter name p.1)
  push ⟨.definition origin name, template, values.reverse⟩
  let (s, _) ← ev.nodes m.body
  pop
  return s

/-! ### Numbers -/

/-- The number that digits with a point stand for. -/
def floatOf (written : List Char) : Rendering Decimal.Double :=
  match literalValue? written with
  | some x => return x
  | none => throw (.panic .noValue)

/-- A value as a number, which it has to be. -/
def numberIn (v : Value) (fault : Fault) : Rendering (Option Number) :=
  match Number.ofValue? v with
  | some n => return some n
  | none => throw fault

/-- The number that an expression stands for in arithmetic. -/
def numberOf (ev : Evaluator) (e : Expr) : Rendering (Option Number) := do
  if e.filters.isEmpty then ev.number e.operand
  else numberIn (← ev.value e) .notNumberResult

/-- The result of an operation on two numbers, none when one of them is. -/
def arithmeticOn (o : Arithmetic) (left right : Expr) (a b : Option Number) :
    Rendering (Option Number) :=
  match a, b with
  | some a, some b =>
    match o, a, b with
    | .mod, .int _, .int 0 =>
      throw (.remainderByZero (left.described ++ "/" ++ right.described))
    | o, a, b => ofExcept (o.apply a b)
  | _, _ => return none

/-- A part of a joined text in messages. -/
def Operand.shownPart : Operand → String
  | .text s => s!"'{String.ofList s}'"
  | .variable path => path
  | _ => "unknown"

/-- The number that an operand stands for. -/
def evalNumber (ev : Evaluator) : Operand → Rendering (Option Number)
  | .int n => return some (.int n)
  | .float written => return some (.float (← floatOf written))
  | .variable path => do numberIn (← valueAt path) (.notNumber path)
  | .arithmetic o left right => do
    let a ← numberOf ev left
    let b ← numberOf ev right
    arithmeticOn o left right a b
  | .call c => do numberIn (← applyFunction ev c) (.functionNotNumber c.name)
  | .text s => throw (.textInArithmetic (String.ofList s))
  | .bool b => throw (.truthInArithmetic b)
  | .joined parts => throw (.joinedInArithmetic (" ~ ".intercalate (parts.map Operand.shownPart)))
  | .test _ _ name _ => throw (.testInArithmetic name)
  | o => throw (.panic (.unreachable o.described))

/-! ### Truth -/

/-- Whether a value is in another. -/
def isMember (left right : Value) : Except Fault Bool :=
  match right, left with
  | .array vs, v => .ok (vs.contains v)
  | .text s, .text t => .ok (Text.occursIn t s)
  | .text _, v => .error (.notMember (String.ofList v.described))
  | .record fs, .text s => .ok (fs.lookup (String.ofList s)).isSome
  | .record _, v => .error (.notField (String.ofList v.described))
  | _, _ => .error .notCollection

/-- Whether an expression holds. An undefined variable does not. -/
def evalTruth (ev : Evaluator) (e : Expr) : Rendering Bool := do
  match e.operand with
  | .or left right => answer (← (do if ← ev.truth left then return true else ev.truth right))
  | .and left right => answer (← (do if ← ev.truth left then ev.truth right else return false))
  | .order c left right =>
    let a ← numberOf ev left
    let b ← numberOf ev right
    match a, b with
    | some a, some b => answer (c.holds a.toDouble b.toDouble)
    | _, _ => throw .noOrder
  | .equality different left right =>
    let a ← ev.value left
    let b ← ev.value right
    match areEqual a b with
    | none => return false
    | some equal => answer (equal != different)
  | .variable _ =>
    return (← rescue (ev.value e) fun _ => pure (.bool false)).isTruthy
  | .arithmetic .. | .int _ | .float _ =>
    answer ((← ev.number e.operand).any (!·.toDouble.isZero))
  | .member negated left right =>
    let a ← ev.value left
    let b ← ev.value right
    answer ((← ofExcept (isMember a b)) != negated)
  | .test path negated name args => answer (← applyTest ev path negated name args)
  | .bool b => answer b
  | .text s => answer !s.isEmpty
  | .call c =>
    match ← applyFunction ev c with
    | .bool b => answer b
    | _ => throw (.functionNotTruth c.name)
  | .joined _ => answer (← ev.value e).isTruthy
  | .macroCall origin name args => answer !(← applyMacro ev origin name args).isEmpty
  | .array items => answer !items.isEmpty
where
  /-- The outcome, negated when the expression is. -/
  answer (b : Bool) : Rendering Bool :=
    return b != e.negated

/-! ### Values -/

/-- The value that the first filter gives to an undefined variable. -/
def fallbackValue (ev : Evaluator) (c : Call) : Rendering Value :=
  match c.arguments.lookup "value" with
  | some e => ev.value e
  | none => throw .noFallback

/-- A value as a part of a joined text. -/
def partOf (v : Value) (fault : Fault) : Rendering (List Char) :=
  match v with
  | .text s => return s
  | .int n => return (toString n).toList
  | .float x => return x.jsonText
  | _ => throw fault

/-- A part of a joined text. -/
def partText (ev : Evaluator) : Operand → Rendering (List Char)
  | .text s => return s
  | .int n => return (toString n).toList
  | .float written => return literalText Decimal.Double.text written
  | .variable path => do partOf (← valueAt path) (.notJoinable path)
  | .call c => do partOf (← applyFunction ev c) (.callNotJoinable c.name)
  | _ => return []

/-- A number as a value. What cannot be written as one is a text. -/
def numberValue : Option Number → Value
  | some n => n.toValue
  | none => .text "NaN".toList

/-- The value of an operand, or none for a negated variable that is undefined. -/
def operandValue (ev : Evaluator) (e : Expr) : Rendering (Option Value) := do
  match e.operand with
  | .array items => return some (.array (← items.mapM ev.value))
  | .text s => return some (.text s)
  | .int n => return some (.int n)
  | .float written => return some (.float (← floatOf written))
  | .bool b => return some (.bool b)
  | .joined parts => return some (.text (← parts.mapM (partText ev)).flatten)
  | .variable path =>
    rescue (some <$> valueAt path) fun fault =>
      match e.fallback? with
      | some c => some <$> fallbackValue ev c
      | none => if e.negated then pure none else throw fault
  | .call c => some <$> applyFunction ev c
  | .macroCall origin name args => return some (.text (← applyMacro ev origin name args))
  | .test path negated name args => return some (.bool (← applyTest ev path negated name args))
  | .member negated left right =>
    let a ← ev.value left
    let b ← ev.value right
    return some (.bool ((← ofExcept (isMember a b)) != negated))
  | .arithmetic .. => return some (numberValue (← within .arithmetic (ev.number e.operand)))
  | .and .. | .or .. | .order .. | .equality .. => return some (.bool (← ev.truth e))

/-- Filters without effect of their own. -/
def isPassive (c : Call) : Bool :=
  c.name == "safe" || c.name == "default"

/-- The value of an expression. -/
def evalValue (ev : Evaluator) (e : Expr) : Rendering Value := do
  match ← operandValue ev e with
  | none => return .bool true
  | some v =>
    let v ← (e.filters.filter (!isPassive ·)).foldlM (applyFilter ev) v
    return if e.negated then .bool !v.isTruthy else v

/-! ### Nodes -/

/-- A value for a variable in the frame on top, or in the nearest that belongs to no loop. -/
def assign (everywhere : Bool) (name : String) (v : Value) : Rendering Unit :=
  modify fun s => { s with frames := go s.frames }
where
  /-- The frames with the value. -/
  go : List Frame → List Frame
    | [] => []
    | f :: below => if everywhere && f.isLoop then f :: go below else f.set name v :: below

/-- The name of what a loop runs over. -/
def containerName (e : Expr) : Except Fault String :=
  match e.operand with
  | .variable path => .ok path
  | .call c => .ok c.name
  | .array _ => .ok "an array literal"
  | o => .error (.notContainer o.described)

/-- The items that a loop runs over, one for each turn, each with its name when a record is run
over. A text gives as many turns as it has characters, but its items are what a reader sees as
characters, so the last turns may be without an item. The name of the item is unknown there, where
an engine that takes every item to be there breaks off. -/
def loopItems (name : String) (key : Option String) (v : Value) :
    Except Fault (List (Option Value × Option (String × String))) :=
  match v, key with
  | .array _, some _ => .error (.noKeys name)
  | .text _, some _ => .error (.noKeys name)
  | .record _, none => .error (.missingKey name)
  | .array vs, none => .ok (vs.map fun v => (some v, none))
  | .text s, none =>
    let seen := (Text.clusters s).map Value.text
    .ok ((seen.map some ++ List.replicate (s.length - seen.length) none).map (·, none))
  | .record fs, some key => .ok (fs.map fun f => (some f.2, some (key, f.1)))
  | _, _ => .error (.notIterable name)

/-- The turns of a loop, one after the other; the frame on top is that of the loop. -/
def renderTurns (ev : Evaluator) (body : List Node) : List Frame → Rendering (List Char)
  | [] => return []
  | f :: rest => do
    modify fun s => { s with frames := f :: s.frames.tail }
    let (s, signal) ← ev.nodes body
    if signal = .stop then return s
    else return s ++ (← renderTurns ev body rest)

/-- A loop over some items. -/
def renderLoop (ev : Evaluator) (variableName : String)
    (items : List (Option Value × Option (String × String))) (body : List Node) :
    Rendering (List Char) := do
  let template ← activeTemplate
  let frames := items.zipIdx.map fun x =>
    Frame.mk (.loop ⟨variableName, x.1.1, x.1.2, x.2, items.length⟩) template []
  push ⟨.insertion, template, []⟩
  let s ← renderTurns ev body frames
  pop
  return s

/-- The first of some templates that has a block, with its distance from the first. -/
def findBlock (l : Library) (name : String) (templates : List (String × Nat)) :
    Option (BlockRef × List Node) :=
  templates.findSome? fun x =>
    (l.find? x.1).bind fun t => (t.blocks.lookup name).map fun b => (⟨name, x.1, x.2⟩, b)

/-- A block: its body in the first template that has one, starting from the one being rendered. -/
def renderBlock (ev : Evaluator) (name : String) (body : List Node) :
    Rendering (List Char × Signal) := do
  let l := (← read).library
  let active ← activeTemplate
  let parents := ((l.find? active).map l.parents).getD []
  match findBlock l name (active :: parents).zipIdx with
  | some (ref, b) =>
    modify fun s => { s with blocks := ref :: s.blocks }
    ev.nodes b
  | none => ev.nodes body

/-- The body that the block being rendered has in the next template above. -/
def renderInherited (ev : Evaluator) : Rendering (List Char) := do
  let parents := (← read).parents
  match (← get).blocks.head? with
  | none => throw .noParentBlock
  | some b =>
    match findBlock (← read).library b.name ((parents.zipIdx 1).drop b.level) with
    | none => throw .noParentBlock
    | some (ref, body) =>
      modify fun s => { s with blocks := ref :: s.blocks }
      let (s, _) ← ev.nodes body
      modify fun s => { s with blocks := s.blocks.tail }
      if parents.length ≤ ref.level then
        modify fun s => { s with blocks := s.blocks.tail }
      return s

/-- The first of some templates that is there. -/
def renderInsertion (ev : Evaluator) (names : List String) (optional : Bool) :
    Rendering (List Char) := do
  let l := (← read).library
  match names.findSome? l.find? with
  | some t =>
    modify fun s => { s with
      origins := l.withOrigins t s.origins
      frames := ⟨.insertion, t.name, []⟩ :: s.frames }
    let (s, _) ← ev.nodes t.nodes
    pop
    return s
  | none => if optional then return [] else throw (.unknownTemplate names)

/-- The first branch whose condition holds. -/
def renderBranches (ev : Evaluator) (otherwise : List Node) :
    List (Expr × List Node) → Rendering (List Char × Signal)
  | [] => ev.nodes otherwise
  | (condition, body) :: rest => do
    if ← ev.truth condition then ev.nodes body else renderBranches ev otherwise rest

/-- What becomes of the loop whose body is being rendered. The body of an alternative belongs to the
loop around it, if there is one. -/
def signalled (word : String) (signal : Signal) : Rendering (List Char × Signal) := do
  if (← get).frames.head?.any (·.isLoop) then return ([], signal) else throw (.outsideLoop word)

/-- The text of a node. -/
def renderNode (ev : Evaluator) : Node → Rendering (List Char × Signal)
  | .text s => return (s, .go)
  | .verbatim s => return (s, .go)
  | .output e => return ((← ev.value e).render, .go)
  | .inherited => return (← renderInherited ev, .go)
  | .insertion names optional => return (← renderInsertion ev names optional, .go)
  | .importation .. => return ([], .go)
  | .definition .. => return ([], .go)
  | .extension parent => throw (.nestedExtension parent)
  | .block name body => renderBlock ev name body
  | .conditional bs otherwise => renderBranches ev otherwise bs
  | .loop key variableName container body otherwise => do
    let name ← ofExcept (containerName container)
    let items ← ofExcept (loopItems name key (← ev.value container))
    if items.isEmpty then ev.nodes otherwise
    else return (← renderLoop ev variableName items body, .go)
  | .filtered c body => do
    let (s, signal) ← ev.nodes body
    if c.name == "safe" then return (s, signal)
    else return ((← applyFilter ev (.text s) c).render, signal)
  | .assignment everywhere name e => do
    assign everywhere name (← ev.value e)
    return ([], .go)
  | .stop => signalled "break" .stop
  | .skip => signalled "continue" .skip

/-- The text of nodes, up to one after which their loop does not go on. -/
def renderNodes (ev : Evaluator) : List Node → Rendering (List Char × Signal)
  | [] => return ([], .go)
  | n :: rest => do
    let (s, signal) ← renderNode ev n
    if signal = .go then
      let (t, signal) ← renderNodes ev rest
      return (s ++ t, signal)
    else return (s, signal)

/-- An evaluator for what is nested at most so deep. -/
def evaluator : Nat → Evaluator
  | 0 => ⟨fun _ => throw endless, fun _ => throw endless, fun _ => throw endless,
      fun _ => throw endless⟩
  | n + 1 =>
    let ev := evaluator n
    ⟨evalValue ev, evalNumber ev, evalTruth ev, renderNodes ev⟩
where
  /-- The end of nesting that has no end. -/
  endless : Fault := .panic .stackOverflow

/-- The depth to which parts and calls may be nested. -/
def depthLimit : Nat := 4096

/-! ### Whole templates -/

/-- A fault and where it arose. -/
structure Failure where
  location : String
  fault : Fault

/-- The text of a failure. -/
def Failure.message (f : Failure) : String :=
  ": ".intercalate (f.location :: f.fault.headings)

/-- Where a fault arose, told from the state in which it did. -/
def locationOf (setting : Setting) (s : State) : String :=
  let main := setting.main
  let inMacro := match s.frames.head?.map (·.kind) with
    | some (.definition origin name) => s!": error while rendering macro `{origin}::{name}`"
    | _ => ""
  let inParent := match s.blocks.head? with
    | some b =>
      let having := fun n => ((setting.library.find? n).bind (·.blocks.lookup b.name)).isSome
      let owners := if having main.name then main.name :: setting.parents.filter having else []
      match owners[b.level]? with
      | some owner => if owner = main.name then "" else s!" (error happened in '{owner}')."
      | none => " (error happened in a parent template)"
    | none =>
      match setting.parents.getLast? with
      | some root => s!" (error happened in '{root}')."
      | none => ""
  s!"Failed to render '{main.name}'" ++ inMacro ++ inParent

/-- The text of a template for a binding, with the blanks at its ends. -/
def Library.renderAll (l : Library) (main : Template) (around : Surroundings) (b : Binding) :
    Except Failure (List Char) :=
  let parents := l.parents main
  let setting : Setting := ⟨around, l, b, main, parents⟩
  let root := ((parents.getLast?).bind l.find?).getD main
  let start : State :=
    { frames := [⟨.root, main.name, []⟩], origins := l.withOrigins main [] }
  let all := root.nodes.mapM (renderNode (evaluator depthLimit))
  match (all.run setting).run start with
  | (.ok texts, _) => .ok (texts.map Prod.fst).flatten
  | (.error fault, s) => .error ⟨locationOf setting s, fault⟩

/-- The text of a template for a binding. -/
def Library.render (l : Library) (main : Template) (around : Surroundings) (b : Binding) :
    Except Failure (List Char) :=
  (l.renderAll main around b).map Text.trim

end Imprint.Template
