import Imprint.Binding
import Imprint.Template.Filter

/-!
# Variables in scope

While a template is rendered, variables are looked up in a stack of frames and then in the binding.
A loop, a macro and an included template have a frame each; a macro does not see the frames below
its own.

One name is not looked up. It stands for a text that shows all variables in sight with their values.

A variable is written with parts: names after points and indices in brackets. An index in brackets
that is neither a number nor a quoted text is a variable of its own, and its value is put in its
place before the parts are taken one by one.

## Main definitions

* `Imprint.Template.Frame`: the variables of one loop, macro or template.
* `Imprint.Template.lookUp`: the value of a variable without brackets.
* `Imprint.Template.valueOf`: the value of a variable.
* `Imprint.Template.contextName`, `Imprint.Template.writtenContext`: the text of all variables.
-/

namespace Imprint.Template

/-- Where a loop is. -/
structure Turn where
  /-- The variable that runs over the items. -/
  variableName : String
  /-- The item of this turn, when there is one. -/
  item : Option Value
  /-- The variable that runs over the names of a record, and the name of this turn. -/
  key : Option (String × String) := none
  /-- The number of turns before this one. -/
  index : Nat
  count : Nat

/-- What a frame belongs to. -/
inductive FrameKind where
  | root
  | definition (origin name : String)
  | loop (turn : Turn)
  | insertion

/-- The variables of one loop, macro or template. -/
structure Frame where
  kind : FrameKind
  /-- The template whose text is being rendered. -/
  template : String
  values : List (String × Value) := []

namespace Frame

/-- The frame with a value for a variable. -/
def set (f : Frame) (name : String) (v : Value) : Frame :=
  { f with values := (name, v) :: f.values }

/-- Whether the frame belongs to a loop. -/
def isLoop (f : Frame) : Bool :=
  match f.kind with
  | .loop _ => true
  | _ => false

/-- Whether frames below this one are out of sight. -/
def isOpaque (f : Frame) : Bool :=
  match f.kind with
  | .root | .definition .. => true
  | .loop _ | .insertion => false

end Frame

/-- The name in front of the first point, and what follows it. -/
def splitPath (path : List Char) : List Char × Option (List Char) :=
  match Text.cutAt? '.' path with
  | some (root, rest) => (root, some rest)
  | none => (path, none)

/-- The value that a path reaches from the value of its root. -/
def Value.follow? (v : Value) : Option (List Char) → Option Value
  | none => some v
  | some rest => v.at? rest

/-! ### Look-up -/

/-- The value of a path in the variables of a frame. -/
def Frame.inVariables? (f : Frame) (path : List Char) : Option Value :=
  let (root, rest) := splitPath path
  (f.values.lookup (String.ofList root)).bind (·.follow? rest)

/-- The value of a path by the item of a loop, or by the state of the loop, which has a name of its
own. A variable of that name cannot be seen. -/
def Turn.reached? (t : Turn) (path : List Char) : Option Value :=
  let (root, rest) := splitPath path
  if root = "loop".toList then
    match rest.map String.ofList with
    | some "index" => some (.int (t.index + 1))
    | some "index0" => some (.int t.index)
    | some "first" => some (.bool (t.index == 0))
    | some "last" => some (.bool (t.index + 1 == t.count))
    | _ => none
  else if String.ofList root = t.variableName then t.item.bind (·.follow? rest)
  else none

/-- The value of a path in a loop. The name of the item stands for itself, with no parts. -/
def Turn.value? (t : Turn) (path : List Char) : Option Value :=
  match t.key with
  | some (variableName, name) =>
    if String.ofList path = variableName then some (.text name.toList) else t.reached? path
  | none => t.reached? path

/-- The value of a path in a frame. -/
def Frame.value? (f : Frame) (path : List Char) : Option Value :=
  match f.inVariables? path, f.kind with
  | some v, _ => some v
  | none, .loop turn => turn.value? path
  | none, _ => none

/-- The value of a path in the frames that are in sight. -/
def inFrames? (path : List Char) : List Frame → Option Value
  | [] => none
  | f :: below =>
    match f.value? path with
    | some v => some v
    | none => if f.isOpaque then none else inFrames? path below

/-- The value of a path in a binding, whose values are texts. -/
def inBinding? (b : Binding) (path : List Char) : Option Value :=
  let (root, rest) := splitPath path
  let key := if rest.isSome then unescapePart root else root
  (b.get? (String.ofList key)).bind fun s => (Value.text s.toList).follow? rest

/-- The value of a path without brackets. -/
def lookUp (b : Binding) (frames : List Frame) (path : List Char) : Option Value :=
  match inFrames? path frames with
  | some v => some v
  | none => inBinding? b path

/-! ### Indices -/

/-- Whether what stands between brackets is a number. -/
def isNumber (s : List Char) : Bool :=
  !s.isEmpty && s.all Char.isDigit && Decimal.fitsUnsigned 64 (Reader.decimalValue s)

/-- The variables that a path has between brackets, outermost ones only. The state is the depth of
the open brackets, with the characters passed since the outermost, in reverse. -/
def indexVariables : Option (Nat × List Char) → List Char → List (List Char)
  | _, [] => []
  | none, '[' :: '"' :: r => indexVariables none r
  | none, '[' :: '\'' :: r => indexVariables none r
  | none, '[' :: c :: r => indexVariables (some (0, [c])) r
  | none, _ :: r => indexVariables none r
  | some (0, passed), ']' :: r =>
    if isNumber passed.reverse then indexVariables none r
    else passed.reverse :: indexVariables none r
  | some (d + 1, passed), ']' :: r => indexVariables (some (d, ']' :: passed)) r
  | some (d, passed), '[' :: r => indexVariables (some (d + 1, '[' :: passed)) r
  | some (d, passed), c :: r => indexVariables (some (d, c :: passed)) r

/-- A path with the first occurrence of an index in brackets written as a part. -/
def putIndex (path index value : List Char) : List Char :=
  match splitAt? ('[' :: index ++ [']']) path with
  | some (before, behind) => before ++ '.' :: value ++ behind
  | none => path ++ '.' :: value
where
  /-- The two sides of the first occurrence of a text. -/
  splitAt? (sep : List Char) : List Char → Option (List Char × List Char)
    | [] => none
    | c :: r =>
      match Text.after? sep (c :: r) with
      | some behind => some ([], behind)
      | none => (splitAt? sep r).map fun x => (c :: x.1, x.2)

/-- A path in which brackets are written as points. -/
def withoutBrackets (path : List Char) : List Char :=
  [("/", "~1"), ("['", ".\""), ("[\"", ".\""), ("[", "."), ("']", "\""), ("\"]", "\""),
    ("]", "")].foldl (fun s x => Text.replaceAll x.1.toList x.2.toList s) path

/-- How the value of an index is written into a path. -/
def indexText? : Value → Option (List Char)
  | .text s => some ('"' :: s ++ ['"'])
  | .int n => some (toString n).toList
  | .float x => some x.jsonText
  | _ => none

/-- The value of a variable, seen from the template on top of the frames. Its indices are looked up
first; the number bounds how deep they can be nested. -/
def valueOfNested (b : Binding) (frames : List Frame) (template : String) :
    Nat → List Char → Except Fault Value
  | depth, path =>
    if !path.contains '[' then
      match lookUp b frames path with
      | some v => .ok v
      | none => .error (.unknownVariable (String.ofList path) template)
    else match depth with
      | 0 => .error (.panic .stackOverflow)
      | depth + 1 => do
        let mut evaluated := path
        for index in indexVariables none path do
          match valueOfNested b frames template depth index with
          | .error e => .error (.unknownIndex (String.ofList path) e)
          | .ok v =>
            match indexText? v with
            | none => .error (.wrongIndex (String.ofList index) (String.ofList path))
            | some s => evaluated := putIndex evaluated index s
        let final := withoutBrackets evaluated
        match lookUp b frames final with
        | some v => .ok v
        | none => .error (.unknownPart (String.ofList path) template (String.ofList final))

/-- The value of a variable. -/
def valueOf (b : Binding) (frames : List Frame) (template : String) (path : String) :
    Except Fault Value :=
  valueOfNested b frames template path.length path.toList

/-! ### All variables -/

/-- The name that stands for the text of all variables. -/
def contextName : String :=
  "__tera_context"

/-- The variables of a frame, those that were set last at the end. -/
def Frame.variables (f : Frame) : List (String × Value) :=
  f.values.reverse ++
    match f.kind with
    | .loop turn => turn.item.toList.map fun v => (turn.variableName, v)
    | _ => []

/-- The variables in sight: those of the binding, then those of the frames from the top down. The
frames end at a macro, from which the binding is not seen either. -/
def variablesInSight (b : Binding) (above : List (String × Value)) :
    List Frame → List (String × Value)
  | [] => b.entries.map (fun e => (e.1, .text e.2.toList)) ++ above
  | f :: below =>
    match f.kind with
    | .definition .. => above ++ f.variables
    | _ => variablesInSight b (above ++ f.variables) below

/-- The text of all variables in sight, in the order of their names. Of several with one name the
last counts. -/
def writtenContext (b : Binding) (frames : List Frame) : List Char :=
  Value.spreadRecord <|
    (variablesInSight b [] frames).foldl (fun es e => Binding.insertEntry e.1 e.2 es) []

end Imprint.Template
