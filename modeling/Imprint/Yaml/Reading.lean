import Imprint.Yaml.Scalar

/-!
# Reading records from a document

A node is read as a value of a certain kind: a text, a truth value, a number, a list, a value that
may be missing, or a record with named fields. A reading fails with a *flaw*, which says where and
why. Readings go through the document in the order of the text, so the first flaw is found; a broken
node is a flaw when a reading comes to it.

A record is written as a mapping from field names to values. A field that is not given keeps its
value.

## Main definitions

* `Imprint.Yaml.Step`, `Imprint.Yaml.Place`: where in a document a node stands.
* `Imprint.Yaml.Flaw`: why a node cannot be read.
* `Imprint.Yaml.Read`: a way to read a node.
* `Imprint.Yaml.Read.text`, `Imprint.Yaml.Read.truth`, `Imprint.Yaml.Read.natural`,
  `Imprint.Yaml.Read.list`, `Imprint.Yaml.Read.maybe`, `Imprint.Yaml.Read.record`.
-/

namespace Imprint.Yaml

/-- One step from a node to a node below it. -/
inductive Step where
  /-- To the value of a key. -/
  | key (name : String)
  /-- To an item. -/
  | index (n : Nat)
  /-- To the value of a key that is no value itself. -/
  | unnamed
  deriving DecidableEq, Repr

/-- Where a node stands: the root of its document and the steps from there, the last one first. -/
structure Place where
  root : Node
  steps : List Step := []

/-- The place one step further. -/
def Place.below (p : Place) (s : Step) : Place :=
  { p with steps := s :: p.steps }

/-- The node that a node of the document stands for. -/
def Place.target (p : Place) (node : Node) : Node :=
  p.root.follow node

/-- The text of a step behind the text of the steps in front of it, if there are any. -/
def Step.after (above : Option String) : Step → String
  | .index n => above.getD "." ++ s!"[{n}]"
  | .key name => (above.map (· ++ ".")).getD "" ++ name
  | .unnamed => (above.map (· ++ ".")).getD "" ++ "?"

/-- The text of some steps, the last one first. -/
def Step.path : List Step → Option String
  | [] => none
  | s :: above => some (s.after (path above))

/-- Why a node cannot be read. -/
inductive Flaw where
  /-- The text makes no sense here. -/
  | malformed
  /-- Something of another kind was found. -/
  | unexpected (place : List Step) (found expected : String)
  /-- A record has no field with this name. -/
  | unknownField (place : List Step) (name : String) (fields : List String)
  /-- A field is given twice. -/
  | repeatedField (place : List Step) (name : String)
  deriving DecidableEq, Repr

/-- A name between backquotes. -/
def quotedName (name : String) : String :=
  "`" ++ name ++ "`"

/-- A text with the place that it is about in front. -/
def located (place : List Step) (text : String) : String :=
  ((Step.path place).map (· ++ ": ")).getD "" ++ text

/-- The text of a flaw, when there is more to say than that the text makes no sense. -/
def Flaw.text? : Flaw → Option String
  | .malformed => none
  | .unexpected place found expected =>
    some (located place s!"invalid type: {found}, expected {expected}")
  | .unknownField place name fields =>
    let known := String.intercalate ", " (fields.map quotedName)
    some (located place s!"unknown field {quotedName name}, expected one of {known}")
  | .repeatedField place name =>
    some (located place s!"duplicate field {quotedName name}")

/-- A way to read a node. -/
abbrev Read (α : Type) := Place → Node → Except Flaw α

namespace Read

variable {α : Type}

/-- The flaw of a node that is not what was expected. -/
def unexpected (expected : String) : Read α := fun p node =>
  match node.found? with
  | some found => .error (.unexpected p.steps found expected)
  | none => .error .malformed

/-- A text: the characters of any value. -/
def text (expected : String) : Read String := fun p node =>
  match p.target node with
  | .scalar _ _ _ s => .ok s
  | node => unexpected expected p node

/-- Whether a value may be read as the given kind: it stands without quotes, or as a block with the
tag of that kind. -/
def mayBe (kind : String) (tag : Option String) (style : Style) : Bool :=
  style == .plain || (style == .literal && tag == some (ownTag kind))

/-- A truth value. -/
def truth : Read Bool := fun p node =>
  match p.target node with
  | node@(.scalar _ tag style s) =>
    match if mayBe "bool" tag style then truth? s.toList else none with
    | some b => .ok b
    | none => unexpected "a boolean" p node
  | node => unexpected "a boolean" p node

/-- A natural number of at most `bits` binary digits. -/
def natural (bits : Nat) (expected : String) : Read Nat := fun p node =>
  match p.target node with
  | node@(.scalar _ tag style s) =>
    let n? := if mayBe "int" tag style then natural? s.toList else none
    match n?.filter (Decimal.fitsUnsigned bits) with
    | some n => .ok n
    | none => unexpected expected p node
  | node => unexpected expected p node

/-- Whether a value without any characters stands at a node, or nothing at all. -/
def isEmpty : Node → Bool
  | .scalar _ _ .plain "" => true
  | .absent => true
  | _ => false

/-- A list; a node without a value is the empty list. -/
def list (item : Read α) : Read (List α) := fun p node =>
  match p.target node with
  | .sequence _ nodes => nodes.zipIdx.mapM fun (node, n) => item (p.below (.index n)) node
  | node => if isEmpty node then .ok [] else unexpected "a sequence" p node

/-- A value that may be missing: a node without a value, or one that says that there is nothing. -/
def maybe (item : Read α) : Read (Option α) := fun p node =>
  match p.target node with
  | node@(.scalar _ tag .plain s) =>
    match tag with
    | some t =>
      if t == ownTag "null" then (if isNothing s.toList then .ok none else .error .malformed)
      else some <$> item p node
    | none =>
      if s.isEmpty || isNothing s.toList then .ok none else some <$> item p node
  | .absent => .ok none
  | node => some <$> item p node

/-- The name of a field. -/
def fieldName (fields : List String) : Read String := fun p node => do
  let name ← text "field identifier" p node
  if fields.contains name then .ok name else .error (.unknownField p.steps name fields)

/-- The step to the value of a key. -/
def stepTo : Node → Step
  | .scalar _ _ _ name => .key name
  | _ => .unnamed

/-- The fields of a record given by name. Each may be given once. -/
def fieldsByName (fields : List String) (set : String → α → Read α) (p : Place) :
    List String → α → List (Node × Node) → Except Flaw α
  | _, a, [] => .ok a
  | seen, a, (k, v) :: entries => do
    let name ← fieldName fields p k
    if seen.contains name then .error (.repeatedField p.steps name)
    else
      let a ← set name a (p.below (stepTo k)) v
      fieldsByName fields set p (name :: seen) a entries

/-- A record with the given fields. `set` reads one field; the fields that are not given keep the
value that they have in `start`. -/
def record (expected : String) (fields : List String) (set : String → α → Read α) (start : α) :
    Read α := fun p node =>
  match p.target node with
  | .mapping _ entries => fieldsByName fields set p [] start entries
  | node => if isEmpty node then .ok start else unexpected expected p node

end Read

/-- Reads a whole document. What follows the root may not be flawed either. -/
def Document.read {α : Type} (d : Document) (r : Read α) : Except Flaw α := do
  let a ← r ⟨d.root, []⟩ d.root
  if d.isSound then .ok a else .error .malformed

end Imprint.Yaml
