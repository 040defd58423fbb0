import Imprint.Yaml.Token

/-!
# Nodes of a YAML document

A document is a tree of values, sequences and mappings. A node can carry an anchor, to which an
alias refers later. Where the text stops making sense, the tree ends in a broken node; everything in
front of it is there.

Anchors are numbered: an anchor takes the number of different names met before it, and a name stands
for the number that it was given last. An alias stands for the last node of the document that
carries its number.

## Main definitions

* `Imprint.Yaml.Node`: a node.
* `Imprint.Yaml.Node.follow`: the node that an alias stands for.
* `Imprint.Yaml.Document`, `Imprint.Yaml.Document.ofText`: the document that a text holds.
-/

namespace Imprint.Yaml

/-- A node of a document. -/
inductive Node where
  /-- A value, with its tag when it has one. -/
  | scalar (anchor : Option Nat) (tag : Option String) (style : Style) (text : String)
  | sequence (anchor : Option Nat) (items : List Node)
  | mapping (anchor : Option Nat) (entries : List (Node × Node))
  /-- The node with the anchor `n`. -/
  | alias (n : Nat)
  /-- The root of a text that holds no document. -/
  | absent
  /-- The place where the text stops making sense. -/
  | broken

namespace Node

mutual

/-- The nodes that carry the anchor `n`, in the order in which they start. -/
def anchored (n : Nat) : Node → List Node
  | node@(.scalar a _ _ _) => if a = some n then [node] else []
  | node@(.sequence a items) => (if a = some n then [node] else []) ++ anchoredItems n items
  | node@(.mapping a entries) => (if a = some n then [node] else []) ++ anchoredEntries n entries
  | .alias _ => []
  | .absent => []
  | .broken => []

/-- The nodes below some items that carry the anchor `n`. -/
def anchoredItems (n : Nat) : List Node → List Node
  | [] => []
  | item :: items => anchored n item ++ anchoredItems n items

/-- The nodes below some entries that carry the anchor `n`. -/
def anchoredEntries (n : Nat) : List (Node × Node) → List Node
  | [] => []
  | (k, v) :: entries => anchored n k ++ anchored n v ++ anchoredEntries n entries

end

/-- The node that a node stands for in the document with the given root. -/
def follow (root : Node) : Node → Node
  | .alias n => (root.anchored n).getLast?.getD .broken
  | node => node

/-- A value without any characters. -/
def empty : Node :=
  .scalar none none .plain ""

end Node

/-- What is left of the tokens, and the names that have a meaning so far. -/
structure Parsing where
  tokens : List Token
  /-- The meanings of the handles of tags. -/
  handles : List (String × String) := []
  /-- The numbers of the anchors, the newest first. -/
  anchors : List (String × Nat) := []

namespace Parsing

/-- Building nodes from tokens. Where that is not possible no token is left. -/
abbrev Build (α : Type) := StateM Parsing α

/-- The next token. -/
def next? : Build (Option Token) :=
  return (← get).tokens.head?

/-- Moves over the next token. -/
def advance : Build Unit :=
  modify fun s => { s with tokens := s.tokens.tail }

/-- Gives up. -/
def stop : Build Node := do
  modify ({ · with tokens := [] })
  return .broken

/-- The number of a new anchor. -/
def register (name : Option String) : Build (Option Nat) := do
  match name with
  | none => return none
  | some name =>
    let s ← get
    let n := (s.anchors.map (·.1)).eraseDups.length
    set { s with anchors := (name, n) :: s.anchors }
    return some n

/-- The tag that a written tag stands for, when its handle has a meaning. -/
def tagText (t : Tag) : Build (Option String) := do
  if t.handle.isEmpty then return some t.suffix
  else return ((← get).handles.lookup t.handle).map (· ++ t.suffix)

/-- Moves over an anchor when one follows. -/
def anchor? : Build (Option String) := do
  match ← next? with
  | some (.anchor name) =>
    advance
    return some name
  | _ => return none

/-- Moves over a tag when one follows. -/
def tag? : Build (Option Tag) := do
  match ← next? with
  | some (.tag t) =>
    advance
    return some t
  | _ => return none

/-- The anchor and the tag in front of a node, in any order. -/
def properties : Build (Option String × Option Tag) := do
  match ← anchor? with
  | some name => return (some name, ← tag?)
  | none =>
    let t ← tag?
    return (← anchor?, t)

/-- A node that may be missing: it is empty in front of one of the given tokens. -/
def orEmpty (ends : List Token) (p : Build Node) : Build Node := do
  match ← next? with
  | none => return .broken
  | some t => if ends.contains t then return .empty else p

mutual

/-- A node. `block` says whether it may be a block, `indentless` whether it may be a sequence of
items without an indentation of their own. -/
def node : Nat → (block indentless : Bool) → Build Node
  | 0, _, _ => stop
  | n + 1, block, indentless => do
    match ← next? with
    | some (.alias name) =>
      advance
      match (← get).anchors.lookup name with
      | some k => return .alias k
      | none => stop
    | _ =>
      let (name, written) ← properties
      match ← written.mapM tagText with
      | some none => stop
      | tag =>
        let tag := tag.join
        match ← next? with
        | some .dash =>
          if indentless then return .sequence (← register name) (← looseItems n)
          else bare name tag
        | some (.scalar style text) =>
          advance
          return .scalar (← register name) tag style text
        | some .flowSequenceStart =>
          advance
          return .sequence (← register name) (← flowItems n true)
        | some .flowMappingStart =>
          advance
          return .mapping (← register name) (← flowEntries n true)
        | some .sequenceStart =>
          if block then
            advance
            return .sequence (← register name) (← items n)
          else bare name tag
        | some .mappingStart =>
          if block then
            advance
            return .mapping (← register name) (← entries n)
          else bare name tag
        | none => stop
        | _ => bare name tag

/-- A node that consists of an anchor or a tag alone. -/
def bare (name tag : Option String) : Build Node := do
  if name.isSome || tag.isSome then
    return .scalar (← register name) tag .plain ""
  else stop

/-- The items of a block. -/
def items : Nat → Build (List Node)
  | 0 => return [← stop]
  | n + 1 => do
    match ← next? with
    | some .dash =>
      advance
      let item ← orEmpty [.dash, .blockEnd] (node n true false)
      return item :: (← items n)
    | some .blockEnd =>
      advance
      return []
    | _ => return [← stop]

/-- The items of a sequence without an indentation of its own. -/
def looseItems : Nat → Build (List Node)
  | 0 => return [← stop]
  | n + 1 => do
    match ← next? with
    | some .dash =>
      advance
      let item ← orEmpty [.dash, .key, .value, .blockEnd] (node n true false)
      return item :: (← looseItems n)
    | some _ => return []
    | none => return [.broken]

/-- The entries of a block. -/
def entries : Nat → Build (List (Node × Node))
  | 0 => return [(← stop, .broken)]
  | n + 1 => do
    match ← next? with
    | some .key =>
      advance
      let k ← orEmpty [.key, .value, .blockEnd] (node n true true)
      let v ← entryValue n
      return (k, v) :: (← entries n)
    | some .blockEnd =>
      advance
      return []
    | _ => return [(← stop, .broken)]

/-- The value of an entry of a block. -/
def entryValue : Nat → Build Node
  | 0 => stop
  | n + 1 => do
    match ← next? with
    | some .value =>
      advance
      orEmpty [.key, .value, .blockEnd] (node n true true)
    | some _ => return .empty
    | none => return .broken

/-- The items of a flow sequence. Between two items a comma is needed, and one may stand behind
the last. An item may be a single entry of a mapping. -/
def flowItems : Nat → (first : Bool) → Build (List Node)
  | 0, _ => return [← stop]
  | n + 1, first => do
    if (← next?) == some .flowSequenceEnd then
      advance
      return []
    else if !first && (← next?) != some .comma then return [← stop]
    else
      if !first then advance
      match ← next? with
      | some .flowSequenceEnd =>
        advance
        return []
      | some .key =>
        advance
        let entry ← flowPair n
        return .mapping none entry :: (← flowItems n false)
      | _ =>
        let item ← node n false false
        return item :: (← flowItems n false)

/-- The entry of an item that is a single entry. -/
def flowPair : Nat → Build (List (Node × Node))
  | 0 => return [(← stop, .broken)]
  | n + 1 => do
    let t ← next?
    let k ← orEmpty [.value, .comma, .flowSequenceEnd] (node n false false)
    if t.any [Token.value, .comma, .flowSequenceEnd].contains then advance
    let v ← flowValue n .flowSequenceEnd
    if (← next?).isNone then return [(k, v), (.broken, .broken)] else return [(k, v)]

/-- The value of an entry in a flow collection that ends with `close`. -/
def flowValue : Nat → (close : Token) → Build Node
  | 0, _ => stop
  | n + 1, close => do
    match ← next? with
    | some .value =>
      advance
      orEmpty [.comma, close] (node n false false)
    | some _ => return .empty
    | none => return .broken

/-- The entries of a flow mapping. -/
def flowEntries : Nat → (first : Bool) → Build (List (Node × Node))
  | 0, _ => return [(← stop, .broken)]
  | n + 1, first => do
    if (← next?) == some .flowMappingEnd then
      advance
      return []
    else if !first && (← next?) != some .comma then return [(← stop, .broken)]
    else
      if !first then advance
      match ← next? with
      | some .flowMappingEnd =>
        advance
        return []
      | some .key =>
        advance
        let k ← orEmpty [.value, .comma, .flowMappingEnd] (node n false false)
        let v ← flowValue n .flowMappingEnd
        return (k, v) :: (← flowEntries n false)
      | _ =>
        let k ← node n false false
        let v := if (← next?).isNone then .broken else .empty
        return (k, v) :: (← flowEntries n false)

end

/-! ### Documents -/

/-- The handles that have a meaning without a directive. -/
def standardHandles : List (String × String) :=
  [("!", "!"), ("!!", "tag:yaml.org,2002:")]

/-- The meanings of handles that some directives give, when the directives can be accepted: one
version at most, which has to be 1.1 or 1.2, and one meaning for each handle. -/
def readDirectives (versioned : Bool) (handles : List (String × String)) :
    List Directive → Option (List (String × String))
  | [] => some (handles ++ standardHandles)
  | .version major minor :: ds =>
    if !versioned && major == 1 && (minor == 1 || minor == 2) then
      readDirectives true handles ds
    else none
  | .handle name meaning :: ds =>
    if (handles.lookup name).isSome then none
    else readDirectives versioned (handles ++ [(name, meaning)]) ds

/-- The directives in front of a document. -/
def leadingDirectives : List Token → List Directive × List Token
  | .directive d :: ts =>
    let (ds, rest) := leadingDirectives ts
    (d :: ds, rest)
  | ts => ([], ts)

/-- The root of a document. -/
def root : Build Node := do
  let ts := (← get).tokens
  let enough := 2 * ts.length + 2
  match ts with
  | [.textEnd] => return .absent
  | .directive _ :: _ | .documentStart :: _ =>
    let (ds, rest) := leadingDirectives ts
    match readDirectives false [] ds, rest with
    | some handles, .documentStart :: rest =>
      set { tokens := rest, handles : Parsing }
      match rest.head? with
      | none => return .broken
      | some (.directive _) | some .documentStart | some .documentEnd | some .textEnd =>
        return .empty
      | some _ => node enough true false
    | _, _ => stop
  | _ =>
    modify ({ · with handles := standardHandles })
    node enough true false

end Parsing

/-- A document, and whether nothing but its end follows it. -/
structure Document where
  root : Node
  isSound : Bool

/-- The document that some tokens stand for. -/
def Document.ofTokens (ts : List Token) : Document :=
  let (root, s) := Parsing.root.run { tokens := ts }
  ⟨root, s.tokens.dropWhile (· == .documentEnd) == [.textEnd]⟩

/-- The document that a text holds. -/
def Document.ofText (text : List Char) : Document :=
  .ofTokens (tokens text)

end Imprint.Yaml
