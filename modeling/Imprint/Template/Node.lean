import Imprint.Text.Blank
import Imprint.Template.Piece
import Imprint.Template.Tag

/-!
# The tree of a template

Pieces with their tags read are nested to a tree: what stands between the opening and the closing
tag of a part is its body. Which parts a body may hold depends on the part around it. While the tree
is built, blanks are removed where the hyphens of the delimiters ask for it; the alternative of a
loop is the one body whose blanks all stay.

## Main definitions

* `Imprint.Template.Node`: a part of a template.
* `Imprint.Template.Flaw`: why a text is no template.
* `Imprint.Template.Item`: a piece with its tag or expression read.
* `Imprint.Template.spaced`: removing blanks beside delimiters.
* `Imprint.Template.nodesOf`: the tree of a text.
-/

namespace Imprint.Template

/-- A part of a template. -/
inductive Node where
  | text (s : List Char)
  /-- Text from a raw block. -/
  | verbatim (s : List Char)
  | output (e : Expr)
  /-- The body of the same block in the parent template. -/
  | inherited
  | insertion (names : List String) (optional : Bool)
  | importation (template origin : String)
  | extension (parent : String)
  | block (name : String) (body : List Node)
  | definition (name : String) (parameters : Parameters) (body : List Node)
  | conditional (branches : List (Expr × List Node)) (otherwise : List Node)
  | loop (key : Option String) (value : String) (container : Expr) (body otherwise : List Node)
  | filtered (filter : Call) (body : List Node)
  | assignment (everywhere : Bool) (name : String) (value : Expr)
  | stop
  | skip

/-- Why a text is no template. -/
inductive Flaw where
  /-- It does not follow the grammar. -/
  | malformed
  /-- It holds an integer that is too large. -/
  | integer (n : Int)
  /-- Two blocks have one name. -/
  | repeatedBlock (name : String)
  /-- Two macros have one name. -/
  | repeatedMacro (name : String)
  deriving DecidableEq, Repr

/-- The text of a flaw; a text that does not follow the grammar has none. -/
def Flaw.message? : Flaw → Option String
  | malformed => none
  | integer n => some s!"Integer out of bounds: \x60{n}\x60"
  | repeatedBlock name => some s!"Block \x60{name}\x60 is duplicated"
  | repeatedMacro name => some s!"Macro \x60{name}\x60 is duplicated"

/-- A piece with its tag or expression read. -/
inductive Item where
  | text (s : List Char)
  | comment (trim : Trim)
  | raw (opening : Trim) (s : List Char) (closing : Trim)
  /-- An output; `bare` when it is a plain call of `super`. -/
  | output (trim : Trim) (e : Expr) (bare : Bool)
  | tag (trim : Trim) (t : Tag)

/-- Whether an output is a plain call of `super`. -/
def isBareSuper (inner : List Char) : Bool :=
  let s := (inner.dropWhile Reader.isSpace).reverse.dropWhile Reader.isSpace
  s.reverse == "super()".toList

/-- A piece with its tag or expression read, and the first integer in it that is too large. -/
def Item.ofPiece? : Piece → Option (Item × Option Int)
  | .text s => some (.text s, none)
  | .comment trim => some (.comment trim, none)
  | .raw opening s closing => some (.raw opening s closing, none)
  | .output trim inner =>
    (outputExpression.run ⟨inner, none⟩).map fun x =>
      (.output trim x.1 (isBareSuper inner), x.2.tooLarge)
  | .tag trim inner => (Tag.read.run ⟨inner, none⟩).map fun x => (.tag trim x.1, x.2.tooLarge)

/-! ### Blanks beside delimiters -/

/-- A part at its place: the hyphens of its outermost delimiters, when it has some, and the part,
when it is one that is rendered. -/
structure Placed where
  trim : Option Trim := none
  node : Option Node

/-- Whether blanks are removed in front of what comes next, where `atEnd` says so for the end. -/
def trimsNext (atEnd : Bool) : List Placed → Bool
  | [] => atEnd
  | p :: _ => p.trim.any (·.before)

/-- Parts whose texts lose the blanks that hyphens ask to be removed: at the start when `atStart`
holds, at the end when `atEnd` holds. -/
def spaced (atEnd : Bool) : Bool → List Placed → List Node
  | _, [] => []
  | atStart, ⟨trim, some (.text s)⟩ :: rest =>
    let s := if atStart then Text.trimStart s else s
    let s := if trimsNext atEnd rest then Text.trimEnd s else s
    let rest := spaced atEnd (trim.any (·.after)) rest
    if s.isEmpty then rest else .text s :: rest
  | atStart, ⟨trim, node⟩ :: rest =>
    node.toList ++ spaced atEnd ((trim.map (·.after)).getD atStart) rest

/-- Parts with all their blanks. -/
def unspaced (parts : List Placed) : List Node :=
  parts.filterMap (·.node)

/-- The text of a raw block without the blanks that its tags ask to be removed. -/
def rawText (opening : Trim) (s : List Char) (closing : Trim) : List Char :=
  let s := if opening.after then Text.trimStart s else s
  if closing.before then Text.trimEnd s else s

/-! ### Nesting -/

/-- What a body belongs to. -/
inductive Place where
  | template
  | block
  | definition
  | filter
  | loop
  deriving DecidableEq, Repr

/-- Whether a body may hold blocks. -/
def Place.allowsBlock : Place → Bool
  | .template | .block | .filter => true
  | .definition | .loop => false

/-- How the blanks of a body are treated. -/
def body (keep : Bool) (start finish : Trim) (parts : List Placed) : List Node :=
  if keep then unspaced parts else spaced finish.before start.after parts

mutual

/-- The parts at the front of some items, up to the first tag that closes something or has no
place here, and the items from that tag on. -/
def parts : Nat → Place → Bool → List Item → Option (List Placed × List Item)
  | 0, _, _, _ => none
  | _, _, _, [] => some ([], [])
  | n + 1, place, keep, item :: rest =>
    let followed := fun (p : Placed) (rest : List Item) =>
      (parts n place keep rest).map fun x => (p :: x.1, x.2)
    match item with
    | .text s => followed ⟨none, some (.text s)⟩ rest
    | .comment trim => followed ⟨some trim, none⟩ rest
    | .raw opening s closing =>
      let s := if keep then s else rawText opening s closing
      followed ⟨some ⟨opening.before, closing.after⟩,
        some (.verbatim s)⟩ rest
    | .output trim e bare =>
      if bare && place = .block then followed ⟨none, some .inherited⟩ rest
      else followed ⟨some trim, some (.output e)⟩ rest
    | .tag start t =>
      match t with
      | .insertion names optional => followed ⟨some start, some (.insertion names optional)⟩ rest
      | .assignment everywhere name e =>
        followed ⟨some start, some (.assignment everywhere name e)⟩ rest
      | .stop =>
        if place = .loop then followed ⟨some start, some .stop⟩ rest else some ([], item :: rest)
      | .skip =>
        if place = .loop then followed ⟨some start, some .skip⟩ rest else some ([], item :: rest)
      | .openBlock name =>
        if place.allowsBlock then
          match parts n .block keep rest with
          | some (b, .tag finish .closeBlock :: rest) =>
            followed ⟨some ⟨start.before, finish.after⟩,
              some (.block name (body keep start finish b))⟩ rest
          | _ => none
        else some ([], item :: rest)
      | .openMacro name parameters =>
        if place = .template then
          match parts n .definition keep rest with
          | some (b, .tag finish .closeMacro :: rest) =>
            followed ⟨some ⟨start.before, finish.after⟩,
              some (.definition name parameters (body keep start finish b))⟩ rest
          | _ => none
        else some ([], item :: rest)
      | .openFilter filter =>
        match parts n .filter keep rest with
        | some (b, .tag finish .closeFilter :: rest) =>
          followed ⟨some ⟨start.before, finish.after⟩,
            some (.filtered filter (body keep start finish b))⟩ rest
        | _ => none
      | .openLoop key value container =>
        match parts n .loop keep rest with
        | some (b, rest) =>
          match alternative n [] rest with
          | some (o, finish, rest) =>
            followed ⟨some ⟨start.before, finish.after⟩,
              some (.loop key value container (body keep start finish b) (unspaced o))⟩ rest
          | none => none
        | none => none
      | .openIf condition =>
        match branches n place keep start condition rest with
        | some (bs, o, finish, rest) =>
          followed ⟨some ⟨start.before, finish.after⟩, some (.conditional bs o)⟩ rest
        | none => none
      | _ => some ([], item :: rest)

/-- The alternative of a loop whose items start with the tag that ends its body or an alternative of
it, the hyphens of its closing tag, and what follows it. Of several alternatives the last counts. -/
def alternative : Nat → List Placed → List Item → Option (List Placed × Trim × List Item)
  | 0, _, _ => none
  | _, o, .tag finish .closeLoop :: rest => some (o, finish, rest)
  | n + 1, _, .tag _ .otherwise :: rest =>
    (parts n .loop true rest).bind fun x => alternative n x.1 x.2
  | _, _, _ => none

/-- The branches of a conditional part from one of them on, its alternative, the hyphens of its
closing tag, and what follows it. -/
def branches : Nat → Place → Bool → Trim → Expr → List Item →
    Option (List (Expr × List Node) × List Node × Trim × List Item)
  | 0, _, _, _, _, _ => none
  | n + 1, place, keep, start, condition, rest =>
    match parts n place keep rest with
    | some (b, .tag finish .closeIf :: rest) =>
      some ([(condition, body keep start finish b)], [], finish, rest)
    | some (b, .tag next (.elseIf condition') :: rest) =>
      (branches n place keep next condition' rest).map fun x =>
        ((condition, body keep start next b) :: x.1, x.2)
    | some (b, .tag next .otherwise :: rest) =>
      match parts n place keep rest with
      | some (o, .tag finish .closeIf :: rest) =>
        some ([(condition, body keep start next b)], body keep next finish o, finish, rest)
      | _ => none
    | _ => none

end

/-- Whether an item is a comment. -/
def Item.isComment : Item → Bool
  | .comment _ => true
  | _ => false

/-- Items without the blanks in front. -/
def dropSpace : List Item → List Item
  | .text s :: rest =>
    let s := s.dropWhile Reader.isSpace
    if s.isEmpty then rest else .text s :: rest
  | items => items

/-- The tags in front that name other templates, each with the blanks around it, and the items
behind them. At most one of them names the parent, as `extended` tells. -/
def headTags (extended : Bool) : Nat → List Item → List Placed × List Item
  | 0, items => ([], items)
  | n + 1, items =>
    let found := fun (p : Placed) (extended : Bool) (rest : List Item) =>
      let (ps, rest) := headTags extended n (dropSpace rest)
      (p :: ps, rest)
    match dropSpace items with
    | .tag trim (.importation template origin) :: rest =>
      found ⟨some trim, some (.importation template origin)⟩ extended rest
    | .tag trim (.extension parent) :: rest =>
      if extended then ([], items) else found ⟨some trim, some (.extension parent)⟩ true rest
    | _ => ([], items)

/-- The tree of some items: comments, the tags that name other templates, and the parts. -/
def nodesOfItems? (items : List Item) : Option (List Node) :=
  let items := items.dropWhile Item.isComment
  let (head, items) := headTags false items.length items
  match parts (items.length + 1) .template false items with
  | some (ps, []) => some (spaced false false (head ++ ps))
  | _ => none

/-- The tree of a text. -/
def nodesOf (s : List Char) : Except Flaw (List Node) :=
  match (pieces? s).bind (·.mapM Item.ofPiece?) with
  | none => .error .malformed
  | some items =>
    match nodesOfItems? (items.map Prod.fst), items.findSome? Prod.snd with
    | none, _ => .error .malformed
    | some _, some n => .error (.integer n)
    | some nodes, none => .ok nodes

end Imprint.Template
