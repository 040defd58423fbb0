import Imprint.Template.Node
import Imprint.Text.Quoted

/-!
# Templates and libraries

A template is a named tree together with what other templates can use of it: its blocks, its macros,
the template it extends and the templates whose macros it names. A library is a set of templates in
which every template that is extended or imported is there and no template extends itself.

## Main definitions

* `Imprint.Template`: a template.
* `Imprint.Template.ofText`: the template of a text.
* `Imprint.Template.Library`: templates by name.
* `Imprint.Template.Library.ofTexts`: the library of some texts.
-/

namespace Imprint

namespace Template

/-- A part that is called by name. -/
structure Macro where
  parameters : Parameters
  body : List Node

end Template

/-- A named tree and what others can use of it. -/
structure Template where
  name : String
  nodes : List Template.Node
  parent : Option String
  blocks : List (String × List Template.Node)
  macros : List (String × Template.Macro)
  /-- The templates whose macros are used, each with the name they are used under. -/
  imports : List (String × String)

namespace Template

mutual

/-- A block and the blocks inside it. -/
def Node.blocks : Node → List (String × List Node)
  | .block name body => (name, body) :: blocksOf body
  | _ => []

/-- The blocks at the top of a tree and the blocks inside them. -/
def blocksOf : List Node → List (String × List Node)
  | [] => []
  | n :: rest => n.blocks ++ blocksOf rest

end

/-- The first name that occurred before. -/
def firstRepeated (seen : List String) : List String → Option String
  | [] => none
  | n :: rest => if seen.contains n then some n else firstRepeated (n :: seen) rest

/-- The template of a text. -/
def ofText (name : String) (s : List Char) : Except Flaw Template := do
  let nodes ← nodesOf s
  let blocks := blocksOf nodes
  let macros := nodes.filterMap fun
    | .definition n parameters body => some (n, Macro.mk parameters body)
    | _ => none
  let imports := nodes.filterMap fun
    | .importation template origin => some (template, origin)
    | _ => none
  let parent := nodes.findSome? fun
    | .extension parent => some parent
    | _ => none
  if let some n := firstRepeated [] (blocks.map Prod.fst) then .error (.repeatedBlock n)
  else if let some n := firstRepeated [] (macros.map Prod.fst) then .error (.repeatedMacro n)
  else .ok ⟨name, nodes, parent, blocks, macros, imports⟩

/-- Templates, each name at most once. -/
structure Library where
  templates : List Template

/-- Why texts are no library. -/
inductive LibraryFlaw where
  /-- One of the texts is no template. -/
  | invalid (template : String) (flaw : Flaw)
  | missingParent (template parent : String)
  | circular (template : String) (chain : List String)
  | missingImport (template imported : String)
  deriving DecidableEq, Repr

/-- Texts as messages show them, between brackets. -/
def shownList (names : List String) : String :=
  let shown := names.map fun n => String.ofList (Text.Quoted.visible n.toList)
  "[" ++ ", ".intercalate shown ++ "]"

/-- The text of a flaw. -/
def LibraryFlaw.message : LibraryFlaw → String
  | invalid template flaw =>
    match flaw.message? with
    | none => s!"Failed to parse '{template}'"
    | some reason => s!"Failed to parse '{template}': {reason}"
  | missingParent template parent =>
    s!"Template '{template}' is inheriting from '{parent}', which doesn't exist or isn't loaded."
  | circular template chain =>
    s!"Circular extend detected for template '{template}'. Inheritance chain: " ++
      "`" ++ shownList chain ++ "`"
  | missingImport template imported =>
    s!"Template `{template}` loads macros from `{imported}` which isn't present in Tera"

namespace Library

/-- The template with a name. -/
def find? (l : Library) (name : String) : Option Template :=
  l.templates.find? (·.name == name)

/-- The names of the templates that a template extends, nearest first, after some of them have been
passed, at most `n` more. When there are more, the start leads into a circle that it is not part of.
An engine that only looks out for the start never leaves that circle, unless it looks at one of its
templates first; here it is circular as well. -/
def chain (l : Library) (start : String) :
    Nat → List String → Template → Except LibraryFlaw (List String)
  | 0, passed, _ => .error (.circular start passed)
  | n + 1, passed, t =>
    if !passed.isEmpty && t.name == start then .error (.circular start passed)
    else match t.parent with
      | none => .ok passed
      | some p =>
        match l.find? p with
        | some parent => chain l start n (passed ++ [p]) parent
        | none => .error (.missingParent t.name p)

/-- The names of the templates that a template extends, nearest first. -/
def ancestors (l : Library) (t : Template) : Except LibraryFlaw (List String) :=
  l.chain t.name (l.templates.length + 2) [] t

/-- The names of the templates that a template extends, or none when they are not all there. -/
def parents (l : Library) (t : Template) : List String :=
  match l.ancestors t with
  | .ok names => names
  | .error _ => []

/-- The library of templates: whatever they extend or import has to be there. When several templates
are flawed, the flaw is that of the first one in the order of loading, and one in what a template
extends comes before all that are imported. An engine that keeps its templates in no order may name
any of those that are flawed in the same way. -/
def check (l : Library) : Except LibraryFlaw Unit := do
  for t in l.templates do
    discard (l.ancestors t)
  for t in l.templates do
    for i in t.imports do
      if (l.find? i.1).isNone then .error (.missingImport t.name i.1)

/-- The library of named texts. -/
def ofTexts (texts : List (String × List Char)) : Except LibraryFlaw Library := do
  let templates ← texts.mapM fun x =>
    match ofText x.1 x.2 with
    | .ok t => .ok t
    | .error flaw => .error (.invalid x.1 flaw)
  check ⟨templates⟩
  .ok ⟨templates⟩

end Library

end Template

end Imprint
