import Imprint.Template.Basic
import Imprint.Template.Fault

/-!
# Where macros come from

A macro is called by an origin and a name. The origins that a template knows are its own macros
under `self`, the templates it imports under the names it gives them, then whatever origins these
templates know, and at last those of the templates it extends. An origin that is known already is
not replaced.

## Main definitions

* `Imprint.Template.Origins`: origins and their macros.
* `Imprint.Template.Library.addOrigins`: the origins of a template and of all it refers to.
* `Imprint.Template.findMacro`: the macro that a call means.
-/

namespace Imprint.Template

/-- The macros of a template. -/
structure Origin where
  template : String
  macros : List (String × Macro)

/-- Origins by the name they are known under. -/
abbrev Origins := List (String × Origin)

namespace Origins

/-- The origins with one more, which takes the place of one with the same name. -/
def set (os : Origins) (name : String) (o : Origin) : Origins :=
  (name, o) :: os.filter (·.1 != name)

/-- The origins with those others whose names are not known yet. -/
def addMissing (os others : Origins) : Origins :=
  others.foldl (fun os x => if (os.lookup x.1).isSome then os else os ++ [x]) os

end Origins

/-- The origins that templates know, by the name of the template. -/
abbrev Collection := List (String × Origins)

/-- The origins that a template knows. -/
def Collection.of (c : Collection) (template : String) : Origins :=
  (c.lookup template).getD []

/-- The collection with the origins of a template and of all it refers to, up to a depth. -/
def Library.addOrigins (l : Library) : Nat → Template → Collection → Collection
  | 0, _, c => c
  | depth + 1, t, c =>
    if (c.lookup t.name).isSome then c
    else
      let own := if t.macros.isEmpty then [] else [("self", Origin.mk t.name t.macros)]
      let (os, c) := t.imports.foldl (fun (os, c) (i : String × String) =>
        match l.find? i.1 with
        | none => (os, c)
        | some m =>
          let c := l.addOrigins depth m c
          (Origins.addMissing (Origins.set os i.2 ⟨i.1, m.macros⟩) (Collection.of c i.1), c))
        (own, c)
      let (os, c) := (l.parents t).foldl (fun (os, c) p =>
        match l.find? p with
        | none => (os, c)
        | some parent =>
          let c := l.addOrigins depth parent c
          (Origins.addMissing os (Collection.of c p), c))
        (os, c)
      (t.name, os) :: c

/-- The collection with the origins of a template and of all it refers to. -/
def Library.withOrigins (l : Library) (t : Template) (c : Collection) : Collection :=
  l.addOrigins (l.templates.length + 1) t c

/-- The macro with a name in a template's origins, and the template it stands in. -/
def findMacro (c : Collection) (template origin name : String) :
    Except Fault (String × Macro) :=
  match (Collection.of c template).lookup origin with
  | none => .error (.unknownOrigin origin template)
  | some o =>
    match o.macros.reverse.lookup name with
    | none => .error (.unknownMacro origin name template)
    | some m => .ok (o.template, m)

end Imprint.Template
