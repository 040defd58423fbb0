import Imprint.Path
import Imprint.Text.Search

/-!
# Names of outputs

A single output takes its name from the template: every occurrence of a suffix is removed from the
file name. The removal has to change the name and has to leave something. While an output is being
written it stands under a staging name, which is the final name with a text in front.

## Main definitions

* `Imprint.OutputName.derive`: the name derived from a template path.
* `Imprint.OutputName.staging`, `Imprint.OutputName.formatted`: where an output stands while it is
  written and formatted.
-/

namespace Imprint.OutputName

/-- A derived name that is empty or is the template's own name. -/
structure Collision where
  name : String
  template : Path
  deriving DecidableEq, Repr

/-- The text of a collision. -/
def Collision.message (c : Collision) : String :=
  s!"output name `{c.name}` would overwrite the template {c.template.text}; pass --outputname"

/-- The file name of the template without every occurrence of `suffix`. -/
def derive (template : Path) (suffix : String) : Except Collision String :=
  let file := template.fileName?.getD ""
  let name := String.ofList (Text.replaceAll suffix.toList [] file.toList)
  if name = file || name.isEmpty then .error ⟨name, template⟩ else .ok name

/-- The path at which an output stands until it is complete. -/
def staging (final : Path) (front : String) : Path :=
  final.withFileName (front ++ final.fileName?.getD "")

/-- The path at which the formatter leaves its result for a staged output. -/
def formatted (staged : Path) : Path :=
  ⟨staged.text ++ ".formatted"⟩

end Imprint.OutputName
