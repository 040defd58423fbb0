import Imprint.OutputName
import Imprint.Session

/-!
# Writing an output in place

An output of several is written under its final name at once, over whatever stands there. The
directories that its path needs are made.

## Main definitions

* `Imprint.Output.makeParents`: the directories that a path needs.
* `Imprint.Output.removeLeftover`: removes a file that may be there.
* `Imprint.Output.writeTarget`: writes an output.
-/

namespace Imprint.Output

open Session

/-- Makes the directories that a path needs. -/
def makeParents (p : Path) : Action FileError Unit := do
  match p.parent? with
  | none => return ()
  | some parent => change parent (·.makeDirectories parent)

/-- Removes a file. It need not be there; when it cannot be removed this is reported. -/
def removeLeftover (p : Path) : Work Unit := do
  match (← currentStore).remove p with
  | .ok t => setStore t
  | .error .notFound => return ()
  | .error fault =>
    report ⟨.warn, .output, s!"could not remove {p.text}: {fault.message}"⟩

/-- Writes an output and gives its path. -/
def writeTarget (dir : Path) (filename : String) (content : List Char) : Action FileError Path := do
  let path := dir.join ⟨filename⟩
  makeParents path
  change path (·.write path (String.ofList content).toUTF8)
  report ⟨.info, .output, s!"wrote: {path.text}"⟩
  return path

end Imprint.Output
