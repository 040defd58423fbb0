import Imprint.Log
import Imprint.Store.Operations

/-!
# Sessions

What work goes on with: the file store as it stands, and the events reported so far. An action
changes both; when it fails, what it has done until then stays done.

## Main definitions

* `Imprint.Session`: the store and the events.
* `Imprint.Session.Work`, `Imprint.Session.Action`: work that cannot fail, and work that can.
* `Imprint.FileError`: a file operation that was refused.
* `Imprint.Session.change`: an operation on the store.
* `Imprint.Session.logging`: work that only reads the store it was given, and reports.
-/

namespace Imprint

/-- The file store and the events reported so far. -/
structure Session where
  store : Store
  log : List Log.Event := []

/-- A file operation that was refused, with the path it was about. -/
structure FileError where
  path : Path
  fault : Store.Fault
  deriving DecidableEq, Repr

/-- The text of an error. -/
def FileError.message (e : FileError) : String :=
  s!"I/O error at {e.path.text}: {e.fault.message}"

namespace Session

/-- Work that cannot fail. -/
abbrev Work (α : Type) := StateM Session α

/-- Work that can fail. -/
abbrev Action (ε α : Type) := ExceptT ε (StateM Session) α

variable {ε α : Type}

/-- The store as it stands. -/
def currentStore : Work Store :=
  return (← get).store

/-- Replaces the store. -/
def setStore (t : Store) : Work Unit :=
  modify fun s => { s with store := t }

/-- Reports an event. -/
def report (e : Log.Event) : Work Unit :=
  modify fun s => { s with log := s.log ++ [e] }

/-- Reports several events. -/
def reportAll (es : List Log.Event) : Work Unit :=
  modify fun s => { s with log := s.log ++ es }

/-- Work that reports and may fail. -/
def logging (w : Log.Logging ε α) : Action ε α := do
  let (r, events) := w.run.run []
  reportAll events
  r

/-- An operation on the store at a path. When it is refused, what it has done until then stays. -/
def change (p : Path) (f : Store → Option Store.Fault × Store) : Action FileError Unit := do
  let (fault, t) := f (← currentStore)
  setStore t
  match fault with
  | some fault => throw ⟨p, fault⟩
  | none => return ()

/-- An action whose error is seen as an error of another kind. -/
def withError {δ : Type} (f : ε → δ) (a : Action ε α) : Action δ α :=
  ExceptT.mk ((Except.mapError f) <$> a.run)

end Session

end Imprint
