import Imprint.Log
import Imprint.Shorthand
import Imprint.Source
import Imprint.Store.Operations
import Imprint.Template.Reference
import Imprint.Template.Render

/-!
# Compiled templates

A template is compiled together with all templates that it names, directly or through others. Each
name is looked for in the directories of a search path, in their order, and the first file counts.
A name that is not found is an error unless the reference says that it may be missing. The compiled
template can then be rendered for any number of bindings.

## Main definitions

* `Imprint.Template.Compiled`: a template with those that it needs.
* `Imprint.Template.RenderError`: why a template cannot be compiled or rendered.
* `Imprint.Template.compile`: compiling a text.
* `Imprint.Template.Compiled.render`: rendering for a binding.
* `Imprint.Template.renderText`: compiling and rendering at once.
-/

namespace Imprint.Template

/-- Why a template cannot be compiled or rendered. -/
inductive RenderError where
  /-- An interpolation without a closing brace. -/
  | unclosed (template : String) (line : Nat)
  /-- A name that no directory of the search path has. -/
  | notFound (template reference : String) (searchPath : List Path)
  /-- Texts that do not make up a library. -/
  | invalid (template : String) (flaw : LibraryFlaw)
  | unreadable (path : Path) (fault : Store.Fault)
  | panic (why : Panic)
  | failed (template : String) (failure : Failure)

/-- The search path as messages show it. -/
def shownSearchPath (searchPath : List Path) : String :=
  ", ".intercalate (searchPath.map Path.text)

/-- The text of an error. -/
def RenderError.message : RenderError → String
  | unclosed template line =>
    s!"template syntax error in {template}: unterminated `$\x7b` on line {line}"
  | notFound template reference searchPath =>
    s!"template syntax error in {template}: referenced template `{reference}` not found " ++
      s!"in search path [{shownSearchPath searchPath}]"
  | invalid template flaw => s!"template syntax error in {template}: {flaw.message}"
  | unreadable path fault => s!"template io error at {path.text}: {fault.message}"
  | panic why => why.message
  | failed template failure => s!"template runtime error in {template}: {failure.message}"

/-- A template with those that it needs. -/
structure Compiled where
  name : String
  library : Library
  main : Template

/-- The text of a template with its interpolations written out. -/
def expanded (name : String) (s : List Char) : Except RenderError (List Char) :=
  match Shorthand.expand s with
  | .ok t => .ok t
  | .error e => .error (.unclosed name e.line)

/-- The first file with a name in the directories of a search path. -/
def locate (store : Store) (searchPath : List Path) (name : String) : Option Path :=
  (searchPath.map (·.join ⟨name⟩)).find? store.isFile

/-- The references of all files of a store, as many times as they occur. -/
def referencesOfStore (store : Store) : List Reference :=
  store.entries.flatMap fun x =>
    match x.2 with
    | .directory => []
    | .file content =>
      match String.fromUTF8? content with
      | none => []
      | some s =>
        match Shorthand.expand s.toList with
        | .ok t => references t
        | .error _ => []

/-- What has been done while templates are loaded. -/
structure Loading where
  /-- The names that need not be looked for any more. -/
  seen : List String
  /-- What is still to be looked for; the next comes first. -/
  pending : List Reference
  /-- The texts found so far, the latest first. -/
  loaded : List (String × List Char)

/-- Looks for the next reference. -/
def Loading.step (store : Store) (searchPath : List Path) (main : String) (l : Loading)
    (next : Reference) (rest : List Reference) : Log.Logging RenderError Loading := do
  if l.seen.contains next.name then return { l with pending := rest }
  else
    let l := { l with seen := next.name :: l.seen, pending := rest }
    match locate store searchPath next.name with
    | none =>
      if next.optional then return l else throw (.notFound main next.name searchPath)
    | some path =>
      Log.report ⟨.debug, .templates, s!"loading `{next.name}` from {path.text}"⟩
      match store.readText path with
      | .error fault => throw (.unreadable path fault)
      | .ok s =>
        let t ← ofExcept (expanded next.name s.toList)
        return { l with
          pending := (references t).reverse ++ rest
          loaded := (next.name, t) :: l.loaded }

/-- Looks for references until none is left, at most `n` times. -/
def Loading.run (store : Store) (searchPath : List Path) (main : String) :
    Nat → Loading → Log.Logging RenderError Loading
  | 0, l => return l
  | n + 1, l =>
    match l.pending with
    | [] => return l
    | next :: rest => do
      run store searchPath main n (← l.step store searchPath main next rest)

/-- The text of a template and the texts of all templates it needs, itself last. -/
def load (store : Store) (searchPath : List Path) (name : String) (s : List Char) :
    Log.Logging RenderError (List (String × List Char)) := do
  let t ← ofExcept (expanded name s)
  let first := references t
  let bound := first.length + (referencesOfStore store).length + 1
  let l ← Loading.run store searchPath name (bound * bound) ⟨[name], first.reverse, []⟩
  return l.loaded.reverse ++ [(name, t)]

/-- The template of a text, together with all templates it needs. -/
def compile (store : Store) (searchPath : List Path) (name : String) (s : List Char) :
    Log.Logging RenderError Compiled := do
  let texts ← load store searchPath name s
  match Library.ofTexts texts with
  | .error flaw => throw (.invalid name flaw)
  | .ok library =>
    match library.find? name with
    | some main => return ⟨name, library, main⟩
    | none => throw (.invalid name (.invalid name .malformed))

/-- The template of the body of a source, under the source's name. -/
def compileSource (store : Store) (searchPath : List Path) (source : Source) :
    Log.Logging RenderError Compiled :=
  compile store searchPath source.name source.body

/-- A failure of a template as an error. A panic is told apart from all others. -/
def RenderError.ofFailure (template : String) (failure : Failure) : RenderError :=
  match failure.fault with
  | .panic why => .panic why
  | _ => .failed template failure

/-- The text of a compiled template for a binding, in some surroundings. -/
def Compiled.render (c : Compiled) (around : Surroundings) (b : Binding) :
    Except RenderError (List Char) :=
  (c.library.render c.main around b).mapError (.ofFailure c.name)

/-- The text of a template for one binding, in some surroundings. -/
def renderText (around : Surroundings) (store : Store) (searchPath : List Path) (name : String)
    (s : List Char) (b : Binding) : Except RenderError (List Char) :=
  match (compile store searchPath name s).run.run [] with
  | (.ok c, _) => c.render around b
  | (.error e, _) => .error e

end Imprint.Template
