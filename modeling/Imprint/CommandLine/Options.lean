import Imprint.Run.Request

/-!
# Options of the command line

The arguments of the program are one or two paths and options, in any order. An option is written
with two dashes and its name or with one dash and its letter; letters can share a dash. The value of
an option follows its name behind an equals sign or as the next argument, and its letter directly,
behind an equals sign, or as the next argument. Behind two bare dashes everything is a path.

The arguments are read from left to right; a question for the version or for help ends the reading.

## Main definitions

* `Imprint.CommandLine.Options`: what the arguments say.
* `Imprint.CommandLine.Stop`: why there is nothing to run.
* `Imprint.CommandLine.Options.read`: reads the arguments.
* `Imprint.CommandLine.Options.mode`: the mode that is chosen.
-/

namespace Imprint.CommandLine

/-- What the arguments say. -/
structure Options where
  /-- The template, and perhaps the directory for one file for each directive. -/
  paths : List String := []
  outputName : Option String := none
  outputDir : Option String := none
  includeDirs : List String := []
  config : Option String := none
  noFormat : Bool := false
  json : Bool := false
  verbosity : Nat := 0
  deriving DecidableEq, Repr

/-- Why there is nothing to run. -/
inductive Stop where
  /-- The arguments make no sense. -/
  | misused
  | version
  | help
  deriving DecidableEq, Repr

/-- The options without a value. -/
inductive Switch where
  | noFormat
  | json
  | verbose
  | version
  | help
  deriving DecidableEq, Repr

/-- The options with a value. -/
inductive Setting where
  | outputName
  | outputDir
  | includeDir
  | config
  deriving DecidableEq, Repr

/-- The option with a name. -/
def ofName? : String → Option (Switch ⊕ Setting)
  | "no-format" => some (.inl .noFormat)
  | "json" => some (.inl .json)
  | "verbose" => some (.inl .verbose)
  | "version" => some (.inl .version)
  | "help" => some (.inl .help)
  | "outputname" => some (.inr .outputName)
  | "output-dir" => some (.inr .outputDir)
  | "include" => some (.inr .includeDir)
  | "config" => some (.inr .config)
  | _ => none

/-- The option with a letter. -/
def ofLetter? : Char → Option (Switch ⊕ Setting)
  | 'v' => some (.inl .verbose)
  | 'V' => some (.inl .version)
  | 'h' => some (.inl .help)
  | 'o' => some (.inr .outputName)
  | 'I' => some (.inr .includeDir)
  | _ => none

namespace Options

/-- The options with one more switch. A switch that is no count can be given once. -/
def turnOn (o : Options) : Switch → Except Stop Options
  | .noFormat => if o.noFormat then .error .misused else .ok { o with noFormat := true }
  | .json => if o.json then .error .misused else .ok { o with json := true }
  | .verbose => .ok { o with verbosity := o.verbosity + 1 }
  | .version => .error .version
  | .help => .error .help

/-- The options with one more value. Paths cannot be empty, and only include directories can be
given more than once. -/
def give (o : Options) (s : Setting) (value : String) : Except Stop Options :=
  match s with
  | .outputName =>
    if o.outputName.isSome then .error .misused else .ok { o with outputName := some value }
  | .outputDir =>
    if o.outputDir.isSome || value.isEmpty then .error .misused
    else .ok { o with outputDir := some value }
  | .includeDir =>
    if value.isEmpty then .error .misused
    else .ok { o with includeDirs := o.includeDirs ++ [value] }
  | .config =>
    if o.config.isSome || value.isEmpty then .error .misused
    else .ok { o with config := some value }

/-- The options with one more path, of which there can be two. -/
def addPath (o : Options) (p : String) : Except Stop Options :=
  if p.isEmpty || 2 ≤ o.paths.length then .error .misused
  else .ok { o with paths := o.paths ++ [p] }

/-- Whether an argument looks like an option. A dash alone does not. -/
def looksLikeOption (arg : String) : Bool :=
  match arg.toList with
  | '-' :: _ :: _ => true
  | _ => false

/-- What follows the name of an option, without the equals sign in between. -/
def attached : List Char → List Char
  | '=' :: value => value
  | value => value

/-- The letters that share a dash. A letter whose value is the next argument comes second in the
result. -/
def readLetters (o : Options) : List Char → Except Stop (Options × Option Setting)
  | [] => .ok (o, none)
  | c :: r =>
    match ofLetter? c with
    | some (.inl s) => do readLetters (← o.turnOn s) r
    | some (.inr s) =>
      if r.isEmpty then .ok (o, some s)
      else do return (← o.give s (String.ofList (attached r)), none)
    | none => .error .misused

/-- An option that is written by its name; in the result its setting comes second when its value is
the next argument. -/
def readName (o : Options) (text : List Char) : Except Stop (Options × Option Setting) := do
  let name := text.takeWhile (· != '=')
  let rest := text.dropWhile (· != '=')
  match ofName? (String.ofList name) with
  | some (.inl s) =>
    if rest.isEmpty then return (← o.turnOn s, none) else throw .misused
  | some (.inr s) =>
    if rest.isEmpty then return (o, some s)
    else return (← o.give s (String.ofList rest.tail), none)
  | none => throw .misused

/-- One argument in front of the bare dashes; in the result a setting comes second when its value is
the next argument. -/
def readArg (o : Options) (arg : String) : Except Stop (Options × Option Setting) :=
  match arg.toList with
  | '-' :: '-' :: text => o.readName text
  | '-' :: c :: r => o.readLetters (c :: r)
  | _ => do return (← o.addPath arg, none)

/-- The arguments from some place on; `waiting` is the setting whose value comes next. -/
def readFrom (o : Options) (waiting : Option Setting) : List String → Except Stop Options
  | [] => if waiting.isSome then .error .misused else .ok o
  | arg :: rest =>
    match waiting with
    | some s =>
      if looksLikeOption arg then .error .misused
      else do (← o.give s arg).readFrom none rest
    | none =>
      if arg = "--" then rest.foldlM addPath o
      else do
        let (o, waiting) ← o.readArg arg
        o.readFrom waiting rest

/-- The options that some arguments stand for. A template has to be there, and a directory for many
files goes with neither the name nor the directory of a single one. -/
def read (args : List String) : Except Stop Options := do
  let o ← readFrom {} none args
  match o.paths with
  | [_] => return o
  | [_, _] => if o.outputName.isSome || o.outputDir.isSome then throw .misused else return o
  | _ => throw .misused

/-- The template. -/
def template (o : Options) : Path :=
  ⟨o.paths.headD ""⟩

/-- The mode that is chosen: a second path asks for one file for each directive. -/
def mode (o : Options) : Mode :=
  match o.paths with
  | [_, dir] => .multi ⟨dir⟩
  | _ => .single o.outputName (o.outputDir.map Path.mk)

end Options

end Imprint.CommandLine
