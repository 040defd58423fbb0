import Imprint.Template.Filter

/-!
# Tests

A test asks something about the value of a variable, which may be undefined; some tests take one
argument.

## Main definitions

* `Imprint.Template.Test`, `Imprint.Template.test?`: a test, and the test with a name.
-/

namespace Imprint.Template

/-- A test of a value, which is none when the variable is undefined. -/
abbrev Test := Option Value → List Value → Except Fault Bool

namespace Test

/-- The number of arguments is at most `most`. -/
def atMost (name : String) (most : Nat) (args : List Value) : Except Fault Unit :=
  if most = 0 && !args.isEmpty then .error (.testWithArguments name)
  else if most < args.length then .error (.tooManyArguments name args.length most)
  else .ok ()

/-- The value is defined. -/
def defined (name : String) (v : Option Value) : Except Fault Value :=
  match v with
  | some v => .ok v
  | none => .error (.testUndefined name)

/-- A test of a defined value without arguments. -/
def onValue (name : String) (f : Value → Except Fault Bool) : Test := fun v args => do
  atMost name 0 args
  f (← defined name v)

/-- A value as a text. -/
def textOf (name : String) (role : TestRole) (v : Option Value) : Except Fault (List Char) :=
  match v.bind Value.text? with
  | some s => .ok s
  | none => .error (.testNotText name role)

/-- A test of a text with another text as its argument. -/
def onTexts (name : String) (f : List Char → List Char → Bool) : Test := fun v args => do
  atMost name 1 args
  let v ← defined name v
  let s ← textOf name .subject (some v)
  .ok (f (← textOf name .parameter args.head?) s)

/-- Whether a number is odd. -/
def odd (v : Value) : Except Fault Bool :=
  match v.double? with
  | some x => .ok ((x.mod? (.ofInt 2)).any (!·.isZero))
  | none => .error .testNotNumber

/-- Whether a text or an array holds its argument, or a record has a field of that name. -/
def containing : Test := fun v args => do
  atMost "containing" 1 args
  match ← defined "containing" v with
  | .text s => .ok (Text.occursIn (← textOf "containing" .parameter args.head?) s)
  | .array vs =>
    match args.head? with
    | some item => .ok (vs.contains item)
    | none => .error (.panic .noValue)
  | .record fs =>
    let name ← textOf "containing" .parameter args.head?
    .ok (fs.lookup (String.ofList name)).isSome
  | _ => .error .testNotContainer

end Test

/-- The test with a name. -/
def test? (name : String) : Option Test :=
  match name with
  | "defined" => some fun v args => do
      Test.atMost name 0 args
      .ok v.isSome
  | "undefined" => some fun v args => do
      Test.atMost name 0 args
      .ok v.isNone
  | "string" => some (.onValue name fun v => .ok v.text?.isSome)
  | "number" => some (.onValue name fun v => .ok v.double?.isSome)
  | "iterable" => some (.onValue name fun v => .ok (v.array?.isSome || v.record?.isSome))
  | "object" => some (.onValue name fun v => .ok v.record?.isSome)
  | "odd" => some (.onValue name Test.odd)
  | "starting_with" => some (.onTexts name Text.startsWith)
  | "ending_with" => some (.onTexts name Text.endsWith)
  | "containing" => some .containing
  | _ => none

end Imprint.Template
