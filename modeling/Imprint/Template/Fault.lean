import Imprint.Panic
import Imprint.Template.Value

/-!
# Faults of rendering

Why a template cannot be rendered. A fault may have another one as its cause; its text is its own
heading, followed by the headings of its causes. A panic is no fault of the template: nothing
catches it, and the whole run ends with it.

## Main definitions

* `Imprint.Template.Fault`: a fault.
* `Imprint.Template.Fault.isPanic`: whether the run breaks off.
* `Imprint.Template.Fault.heading`, `Imprint.Template.Fault.headings`: its text.
-/

namespace Imprint.Template

/-- The kinds of values that filters ask for. -/
inductive Kind where
  | text
  | array
  | truth
  | integer
  | count
  | base
  | number
  | textOrArray
  deriving DecidableEq, Repr

/-- The name of a kind in messages. -/
def Kind.label : Kind → String
  | text => "String"
  | array => "Vec<Value>"
  | truth => "bool"
  | integer => "i64"
  | count => "usize"
  | base => "u32"
  | number => "f64"
  | textOrArray => "Array|String"

/-- How a test refers to what it was given. -/
inductive TestRole where
  | subject
  | parameter
  deriving DecidableEq, Repr

/-- Why a template cannot be rendered. -/
inductive Fault where
  | panic (why : Panic)
  /-- A fault in words of its own. -/
  | worded (message : String)
  | unknownVariable (path template : String)
  /-- A variable with indices, with the form in which these have been looked up. -/
  | unknownPart (path template evaluated : String)
  /-- An index that is itself a variable and cannot be looked up. -/
  | unknownIndex (path : String) (cause : Fault)
  | wrongIndex (index path : String)
  | unknownFilter (name : String)
  | unknownTest (name : String)
  | unknownFunction (name : String)
  | unknownTemplate (names : List String)
  | unknownMacro (origin name template : String)
  | unknownOrigin (origin template : String)
  | nestedExtension (parent : String)
  | noParentBlock
  /-- A tag that is about the turns of a loop, where there is none. -/
  | outsideLoop (word : String)
  | missingParameter (definition name : String)
  | noFallback
  /-- A loop over a value that is neither an array nor a text. -/
  | notIterable (container : String)
  /-- A loop with a key over a value that has no keys. -/
  | noKeys (container : String)
  /-- A loop without a key over a value that has keys. -/
  | missingKey (container : String)
  /-- A loop over something that is neither a variable nor a call nor an array. -/
  | notContainer (shown : String)
  | notNumber (path : String)
  | notNumberResult
  | functionNotNumber (name : String)
  | functionNotTruth (name : String)
  | textInArithmetic (s : String)
  | truthInArithmetic (b : Bool)
  | joinedInArithmetic (shown : String)
  | testInArithmetic (name : String)
  | outOfBounds (left : Int) (sign : String) (right : Int)
  | remainderByZero (shown : String)
  /-- Arithmetic failed; only the heading of the reason is kept. -/
  | arithmetic (reason : Fault)
  /-- An order of numbers of which one is none. -/
  | noOrder
  | notMember (shown : String)
  | notField (shown : String)
  | notCollection
  | notJoinable (path : String)
  | callNotJoinable (name : String)
  | filterCall (name : String) (cause : Fault)
  | testCall (name : String) (cause : Fault)
  | functionCall (name : String) (cause : Fault)
  | wrongValue (filter : String) (got : Value) (expected : Kind)
  | wrongArgument (filter argument : String) (got : Value) (expected : Kind)
  | noArgument (filter argument : String)
  /-- A filter that words the missing argument in its own way. -/
  | neededArgument (filter argument : String)
  | noLength
  | noInteger
  | mixedItems (expected : String) (got : Value)
  | notUnique (kind : String)
  | notSortable
  | noField (field : String)
  | wrongForFunction (function argument shown : String) (got : Value) (expected : String)
  | calledWithout (function argument : String)
  /-- A function that words the missing argument in its own way. -/
  | notReceived (function argument : String)
  | reversedRange
  | notInEnvironment (name : String)
  | testWithArguments (name : String)
  | tooManyArguments (name : String) (given most : Nat)
  | testUndefined (name : String)
  | testNotText (name : String) (role : TestRole)
  | testNotNumber
  | testNotContainer
  deriving Inhabited

namespace Fault

/-- Whether the run breaks off. -/
def isPanic : Fault → Bool
  | panic _ => true
  | _ => false

/-- A value between backquotes. -/
def shown (v : Value) : String :=
  s!"`{String.ofList v.json}`"

/-- The heading of a fault. -/
def heading : Fault → String
  | panic why => why.message
  | worded message => message
  | unknownVariable path template =>
    s!"Variable `{path}` not found in context while rendering '{template}'"
  | unknownPart path template evaluated =>
    s!"Variable `{path}` not found in context while rendering '{template}': " ++
      s!"the evaluated version was `{evaluated}`. Maybe the index is out of bounds?"
  | unknownIndex path cause => s!"Variable {path} can not be evaluated because: {cause.heading}"
  | wrongIndex index path =>
    "Only variables evaluating to String or Number can be used as index " ++
      s!"(`{index}` of `{path}`)"
  | unknownFilter name => s!"Filter '{name}' not found"
  | unknownTest name => s!"Test '{name}' not found"
  | unknownFunction name => s!"Function '{name}' not found"
  | unknownTemplate names => "Template '[" ++ ", ".intercalate names ++ "]' not found"
  | unknownMacro origin name template =>
    s!"Macro `{origin}::{name}` not found in template `{template}`"
  | unknownOrigin origin template =>
    s!"Macro namespace `{origin}` was not found in template `{template}`. " ++
      "Have you maybe forgotten to import it, or misspelled it?"
  | nestedExtension parent =>
    s!"Inheritance in included templates is currently not supported: extended `{parent}`"
  | noParentBlock => "Tried to use super() in the top level block"
  | outsideLoop word => s!"Attempted `{word}` while not in `for loop`"
  | missingParameter definition name =>
    s!"Macro `{definition}` is missing the argument `{name}`"
  | noFallback => s!"The `default` filter requires a `value` argument."
  | notIterable container =>
    s!"Tried to iterate on a container (`{container}`) that has a unsupported type"
  | noKeys container =>
    s!"Tried to iterate using key value on variable `{container}`, but it isn't an object/map"
  | missingKey container =>
    s!"Tried to iterate using key value on variable `{container}`, but it is missing a key"
  | notContainer shown =>
    "Forloop containers have to be an ident or a function call " ++
      s!"(tried to iterate on '{shown}')"
  | notNumber path => s!"Variable `{path}` was used in a math operation but is not a number"
  | notNumberResult => "Tried to do math with an expression not resulting in a number"
  | functionNotNumber name =>
    s!"Function `{name}` was used in a math operation but is not returning a number"
  | functionNotTruth name =>
    s!"Function `{name}` was used in a logic operation but is not returning a bool"
  | textInArithmetic s => s!"Tried to do math with a string: `{s}`"
  | truthInArithmetic b => s!"Tried to do math with a boolean: `{b}`"
  | joinedInArithmetic shown => s!"Tried to do math with a string concatenation: {shown}"
  | testInArithmetic name => s!"Tried to do math with a test: {name}"
  | outOfBounds left sign right =>
    s!"{left} {sign} {right} results in an out of bounds i64"
  | remainderByZero shown => s!"Tried to do a modulo by zero: {shown}"
  | arithmetic reason => reason.heading
  | notMember shown => s!"Tried to check if {shown} is in a string, but it isn't a string"
  | noOrder => "Comparison to NaN"
  | notField shown => s!"Tried to check if {shown} is in a object, but it isn't a string"
  | notCollection => s!"The `in` operator only supports strings, arrays and objects."
  | notJoinable path =>
    s!"Tried to concat a value that is not a string or a number from ident {path}"
  | callNotJoinable name =>
    s!"Tried to concat a value that is not a string or a number from function call {name}"
  | filterCall name _ => s!"Filter call '{name}' failed"
  | testCall name _ => s!"Test call '{name}' failed"
  | functionCall name _ => s!"Function call '{name}' failed"
  | wrongValue filter got expected =>
    s!"Filter `{filter}` was called on an incorrect value: got {shown got} " ++
      s!"but expected a {expected.label}"
  | wrongArgument filter argument got .textOrArray =>
    s!"Filter `{filter}` received an incorrect type for arg `{argument}`: " ++
      s!"got {shown got} but expected {Kind.textOrArray.label}"
  | wrongArgument filter argument got expected =>
    s!"Filter `{filter}` received an incorrect type for arg `{argument}`: " ++
      s!"got {shown got} but expected a {expected.label}"
  | noArgument filter argument => s!"Filter `{filter}` expected an arg called `{argument}`"
  | neededArgument filter argument =>
    s!"The `{filter}` filter has to have {article argument} `{argument}` argument"
  | noLength =>
    s!"Filter `length` was used on a value that isn't an array, an object, or a string."
  | noInteger => s!"Filter `int` received an unexpected type"
  | mixedItems expected got => s!"expected {expected} got {String.ofList got.json}"
  | notUnique kind => kind
  | notSortable => "Object is not a sortable value"
  | noField field => s!"attribute '{field}' does not reference a field"
  | wrongForFunction function argument shown got expected =>
    s!"Function `{function}` received {argument}={String.ofList got.json} " ++
      s!"but `{shown}` can only be a {expected}"
  | calledWithout function argument =>
    s!"Function `{function}` was called without a `{argument}` argument"
  | notReceived function argument =>
    s!"Function `{function}` didn't receive {article argument} `{argument}` argument"
  | reversedRange =>
    s!"Function `range` was called with a `start` argument greater than the " ++
      s!"`end` one"
  | notInEnvironment name => s!"Environment variable `{name}` not found"
  | testWithArguments name =>
    s!"Tester `{name}` was called with some args but this test doesn't take args"
  | tooManyArguments name given most =>
    s!"Tester `{name}` was called with {given} args, the max number is {most}"
  | testUndefined name => s!"Tester `{name}` was called on an undefined variable"
  | testNotText name .subject =>
    s!"Tester `{name}` was called on a variable that isn't a string"
  | testNotText name .parameter =>
    s!"Tester `{name}` was called with a parameter that isn't a string"
  | testNotNumber => s!"Tester `odd` was called on a variable that isn't a number"
  | testNotContainer => s!"Tester `containing` can only be used on string, array or map"
where
  /-- The article that goes with the name of an argument. -/
  article (argument : String) : String :=
    if argument == "n" || argument == "end" then "an" else "a"

/-- The headings of a fault and its causes. -/
def headings : Fault → List String
  | filterCall name cause => (filterCall name cause).heading :: cause.headings
  | testCall name cause => (testCall name cause).heading :: cause.headings
  | functionCall name cause => (functionCall name cause).heading :: cause.headings
  | fault => [fault.heading]

end Fault

end Imprint.Template
