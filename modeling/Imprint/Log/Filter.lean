import Imprint.Log
import Imprint.Text.Blank
import Imprint.Text.Casing

/-!
# Filters of log events

Which events are shown. A filter is a list of rules; for each event the most specific rule that fits
decides. A rule is written as a level, a target, or a target and a level with `=` between, and rules
are separated by commas. A rule may also ask, in brackets, for a span that the event lies in and for
fields that it has.

Events of this program lie in no span and have one field, their message.

## Main definitions

* `Imprint.Log.Rule`, `Imprint.Log.Filter`: a rule and a filter.
* `Imprint.Log.Filter.shows`: whether a filter shows an event.
* `Imprint.Log.Rule.ofText?`, `Imprint.Log.Filter.ofText?`: reading.
-/

namespace Imprint.Log

/-- One rule of a filter: events up to a level. A rule without a level lets nothing pass. -/
structure Rule where
  level : Option Level := some .trace
  /-- What the targets of the events begin with. -/
  target : Option String := none
  /-- The span that the events lie in. -/
  span : Option String := none
  /-- The fields that the events have, with whether a value is asked for. -/
  fields : List (String × Bool) := []
  deriving DecidableEq, Repr

/-- A filter. -/
structure Filter where
  rules : List Rule
  deriving DecidableEq, Repr

/-- Whether a rule fits the events of a target. -/
def Rule.fits (r : Rule) (target : String) : Bool :=
  r.span.isNone && r.fields.all (fun f => f.1 == "message" && !f.2) &&
    r.target.all (·.toList.isPrefixOf target.toList)

/-- How specific a rule is: the more of the target it gives, and then the more fields. -/
def Rule.weight (r : Rule) : Nat × Nat :=
  (match r.target with
    | some t => t.utf8ByteSize + 1
    | none => 0, r.fields.length)

/-- Whether a rule is at most as specific as another. -/
def Rule.yields (r other : Rule) : Bool :=
  r.weight.1 < other.weight.1 ||
    (r.weight.1 == other.weight.1 && r.weight.2 ≤ other.weight.2)

/-- The rule that decides for a target: the most specific that fits, of several the last. -/
def Filter.rule? (f : Filter) (target : String) : Option Rule :=
  (f.rules.filter (·.fits target)).foldl (fun best r =>
    match best with
    | some b => if b.yields r then some r else best
    | none => some r) none

/-- Whether a filter shows an event. -/
def Filter.shows (f : Filter) (e : Event) : Bool :=
  match (f.rule? e.origin.target).bind Rule.level with
  | some level => e.level.rank ≤ level.rank
  | none => false

/-- The filter that shows every event up to a level. -/
def Filter.upTo (level : Level) : Filter :=
  ⟨[{ level }]⟩

/-! ### Reading -/

/-- The value of digits, with an optional sign in front. -/
def levelNumber? (word : List Char) : Option Nat :=
  let ds := match word with
    | '+' :: r => r
    | r => r
  if !ds.isEmpty && ds.all Char.isDigit then
    some (ds.foldl (fun n c => 10 * n + (c.toNat - '0'.toNat)) 0)
  else none

/-- A level read from its number, or from its name in any case. The outer result tells whether the
word is a level at all; `off` lets nothing pass. -/
def Level.ofWord? (word : List Char) : Option (Option Level) :=
  match levelNumber? word, (String.ofList word).toLower with
  | some 0, _ | none, "off" => some none
  | some 1, _ | none, "error" => some (some .error)
  | some 2, _ | none, "warn" => some (some .warn)
  | some 3, _ | none, "info" => some (some .info)
  | some 4, _ | none, "debug" => some (some .debug)
  | some 5, _ | none, "trace" => some (some .trace)
  | _, _ => none

/-- What a rule says when a word stands alone: a level, or a target whose events are all shown. -/
def Rule.ofWord (word : List Char) : Rule :=
  match Level.ofWord? word with
  | some level => { level }
  | none => { target := some (String.ofList word) }

/-- A field that a rule asks for, perhaps with a value. -/
def fieldOfWord? (word : List Char) : Option (String × Bool) :=
  if word.isEmpty then none
  else some (String.ofList (word.takeWhile (· != '=')), word.contains '=')

/-- Where in a rule a reading is; the number is the place of the first character of a word. -/
inductive RuleState where
  | start
  | word (first : Nat)
  | span (first : Nat)
  | field (first : Nat)
  | fieldsEnd
  | spanEnd
  | level (first : Nat)

/-- Whether a rule may begin with this character. -/
def startsRule (c : Char) : Bool :=
  c == '-' || c == ':' || c == '_' || Text.isWordChar c

/-- One more character, the one at place `i`. `cut` gives the text from one place up to another. -/
def RuleState.next? (cut : Nat → Nat → List Char) (i : Nat) (c : Char) :
    RuleState → Rule → Option (RuleState × Rule)
  | .start, r =>
    if c = '[' then some (.span (i + 1), r)
    else if startsRule c then some (.word i, r)
    else none
  | .word first, r =>
    if c = '=' then some (.level (i + 1), { r with target := some (String.ofList (cut first i)) })
    else if c = '[' then
      some (.span (i + 1), { r with target := some (String.ofList (cut first i)) })
    else some (.word first, r)
  | .span first, r =>
    if c = ']' then some (.spanEnd, { r with span := some (String.ofList (cut first i)) })
    else if c = '\x7b' then
      let name := cut first i
      some (.field (i + 1),
        if name.isEmpty then r else { r with span := some (String.ofList name) })
    else some (.span first, r)
  | .field first, r =>
    if c = '\x7d' then
      (fieldOfWord? (cut first i)).map fun f => (.fieldsEnd, { r with fields := r.fields ++ [f] })
    else some (.field first, r)
  | .fieldsEnd, r => if c = ']' then some (.spanEnd, r) else none
  | .spanEnd, r => if c = '=' then some (.level (i + 1), r) else none
  | .level first, r => some (.level first, r)

/-- What follows the first character of the rule, with places counted from `i`. -/
def Rule.readFrom? (cut : Nat → Nat → List Char) (size i : Nat) (state : RuleState) (r : Rule) :
    List Char → Option Rule
  | c :: rest =>
    (state.next? cut i c r).bind fun x => readFrom? cut size (i + 1) x.1 x.2 rest
  | [] =>
    match state with
    | .word first => some (Rule.ofWord (cut first size))
    | .spanEnd => some r
    | .level first =>
      let word := cut first size
      if word.isEmpty then some r
      else (Level.ofWord? word).map fun level => { r with level }
    | .start | .span _ | .field _ | .fieldsEnd => none

/-- One rule read from its text. The blanks around it are passed over, but places are counted as if
they were not there, so that words are shifted by the blanks in front. -/
def Rule.ofText? (text : List Char) : Option Rule :=
  readFrom? (fun a b => (text.take b).drop a) text.length 0 .start {} (Text.trim text)

/-- A filter read from its text. A text without rules shows errors only; one that cannot be read is
no filter. -/
def Filter.ofText? (text : String) : Option Filter :=
  match (text.splitOn ",").filter (!·.isEmpty) with
  | [] => some (.upTo .error)
  | words => (words.mapM fun w => Rule.ofText? w.toList).map Filter.mk

end Imprint.Log
