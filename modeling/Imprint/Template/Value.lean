import Imprint.Decimal.Double
import Imprint.Text.Quoted

/-!
# Values of expressions

What an expression of a template can be: a truth value, an integer, a number of binary precision, a
text, an array or a record of named values. A value has four written forms, one for the rendered
text, one for the messages of filters and functions, one for the page that shows all variables, and
one for messages that show the kind of every part. They differ in how the parts are written and put
together.

## Main definitions

* `Imprint.Template.Value`: a value.
* `Imprint.Template.Value.isTruthy`: whether a value counts as true.
* `Imprint.Template.Value.write`: a value in a style.
* `Imprint.Template.Value.render`, `Imprint.Template.Value.json`, `Imprint.Template.Value.spread`,
  `Imprint.Template.Value.described`: its written forms.
* `Imprint.Template.Value.spreadRecord`: named values in the third form.
-/

namespace Imprint.Template

open Decimal (Double)

/-- A value of an expression. -/
inductive Value where
  | bool (b : Bool)
  | int (n : Int)
  | float (x : Double)
  | text (s : List Char)
  | array (items : List Value)
  /-- Named values, in the order of their names. -/
  | record (fields : List (String × Value))
  deriving Repr, Inhabited

namespace Value

mutual

/-- Whether two values are equal. An integer is not equal to a number of binary precision. -/
def equals : Value → Value → Bool
  | bool a, bool b => a == b
  | int m, int n => m == n
  | float x, float y => x == y
  | text s, text t => s == t
  | array vs, array ws => equalAll vs ws
  | record fs, record gs => equalFields fs gs
  | _, _ => false

/-- Whether values are equal one by one. -/
def equalAll : List Value → List Value → Bool
  | [], [] => true
  | v :: vs, w :: ws => v.equals w && equalAll vs ws
  | _, _ => false

/-- Whether named values are equal one by one. -/
def equalFields : List (String × Value) → List (String × Value) → Bool
  | [], [] => true
  | (m, v) :: fs, (n, w) :: gs => m == n && v.equals w && equalFields fs gs
  | _, _ => false

end

instance : BEq Value := ⟨equals⟩

/-- Whether a value counts as true: it is neither false nor zero nor empty. -/
def isTruthy : Value → Bool
  | bool b => b
  | int n => n != 0
  | float x => !x.isZero
  | text s => !s.isEmpty
  | array items => !items.isEmpty
  | record fields => !fields.isEmpty

/-! ### Written forms -/

/-- How the parts of a value are written and put together. Arrays and records are given the depth at
which they stand. -/
structure Style where
  bool (b : Bool) : List Char := (toString b).toList
  int (n : Int) : List Char := (toString n).toList
  float : Double → List Char
  text : List Char → List Char
  array : Nat → List (List Char) → List Char
  record : Nat → List (String × List Char) → List Char

mutual

/-- A value in a style. -/
def write (style : Style) (depth : Nat) : Value → List Char
  | bool b => style.bool b
  | int n => style.int n
  | float x => style.float x
  | text s => style.text s
  | array items => style.array depth (writeAll style (depth + 1) items)
  | record fields => style.record depth (writeFields style (depth + 1) fields)

/-- Some values in a style. -/
def writeAll (style : Style) (depth : Nat) : List Value → List (List Char)
  | [] => []
  | v :: rest => v.write style depth :: writeAll style depth rest

/-- Some named values in a style. -/
def writeFields (style : Style) (depth : Nat) : List (String × Value) → List (String × List Char)
  | [] => []
  | (name, v) :: rest => (name, v.write style depth) :: writeFields style depth rest

end

/-- Texts between two brackets, with something between any two of them. -/
def bracketed (opening closing : Char) (separator : List Char) (items : List (List Char)) :
    List Char :=
  opening :: List.intercalate separator items ++ [closing]

/-- Named texts, each behind its quoted name. -/
def named (quote : List Char → List Char) (colon : List Char) (fields : List (String × List Char)) :
    List (List Char) :=
  fields.map fun f => quote f.1.toList ++ colon ++ f.2

/-- The rendered form of a value; texts stand for themselves. -/
def render : Value → List Char :=
  write { float := Double.text
          text := id
          array := fun _ => bracketed '[' ']' [',', ' ']
          record := fun _ _ => "[object]".toList } 0

/-- A value in the JSON format, without blanks. -/
def json : Value → List Char :=
  write { float := Double.jsonText
          text := Text.Quoted.json
          array := fun _ => bracketed '[' ']' [',']
          record := fun _ fs =>
            bracketed '\x7b' '\x7d' [','] (named Text.Quoted.json [':'] fs) } 0

/-- The start of a line, two blanks in for each step of depth. -/
def indentation (depth : Nat) : List Char :=
  '\n' :: List.replicate (2 * depth) ' '

/-- Texts between brackets on a line of their own each, one step deeper than the brackets. -/
def onLines (opening closing : Char) (depth : Nat) (items : List (List Char)) : List Char :=
  if items.isEmpty then [opening, closing]
  else
    opening :: List.intercalate [','] (items.map (indentation (depth + 1) ++ ·)) ++
      indentation depth ++ [closing]

/-- Named texts in the JSON format, over several lines. -/
def fieldsOnLines (depth : Nat) (fields : List (String × List Char)) : List Char :=
  onLines '\x7b' '\x7d' depth (named Text.Quoted.json [':', ' '] fields)

/-- A value in the JSON format, over several lines. -/
def spread (depth : Nat) : Value → List Char :=
  write { float := Double.jsonText
          text := Text.Quoted.json
          array := onLines '[' ']'
          record := fieldsOnLines } depth

/-- Values with their names in the JSON format, over several lines. -/
def spreadRecord (entries : List (String × Value)) : List Char :=
  fieldsOnLines 0 (entries.map fun e => (e.1, e.2.spread 1))

/-- A value with the kind of every part. -/
def described : Value → List Char :=
  write { bool := fun b => s!"Bool({b})".toList
          int := fun n => s!"Number({n})".toList
          float := fun x => "Number(".toList ++ x.jsonText ++ [')']
          text := fun s => "String(".toList ++ Text.Quoted.visible s ++ [')']
          array := fun _ items => "Array ".toList ++ bracketed '[' ']' [',', ' '] items
          record := fun _ fs => "Object ".toList ++
            bracketed '\x7b' '\x7d' [',', ' '] (named Text.Quoted.visible [':', ' '] fs) } 0

/-! ### Small facts -/

@[simp] theorem render_text (s : List Char) : (text s).render = s := rfl

end Value

end Imprint.Template
