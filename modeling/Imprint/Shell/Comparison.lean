import Imprint.Shell.Utility

/-!
# Comparisons in scripts

A script asks about texts, integers and files. A question is a list of arguments; it can be negated
and joined to others.

## Main definitions

* `Imprint.Shell.ask`: the answer to a question.
* `Imprint.Shell.test`, `Imprint.Shell.bracket`: the utilities that ask.
-/

namespace Imprint.Shell

/-- Why a question has no answer. -/
inductive QuestionFault where
  | unexpected (arg : String)
  | notNumber (arg : String)

/-- The message of a fault. -/
def QuestionFault.text : QuestionFault → String
  | .unexpected arg => arg ++ ": unexpected operator"
  | .notNumber arg => "Illegal number: " ++ arg

/-- The comparison of integers that a sign stands for. -/
def comparison? (op : String) : Option (Int → Int → Bool) :=
  match op with
  | "-eq" => some (· == ·)
  | "-ne" => some (· != ·)
  | "-lt" => some fun a b => a < b
  | "-le" => some fun a b => a ≤ b
  | "-gt" => some fun a b => b < a
  | "-ge" => some fun a b => b ≤ a
  | _ => none

/-- The question about a single argument that a sign stands for. -/
def question? (s : Store) (op : String) : Option (String → Bool) :=
  match op with
  | "-n" => some (!·.isEmpty)
  | "-z" => some (·.isEmpty)
  | "-e" => some fun a => s.isFile ⟨a⟩ || s.isDirectory ⟨a⟩
  | "-f" | "-r" | "-w" => some fun a => s.isFile ⟨a⟩
  | "-d" => some fun a => s.isDirectory ⟨a⟩
  | "-s" => some fun a =>
    match s.size ⟨a⟩ with
    | .ok n => 0 < n
    | .error _ => false
  | _ => none

/-- The integer that an argument stands for. -/
def numberOf (s : String) : Except QuestionFault Int :=
  match integer? s with
  | some n => .ok n
  | none => .error (.notNumber s)

/-- The answer to a question without signs that join questions. -/
def askOne (s : Store) : List String → Except QuestionFault Bool
  | [] => .ok false
  | [a] => .ok !a.isEmpty
  | ["!", a] => .ok a.isEmpty
  | [op, a] =>
    match question? s op with
    | some f => .ok (f a)
    | none => .error (.unexpected op)
  | "!" :: rest => (askOne s rest).map (!·)
  | [a, op, b] =>
    match op with
    | "=" | "==" => .ok (a == b)
    | "!=" => .ok (a != b)
    | _ =>
      match comparison? op with
      | some f => do return f (← numberOf a) (← numberOf b)
      | none => .error (.unexpected a)
  | _ :: _ :: b :: _ => .error (.unexpected b)

/-- The arguments between those that equal `sep`. -/
def between (sep : String) (args : List String) : List (List String) :=
  args.foldr (fun a acc => if a = sep then [] :: acc else (a :: acc.headD []) :: acc.tail) [[]]

/-- The answer to a question. -/
def ask (s : Store) (args : List String) : Except QuestionFault Bool := do
  if args.length ≤ 4 then askOne s args
  else
    (between "-o" args).anyM fun all => (between "-a" all).allM (askOne s)

/-- Asks a question under the given name. -/
def askAs (name : String) : Utility := fun args st => do
  match ask (← get).store args with
  | .ok b => return if b then 0 else 1
  | .error fault =>
    report st s!"{name}: {fault.text}"
    return 2

/-- Asks a question. -/
def test : Utility := askAs "test"

/-- Asks a question that stands in front of a closing bracket. -/
def bracket : Utility := fun args st => do
  if args.getLast? == some "]" then askAs "[" args.dropLast st
  else
    report st "[: missing ]"
    return 2

end Imprint.Shell
