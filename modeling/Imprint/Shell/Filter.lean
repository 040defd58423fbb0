import Imprint.Shell.Utility

/-!
# Utilities for text

They print their arguments, or pass on what they read after a change.

## Main definitions

* `Imprint.Shell.echo`, `Imprint.Shell.printf`: print arguments.
* `Imprint.Shell.head`, `Imprint.Shell.wc`, `Imprint.Shell.tr`: cut, count and replace bytes.
-/

namespace Imprint.Shell

/-! ### Printing -/

/-- Prints its arguments, in which escapes have their meaning on demand. -/
def echo : Utility := fun args st => do
  let isOption := fun (a : String) =>
    a.length > 1 && a.startsWith "-" && a.toList.tail.all ['n', 'e', 'E'].contains
  let given := args.takeWhile isOption
  let letters := given.flatMap (·.toList.tail)
  let text := String.intercalate " " (args.drop given.length)
  let escaped := (letters.reverse.find? (· != 'n')) == some 'e'
  let (bytes, goesOn) :=
    if escaped then unescape true text.toList else (bytesOfText text.toList, true)
  write st.output ⟨(bytes ++ if letters.contains 'n' || !goesOn then [] else [10]).toArray⟩
  return 0

/-- Prints its arguments, in which escapes have their meaning. -/
def echoEscaped : Utility := fun args st => do
  let (bare, args) := if args.head? == some "-n" then (true, args.tail) else (false, args)
  let (bytes, goesOn) := unescape true (String.intercalate " " args).toList
  write st.output ⟨(bytes ++ if bare || !goesOn then [] else [10]).toArray⟩
  return 0

/-- Prints its arguments in a format. -/
def printf : Utility := fun args st => do
  match if args.head? == some "--" then args.tail else args with
  | [] =>
    report st "printf: usage: printf format [arg ...]"
    return 2
  | f :: args =>
    let printed := format f args
    write st.output ⟨printed.bytes.toArray⟩
    printed.faults.forM fun fault => report st s!"printf: {fault.text}"
    return if printed.faults.any FormatFault.isFinal then 2
      else if printed.faults.isEmpty then 0
      else 1

/-! ### Files -/

/-- A utility that looks at the bytes of the files that it is given, or of what it reads. -/
def onFiles (name : String) (paths : List String) (st : Streams)
    (act : Option String → ByteArray → Act Unit) : Act Nat := do
  if paths.isEmpty then
    act none (← readAll st.input)
    return 0
  worst paths fun p => do
    match ← content ⟨p⟩ with
    | .ok bytes =>
      act (some p) bytes
      return 0
    | .error .isDirectory =>
      complain st s!"{name}: {quotedIfNeeded p}: Is a directory"
      return 1
    | .error fault =>
      let message :=
        if name = "head" then s!"cannot open {quoted p} for reading" else quotedIfNeeded p
      complain st s!"{name}: {message}: {faultText fault}"
      return 1

/-- What `head` takes: a number of lines or of bytes. -/
structure Amount where
  isBytes : Bool := false
  number : Nat := 10

/-- The amount that a letter and a number ask for. -/
def amountOf? (letter : Char) (digits : List Char) : Option Amount :=
  if letter == 'n' || letter == 'c' then
    (String.ofList digits).toNat?.map fun n => ⟨letter == 'c', n⟩
  else none

/-- The amount that some arguments ask for, and the other arguments. -/
def amount? (amount : Amount) : List String → Option (Amount × List String)
  | [] => some (amount, [])
  | a :: rest =>
    match a.toList with
    | '-' :: c :: digits =>
      if c.isDigit then (amountOf? 'n' (c :: digits)).bind fun m => amount? m rest
      else if !digits.isEmpty then (amountOf? c digits).bind fun m => amount? m rest
      else
        match rest with
        | number :: rest => (amountOf? c number.toList).bind fun m => amount? m rest
        | [] => none
    | _ => (amount? amount rest).map fun (m, paths) => (m, a :: paths)

/-- The first `n` lines of some bytes. -/
def firstLines : Nat → List UInt8 → List UInt8
  | _, [] => []
  | 0, _ => []
  | n + 1, 10 :: r => 10 :: firstLines n r
  | n + 1, b :: r => b :: firstLines (n + 1) r

/-- Prints the first lines or bytes of files. -/
def head : Utility := fun args st => do
  match amount? {} args with
  | none => refuse "head" "invalid number" st
  | some (amount, paths) =>
    onFiles "head" paths st fun _ bytes => do
      let part := if amount.isBytes then bytes.toList.take amount.number
        else firstLines amount.number bytes.toList
      write st.output ⟨part.toArray⟩

/-- The number of words of some bytes. -/
def wordCount (bytes : List UInt8) : Nat :=
  let isGap := fun (b : UInt8) => b == 32 || (9 ≤ b && b ≤ 13)
  (bytes.splitBy fun a b => isGap a == isGap b).countP fun w => !w.any isGap

/-- Prints the numbers of lines, words and bytes of files. -/
def wc : Utility := withOptions "wc" ['l', 'w', 'c'] fun letters args st => do
  let shows := fun (c : Char) => letters.isEmpty || letters.contains c
  onFiles "wc" args st fun path bytes => do
    let counts := (if shows 'l' then [bytes.toList.count 10] else []) ++
      (if shows 'w' then [wordCount bytes.toList] else []) ++
      (if shows 'c' then [bytes.size] else [])
    let width := if counts.length = 1 then 1 else (toString bytes.size).length
    let column := fun (n : Nat) =>
      let digits := toString n
      String.ofList (List.replicate (width - digits.length) ' ') ++ digits
    writeText st.output (String.intercalate " " (counts.map column ++ path.toList) ++ "\n")

/-! ### Characters -/

/-- The bytes of a set, in order. -/
def byteSet : List UInt8 → List UInt8
  | a :: 45 :: b :: r =>
    (List.range (b.toNat + 1 - a.toNat)).map (fun k => UInt8.ofNat (a.toNat + k)) ++ byteSet r
  | a :: r => a :: byteSet r
  | [] => []

/-- The bytes that the text of a set stands for. -/
def byteSetOfText (s : String) : List UInt8 :=
  match s with
  | "[:upper:]" => byteSet [65, 45, 90]
  | "[:lower:]" => byteSet [97, 45, 122]
  | "[:digit:]" => byteSet [48, 45, 57]
  | "[:space:]" => [9, 10, 11, 12, 13, 32]
  | _ => byteSet (unescape false s.toList).1

/-- Replaces the bytes of one set by those of another, or deletes them. The last byte of a set that
is too short is repeated. -/
def tr : Utility := withOptions "tr" ['d'] fun letters sets st => do
  match letters, sets with
  | ['d'], [set] =>
    let unwanted := byteSetOfText set
    let bytes := (← readAll st.input).toList
    write st.output ⟨(bytes.filter (!unwanted.contains ·)).toArray⟩
    return 0
  | [], [a, b] =>
    let a := byteSetOfText a
    let b := byteSetOfText b
    let change := fun (x : UInt8) =>
      match a.idxOf? x with
      | some k => (b[k]?).getD (b.getLastD x)
      | none => x
    let bytes := (← readAll st.input).toList
    write st.output ⟨(bytes.map change).toArray⟩
    return 0
  | _, [] => refuse "tr" "missing operand" st
  | [], [a] => refuse "tr" s!"missing operand after {quoted a}" st
  | [], _ :: _ :: extra :: _ => refuse "tr" s!"extra operand {quoted extra}" st
  | _, _ :: extra :: _ => refuse "tr" s!"extra operand {quoted extra}" st
  | _, _ => refuse "tr" "missing operand" st

end Imprint.Shell
