import Imprint.Shell.Expansion

/-!
# Printing with a format

A format is a text with escapes and conversions. An escape is a backslash with a letter or with an
octal number, which stands for a byte. A conversion takes one argument; the format is used again
until all arguments are taken.

## Main definitions

* `Imprint.Shell.unescape`: the bytes of a text with escapes.
* `Imprint.Shell.Conversion`, `Imprint.Shell.FormatPiece`: what a format consists of.
* `Imprint.Shell.FormatFault`: why a format cannot be followed.
* `Imprint.Shell.format`: a format printed for some arguments.
-/

namespace Imprint.Shell

/-- The bytes of a character. -/
def bytesOf (c : Char) : List UInt8 :=
  (String.singleton c).toUTF8.toList

/-- The bytes of a text. -/
def bytesOfText (s : List Char) : List UInt8 :=
  s.flatMap bytesOf

/-- Whether a character is an octal digit. -/
def isOctal (c : Char) : Bool :=
  '0' ≤ c && c ≤ '7'

/-- The byte of an octal number. -/
def octalByte (ds : List Char) : UInt8 :=
  UInt8.ofNat (ds.foldl (fun n c => 8 * n + (c.toNat - '0'.toNat)) 0)

/-- The byte that a backslash and a letter stand for. -/
def letterByte? (c : Char) : Option UInt8 :=
  match c with
  | '\\' => some 92
  | 'a' => some 7
  | 'b' => some 8
  | 'f' => some 12
  | 'n' => some 10
  | 'r' => some 13
  | 't' => some 9
  | 'v' => some 11
  | _ => none

/-- The bytes of an escape and what follows it. With `zero` an octal number has a zero in front. -/
def escapeBytes (zero : Bool) (s : List Char) : List UInt8 × List Char :=
  match s with
  | [] => ([92], [])
  | c :: r =>
    if zero && c == '0' then
      let ds := (r.take 3).takeWhile isOctal
      ([octalByte ds], r.drop ds.length)
    else if !zero && isOctal c then
      let ds := (s.take 3).takeWhile isOctal
      ([octalByte ds], s.drop ds.length)
    else match letterByte? c with
      | some b => ([b], r)
      | none => (92 :: bytesOf c, r)

/-- The bytes of a text with escapes, and whether the text goes on behind them: it does not behind
the escape `\c`. -/
def unescapeFrom (zero : Bool) : Nat → List Char → List UInt8 × Bool
  | 0, _ => ([], true)
  | n + 1, s =>
    match s with
    | [] => ([], true)
    | '\\' :: 'c' :: _ => ([], false)
    | '\\' :: r =>
      let (bytes, r) := escapeBytes zero r
      let (more, goesOn) := unescapeFrom zero n r
      (bytes ++ more, goesOn)
    | c :: r =>
      let (more, goesOn) := unescapeFrom zero n r
      (bytesOf c ++ more, goesOn)

/-- The bytes of a text with escapes. -/
def unescape (zero : Bool) (s : List Char) : List UInt8 × Bool :=
  unescapeFrom zero (s.length + 1) s

/-- How an argument is converted. -/
structure Conversion where
  /-- Whether blanks are added behind, not in front. -/
  left : Bool
  /-- Whether zeros are added in place of blanks. -/
  zeros : Bool
  width : Nat
  precision : Option Nat
  kind : Char
  deriving DecidableEq, Repr

/-- Why a format cannot be followed all the way. -/
inductive FormatFault where
  /-- The argument does not start with a number. -/
  | notNumeric (arg : String)
  /-- Something follows the number of the argument. -/
  | partlyNumeric (arg : String)
  /-- A percent sign starts no conversion. -/
  | unfinished
  /-- There is no such conversion. -/
  | unknown (kind : Char)
  deriving DecidableEq, Repr

/-- The message of a fault. -/
def FormatFault.text : FormatFault → String
  | .notNumeric arg => arg ++ ": expected numeric value"
  | .partlyNumeric arg => arg ++ ": not completely converted"
  | .unfinished => "missing format character"
  | .unknown kind => "%" ++ String.singleton kind ++ ": invalid directive"

/-- Whether nothing is printed behind a fault. -/
def FormatFault.isFinal : FormatFault → Bool
  | .unfinished | .unknown _ => true
  | .notNumeric _ | .partlyNumeric _ => false

/-- A piece of a format. -/
inductive FormatPiece where
  | bytes (bs : List UInt8)
  | conversion (c : Conversion)
  | fault (f : FormatFault)
  deriving DecidableEq, Repr

/-- A number at the front of a text; none counts as zero. -/
def frontNumber (s : List Char) : Nat :=
  ((String.ofList (s.takeWhile Char.isDigit)).toNat?).getD 0

/-- A conversion, given what follows its percent sign, and what follows it. -/
def conversion? (s : List Char) : Option (Conversion × List Char) :=
  let isFlag := fun (c : Char) => ['-', '0', '+', ' ', '#'].contains c
  let flags := s.takeWhile isFlag
  let s := s.dropWhile isFlag
  let width := frontNumber s
  let s := s.dropWhile Char.isDigit
  let (precision, s) := match s with
    | '.' :: r => (some (frontNumber r), r.dropWhile Char.isDigit)
    | _ => (none, s)
  match s with
  | kind :: r => some (⟨flags.contains '-', flags.contains '0', width, precision, kind⟩, r)
  | [] => none

/-- The kinds of conversions. -/
def knownKinds : List Char :=
  ['d', 'i', 'o', 'u', 'x', 'X', 's', 'b', 'c']

/-- The pieces of a format, at most `n`. Behind a percent sign that starts no conversion there are
none. -/
def formatPieces : Nat → List Char → List FormatPiece
  | 0, _ => []
  | n + 1, s =>
    match s with
    | [] => []
    | '%' :: '%' :: r => .bytes [37] :: formatPieces n r
    | '%' :: r =>
      match conversion? r with
      | some (c, r) =>
        if knownKinds.contains c.kind then .conversion c :: formatPieces n r
        else [.fault (.unknown c.kind)]
      | none => [.fault .unfinished]
    | '\\' :: r =>
      let (bytes, r) := escapeBytes false r
      .bytes bytes :: formatPieces n r
    | c :: r => .bytes (bytesOf c) :: formatPieces n r

/-- Bytes with blanks or zeros up to the width of a conversion. -/
def pad (c : Conversion) (bs : List UInt8) : List UInt8 :=
  let missing := c.width - bs.length
  if c.left then bs ++ List.replicate missing 32
  else if c.zeros then
    match bs with
    | 45 :: r => 45 :: List.replicate missing 48 ++ r
    | _ => List.replicate missing 48 ++ bs
  else List.replicate missing 32 ++ bs

/-- The digits of an integer for a kind of conversion. Only decimal digits come with a sign; all
others are those of a word of 64 bits. -/
def digitsFor (kind : Char) (n : Int) : List Char :=
  let word := (n % 18446744073709551616).toNat
  match kind with
  | 'x' => Nat.toDigits 16 word
  | 'X' => (Nat.toDigits 16 word).map Char.toUpper
  | 'o' => Nat.toDigits 8 word
  | 'u' => Nat.toDigits 10 word
  | _ => (if n < 0 then ['-'] else []) ++ Nat.toDigits 10 n.natAbs

/-- The integer that an argument stands for, and whether anything is wrong with it. Behind a quote
stands a character, which counts as its number. -/
def numberArgument (arg : String) : Int × List FormatFault :=
  let unsigned := fun (s : List Char) =>
    if s.head?.any Char.isDigit then
      let (n, rest) := number s
      (n, if rest.isEmpty then [] else [FormatFault.partlyNumeric arg])
    else (0, [.notNumeric arg])
  match arg.toList with
  | [] => (0, [])
  | '-' :: s =>
    let (n, faults) := unsigned s
    (-(n : Int), faults)
  | '+' :: s =>
    let (n, faults) := unsigned s
    (n, faults)
  | ['\'', c] | ['"', c] => (c.toNat, [])
  | s =>
    let (n, faults) := unsigned s
    (n, faults)

/-- What has been printed, and what was wrong. -/
structure Printed where
  bytes : List UInt8 := []
  faults : List FormatFault := []

/-- One thing printed behind another. -/
def Printed.append (a b : Printed) : Printed :=
  ⟨a.bytes ++ b.bytes, a.faults ++ b.faults⟩

/-- An argument in a conversion. -/
def convert (c : Conversion) (arg : String) : Printed :=
  let cut := fun (bs : List UInt8) => (c.precision.map bs.take).getD bs
  let blanks := { c with zeros := false }
  match c.kind with
  | 's' => { bytes := pad blanks (cut (bytesOfText arg.toList)) }
  | 'b' => { bytes := pad blanks (cut (unescape true arg.toList).1) }
  | 'c' => { bytes := pad blanks ((bytesOfText arg.toList).take 1) }
  | kind =>
    let (n, faults) := numberArgument arg
    ⟨pad c (bytesOfText (digitsFor kind n)), faults⟩

/-- Some pieces printed, and the arguments that are left. An argument that is missing counts as
empty. -/
def formatOnce : List FormatPiece → List String → Printed × List String
  | [], args => ({}, args)
  | .bytes bs :: ps, args =>
    let (more, rest) := formatOnce ps args
    (.append { bytes := bs } more, rest)
  | .conversion c :: ps, args =>
    let (more, rest) := formatOnce ps args.tail
    ((convert c (args.headD "")).append more, rest)
  | .fault f :: _, _ => ({ faults := [f] }, [])

/-- Some pieces printed, again at most `n` times while arguments are left. -/
def formatAgain (ps : List FormatPiece) : Nat → List String → Printed
  | 0, _ => {}
  | n + 1, args =>
    let (printed, rest) := formatOnce ps args
    if rest.isEmpty || rest.length = args.length then printed
    else printed.append (formatAgain ps n rest)

/-- A format printed for some arguments. -/
def format (f : String) (args : List String) : Printed :=
  formatAgain (formatPieces (f.length + 1) f.toList) (args.length + 1) args

end Imprint.Shell
