/-
  Formatted output: escape sequences, and formats that are filled in with arguments.
-/
import Interposition.Simulation.Shell.Arithmetic

namespace Interposition.Simulation.Shell.Format

/-! ## Escape sequences -/

/-- The characters that one letter behind a backslash stands for. -/
def letters : List (Char × Char) :=
  [ ('n', '\n'), ('t', '\t'), ('r', '\r'), ('a', '\x07'), ('b', '\x08'), ('f', '\x0c'),
    ('v', '\x0b'), ('\\', '\\') ]

/-- The value of octal digits. -/
def octal (digits : List Char) : Nat :=
  digits.foldl (fun value c => value * 8 + (c.toNat - '0'.toNat)) 0

/-- Whether a character is an octal digit. -/
def isOctal (c : Char) : Bool := '0' ≤ c && c ≤ '7'

/-- The character an escape sequence stands for, read after the backslash. -/
def escaped (chars : List Char) : List Char × List Char :=
  match chars with
  | [] => (['\\'], [])
  | c :: rest =>
    match letters.lookup c with
    | some found => ([found], rest)
    | none =>
      if isOctal c then
        let digits := ((c :: rest).take 3).takeWhile isOctal
        ([Char.ofNat (octal digits % 256)], (c :: rest).drop digits.length)
      else (['\\', c], rest)

/-- A text with its escape sequences replaced, and whether it ends the whole output. -/
def unescape : Nat → List Char → List Char × Bool
  | 0, _ => ([], false)
  | _ + 1, [] => ([], false)
  | fuel + 1, '\\' :: 'c' :: _ => let _ := fuel; ([], true)
  | fuel + 1, '\\' :: '0' :: rest =>
    let digits := (rest.take 3).takeWhile isOctal
    let (more, ended) := unescape fuel (rest.drop digits.length)
    (Char.ofNat (octal digits % 256) :: more, ended)
  | fuel + 1, '\\' :: rest =>
    let (found, rest) := escaped rest
    let (more, ended) := unescape fuel rest
    (found ++ more, ended)
  | fuel + 1, c :: rest =>
    let (more, ended) := unescape fuel rest
    (c :: more, ended)

/-- What echoing texts writes. -/
def echo (texts : List String) : String :=
  let (bare, texts) := match texts with
    | "-n" :: rest => (true, rest)
    | _ => (false, texts)
  let chars := (" ".intercalate texts).toList
  let (found, ended) := unescape chars.length.succ chars
  String.ofList found ++ if bare || ended then "" else "\n"

/-! ## Formats -/

/-- How one argument is written. -/
structure Directive where
  leftAligned : Bool
  zeroPadded : Bool
  signed : Bool
  width : Nat
  precision : Option Nat
  conversion : Char

/-- A text filled up to the width of a directive. -/
def Directive.fill (d : Directive) (text : String) : String :=
  let gap := d.width - text.length
  if d.leftAligned then text.pushn ' ' gap else "".pushn ' ' gap ++ text

/-- A number filled up to the width and the precision of a directive. -/
def Directive.fillNumber (d : Directive) (sign digits : String) : String :=
  let padded := match d.precision with
    | some least => "".pushn '0' (least - digits.length) ++ digits
    | none =>
      if d.zeroPadded && !d.leftAligned then
        "".pushn '0' (d.width - sign.length - digits.length) ++ digits
      else digits
  d.fill (sign ++ padded)

/-- The number an argument spells; what is not a number counts as zero. -/
def numberOf (argument : String) : Int64 :=
  match argument.toList with
  | '\'' :: c :: _ | '"' :: c :: _ => Int64.ofNat c.toNat
  | '-' :: digits => -((Arithmetic.literal? digits).getD 0)
  | '+' :: digits => (Arithmetic.literal? digits).getD 0
  | digits => (Arithmetic.literal? digits).getD 0

/-- An argument as a directive writes it, and whether it ends the whole output. -/
def Directive.write (d : Directive) (argument : String) : String × Bool :=
  let value := numberOf argument
  let inBase (base : Nat) : String := String.ofList (Nat.toDigits base value.toUInt64.toNat)
  match d.conversion with
  | 's' => (d.fill (match d.precision with
    | some most => (argument.take most).toString
    | none => argument), false)
  | 'b' =>
    let (found, ended) := unescape argument.length.succ argument.toList
    (d.fill (String.ofList found), ended)
  | 'c' => (d.fill (argument.take 1).toString, false)
  | 'd' | 'i' =>
    let sign := if value < 0 then "-" else if d.signed then "+" else ""
    (d.fillNumber sign (toString value.toInt.natAbs), false)
  | 'u' => (d.fillNumber "" (inBase 10), false)
  | 'o' => (d.fillNumber "" (inBase 8), false)
  | 'x' => (d.fillNumber "" (inBase 16), false)
  | 'X' => (d.fillNumber "" (inBase 16).toUpper, false)
  | _ => ("", false)

/-- A directive, after its percent sign. -/
def directive? (chars : List Char) : Option (Directive × List Char) :=
  let flags := chars.takeWhile "-+ #0".toList.contains
  let rest := chars.drop flags.length
  let width := rest.takeWhile Char.isDigit
  let rest := rest.drop width.length
  let (precision, rest) := match rest with
    | '.' :: more =>
      let digits := more.takeWhile Char.isDigit
      (some ((Text.digitsValue? digits).getD 0), more.drop digits.length)
    | _ => (none, rest)
  match rest with
  | [] => none
  | conversion :: rest =>
    if "sbcdiuoxX".toList.contains conversion then
      some (⟨flags.contains '-', flags.contains '0', flags.contains '+',
        (Text.digitsValue? width).getD 0, precision, conversion⟩, rest)
    else none

/-- One pass over a format: what it writes, the arguments left over, and whether the output ends
    there. -/
def pass : Nat → List Char → List String → String × List String × Bool
  | 0, _, arguments => ("", arguments, false)
  | _ + 1, [], arguments => ("", arguments, false)
  | fuel + 1, c :: rest, arguments =>
    let go (text : String) (rest : List Char) (arguments : List String) :=
      let (more, arguments, ended) := pass fuel rest arguments
      (text ++ more, arguments, ended)
    if c = '\\' then
      let (found, rest) := escaped rest
      go (String.ofList found) rest arguments
    else if c = '%' then
      if rest.head? = some '%' then go "%" (rest.drop 1) arguments
      else
        match directive? rest with
        | none => ("", [], true)
        | some (d, rest) =>
          let (text, ended) := d.write (arguments.head?.getD "")
          if ended then (text, [], true) else go text rest (arguments.drop 1)
    else go c.toString rest arguments

/-- Passes over a format as long as there are arguments left and a pass takes some. -/
def passes : Nat → List Char → List String → String
  | 0, _, _ => ""
  | fuel + 1, chars, arguments =>
    let (text, left, ended) := pass chars.length.succ chars arguments
    if ended || left.isEmpty || left.length = arguments.length then text
    else text ++ passes fuel chars left

/-- What a format with arguments writes. -/
def fillIn (format : String) (arguments : List String) : String :=
  passes arguments.length.succ format.toList arguments

end Interposition.Simulation.Shell.Format
