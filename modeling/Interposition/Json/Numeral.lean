/-
  Numbers in a JSON text.

  A number without fraction or exponent that fits a word (or, with a minus sign, a signed word) is
  an integer; every other number is a double precision one.  A number whose magnitude is infinite
  is well-formed text with no value.
-/
import Interposition.Json.Binary64
import Interposition.Text.Number

namespace Interposition

/-- Why a text is not a JSON document: it ended too early, or something wrong stands in it. -/
inductive Fault where
  | truncated
  | malformed
deriving DecidableEq, Inhabited

/-- A number as read.  Integers below zero are `negative`; negative zero is not an integer. -/
inductive Numeral where
  | unsigned (n : UInt64)
  | negative (n : Int64)
  | floating (below : Bool) (magnitude : Binary64)
  | unbounded
deriving DecidableEq

namespace Numeral

/-- A floating number, unless its magnitude is infinite. -/
def ofMagnitude (below : Bool) : Option Binary64 → Numeral
  | some magnitude => floating below magnitude
  | none => unbounded

/-- The digits in front of a text, and the rest. -/
def spanDigits : List Char → List Nat × List Char
  | [] => ([], [])
  | c :: rest =>
    match Text.digitValue? c with
    | none => ([], c :: rest)
    | some d => let (ds, rest') := spanDigits rest; (d :: ds, rest')

/-- Appends digits to a significand while it still fits a word; also how many were appended.  The
    digits after the first that does not fit are dropped. -/
def appendDigits (significand : Nat) : List Nat → Nat × Nat
  | [] => (significand, 0)
  | d :: ds =>
    if significand * 10 + d < UInt64.size then
      let (result, used) := appendDigits (significand * 10 + d) ds
      (result, used + 1)
    else (significand, 0)

/-- The value of exponent digits, or nothing when it leaves 31 bits. -/
def exponentValue? (digits : List Nat) : Option Nat :=
  digits.foldlM (fun value d =>
    if value * 10 + d < 0x80000000 then some (value * 10 + d) else none) 0

/-- What a reader of a piece of text answers: the piece and the text behind it, or the fault when
    the piece is read for its value and the fault when it is merely skipped. -/
abbrev Scan (α : Type) := Except (Fault × Fault) (α × List Char)

/-- The value of a significand and a power of ten, after an exponent part if one follows. -/
def withExponent (below : Bool) (significand : Nat) (scale : Int) :
    List Char → Scan Numeral
  | c :: rest =>
    if c = 'e' ∨ c = 'E' then
      let (raised, rest) := match rest with
        | '+' :: rest => (true, rest)
        | '-' :: rest => (false, rest)
        | rest => (true, rest)
      match spanDigits rest with
      | ([], []) => .error (.truncated, .malformed)
      | ([], _) => .error (.malformed, .malformed)
      | (digits, rest) =>
        match exponentValue? digits with
        | some e =>
          let power : Int := if raised then scale + e else scale - e
          .ok (ofMagnitude below (Binary64.ofDecimal? significand power), rest)
        | none =>
          if significand ≠ 0 ∧ raised then .ok (unbounded, rest)
          else .ok (floating below Binary64.zero, rest)
    else .ok (ofMagnitude below (Binary64.ofDecimal? significand scale), c :: rest)
  | [] => .ok (ofMagnitude below (Binary64.ofDecimal? significand scale), [])

/-- The integer with a sign, or the floating number it becomes when it fits no signed word. -/
def ofSignificand (below : Bool) (significand : Nat) : Numeral :=
  if !below then unsigned (UInt64.ofNat significand)
  else if significand ≠ 0 ∧ significand ≤ 0x8000000000000000 then
    negative (-Int64.ofNat significand)
  else ofMagnitude true (Binary64.ofNat? significand)

/-- Reads a number behind its sign. -/
def scan (below : Bool) (text : List Char) : Scan Numeral :=
  match spanDigits text with
  | ([], []) => .error (.truncated, .malformed)
  | ([], _) => .error (.malformed, .malformed)
  | (0 :: _ :: _, _) => .error (.malformed, .malformed)
  | (digits, rest) =>
    let (significand, used) := appendDigits 0 digits
    let dropped := digits.length - used
    match rest with
    | '.' :: rest =>
      match spanDigits rest with
      | ([], []) => .error (.truncated, .malformed)
      | ([], _) => .error (.malformed, .malformed)
      | (fraction, rest) =>
        let (significand, used) := appendDigits significand fraction
        withExponent below significand (dropped - used : Int) rest
    | c :: _ =>
      if c = 'e' ∨ c = 'E' ∨ dropped ≠ 0 then withExponent below significand dropped rest
      else .ok (ofSignificand below significand, rest)
    | [] =>
      if dropped ≠ 0 then withExponent below significand dropped rest
      else .ok (ofSignificand below significand, rest)

/-- The number as diagnostics show it, with its kind; nothing for an infinite one. -/
def described? : Numeral → Option String
  | unsigned n => some s!"integer `{n}`"
  | negative n => some s!"integer `{n}`"
  | floating below magnitude =>
    let sign := if below then "-" else ""
    some s!"floating point `{sign}{magnitude.display}`"
  | unbounded => none

end Numeral

end Interposition
