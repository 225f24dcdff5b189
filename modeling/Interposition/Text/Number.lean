/-
  Numbers as text: reading decimal numbers under a bound, and writing hexadecimal ones.
-/

namespace Interposition.Text

/-- The value of a decimal digit. -/
def digitValue? (c : Char) : Option Nat := if c.isDigit then some (c.toNat - '0'.toNat) else none

/-- The value of a hexadecimal digit, either case. -/
def hexValue? (c : Char) : Option Nat :=
  if c.isDigit then some (c.toNat - '0'.toNat)
  else if 'a' ≤ c ∧ c ≤ 'f' then some (c.toNat - 'a'.toNat + 10)
  else if 'A' ≤ c ∧ c ≤ 'F' then some (c.toNat - 'A'.toNat + 10)
  else none

/-- The value of a run of digits, if every character is one. -/
def digitsValue? (digits : List Char) : Option Nat :=
  digits.foldlM (fun value c => (digitValue? c).map (value * 10 + ·)) 0

/-- A non-negative decimal number up to `limit`: at least one digit, an optional plus sign in
    front, nothing else. -/
def naturalUpTo? (limit : Nat) (text : String) : Option Nat :=
  let digits := match text.toList with
    | '+' :: rest => rest
    | all => all
  if digits.isEmpty then none
  else (digitsValue? digits).filter (· ≤ limit)

/-- The same with a minus sign in front let pass, which leaves only zero. -/
def signedUpTo? (limit : Nat) (text : String) : Option Nat :=
  match text.toList with
  | '-' :: digits =>
    if digits.isEmpty then none else (digitsValue? digits).filter (· = 0)
  | _ => naturalUpTo? limit text

/-- A number that fits a word. -/
def word? (text : String) : Option UInt64 :=
  (naturalUpTo? (UInt64.size - 1) text).map UInt64.ofNat

/-- A number that fits half a word. -/
def halfWord? (text : String) : Option UInt32 :=
  (naturalUpTo? (UInt32.size - 1) text).map UInt32.ofNat

/-- The lower-case hexadecimal digit of a value below sixteen. -/
def hexDigit (value : Nat) : Char :=
  if value < 10 then Char.ofNat ('0'.toNat + value) else Char.ofNat ('a'.toNat + (value - 10))

/-- Exactly four hexadecimal digits of a 16-bit value. -/
def hexQuad (value : Nat) : List Char :=
  [hexDigit (value / 4096 % 16), hexDigit (value / 256 % 16), hexDigit (value / 16 % 16),
    hexDigit (value % 16)]

/-- The hexadecimal digits of a value, no leading zeros. -/
def hexDigits (value : Nat) : List Char := (Nat.toDigits 16 value)

end Interposition.Text
