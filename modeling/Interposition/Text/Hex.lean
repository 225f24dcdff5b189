/-
  Bytes written as pairs of hexadecimal digits.
-/
import Interposition.Text.Number

namespace Interposition.Text

/-- Two digits for every byte. -/
def hexChars (bytes : List UInt8) : List Char :=
  bytes.flatMap fun b => [hexDigit (b.toNat / 16), hexDigit (b.toNat % 16)]

/-- The written form of bytes. -/
def hex (bytes : List UInt8) : String := String.ofList (hexChars bytes)

/-- The bytes that pairs of digits stand for; nothing where a digit is missing or is none. -/
def bytesOfHexChars? : List Char → Option (List UInt8)
  | [] => some []
  | [_] => none
  | a :: b :: rest => do
    let high ← hexValue? a
    let low ← hexValue? b
    return UInt8.ofNat (high * 16 + low) :: (← bytesOfHexChars? rest)

/-- The bytes a text stands for. -/
def bytesOfHex? (source : String) : Option (List UInt8) := bytesOfHexChars? source.toList

end Interposition.Text
