/-
  Text in double quotes with everything unprintable escaped, as diagnostics show it.
-/
import Interposition.Text.Number

namespace Interposition.Text

/-- Ranges of characters that are shown by their number: controls, format characters, combining
    marks, private use and unassigned planes. -/
def hiddenRanges : List (Nat × Nat) :=
  [ (0x00, 0x1F), (0x7F, 0x9F), (0xAD, 0xAD), (0x300, 0x36F), (0x378, 0x379), (0x380, 0x383),
    (0x483, 0x489), (0x591, 0x5BD), (0x600, 0x605), (0x610, 0x61C), (0x64B, 0x65F),
    (0x6DD, 0x6DD), (0x70F, 0x70F), (0x180E, 0x180E), (0x1AB0, 0x1AFF), (0x1DC0, 0x1DFF),
    (0x1680, 0x1680), (0x2000, 0x200F), (0x2028, 0x202F), (0x205F, 0x206F), (0x20D0, 0x20FF),
    (0x3000, 0x3000), (0xD800, 0xF8FF), (0xFE00, 0xFE0F), (0xFE20, 0xFE2F), (0xFEFF, 0xFEFF),
    (0xFFF0, 0xFFFB), (0xFFFE, 0xFFFF), (0xA0, 0xA0), (0x323B0, 0x10FFFF) ]

/-- Characters shown by their number. -/
def isHidden (c : Char) : Bool :=
  hiddenRanges.any fun range => range.1 ≤ c.toNat && c.toNat ≤ range.2

/-- One character between double quotes. -/
def quotedChar (c : Char) : List Char :=
  if c = '"' then ['\\', '"']
  else if c = '\\' then ['\\', '\\']
  else if c = '\n' then ['\\', 'n']
  else if c = '\r' then ['\\', 'r']
  else if c = '\t' then ['\\', 't']
  else if c = '\x00' then ['\\', '0']
  else if isHidden c then ['\\', 'u', '\x7b'] ++ hexDigits c.toNat ++ ['\x7d']
  else [c]

/-- A text in double quotes. -/
def quoted (text : String) : String :=
  String.ofList (['"'] ++ text.toList.flatMap quotedChar ++ ['"'])

end Interposition.Text
