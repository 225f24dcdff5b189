/-
  UTF-8, byte by byte.

  `decode` reads a byte sequence as a list of pieces: a piece is a character, or `none` for one
  maximal run of bytes that could still have begun a character when the next byte (or the end)
  ruled it out.  Every reading of bytes as text in this library is a view of that one list.
-/

namespace Interposition.Utf8

/-- What a lead byte asks for: how many bytes are still to come, the value bits so far, and the
    range the next byte must lie in. -/
structure Expectation where
  remaining : Nat
  value : Nat
  low : UInt8
  high : UInt8

/-- The expectation a lead byte of a multi-byte character sets up.  The narrowed ranges rule out
    overlong forms, surrogates and values beyond the last scalar. -/
def expectation? (lead : UInt8) : Option Expectation :=
  let bits := lead.toNat
  if lead < 0xC2 then none
  else if lead < 0xE0 then some ⟨1, bits - 0xC0, 0x80, 0xBF⟩
  else if lead = 0xE0 then some ⟨2, 0, 0xA0, 0xBF⟩
  else if lead = 0xED then some ⟨2, 0xD, 0x80, 0x9F⟩
  else if lead < 0xF0 then some ⟨2, bits - 0xE0, 0x80, 0xBF⟩
  else if lead = 0xF0 then some ⟨3, 0, 0x90, 0xBF⟩
  else if lead < 0xF4 then some ⟨3, bits - 0xF0, 0x80, 0xBF⟩
  else if lead = 0xF4 then some ⟨3, 4, 0x80, 0x8F⟩
  else none

/-- The expectation after one more accepted byte. -/
def Expectation.accept (e : Expectation) (byte : UInt8) : Expectation :=
  ⟨e.remaining - 1, e.value * 64 + (byte.toNat - 0x80), 0x80, 0xBF⟩

/-- Reads bytes as pieces; `pending` is the expectation of a character that has begun. -/
def pieces : Option Expectation → List UInt8 → List (Option Char)
  | none, [] => []
  | some _, [] => [none]
  | pending, byte :: rest =>
    let fresh : Unit → List (Option Char) := fun _ =>
      if byte < 0x80 then some (Char.ofNat byte.toNat) :: pieces none rest
      else match expectation? byte with
        | none => none :: pieces none rest
        | some e => pieces (some e) rest
    match pending with
    | none => fresh ()
    | some e =>
      if e.low ≤ byte ∧ byte ≤ e.high then
        let e' := e.accept byte
        if e'.remaining = 0 then some (Char.ofNat e'.value) :: pieces none rest
        else pieces (some e') rest
      else none :: fresh ()

/-- A byte sequence as pieces. -/
def decode (bytes : List UInt8) : List (Option Char) := pieces none bytes

/-- The text of a byte sequence that is well-formed throughout. -/
def toText? (bytes : List UInt8) : Option String := ((decode bytes).mapM id).map String.ofList

/-- The text of a byte sequence, with U+FFFD for every ill-formed piece. -/
def toTextLossy (bytes : List UInt8) : String :=
  String.ofList ((decode bytes).map fun piece => piece.getD (Char.ofNat 0xFFFD))

/-- The characters before the first ill-formed piece, and whether there is one. -/
def wellFormedPart (bytes : List UInt8) : List Char × Bool :=
  let all := decode bytes
  (all.takeWhile Option.isSome |>.filterMap id, all.any Option.isNone)

/-- The bytes of a text.  Irreducible, so that terms are compared without spelling texts out. -/
@[irreducible] def ofText (text : String) : List UInt8 := text.toUTF8.data.toList

end Interposition.Utf8
