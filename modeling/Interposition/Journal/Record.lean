/-
  Records of the registration journal.

  A record is 40 bytes: an operation word and four argument words, least significant byte first.
  Words an operation does not use are zero when written and ignored when read.
-/
import Interposition.InterceptionTable

namespace Interposition

/-- One entry of the registration journal. -/
inductive JournalRecord where
  | register (registration : Registration)
  | revoke (cage : CageId) (syscall : SyscallNumber)
  | grateExit (grate : GrateId)
  | cageExit (cage : CageId)
deriving DecidableEq, Inhabited

/-- A record whose operation word names no operation. -/
structure UnknownOperation where
  operation : Word
  record : Nat
deriving DecidableEq

namespace JournalRecord

/-- The size of a record in bytes. -/
def byteLength : Nat := 40

/-! ## Words and bytes -/

/-- The bytes of a word, least significant first. -/
def wordBytes (word : Word) : List UInt8 :=
  (List.range 8).map fun i => (word >>> UInt64.ofNat (8 * i)).toUInt8

/-- The word of its bytes, least significant first. -/
def ofWordBytes (bytes : List UInt8) : Word :=
  bytes.foldr (fun byte word => word * 256 + byte.toUInt64) 0

/-- The five words of a record. -/
def words : JournalRecord → List Word
  | register r => [1, r.targetCage.raw, r.syscall.raw, r.handler.raw, r.grate.raw]
  | revoke cage syscall => [2, cage.raw, syscall.raw, 0, 0]
  | grateExit grate => [3, grate.raw, 0, 0, 0]
  | cageExit cage => [4, cage.raw, 0, 0, 0]

/-- The bytes of a record. -/
def encode (r : JournalRecord) : List UInt8 := r.words.flatMap wordBytes

/-- The record that an operation word and four argument words stand for. -/
def ofWords? (operation a b c d : Word) : Option JournalRecord :=
  if operation = 1 then some (register ⟨⟨a⟩, ⟨b⟩, ⟨c⟩, ⟨d⟩⟩)
  else if operation = 2 then some (revoke ⟨a⟩ ⟨b⟩)
  else if operation = 3 then some (grateExit ⟨a⟩)
  else if operation = 4 then some (cageExit ⟨a⟩)
  else none

/-- The word that stands at a position of a record. -/
def wordAt (bytes : List UInt8) (position : Nat) : Word :=
  ofWordBytes ((bytes.drop (8 * position)).take 8)

/-- The record its bytes stand for; `number` says which record this is when it cannot be read. -/
def decode (bytes : List UInt8) (number : Nat) : Except UnknownOperation JournalRecord :=
  let word := wordAt bytes
  match ofWords? (word 0) (word 1) (word 2) (word 3) (word 4) with
  | some r => .ok r
  | none => .error ⟨word 0, number⟩

/-! ## Replay -/

/-- Applies a record to a table; a registration the table refuses is passed over. -/
def apply (r : JournalRecord) (table : InterceptionTable) : InterceptionTable :=
  match r with
  | register registration => (table.register registration).2
  | revoke cage syscall => (table.revoke cage syscall).2
  | grateExit grate => (table.grateExited grate).2
  | cageExit cage => (table.cageExited cage).2

/-- Applies records to a table in order. -/
def replay (records : List JournalRecord) (table : InterceptionTable) : InterceptionTable :=
  records.foldl (fun table r => r.apply table) table

/-! ## Files of records -/

/-- The complete records at the front of a file, one list of bytes each. -/
def chunks (bytes : List UInt8) : List (List UInt8) :=
  if _short : bytes.length < byteLength then []
  else bytes.take byteLength :: chunks (bytes.drop byteLength)
termination_by bytes.length
decreasing_by
  rw [List.length_drop]
  unfold byteLength at _short ⊢
  omega

/-- Decodes records that carry their numbers, up to the first that cannot be read. -/
def decodeAll : List (List UInt8 × Nat) → Except UnknownOperation (List JournalRecord)
  | [] => .ok []
  | (bytes, number) :: rest => do
    let r ← decode bytes number
    return r :: (← decodeAll rest)

/-- The complete records of a file from a record number on.  Bytes behind the last complete record
    belong to a write in flight. -/
def readFrom (bytes : List UInt8) (skip : Nat) :
    Except UnknownOperation (List JournalRecord) :=
  decodeAll ((chunks bytes).zipIdx.drop skip)

/-! ## Written form -/

instance : Encode JournalRecord where
  toJson
    | .register r => .object
      [ ("op", .text "register"), ("target_cage", toJson r.targetCage),
        ("syscall", toJson r.syscall), ("handler", toJson r.handler),
        ("grate", toJson r.grate) ]
    | .revoke cage syscall => .object
      [("op", .text "revoke"), ("cage", toJson cage), ("syscall", toJson syscall)]
    | .grateExit grate => .object [("op", .text "grate_exit"), ("grate", toJson grate)]
    | .cageExit cage => .object [("op", .text "cage_exit"), ("cage", toJson cage)]

/-- The variants of a record. -/
def cases : Cases JournalRecord :=
  [ ("register", .value fun reading => (Interposition.decode reading).map register),
    ("revoke", .record (Fields.done revoke |>.required "cage" |>.required "syscall")),
    ("grate_exit", .record (Fields.done grateExit |>.required "grate")),
    ("cage_exit", .record (Fields.done cageExit |>.required "cage")) ]

instance : Decode JournalRecord :=
  ⟨Decoder.taggedInside "JournalRecord" "op" Text.camelCase cases⟩

end JournalRecord

end Interposition
