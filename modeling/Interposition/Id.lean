/-
  Identifiers of the interposition layer.

  Everything that crosses between an isolated process and the table that answers its system calls
  is one 64-bit word.  The identifiers below are words with a role: a cage is an isolated process,
  a grate is a process that answers the calls of other processes, and a grate is itself a process,
  so the two kinds of identity share one space of process numbers.
-/
import Interposition.Json.Decode

namespace Interposition

/-- A machine word as it crosses the interposition boundary. -/
abbrev Word := UInt64

/-- A process number as the operating system hands it out. -/
abbrev Pid := Int32

/-- The word a process number becomes: sign extension, so no two process numbers meet. -/
def Pid.toWord (pid : Pid) : Word := pid.toInt64.toUInt64

/-- Identity of an isolated process, its process number.  Zero means "no cage". -/
structure CageId where
  raw : Word
deriving DecidableEq, Hashable, Inhabited

/-- Identity of a grate.  A grate is itself a process, so its id lives in the space of cage ids. -/
structure GrateId where
  raw : Word
deriving DecidableEq, Hashable, Inhabited

/-- An externally defined system call number. -/
structure SyscallNumber where
  raw : Word
deriving DecidableEq, Hashable, Inhabited

/-- Position of a handler inside one grate's handler table. -/
structure HandlerIndex where
  raw : Word
deriving DecidableEq, Hashable, Inhabited

namespace CageId

/-- Zero is reserved and never names a live process. -/
def isValid (cage : CageId) : Bool := cage.raw != 0

/-- The cage that is the given process. -/
def ofPid (pid : Pid) : CageId := ⟨pid.toWord⟩

instance : ToString CageId := ⟨fun cage => s!"cage#{cage.raw}"⟩

/-- The identity spelled with its type, as diagnostics show it inside larger values. -/
def described (cage : CageId) : String := s!"CageId({cage.raw})"

end CageId

namespace GrateId

/-- Zero is reserved and never names a live process. -/
def isValid (grate : GrateId) : Bool := grate.raw != 0

/-- The grate that is the given process. -/
def ofPid (pid : Pid) : GrateId := ⟨pid.toWord⟩

/-- The grate viewed as a cage, for the bookkeeping of exits. -/
def asCage (grate : GrateId) : CageId := ⟨grate.raw⟩

instance : ToString GrateId := ⟨fun grate => s!"grate#{grate.raw}"⟩

/-- The identity spelled with its type. -/
def described (grate : GrateId) : String := s!"GrateId({grate.raw})"

end GrateId

namespace SyscallNumber

instance : ToString SyscallNumber := ⟨fun number => s!"sys#{number.raw}"⟩

/-- The number spelled with its type. -/
def described (number : SyscallNumber) : String := s!"SyscallNumber({number.raw})"

end SyscallNumber

namespace HandlerIndex

/-- The position as an index into a table held in memory. -/
def position (index : HandlerIndex) : Nat := index.raw.toNat

instance : ToString HandlerIndex := ⟨fun index => s!"handler#{index.raw}"⟩

/-- The position spelled with its type. -/
def described (index : HandlerIndex) : String := s!"HandlerIndex({index.raw})"

end HandlerIndex

/-! ## Written form: the bare number -/

instance : Encode CageId := ⟨fun cage => toJson cage.raw⟩
instance : Decode CageId := ⟨fun reading => (decode reading).map CageId.mk⟩
instance : Encode GrateId := ⟨fun grate => toJson grate.raw⟩
instance : Decode GrateId := ⟨fun reading => (decode reading).map GrateId.mk⟩
instance : Encode SyscallNumber := ⟨fun number => toJson number.raw⟩
instance : Decode SyscallNumber := ⟨fun reading => (decode reading).map SyscallNumber.mk⟩
instance : Encode HandlerIndex := ⟨fun index => toJson index.raw⟩
instance : Decode HandlerIndex := ⟨fun reading => (decode reading).map HandlerIndex.mk⟩

end Interposition
