/-
  What processes tell one another through markers: a grate that it is ready, a cage what it saw.
-/
import Interposition.Registration

namespace Interposition

/-- Written by a grate once all its registrations are made. -/
structure ReadyMarker where
  grate : GrateId
  targetCage : CageId
  registrations : List Registration
deriving DecidableEq, Inhabited

/-- One call a cage made. -/
structure CallRecord where
  syscall : SyscallNumber
  name : String
  ret : Int64
  thread : UInt64
deriving DecidableEq, Inhabited

/-- Everything a cage observed. -/
structure CageOutcome where
  cage : CageId
  calls : List CallRecord
deriving DecidableEq, Inhabited

/-- What the calls with a number returned. -/
def CageOutcome.returnsOf (outcome : CageOutcome) (syscall : SyscallNumber) : List Int64 :=
  (outcome.calls.filter fun call => call.syscall = syscall).map CallRecord.ret

/-! ## Written forms -/

instance : Encode ReadyMarker where
  toJson marker := .object
    [ ("grate", toJson marker.grate), ("target_cage", toJson marker.targetCage),
      ("registrations", toJson marker.registrations) ]

/-- The fields of a ready marker. -/
def ReadyMarker.fields : Fields ReadyMarker :=
  Fields.done ReadyMarker.mk
    |>.required "grate" |>.required "target_cage" |>.required "registrations"

instance : Decode ReadyMarker := ⟨ReadyMarker.fields.decoder "ReadyMarker"⟩

instance : Encode CallRecord where
  toJson call := .object
    [ ("syscall", toJson call.syscall), ("name", .text call.name), ("ret", toJson call.ret),
      ("thread", toJson call.thread) ]

/-- The fields of a call. -/
def CallRecord.fields : Fields CallRecord :=
  Fields.done CallRecord.mk
    |>.required "syscall" |>.required "name" |>.required "ret"
    |>.field "thread" (fun reading => (Decoder.size reading).map UInt64.ofNat) .required

instance : Decode CallRecord := ⟨CallRecord.fields.decoder "CallRecord"⟩

instance : Encode CageOutcome where
  toJson outcome := .object [("cage", toJson outcome.cage), ("calls", toJson outcome.calls)]

/-- The fields of an outcome. -/
def CageOutcome.fields : Fields CageOutcome :=
  Fields.done CageOutcome.mk |>.required "cage" |>.required "calls"

instance : Decode CageOutcome := ⟨CageOutcome.fields.decoder "CageOutcome"⟩

end Interposition
