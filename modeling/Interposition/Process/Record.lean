/-
  Managed processes: what they are for, how far a cage has come, and how a process ended.
-/
import Interposition.Checked
import Interposition.Json.Decode
import Interposition.Signal
import Interposition.Text.Case

namespace Interposition

/-! ## Roles -/

/-- What a managed process is for. -/
inductive Role where
  | cage
  | grate
  /-- A program started by the plain runner. -/
  | program
deriving DecidableEq, Inhabited

namespace Role

/-- The roles by name. -/
def named : List (String × Role) := [("cage", cage), ("grate", grate), ("program", program)]

/-- The name of a role. -/
def name : Role → String
  | cage => "cage"
  | grate => "grate"
  | program => "program"

instance : ToString Role := ⟨name⟩
instance : Encode Role := ⟨fun role => .text role.name⟩
instance : Decode Role := ⟨Decoder.oneOf named⟩

end Role

/-! ## The life of a cage -/

/-- How far a managed cage has come. -/
inductive CageState where
  | created
  | waitingForSignal
  | running
  | exited
deriving DecidableEq, Inhabited

namespace CageState

/-- The steps a cage's life may take. -/
def canBecome : CageState → CageState → Bool
  | created, waitingForSignal => true
  | created, running => true
  | waitingForSignal, running => true
  | created, exited => true
  | waitingForSignal, exited => true
  | running, exited => true
  | _, _ => false

/-- The states by name. -/
def named : List (String × CageState) :=
  [ ("created", created), ("waiting_for_signal", waitingForSignal), ("running", running),
    ("exited", exited) ]

/-- The name of a state. -/
def name : CageState → String
  | created => "created"
  | waitingForSignal => "waiting_for_signal"
  | running => "running"
  | exited => "exited"

/-- The state as diagnostics show it. -/
def described (state : CageState) : String := Text.camelCase state.name

instance : Encode CageState := ⟨fun state => .text state.name⟩
instance : Decode CageState := ⟨Decoder.oneOf named⟩

end CageState

/-! ## How a process ends -/

/-- What waiting for a child reports. -/
inductive WaitStatus where
  | exited (code : Int32)
  | signaled (signal : Signal) (core : Bool)
  | stopped (signal : Signal)
  | continued
  | traced (event : Int32)
  | tracedCall
  | alive
deriving DecidableEq

/-- How a child ended. -/
inductive Termination where
  | exited (code : Int32)
  | signaled (signal : Int32)
  /-- Somebody else collected its status. -/
  | vanished
deriving DecidableEq, Inhabited

namespace Termination

/-- The end a wait reports, if it reports one. -/
def ofWaitStatus? : WaitStatus → Option Termination
  | .exited code => some (exited code)
  | .signaled signal _ => some (signaled signal.number)
  | _ => none

/-- Whether the process did what it should. -/
def isSuccess : Termination → Bool
  | exited code => code = 0
  | signaled _ => false
  | vanished => true

/-- The classic signal that ended the process. -/
def signal? : Termination → Option Signal
  | signaled number => Signal.ofNumber? number
  | _ => none

/-- The status a shell reports: the code, or 128 and the signal number, where that fits. -/
def exitCode : Termination → Option Int32
  | exited code => some code
  | signaled number => Checked.signed? 128 number
  | vanished => some 0

instance : ToString Termination where
  toString
    | exited code => s!"exited with code {code}"
    | signaled number =>
      match Signal.ofNumber? number with
      | some signal => s!"terminated by signal {signal}"
      | none => s!"terminated by signal {number}"
    | vanished => "already reaped"

instance : Encode Termination where
  toJson
    | exited code => .object [("kind", .text "exited"), ("code", toJson code)]
    | signaled number => .object [("kind", .text "signaled"), ("signal", toJson number)]
    | vanished => .object [("kind", .text "vanished")]

/-- The variants of a termination. -/
def cases : Cases Termination :=
  [ ("exited", .record (Fields.done exited |>.required "code")),
    ("signaled", .record (Fields.done signaled |>.required "signal")),
    ("vanished", .bare vanished) ]

instance : Decode Termination :=
  ⟨Decoder.taggedInside "Termination" "kind" Text.camelCase cases⟩

end Termination

/-! ## Records -/

/-- One managed child. -/
structure ProcessRecord where
  role : Role
  image : String
  pid : UInt32
  termination : Option Termination
deriving DecidableEq, Inhabited

namespace ProcessRecord

/-- The exit code recorded for an image that could not be run. -/
def notStartedCode : Int32 := 127

/-- A child that has just been started. -/
def new (role : Role) (image : String) (pid : UInt32) : ProcessRecord := ⟨role, image, pid, none⟩

/-- An image that could not be run, reported the way a shell reports one. -/
def notStarted (role : Role) (image : String) : ProcessRecord :=
  ⟨role, image, 0, some (.exited notStartedCode)⟩

/-- Whether there ever was a process. -/
def wasStarted (r : ProcessRecord) : Bool := r.pid != 0

/-- Whether the child has ended and did what it should. -/
def succeeded (r : ProcessRecord) : Bool := (r.termination.map Termination.isSuccess).getD false

instance : Encode ProcessRecord where
  toJson r := .object
    ([("role", toJson r.role), ("image", .text r.image), ("pid", toJson r.pid)]
      ++ match r.termination with
        | some t => [("termination", toJson t)]
        | none => [])

/-- The fields of a record. -/
def fields : Fields ProcessRecord :=
  Fields.done ProcessRecord.mk
    |>.required "role" |>.required "image" |>.required "pid"
    |>.field "termination" (Decoder.option decode) (.optional none)

instance : Decode ProcessRecord := ⟨fields.decoder "ProcessRecord"⟩

end ProcessRecord

end Interposition
