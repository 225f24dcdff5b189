/-
  Registrations: which handler of which grate answers which call of which cage.

  A registration is requested by a call whose first four argument words are its fields; the answer
  is a status word, zero or a negated error number, and both ends read it by the one contract
  below.
-/
import Interposition.Syscall
import Interposition.Errno
import Interposition.Diagnostic
import Interposition.Text.Case

namespace Interposition

/-- Where an intercepted call goes. -/
structure Binding where
  handler : HandlerIndex
  grate : GrateId
deriving DecidableEq, Inhabited

/-- Calls of `syscall` by `targetCage` go to handler `handler` of `grate`. -/
structure Registration where
  targetCage : CageId
  syscall : SyscallNumber
  handler : HandlerIndex
  grate : GrateId
deriving DecidableEq, Inhabited

/-- The word in place of an argument that is not used. -/
def unusedWord : Word := 0xdeadbeefdeadbeef

namespace Registration

/-- The argument words of the request. -/
def toWords (r : Registration) : Vector Word 6 :=
  #v[r.targetCage.raw, r.syscall.raw, r.handler.raw, r.grate.raw, unusedWord, unusedWord]

/-- The registration that argument words request. -/
def ofWords (words : Vector Word 6) : Registration :=
  ⟨⟨words[0]⟩, ⟨words[1]⟩, ⟨words[2]⟩, ⟨words[3]⟩⟩

/-- Where the registration sends its calls. -/
def binding (r : Registration) : Binding := ⟨r.handler, r.grate⟩

/-- Whether both ids can name a process. -/
def namesProcesses (r : Registration) : Bool := r.targetCage.isValid && r.grate.isValid

/-- The registration spelled with its types, as diagnostics show it. -/
def described (r : Registration) : String :=
  "Registration \x7b target_cage: " ++ r.targetCage.described ++ ", syscall: "
    ++ r.syscall.described ++ ", handler: " ++ r.handler.described ++ ", grate: "
    ++ r.grate.described ++ " \x7d"

end Registration

/-- The effect of an accepted registration. -/
inductive RegistrationOutcome where
  /-- Nothing was bound to the pair before. -/
  | installed
  /-- Another binding was overwritten: the last writer wins. -/
  | replaced (previous : Binding)
  /-- The same binding was active already. -/
  | unchanged
deriving DecidableEq

/-- Why a registration is refused. -/
inductive RegistrationError where
  | invalid (registration : Registration)
  | reserved (syscall : SyscallNumber)
  | exited (cage : CageId)
  | unsupported
  | io
  | rejected (status : Int64)
deriving DecidableEq, Inhabited

instance : Diagnostic RegistrationError where
  message
    | .invalid r => "registration names an invalid id: " ++ r.described
    | .reserved syscall => s!"syscall {syscall} is reserved and cannot be intercepted"
    | .exited cage => s!"{cage} has already exited"
    | .unsupported => "channel cannot carry registrations"
    | .io => "registration could not be recorded"
    | .rejected status => s!"registration rejected with status {status}"
  code
    | .invalid _ => "registration::invalid"
    | .reserved _ => "registration::reserved"
    | .exited _ => "registration::exited"
    | .unsupported => "registration::unsupported"
    | .io => "registration::io"
    | .rejected _ => "registration::rejected"
  help
    | .invalid _ => some "Cage and grate ids are positive process ids."
    | .exited _ =>
      some "Registrations must be issued while both the cage and the grate are alive."
    | _ => none

namespace RegistrationError

/-! ## The status contract -/

/-- The status word of an accepted registration. -/
def accepted : Int64 := 0

/-- The status word of a refusal. -/
def toStatus : RegistrationError → Int64
  | .invalid _ => Errno.einval.status
  | .reserved _ => Errno.einval.status
  | .exited _ => Errno.esrch.status
  | .unsupported => Errno.enosys.status
  | .io => Errno.eio.status
  | .rejected status => status

/-- The refusal a status word stands for when a given registration was requested; zero is
    success. -/
def ofStatus? (status : Int64) (requested : Registration) : Option RegistrationError :=
  if status = accepted then none
  else if status = Errno.einval.status then
    some (if Syscall.isReserved requested.syscall then .reserved requested.syscall
      else .invalid requested)
  else if status = Errno.esrch.status then some (.exited requested.targetCage)
  else if status = Errno.enosys.status then some .unsupported
  else if status = Errno.eio.status then some .io
  else some (.rejected status)

/-- A status word as the answer to a request. -/
def check (status : Int64) (requested : Registration) : Except RegistrationError Unit :=
  match ofStatus? status requested with
  | none => .ok ()
  | some e => .error e

end RegistrationError

/-! ## Written form -/

namespace Registration

instance : Encode Registration where
  toJson r := .object
    [ ("target_cage", toJson r.targetCage), ("syscall", toJson r.syscall),
      ("handler", toJson r.handler), ("grate", toJson r.grate) ]

/-- The fields of a registration. -/
def fields : Fields Registration :=
  Fields.done Registration.mk
    |>.required "target_cage" |>.required "syscall" |>.required "handler" |>.required "grate"

instance : Decode Registration := ⟨fields.decoder "Registration"⟩

end Registration

namespace Binding

instance : Encode Binding where
  toJson b := .object [("handler", toJson b.handler), ("grate", toJson b.grate)]

/-- The fields of a binding. -/
def fields : Fields Binding :=
  Fields.done Binding.mk |>.required "handler" |>.required "grate"

instance : Decode Binding := ⟨fields.decoder "Binding"⟩

end Binding

namespace RegistrationOutcome

instance : Encode RegistrationOutcome where
  toJson
    | .installed => .object [("outcome", .text "installed")]
    | .replaced previous =>
      .object [("outcome", .text "replaced"), ("previous", toJson previous)]
    | .unchanged => .object [("outcome", .text "unchanged")]

/-- The variants of an outcome. -/
def cases : Cases RegistrationOutcome :=
  [ ("installed", .bare installed),
    ("replaced", .value fun reading => (decode reading).map replaced),
    ("unchanged", .bare unchanged) ]

instance : Decode RegistrationOutcome :=
  ⟨Decoder.taggedBeside "RegistrationOutcome" "outcome" "previous" Text.camelCase cases⟩

end RegistrationOutcome

namespace RegistrationError

instance : Encode RegistrationError where
  toJson e :=
    let tagged (tag : String) (details : List (String × Json)) : Json :=
      .object (("error_type", .text tag) :: details)
    match e with
    | .invalid r => tagged "invalid" [("details", toJson r)]
    | .reserved syscall => tagged "reserved" [("details", toJson syscall)]
    | .exited cage => tagged "exited" [("details", toJson cage)]
    | .unsupported => tagged "unsupported" []
    | .io => tagged "io" []
    | .rejected status => tagged "rejected" [("details", toJson status)]

/-- The variants of a refusal. -/
def cases : Cases RegistrationError :=
  [ ("invalid", .value fun reading => (decode reading).map invalid),
    ("reserved", .value fun reading => (decode reading).map reserved),
    ("exited", .value fun reading => (decode reading).map exited),
    ("unsupported", .bare unsupported),
    ("io", .bare io),
    ("rejected", .value fun reading => (decode reading).map rejected) ]

instance : Decode RegistrationError :=
  ⟨Decoder.taggedBeside "RegistrationError" "error_type" "details" Text.camelCase cases⟩

end RegistrationError

end Interposition
