/-
  The audit trail: one event for every change of the interception table.
-/
import Interposition.Registration

namespace Interposition

/-- A change of the interception table. -/
inductive AuditEvent where
  | installed (registration : Registration)
  | replaced (registration : Registration) (previous : Binding)
  | revoked (cage : CageId) (syscall : SyscallNumber) (binding : Binding)
  | grateDetached (grate : GrateId) (removed : Nat)
  | cageExited (cage : CageId) (removed : Nat)
deriving DecidableEq

namespace AuditEvent

instance : Encode AuditEvent where
  toJson
    | .installed r => .object [("event", .text "installed"), ("registration", toJson r)]
    | .replaced r previous => .object
      [("event", .text "replaced"), ("registration", toJson r), ("previous", toJson previous)]
    | .revoked cage syscall binding => .object
      [ ("event", .text "revoked"), ("cage", toJson cage), ("syscall", toJson syscall),
        ("binding", toJson binding) ]
    | .grateDetached grate removed => .object
      [("event", .text "grate_detached"), ("grate", toJson grate), ("removed", .number removed)]
    | .cageExited cage removed => .object
      [("event", .text "cage_exited"), ("cage", toJson cage), ("removed", .number removed)]

/-- The variants of an event. -/
def cases : Cases AuditEvent :=
  [ ("installed", .record (Fields.done installed |>.required "registration")),
    ("replaced", .record
      (Fields.done replaced |>.required "registration" |>.required "previous")),
    ("revoked", .record
      (Fields.done revoked |>.required "cage" |>.required "syscall" |>.required "binding")),
    ("grate_detached", .record
      (Fields.done grateDetached |>.required "grate" |>.field "removed" Decoder.size .required)),
    ("cage_exited", .record
      (Fields.done cageExited |>.required "cage" |>.field "removed" Decoder.size .required)) ]

instance : Decode AuditEvent :=
  ⟨Decoder.taggedInside "AuditEvent" "event" Text.camelCase cases⟩

end AuditEvent

end Interposition
