/-
  Requesting registrations through whatever channel a process has for its calls.
-/
import Interposition.Registration

namespace Interposition

/-- The one primitive a process needs from the runtime below it: a call with six words. -/
abbrev Channel (m : Type → Type u) := SyscallNumber → Vector Word 6 → m Int64

namespace Channel

variable {m : Type → Type u} [Monad m]

/-- Requests a registration; the answer is the bare status word. -/
def registerRaw (channel : Channel m) (r : Registration) : m Int64 :=
  channel Syscall.registerHandler r.toWords

/-- Requests a registration and reads the status word. -/
def register (channel : Channel m) (r : Registration) : m (Except RegistrationError Unit) := do
  return RegistrationError.check (← channel.registerRaw r) r

end Channel

end Interposition
