/-
  What a call comes to that nobody intercepts.
-/
import Interposition.Argument
import Interposition.Errno
import Interposition.Syscall

namespace Interposition

/-- The implementation of calls nobody intercepts. -/
abbrev Native := CageId → SyscallNumber → ArgumentVector → Int64

/-- Who a process is to the operating system. -/
structure Identity where
  user : UInt32
  effectiveUser : UInt32
  process : Pid
deriving DecidableEq

namespace Native

/-- Answers no call at all. -/
def unsupported : Native := fun _ _ _ => Errno.enosys.status

/-- Answers the calls that ask who the process is, whoever the caller, and no others. -/
def host (self : Identity) : Native := fun _ number _ =>
  if number = Syscall.getuid then self.user.toUInt64.toInt64
  else if number = Syscall.geteuid then self.effectiveUser.toUInt64.toInt64
  else if number = Syscall.getpid then self.process.toInt64
  else Errno.enosys.status

end Native

end Interposition
