/-
  The system call numbers the interposition layer knows by name.
-/
import Interposition.Id

namespace Interposition.Syscall

/-- Opens a file. -/
def openFile : SyscallNumber := ⟨2⟩

/-- Ends the calling process; a dead cage may still make this call. -/
def exit : SyscallNumber := ⟨30⟩

/-- Asks for the caller's process number. -/
def getpid : SyscallNumber := ⟨39⟩

/-- Asks for the caller's user id. -/
def getuid : SyscallNumber := ⟨50⟩

/-- Asks for the caller's effective user id. -/
def geteuid : SyscallNumber := ⟨51⟩

/-- The reserved number that carries registration requests. -/
def registerHandler : SyscallNumber := ⟨400⟩

/-- Human-readable name of a number. -/
def nameOf (number : SyscallNumber) : String :=
  if number = openFile then "open"
  else if number = exit then "exit"
  else if number = getpid then "getpid"
  else if number = getuid then "getuid"
  else if number = geteuid then "geteuid"
  else if number = registerHandler then "register_handler"
  else "unknown"

/-- Numbers that may never be intercepted. -/
def isReserved (number : SyscallNumber) : Bool := number = registerHandler

end Interposition.Syscall
