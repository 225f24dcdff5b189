/-
  Failures of input and output, as the operating system or the library between reports them.
-/
import Interposition.Errno

namespace Interposition

/-- Why an operation on a file or a process failed. -/
inductive IoError where
  /-- The operating system refused. -/
  | os (errno : Errno)
  /-- A path holds a zero byte, which no path of the system may. -/
  | nulInPath
  /-- A program, argument or variable holds a zero byte. -/
  | nulInData
  /-- A write took no bytes. -/
  | writeZero
deriving DecidableEq, Inhabited

namespace IoError

/-- The sentence that describes the failure. -/
def message : IoError → String
  | os errno => s!"{errno.sentence} (os error {errno.code})"
  | nulInPath => "file name contained an unexpected NUL byte"
  | nulInData => "nul byte found in provided data"
  | writeZero => "failed to write whole buffer"

/-- The error number, if the operating system gave one. -/
def errno? : IoError → Option Errno
  | os errno => some errno
  | _ => none

/-- Whether the failure is that there is no such file. -/
def isNotFound (e : IoError) : Bool := e.errno? = some .enoent

end IoError

end Interposition
