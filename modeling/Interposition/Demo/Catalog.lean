/-
  The handlers every demonstration grate is built with, and how cages find them.
-/
import Interposition.Dispatch
import Interposition.Syscall

namespace Interposition.Demo

/-- What the demonstration grate answers for the user id, and for the effective one. -/
def userId : Int64 := 10

/-- The index of the handler for the effective user id. -/
def geteuidHandler : HandlerIndex := ⟨0⟩

/-- The index of the handler for the user id. -/
def getuidHandler : HandlerIndex := ⟨1⟩

/-- The index of the handler that adds. -/
def addHandler : HandlerIndex := ⟨3⟩

/-- The file the open handler creates, in the state directory. -/
def file (stateDir : Path) : Path := stateDir.child "testfile.txt"

/-- The handlers, in order of their index. -/
def handlers (stateDir : Path) : HandlerTable :=
  [ .identity "geteuid" userId, .identity "getuid" userId,
    .openFixed "open" (file stateDir), .add "add" ]

/-- What the grate of a session intercepts of its cage. -/
def sessionInterceptions : List (SyscallNumber × HandlerIndex) :=
  [(Syscall.getuid, getuidHandler), (Syscall.geteuid, geteuidHandler)]

/-- What every cage of a chain registers under its grate. -/
def chainInterceptions : List (SyscallNumber × HandlerIndex) :=
  [(Syscall.geteuid, geteuidHandler)]

/-- Every demonstration grate has the same handlers, so any grate is found. -/
def catalog (stateDir : Path) (grate : GrateId) : Option Dispatcher :=
  some (.new grate (handlers stateDir))

end Interposition.Demo
