/-
  The executables of the simulated machine itself: its shell and the utilities.
-/
import Interposition.Simulation.Installation
import Interposition.Simulation.Shell.Run

namespace Interposition.Simulation

/-- The shell. -/
def shell : Installed := ⟨Machine.shellPath, Shell.shellProgram⟩

/-- The utilities as executables of their own. -/
def utilities : List Installed :=
  Shell.Utility.all.map fun (name, utility) => ⟨"/bin/" ++ name, Shell.Utility.program utility⟩

/-- Every executable a machine has from the start. -/
def standardExecutables : List Installed := shell :: utilities

end Interposition.Simulation
