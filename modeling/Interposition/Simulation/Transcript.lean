/-
  One program run from start to end on a machine of its own.
-/
import Interposition.Programs
import Interposition.Simulation.Executables

namespace Interposition.Simulation

/-- Where the programs of this library are installed. -/
def programDirectory : String := "/opt/lind/bin/"

/-- The programs of this library by name, given the words behind their names. -/
def programs : List (String × (List String → Program Int32)) :=
  [ ("lind-cage", Programs.cage),
    ("lind-grate", Programs.grate),
    ("grate-loader", Programs.loader) ]

/-- The programs of this library as executables. -/
def programExecutables : List Installed := programs.map fun (name, run) =>
  ⟨programDirectory ++ name, fun args => run (args.drop 1)⟩

/-- A machine with everything installed, and lines waiting on its channels. -/
def Machine.furnished (channels : List (Nat × LineQueue)) : Machine :=
  { Machine.installed (standardExecutables ++ programExecutables) with channels }

/-- The variables of a freshly started machine with others beside them or in their place. -/
def variablesWith (own : List (String × String)) : List (String × String) :=
  (Machine.standardVariables.filter fun v => (own.lookup v.1).isNone) ++ own

/-- What a program has come to on a machine after so many steps: how it ended, if it has, and the
    texts it has shown. -/
def transcript (machine : Machine) (vars : List (String × String)) (steps : Nat)
    (program : Program Int32) : Option WaitStatus × List String :=
  let (pid, machine) := machine.boot program (variablesWith vars)
  let machine := machine.runUntilEnded pid steps
  ((machine.process? pid).bind Process.ended, machine.shown pid)

end Interposition.Simulation
