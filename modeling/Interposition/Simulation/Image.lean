/-
  What a launch comes to on the simulated machine.
-/
import Interposition.Simulation.Machine

namespace Interposition.Simulation.Machine

/-- Whether a launch holds a zero byte, which no program, argument or variable may. -/
def launchHasNul (launch : Launch) : Bool :=
  let nul (text : String) : Bool := text.toList.contains '\x00'
  launch.program.hasNul || launch.args.any nul
    || launch.vars.any fun entry => nul entry.1 || nul entry.2

/-- Variables with others over them. -/
def overlay (vars own : List (String × String)) : List (String × String) :=
  own.foldl (fun all entry => (all.filter fun old => old.1 ≠ entry.1) ++ [entry]) vars

/-- The directories programs are looked for in when no variable names any. -/
def defaultDirectories : String := "/bin:/usr/bin"

/-- The directories a process looks for programs in. -/
def directoriesOf (vars : List (String × String)) : List Path :=
  (((vars.lookup "PATH").getD defaultDirectories).splitOn ":").map fun name =>
    if name.isEmpty then ⟨[Path.dot]⟩ else Path.ofText name

/-- The shell, which runs files that are neither executables nor scripts. -/
def shellPath : String := "/bin/sh"

/-- What a launch comes to.  A file that is in no format for executables is given to the shell if
    the child has a setup, and is refused otherwise. -/
def executableFor (m : Machine) (p : Process) (launch : Launch) (hooked : Bool) :
    Except Errno FileSystem.Executable :=
  let directories := directoriesOf p.vars
  match m.fs.findExecutable p.cwd directories launch.program launch.args with
  | .ok found => .ok found
  | .error errno =>
    if errno = .enoexec && hooked then
      m.fs.findExecutable p.cwd directories (.ofText shellPath)
        (launch.program.display :: launch.args)
    else .error errno

/-- The image a process becomes by a launch. -/
def imageOf (m : Machine) (p : Process) (launch : Launch) (hooked : Bool) :
    Except Errno (Program Int32) :=
  match m.executableFor p launch hooked with
  | .error errno => .error errno
  | .ok found =>
    match m.binaries found.binary found.args with
    | none => .error .enoexec
    | some program => .ok program

/-- The image a process becomes by a launch that takes its own place. -/
def replacement (m : Machine) (p : Process) (launch : Launch) :
    Except IoError (Program Int32) :=
  if launchHasNul launch then .error .nulInData
  else (m.imageOf p launch false).mapError .os

end Interposition.Simulation.Machine
