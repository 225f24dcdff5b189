/-
  The command line: one program of this library, run to its end on a machine of its own.

  The first word may name the program; without a name the loader gets every word.  The settings of
  a session are taken from the environment, and the operator's line from standard input.
-/
import Interposition.Simulation.Transcript

namespace Interposition.CommandLine

/-- What the words ask for: the program, and the words behind its name. -/
def chosen (words : List String) : Program Int32 :=
  match words with
  | [] => Programs.loader []
  | name :: rest =>
    match Simulation.programs.lookup name with
    | some run => run rest
    | none => Programs.loader words

/-- The variables that settings are taken from. -/
def settingVariables : List String :=
  [ RuntimeConfig.stateDirVariable, RuntimeConfig.readyTimeoutVariable,
    RuntimeConfig.armTimeoutVariable, RuntimeConfig.maxChainDepthVariable, chainDepthVariable,
    LaunchSettings.setting CageLaunch, LaunchSettings.setting GrateLaunch ]

/-- Whether the words ask for a session that waits for an operator. -/
def waitsForOperator (words : List String) : Bool :=
  words.contains ("--" ++ LoaderArguments.operatorFlag)

/-- What a line of standard input brings to the operator's channel; an empty one is its end. -/
def operatorQueue (line : String) : Simulation.LineQueue :=
  if line.isEmpty then ⟨[], true⟩ else ⟨[line], false⟩

/-- How many steps a machine makes before it is given up. -/
def patience : Nat := 100000000

/-- The status to leave for the way a program ended: its own, or 128 and the number of the signal
    that ended it; one that was given up has failed. -/
def leftStatus (ended : Option WaitStatus) : UInt32 :=
  match (ended.bind Termination.ofWaitStatus?).bind Termination.exitCode with
  | some status => status.toUInt32
  | none => 1

end Interposition.CommandLine

open Interposition CommandLine

/-- Runs the chosen program and leaves its status. -/
def main (words : List String) : IO UInt32 := do
  let mut vars : List (String × String) := []
  for name in settingVariables do
    if let some value ← IO.getEnv name then vars := vars ++ [(name, value)]
  let line ← if waitsForOperator words then (← IO.getStdin).getLine else pure ""
  let machine := Simulation.Machine.furnished [(0, operatorQueue line)]
  let (ended, shown) := Simulation.transcript machine vars patience (chosen words)
  shown.forM IO.print
  return leftStatus ended
