/-
  What a running shell knows, and how its commands speak and listen.
-/
import Interposition.Host.Program

namespace Interposition.Simulation.Shell

/-- Where what is written to a descriptor goes. -/
inductive Sink where
  | shown
  /-- Kept for the command that asked for it. -/
  | kept
  | file (handle : FileHandle)
  | dropped
deriving DecidableEq

/-- A running shell. -/
structure State where
  pid : Pid
  /-- The name it was called by, or that of its script. -/
  name : String
  arguments : List String
  vars : List (String × String)
  /-- The variables handed to other programs. -/
  exported : List String
  /-- The status of the last command. -/
  status : Int32
  /-- What to do when a signal arrives. -/
  traps : List (Signal × String)
  /-- What to do at the end. -/
  atExit : Option String
  /-- What is left of the input. -/
  input : String
  /-- The output kept so far. -/
  kept : String
  output : Sink
  diagnostics : Sink

/-- How to go on after a command. -/
inductive Flow where
  | onward
  /-- Leave so many loops. -/
  | breaking (levels : Nat)
  /-- Leave all but the last of so many loops, and go on with that. -/
  | continuing (levels : Nat)
  /-- End with the present status. -/
  | leaving
deriving DecidableEq

/-- Something a shell does. -/
abbrev Action := StateT State Program

/-- A request made by a shell. -/
def request (r : Request) : Action r.Answer := fun shell => do
  return (← Program.request r, shell)

/-- A program run by a shell. -/
def performing {α : Type} (program : Program α) : Action α := fun shell => do
  return (← program, shell)

/-- Writes a text to a sink. -/
def emitTo (sink : Sink) (text : String) : Action Unit := do
  match sink with
  | .shown => request (.print text)
  | .kept => modify fun shell => { shell with kept := shell.kept ++ text }
  | .file handle =>
    let _ ← performing (Program.writeAll handle (Utf8.ofText text))
  | .dropped => return

/-- Writes a text to the output. -/
def emit (text : String) : Action Unit := do emitTo (← get).output text

namespace State

/-- A shell as it starts. -/
def fresh (pid : Pid) (name : String) (arguments : List String)
    (environment : List (String × String)) : State where
  pid := pid
  name := name
  arguments := arguments
  vars := environment
  exported := environment.map Prod.fst
  status := 0
  traps := []
  atExit := none
  input := ""
  kept := ""
  output := .shown
  diagnostics := .dropped

/-- The shell with a variable set. -/
def assign (shell : State) (name value : String) : State :=
  { shell with
    vars := (shell.vars.filter fun entry => entry.1 ≠ name) ++ [(name, value)] }

/-- The value of a parameter, if it is set. -/
def value? (shell : State) (name : String) : Option String :=
  match name with
  | "?" => some (toString shell.status)
  | "$" => some (toString shell.pid)
  | "#" => some (toString shell.arguments.length)
  | "@" | "*" =>
    if shell.arguments.isEmpty then none else some (" ".intercalate shell.arguments)
  | "!" | "-" => some ""
  | _ =>
    match Text.word? name with
    | none => shell.vars.lookup name
    | some 0 => some shell.name
    | some position => shell.arguments[position.toNat - 1]?

/-- The variables handed to other programs. -/
def environment (shell : State) : List (String × String) :=
  shell.vars.filter fun entry => shell.exported.contains entry.1

end State

end Interposition.Simulation.Shell
