/-
  Commands a shell carries out itself, because they change the shell or decide how it goes on.
-/
import Interposition.Simulation.Shell.Utility

namespace Interposition.Simulation.Shell

/-- A command of the shell's own, given how to run a script. -/
abbrev Builtin := (String → Action Flow) → List String → Action Flow

namespace Builtin

/-- Goes on with a status. -/
def onward (status : Int32) : Action Flow := do
  modify fun shell => { shell with status }
  return .onward

/-- A natural number no larger than other programs take. -/
def natural? (text : String) : Option Nat :=
  if text.startsWith "+" then none else Text.naturalUpTo? 0x7fffffff text

/-! ## How to go on -/

/-- Ends the shell, with the present status if none is given. -/
def exit (arguments : List String) : Action Flow := do
  match arguments with
  | [] => return .leaving
  | text :: _ =>
    let status := match natural? text with
      | some status => Int32.ofNat (status % 256)
      | none => 2
    modify fun shell => { shell with status }
    return .leaving

/-- A number of loops, one if none is given. -/
def loops (arguments : List String) : Nat := ((arguments.head?.bind natural?).getD 1)

/-! ## Variables and arguments -/

/-- A name and a value around an equality sign, if there is one. -/
def splitAssignment (text : String) : String × Option String :=
  let chars := text.toList
  let name := String.ofList (chars.takeWhile (· ≠ '='))
  match chars.dropWhile (· ≠ '=') with
  | [] => (name, none)
  | _ :: value => (name, some (String.ofList value))

/-- Hands variables to other programs from now on. -/
def «export» (arguments : List String) : Action Flow := do
  for text in arguments do
    let (name, value) := splitAssignment text
    if let some value := value then modify fun shell => shell.assign name value
    modify fun shell => { shell with
      exported := if shell.exported.contains name then shell.exported else shell.exported ++ [name] }
  onward 0

/-- Forgets variables. -/
def unset (arguments : List String) : Action Flow := do
  modify fun shell => { shell with
    vars := shell.vars.filter fun entry => !arguments.contains entry.1
    exported := shell.exported.filter fun name => !arguments.contains name }
  onward 0

/-- Sets the arguments; options are let be. -/
def setArguments (arguments : List String) : Action Flow := do
  match arguments with
  | "--" :: rest => modify fun shell => { shell with arguments := rest }
  | text :: _ =>
    if !text.startsWith "-" && !text.startsWith "+" then
      modify fun shell => { shell with arguments }
  | [] => pure ()
  onward 0

/-- Drops the first arguments. -/
def shift (arguments : List String) : Action Flow := do
  let count := loops arguments
  if count ≤ (← get).arguments.length then
    modify fun shell => { shell with arguments := shell.arguments.drop count }
    onward 0
  else onward 2

/-- Takes a line of the input apart into variables; the last one gets what is left. -/
def read (arguments : List String) : Action Flow := do
  let names := arguments.filter fun text => !text.startsWith "-"
  let shell ← get
  let chars := shell.input.toList
  let line := chars.takeWhile (· ≠ '\n')
  let ended := line.length < chars.length
  set { shell with input := String.ofList (chars.drop (line.length + 1)) }
  assignParts names line
  onward (if ended then 0 else 1)
where
  /-- Gives each name a part of a line. -/
  assignParts : List String → List Char → Action Unit
    | [], _ => return
    | [name], line => do
      let text := (String.ofList line).trimAscii.toString
      modify fun shell => shell.assign name text
    | name :: names, line => do
      let line := line.dropWhile Char.isWhitespace
      let part := line.takeWhile fun c => !c.isWhitespace
      modify fun shell => shell.assign name (String.ofList part)
      assignParts names (line.drop part.length)

/-- Lets names be relative to another directory. -/
def changeDirectory (arguments : List String) : Action Flow := do
  let home := ((← get).value? "HOME").getD "/"
  match ← request (.changeDirectory (.ofText (arguments.head?.getD home))) with
  | .ok () => onward 0
  | .error _ => onward 2

/-! ## Signals -/

/-- The signal a text names or numbers. -/
def signal? (text : String) : Option Signal :=
  match natural? text with
  | some number => Signal.ofNumber? (Int32.ofNat number)
  | none =>
    let name := text.toUpper
    Signal.ofName? (if name.startsWith "SIG" then name else "SIG" ++ name)

/-- Decides what to do when a signal arrives, or at the end. -/
def setTrap (action : String) (condition : String) : Action Bool := do
  if condition = "EXIT" ∨ condition = "0" then
    modify fun shell => { shell with atExit := if action = "-" then none else some action }
    return true
  else
    match signal? condition with
    | none => return false
    | some signal =>
      request (.dispose signal
        (if action = "-" then .default else if action.isEmpty then .ignore else .keep))
      modify fun shell => { shell with
        traps := (signal, action) :: shell.traps.filter fun entry => entry.1 ≠ signal }
      return true

/-- Decides what to do about signals. -/
def trap (arguments : List String) : Action Flow := do
  match arguments with
  | [] => onward 0
  | [condition] => onward (Utility.statusOf (← setTrap "-" condition))
  | action :: conditions => onward (← Utility.forAll conditions (setTrap action))

/-- Sends a signal to each of some processes. -/
def send (signal : Signal) (pids : List String) : Action Flow := do
  onward (← Utility.forAll pids fun text => do
    match natural? text with
    | some pid => return Utility.succeeded (← request (.kill (Int32.ofNat pid) signal))
    | none => return false)

/-- Sends a signal to processes. -/
def kill (arguments : List String) : Action Flow := do
  match arguments with
  | "-s" :: name :: pids =>
    match signal? name with
    | some signal => send signal pids
    | none => onward 2
  | first :: pids =>
    if first = "--" then send .term pids
    else if first.startsWith "-" then
      match signal? (first.drop 1).toString with
      | some signal => send signal pids
      | none => onward 2
    else send .term (first :: pids)
  | [] => onward 2

/-! ## Scripts -/

/-- Runs the script in a file. -/
def source (script : String → Action Flow) (arguments : List String) : Action Flow := do
  match ← request (.readFile (.ofText (arguments.head?.getD ""))) with
  | .ok bytes => script (Utf8.toTextLossy bytes)
  | .error _ => onward 2

/-- The shell's own commands by name. -/
def all : List (String × Builtin) :=
  [ (":", fun _ _ => onward 0),
    ("exit", fun _ => exit),
    ("break", fun _ arguments => return .breaking (loops arguments)),
    ("continue", fun _ arguments => return .continuing (loops arguments)),
    ("export", fun _ => «export»), ("unset", fun _ => unset), ("set", fun _ => setArguments),
    ("shift", fun _ => shift), ("read", fun _ => read), ("cd", fun _ => changeDirectory),
    ("trap", fun _ => trap), ("kill", fun _ => kill),
    ("eval", fun script arguments => script (" ".intercalate arguments)), (".", source),
    ("wait", fun _ _ => onward 0), ("ulimit", fun _ _ => onward 0),
    ("umask", fun _ _ => onward 0) ]

end Builtin

end Interposition.Simulation.Shell
