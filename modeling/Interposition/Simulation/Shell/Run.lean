/-
  Running scripts.

  A command comes to a status, and says how to go on.  Between commands the shell looks for signals
  that have arrived and runs what the script wants done about them.  Scripts that stand inside others
  (the action for a signal, a script whose output is wanted) are run the same way; how deep they may
  stand inside one another is limited.
-/
import Interposition.Simulation.Shell.Builtin
import Interposition.Simulation.Shell.Expansion

namespace Interposition.Simulation.Shell

/-- Repeats something until it comes to a result. -/
def untilSome {α : Type} (body : Action (Option α)) : Action α := fun shell =>
  Program.iterate shell fun shell => do
    match ← body shell with
    | (some a, shell) => return .inr (a, shell)
    | (none, shell) => return .inl shell

/-! ## Scripts inside scripts -/

/-- The output of a script, without the ends of lines at its end.  What it changes in the shell is
    lost but for the status. -/
def outputOf (script : String → Action Flow) (source : String) : Action String := do
  let before ← get
  set { before with kept := "", output := .kept }
  let _ ← script source
  let after ← get
  set { before with status := after.status }
  return String.ofList (after.kept.toList.reverse.dropWhile (· = '\n')).reverse

/-- Runs what the script wants done about signals that have arrived. -/
def takeTraps (script : String → Action Flow) : Action Flow :=
  untilSome do
    match ← request .takeSignal with
    | none => return some .onward
    | some signal =>
      let before ← get
      let flow ← script ((before.traps.lookup signal).getD "")
      if flow = .leaving then return some .leaving
      else
        modify fun shell => { shell with status := before.status }
        return none

/-! ## Simple commands -/

/-- The status another program leaves: its own, or 128 and the number of the signal that ended
    it. -/
def awaitProgram (pid : Pid) : Action Int32 :=
  untilSome do
    match ← request (.wait pid true) with
    | .ok (.exited code) => return some code
    | .ok (.signaled signal _) => return some (128 + signal.number)
    | .ok _ => return none
    | .error _ => return some 127

/-- Runs another program and waits for it. -/
def runProgram (name : String) (arguments : List String)
    (vars : List (String × String)) : Action Int32 := do
  let all := (← get).environment ++ vars
  match ← performing (Program.start ⟨.ofText name, arguments, all⟩) with
  | .ok pid => awaitProgram pid
  | .error cause =>
    if cause.errno? = some .enoexec then
      match ← performing (Program.start ⟨.ofText "/bin/sh", name :: arguments, all⟩) with
      | .ok pid => awaitProgram pid
      | .error _ => return 126
    else return if cause.isNotFound then 127 else 126

/-- Becomes another program; comes to a status only if that fails. -/
def becomeProgram (name : String) (arguments : List String)
    (vars : List (String × String)) : Action Int32 := do
  let all := (← get).environment ++ vars
  let cause ← request (.becomeImage ⟨.ofText name, arguments, all⟩)
  if cause.errno? = some .enoexec then
    let _ ← request (.becomeImage ⟨.ofText "/bin/sh", name :: arguments, all⟩)
    return 126
  else return if cause.isNotFound then 127 else 126

/-- Runs something with variables set for as long as it takes. -/
def withVariables {α : Type} (vars : List (String × String)) (act : Action α) :
    Action α := do
  let before ← get
  set (vars.foldl (fun shell entry => shell.assign entry.1 entry.2) before)
  let result ← act
  modify fun shell => { shell with vars := before.vars }
  return result

/-- Runs a command by name. -/
def runNamed (script : String → Action Flow) (vars : List (String × String))
    (name : String) (arguments : List String) : Action Flow := do
  match Builtin.all.lookup name with
  | some builtin =>
    modify fun shell => vars.foldl (fun shell entry => shell.assign entry.1 entry.2) shell
    builtin script arguments
  | none =>
    match Utility.all.lookup name with
    | some utility => Builtin.onward (← withVariables vars (utility arguments))
    | none => Builtin.onward (← runProgram name arguments vars)

/-- Runs a simple command.  One that is to take the place of the shell does, but a utility whose
    output is led elsewhere is run by the shell itself, which then ends. -/
def runSimple (script : String → Action Flow) (assignments : List (String × Word))
    (words : List Word) : Action Flow := do
  let output := outputOf script
  let fields ← expandFields output words
  if fields.isEmpty then modify fun shell => { shell with status := 0 }
  let vars ← assignments.mapM fun (name, word) => do
    let value ← expandText output word
    if fields.isEmpty then modify fun shell => shell.assign name value
    return (name, value)
  match fields with
  | [] => return .onward
  | ["exec"] => Builtin.onward 0
  | "exec" :: name :: arguments =>
    match Utility.all.lookup name, (← get).output with
    | some _, .file _ | some _, .kept => let _ ← runNamed script vars name arguments
    | _, _ =>
      let status ← becomeProgram name arguments vars
      modify fun shell => { shell with status }
    return .leaving
  | name :: arguments => runNamed script vars name arguments

/-! ## Redirections -/

/-- Opens what a redirection names and lets a descriptor lead there; whether that worked. -/
def applyRedirect (output : String → Action String) (redirect : Redirect) : Action Bool := do
  let target ← expandText output redirect.target
  let path := Path.ofText target
  let lead (sink : Sink) : Action Bool := do
    modify fun shell =>
      if redirect.descriptor = 2 then { shell with diagnostics := sink }
      else { shell with output := sink }
    return true
  let opened (answer : Except IoError FileHandle) : Action Bool := do
    match answer with
    | .ok handle => lead (.file handle)
    | .error _ => return false
  match redirect.kind with
  | .input =>
    match ← request (.readFile path) with
    | .ok bytes =>
      modify fun shell => { shell with input := Utf8.toTextLossy bytes }
      return true
    | .error _ => return false
  | .output => opened (← request (.createFile path))
  | .append => opened (← request (.openAppending path))
  | .duplicate =>
    let shell ← get
    lead (if target = "2" then shell.diagnostics else shell.output)

/-- Applies redirections up to the first that fails. -/
def applyAll (output : String → Action String) : List Redirect → Action Bool
  | [] => return true
  | redirect :: rest => do
    if ← applyRedirect output redirect then applyAll output rest else return false

/-- Closes the file of a sink unless it was open before. -/
def closeSink (before after : Sink) : Action Unit := do
  if before ≠ after then
    match after with
    | .file handle => request (.close handle)
    | _ => return

/-- Runs something with redirections; it is not run if they fail. -/
def redirecting (output : String → Action String) (redirects : List Redirect)
    (act : Action Flow) : Action Flow := do
  let before ← get
  let flow ← if ← applyAll output redirects then act else Builtin.onward 2
  let after ← get
  closeSink before.output after.output
  closeSink before.diagnostics after.diagnostics
  set { after with
    output := before.output, diagnostics := before.diagnostics, input := before.input }
  return flow

/-! ## Loops -/

/-- How a loop goes on after its body: nothing if it goes on itself. -/
def afterBody : Flow → Option Flow
  | .onward => none
  | .leaving => some .leaving
  | .breaking levels => some (if levels ≤ 1 then .onward else .breaking (levels - 1))
  | .continuing levels => if levels ≤ 1 then none else some (.continuing (levels - 1))

/-- Runs a body for as long as a condition comes to `whilst`.  The status is that of the last run of
    the body, or zero. -/
def runLoop (whilst : Bool) (condition body : Action Flow) : Action Flow := fun shell =>
  Program.iterate (shell, (0 : Int32)) fun (shell, last) => do
    let (flow, shell) ← condition shell
    if flow ≠ .onward then return .inr ((afterBody flow).getD .onward, shell)
    else if (shell.status = 0) ≠ whilst then
      return .inr (.onward, { shell with status := last })
    else
      let (flow, shell) ← body shell
      match afterBody flow with
      | some flow => return .inr (flow, shell)
      | none => return .inl (shell, shell.status)

/-- Runs a body for each of some values of a variable. -/
def runEach (name : String) (body : Action Flow) : List String → Action Flow
  | [] => return .onward
  | value :: rest => do
    modify fun shell => shell.assign name value
    match afterBody (← body) with
    | some flow => return flow
    | none => runEach name body rest

/-! ## Commands -/

mutual

/-- Runs a command, given how to run a script. -/
def run (script : String → Action Flow) : Command → Action Flow
  | .nothing => return .onward
  | .simple assignments words => do
    let flow ← runSimple script assignments words
    if flow = .onward then takeTraps script else return flow
  | .redirected body redirects => redirecting (outputOf script) redirects (run script body)
  | .pipe first second => do
    let before ← get
    set { before with kept := "", output := .kept }
    let _ ← run script first
    let between ← get
    set { before with input := between.kept }
    let _ ← run script second
    let after ← get
    set { before with status := after.status, kept := after.kept }
    return .onward
  | .negated body => do
    let flow ← run script body
    modify fun shell => { shell with status := if shell.status = 0 then 1 else 0 }
    return flow
  | .andThen first second => do
    let flow ← run script first
    if flow = .onward ∧ (← get).status = 0 then run script second else return flow
  | .orElse first second => do
    let flow ← run script first
    if flow = .onward ∧ (← get).status ≠ 0 then run script second else return flow
  | .sequence first second => do
    let flow ← run script first
    if flow = .onward then run script second else return flow
  | .branch condition yes no => do
    let flow ← run script condition
    if flow ≠ .onward then return flow
    else if (← get).status = 0 then run script yes
    else
      modify fun shell => { shell with status := 0 }
      run script no
  | .repeated whilst condition body => runLoop whilst (run script condition) (run script body)
  | .each name words body => do
    let values ← match words with
      | some words => expandFields (outputOf script) words
      | none => do pure (← get).arguments
    modify fun shell => { shell with status := 0 }
    runEach name (run script body) values
  | .choice subject arms => do
    let text ← expandText (outputOf script) subject
    modify fun shell => { shell with status := 0 }
    runArms script text arms

/-- Runs the first arm that a text matches. -/
def runArms (script : String → Action Flow) (text : String) : Arms → Action Flow
  | .none => return .onward
  | .arm patterns body rest => do
    let found ← patterns.mapM fun word => do
      return patternOf (charsOf (← expand (outputOf script) nestingLimit word))
    if found.any fun pattern => matchesName pattern text then run script body
    else runArms script text rest

end

/-- How many scripts may stand inside one another. -/
def scriptLimit : Nat := 64

/-- Runs a script inside which so many others may stand.  One that is not well formed ends the
    shell. -/
def runScript : Nat → String → Action Flow
  | 0, _ => do
    modify fun shell => { shell with status := 2 }
    return .leaving
  | depth + 1, source =>
    match Command.ofScript? source with
    | some body => run (runScript depth) body
    | none => do
      modify fun shell => { shell with status := 2 }
      return .leaving

/-! ## The shell as a program -/

/-- Runs a script from start to end; the answer is its status. -/
def toEnd (source : String) : Action Int32 := do
  let _ ← runScript scriptLimit source
  let shell ← get
  match shell.atExit with
  | none => return shell.status
  | some action =>
    set { shell with atExit := none }
    let flow ← runScript scriptLimit action
    let after ← get
    return if flow = .leaving then after.status else shell.status

/-- What the shell is to run: a script given to it, a file, or its input. -/
inductive Subject where
  | script (source name : String) (arguments : List String)
  | file (path : String) (arguments : List String)
  | input

/-- What arguments ask the shell to run. -/
def subjectOf (own : String) : List String → Subject
  | [] => .input
  | first :: rest =>
    if first.startsWith "-" && first ≠ "-" && first ≠ "--" then
      if first.contains 'c' then
        match rest with
        | [] => .input
        | [source] => .script source own []
        | source :: name :: arguments => .script source name arguments
      else subjectOf own rest
    else if first = "--" then
      match rest with
      | [] => .input
      | path :: arguments => .file path arguments
    else .file first rest

/-- The shell, as an executable that gets its name and arguments. -/
def shellProgram (arguments : List String) : Program Int32 := do
  let self ← Program.request .identity
  let environment ← Program.request .environment
  let start (name : String) (arguments : List String) (source : String) : Program Int32 := do
    let (status, _) ← toEnd source (.fresh self.process name arguments environment)
    return status
  match subjectOf (arguments.head?.getD "") (arguments.drop 1) with
  | .script source name arguments => start name arguments source
  | .input => return 0
  | .file path arguments =>
    match ← Program.request (.readFile (.ofText path)) with
    | .ok bytes => start path arguments (Utf8.toTextLossy bytes)
    | .error _ => return 127

end Interposition.Simulation.Shell
