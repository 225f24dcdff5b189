/-
  The simulated machine: files, processes, and the clock.

  A process runs a program.  Between two steps everything about it is in this state: what it will do
  next, its variables and working directory, what it does about signals, and, once it has ended,
  how.  A process that has ended stays until its parent has collected its status; the children it
  leaves go to the first process of the machine, which collects at once.

  A new child starts as an embryo: it runs the setup its parent gave it and then becomes the image it
  was launched as, or fails to.  Its parent waits for that.
-/
import Interposition.Host.Program
import Interposition.Simulation.FileSystem

namespace Interposition.Simulation

/-! ## Processes -/

/-- What a process runs. -/
inductive Code : Type 1 where
  | image (program : Program Int32)
  | embryo (setup : Program (Option Errno)) (launch : Launch) (hooked : Bool)

/-- Whether a process waits for a child to become its image. -/
inductive Birth where
  | none
  | awaited
  | answered (result : Except IoError Pid)
deriving Inhabited

/-- A process. -/
structure Process : Type 1 where
  pid : Pid
  parent : Pid
  code : Code
  /-- The node of the working directory. -/
  cwd : Nat
  vars : List (String × String)
  /-- What the process does about signals; by default where nothing is said. -/
  dispositions : List (Signal × Disposition)
  /-- The signals kept for the process, oldest first. -/
  kept : List Signal
  /-- The signals that wait for a stopped process to go on. -/
  held : List Signal
  stopped : Bool
  /-- When the process makes its next step, or began to wait for it. -/
  ready : Nat
  birth : Birth
  /-- How the process ended, once it has. -/
  ended : Option WaitStatus
  /-- What the process has printed. -/
  shown : List String

/-! ## Signals -/

/-- What a signal does to a process that has decided nothing about it. -/
inductive Effect where
  | terminate
  | nothing
  | stop
deriving DecidableEq

/-- What a signal does by default. -/
def effectOf : Signal → Effect
  | .chld | .cont | .urg | .winch => .nothing
  | .stop | .tstp | .ttin | .ttou => .stop
  | _ => .terminate

namespace Process

/-- What a process does about a signal. -/
def dispositionOf (p : Process) (signal : Signal) : Disposition :=
  (p.dispositions.lookup signal).getD .default

/-- The process with another disposition; a signal it ignores is no longer kept. -/
def dispose (p : Process) (signal : Signal) (disposition : Disposition) : Process :=
  { p with
    dispositions := (signal, disposition) :: p.dispositions.filter fun entry => entry.1 ≠ signal
    kept := if disposition = .keep then p.kept else p.kept.filter (· ≠ signal) }

/-- Puts a signal behind others, each of which is there once. -/
def enqueue (signals : List Signal) (signal : Signal) : List Signal :=
  if signals.contains signal then signals else signals ++ [signal]

/-- A running process reached by a signal. -/
def reached (p : Process) (signal : Signal) : Process :=
  if p.ended.isSome then p
  else
    match p.dispositionOf signal with
    | .ignore => p
    | .keep => { p with kept := enqueue p.kept signal }
    | .default =>
      match effectOf signal with
      | .terminate => { p with ended := some (.signaled signal false) }
      | .nothing => p
      | .stop => { p with stopped := true }

/-- A process sent a signal.  Two signals act on every process: one ends it and one stops it.  A
    stopped process takes no other signal until it goes on. -/
def send (p : Process) (signal : Signal) : Process :=
  if p.ended.isSome then p
  else
    match signal with
    | .kill => { p with ended := some (.signaled .kill false) }
    | .stop => { p with stopped := true }
    | .cont =>
      p.held.foldl reached (({ p with stopped := false, held := [] }).reached .cont)
    | _ => if p.stopped then { p with held := enqueue p.held signal } else p.reached signal

/-- The process once it has become another image. -/
def become (p : Process) (program : Program Int32) (moment : Nat) : Process :=
  { p with
    code := .image program
    dispositions := p.dispositions.filter fun entry => entry.2 ≠ .keep
    kept := []
    ready := moment }

end Process

/-! ## The machine -/

/-- Lines that arrive on a channel, and whether no more will. -/
structure LineQueue where
  lines : List String
  closed : Bool
deriving Inhabited

/-- The whole machine. -/
structure Machine : Type 1 where
  fs : FileSystem
  /-- The open files by their handles. -/
  files : List (Nat × OpenFile)
  /-- The processes, oldest first. -/
  processes : List Process
  /-- Nanoseconds since the machine was started. -/
  now : Nat
  nextPid : Nat
  nextHandle : Nat
  nextName : Nat
  channels : List (Nat × LineQueue)
  /-- What the machine's own executables do with their arguments, their name first. -/
  binaries : String → List String → Option (Program Int32)
  user : UInt32
  effectiveUser : UInt32

namespace Machine

/-- The number of the first process. -/
def firstPid : Pid := 1

/-- The process with a number. -/
def process? (m : Machine) (pid : Pid) : Option Process := m.processes.find? fun p => p.pid = pid

/-- The machine with one process changed. -/
def update (m : Machine) (pid : Pid) (change : Process → Process) : Machine :=
  { m with processes := m.processes.map fun p => if p.pid = pid then change p else p }

/-- The machine without one of its processes. -/
def forget (m : Machine) (pid : Pid) : Machine :=
  { m with processes := m.processes.filter fun p => p.pid ≠ pid }

/-- Whether a process is there and has not ended. -/
def isLive (m : Machine) (pid : Pid) : Bool :=
  m.processes.any fun p => p.pid = pid && p.ended.isNone

/-- Children whose parent has ended go to the first process, and what that collects is gone. -/
def tidy (m : Machine) : Machine :=
  let adopted := m.processes.map fun p =>
    if p.parent = 0 || m.isLive p.parent then p else { p with parent := firstPid }
  { m with processes := adopted.filter fun p => p.ended.isNone || p.parent ≠ firstPid }

/-- What a channel brings; one nobody has set up is closed. -/
def channel (m : Machine) (number : Nat) : LineQueue :=
  (m.channels.lookup number).getD ⟨[], true⟩

/-- Starts a process that no other process is the parent of. -/
def boot (m : Machine) (program : Program Int32) (vars : List (String × String)) :
    Pid × Machine :=
  let pid := Int32.ofNat m.nextPid
  let p : Process := {
    pid, parent := 0, code := .image program, cwd := 0, vars
    dispositions := [], kept := [], held := [], stopped := false, ready := m.now
    birth := .none, ended := none, shown := [] }
  (pid, { m with processes := m.processes ++ [p], nextPid := m.nextPid + 1 })

end Machine

end Interposition.Simulation
