/-
  The executor: starts processes, signals them, and collects how they end.

  For every child it has started the executor keeps a record, which says how the child ended once
  its status has been collected.  A child whose status has been collected is never signalled again,
  because its process number may belong to somebody else by then.
-/
import Interposition.Host.Program
import Interposition.Process.Launch

namespace Interposition

/-- The children started so far, oldest first. -/
structure Executor where
  processes : List ProcessRecord
deriving DecidableEq, Inhabited

/-- A program that manages processes: it may fail, and it keeps records. -/
abbrev Supervised := ExceptT ProcessError (StateT Executor Program)

namespace Supervised

variable {α : Type}

/-- A program that manages no processes. -/
def run (program : Program α) : Supervised α := fun e => do return (.ok (← program), e)

/-- A program that fails as waits do. -/
def ofGate (program : Program (Except GateError α)) : Supervised α := fun e => do
  match ← program with
  | .ok a => return (.ok a, e)
  | .error cause => return (.error (.gate cause), e)

/-- A program that fails as the journal does. -/
def ofJournal (program : Program (Except JournalError α)) : Supervised α := fun e => do
  match ← program with
  | .ok a => return (.ok a, e)
  | .error cause => return (.error (.journal cause), e)

/-- The answer of a program that manages processes, failures included. -/
def attempt (program : Supervised α) : Supervised (Except ProcessError α) := fun e => do
  let (result, e) ← program e
  return (.ok result, e)

end Supervised

namespace Executor

/-! ## Records -/

/-- The process number a record is kept under. -/
def key (pid : Pid) : UInt32 := pid.toUInt32

/-- The record of a child. -/
def record? (e : Executor) (pid : Pid) : Option ProcessRecord :=
  e.processes.find? fun r => r.pid = key pid

/-- How a child ended, once that is known. -/
def termination? (e : Executor) (pid : Pid) : Option Termination :=
  (e.record? pid).bind ProcessRecord.termination

/-- Every record in order of the process number. -/
def records (e : Executor) : List ProcessRecord :=
  e.processes.mergeSort fun a b => a.pid ≤ b.pid

/-- How many children have not been collected. -/
def running (e : Executor) : Nat := (e.processes.filter fun r => r.termination.isNone).length

/-- The records with a new child, in place of an earlier one with its process number. -/
def add (e : Executor) (r : ProcessRecord) : Executor :=
  ⟨(e.processes.filter fun other => other.pid ≠ r.pid) ++ [r]⟩

/-- The records with a child's end noted. -/
def noteEnd (e : Executor) (pid : Pid) (t : Termination) : Executor :=
  ⟨e.processes.map fun r => if r.pid = key pid then { r with termination := some t } else r⟩

/-! ## Starting -/

/-- Error numbers that say the image is at fault. -/
def imageErrors : List Errno := [.enoent, .eacces, .enoexec, .enotdir]

/-- Error numbers that say the system has run out of something. -/
def resourceErrors : List Errno := [.eagain, .enomem]

/-- What a failure to start a child means.  With a setup that ran in the child, an error that is
    neither the image's fault nor a lack of resources is the setup's. -/
def spawnError (image : String) (cause : IoError) (hooked : Bool) : ProcessError :=
  match cause.errno? with
  | some errno =>
    if imageErrors.contains errno then .imageReplacementFailed image cause
    else if hooked && !resourceErrors.contains errno then .childSetupFailed image cause
    else .creationFailed image cause
  | none => .creationFailed image cause

/-- Starts an image with more variables than this process has.  A setup runs in the child before it
    becomes the image. -/
def spawn (role : Role) (image : ImageSpec) (vars : List (String × String))
    (setup : Option (Program (Option Errno))) : Supervised Pid := fun e => do
  let launch : Launch := ⟨image.program, image.args, vars⟩
  let answer ← match setup with
    | none => Program.start launch
    | some setup => Program.startWith launch setup
  match answer with
  | .error cause => return (.error (spawnError image.name cause setup.isSome), e)
  | .ok pid => return (.ok pid, e.add (.new role image.name (key pid)))

/-! ## Signalling -/

/-- Sends a signal to a child; the answer is whether there was a process to send it to. -/
def signal (pid : Pid) (signal : Signal) : Supervised Bool := fun e => do
  if (e.termination? pid).isSome then return (.ok false, e)
  match ← Program.request (.kill pid signal) with
  | .ok () => return (.ok true, e)
  | .error cause =>
    if cause = .esrch then return (.ok false, e)
    else return (.error (.signalFailed (key pid) signal cause), e)

/-! ## Collecting -/

/-- How a child ended, if it has; does not wait. -/
def tryReap (pid : Pid) : Supervised (Option Termination) := fun e => do
  match e.termination? pid with
  | some t => return (.ok (some t), e)
  | none =>
    match ← Program.request (.wait pid false) with
    | .ok status =>
      match Termination.ofWaitStatus? status with
      | some t => return (.ok (some t), e.noteEnd pid t)
      | none => return (.ok none, e)
    | .error cause =>
      if cause = .echild then return (.ok (some .vanished), e.noteEnd pid .vanished)
      else if cause = .eintr then return (.ok none, e)
      else return (.error (.waitFailed (key pid) cause), e)

/-- Whether a child has yet to end; the answer of a wait that a probe or a poll can ask for. -/
def isAlive (pid : Pid) (e : Executor) : Program (Bool × Executor) := do
  match ← tryReap pid e with
  | (.ok none, e) => return (true, e)
  | (_, e) => return (false, e)

/-- One blocking wait for a child: how it ended, or nothing when there is reason to wait again. -/
def collectOnce (pid : Pid) : Program (Unit ⊕ Except Errno Termination) := do
  match ← Program.request (.wait pid true) with
  | .ok status =>
    match Termination.ofWaitStatus? status with
    | some t => return .inr (.ok t)
    | none => return .inl ()
  | .error cause =>
    if cause = .eintr then return .inl ()
    else if cause = .echild then return .inr (.ok .vanished)
    else return .inr (.error cause)

/-- Waits until a child ends.  A child somebody else has collected counts as ended. -/
def reap (pid : Pid) : Supervised Termination := fun e => do
  match e.termination? pid with
  | some t => return (.ok t, e)
  | none =>
    match ← Program.iterate () fun () => collectOnce pid with
    | .ok t => return (.ok t, e.noteEnd pid t)
    | .error cause => return (.error (.waitFailed (key pid) cause), e)

/-- Kills a child and collects it. -/
def kill (pid : Pid) : Supervised Termination := do
  let _ ← signal pid .kill
  reap pid

/-! ## Collecting every child -/

/-- The pause after a sweep that found nothing new, at first, in nanoseconds. -/
def shortestPause : Nat := 1000000

/-- The longest pause between sweeps. -/
def longestPause : Nat := 25000000

/-- The children not collected yet, oldest first. -/
def outstanding (e : Executor) : List Pid :=
  (e.processes.filter fun r => r.termination.isNone).map fun r => r.pid.toInt32

/-- Looks once at every outstanding child.  The last of those still to look at takes the place of
    one that has ended; `count` is how many there are still to look at.  The answer is who is still
    outstanding and the records of those that have ended, in the order they were met. -/
def sweep : Nat → List Pid → List Pid → List ProcessRecord →
    Supervised (List Pid × List ProcessRecord)
  | 0, kept, rest, finished => return (kept ++ rest, finished)
  | _ + 1, kept, [], finished => return (kept, finished)
  | count + 1, kept, pid :: rest, finished => do
    match ← tryReap pid with
    | none => sweep count (kept ++ [pid]) rest finished
    | some _ =>
      let met := match (← get).record? pid with
        | some r => finished ++ [r]
        | none => finished
      match rest.getLast? with
      | none => sweep count kept [] met
      | some last => sweep count kept (last :: rest.dropLast) met

/-- Waits until every one of the given children has ended; their records in the order they were
    met. -/
def reapThese (pids : List Pid) : Supervised (List ProcessRecord) := fun e =>
  Program.iterate (pids, ([] : List ProcessRecord), shortestPause, e)
    fun (waiting, finished, pause, e) => do
      if waiting.isEmpty then return .inr (.ok finished, e)
      match ← sweep waiting.length [] waiting finished e with
      | (.error cause, e) => return .inr (.error cause, e)
      | (.ok (left, met), e) =>
        if left.length < waiting.length then return .inl (left, met, shortestPause, e)
        else
          Program.request (.sleep pause)
          return .inl (left, met, min (pause * 2) longestPause, e)

/-- Waits until every child has ended; the records of those that were outstanding, in the order
    they were met. -/
def reapAll : Supervised (List ProcessRecord) := do
  reapThese (← get).outstanding

end Executor

end Interposition
