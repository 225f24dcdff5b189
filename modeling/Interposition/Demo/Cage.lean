/-
  The demonstration cage: waits at its gate if it is to, then makes its calls from several threads
  that share one runtime.

  A call is two steps, following the journal and being answered, and the steps of different threads
  may come in any order; which thread goes on is a choice the program leaves open.
-/
import Interposition.Demo.Catalog
import Interposition.Loopback
import Interposition.Process.Error
import Interposition.Rendezvous.Gate

namespace Interposition.Demo

/-- How the cage is to run. -/
structure CageOptions where
  gated : Bool
  threads : UInt64
deriving DecidableEq

/-- One thread of the cage. -/
structure Worker where
  index : UInt64
  /-- The calls still to make, the current one first. -/
  remaining : List SyscallNumber
  /-- Whether the journal has been followed for the current call. -/
  synced : Bool
  /-- The calls made so far. -/
  calls : List CallRecord
deriving DecidableEq

namespace Worker

/-- The calls every thread makes. -/
def script : List SyscallNumber := [Syscall.getuid, Syscall.geteuid]

/-- A thread that has made no call. -/
def fresh (index : Nat) : Worker := ⟨UInt64.ofNat index, script, false, []⟩

/-- One step of a thread. -/
def step (cage : CageId) (worker : Worker) (runtime : LoopbackRuntime) :
    Program (Worker × LoopbackRuntime) :=
  match worker.remaining with
  | [] => pure (worker, runtime)
  | syscall :: rest =>
    if worker.synced then do
      let args := ArgumentVector.ofOwner cage (Vector.replicate 6 unusedWord)
      let (ret, runtime) ← runtime.callSynced cage syscall args
      let call : CallRecord := ⟨syscall, Syscall.nameOf syscall, ret, worker.index⟩
      return ({ worker with remaining := rest, synced := false, calls := worker.calls ++ [call] },
        runtime)
    else do
      let (_, runtime) ← runtime.sync
      return ({ worker with synced := true }, runtime)

end Worker

/-- The positions of threads that have calls to make. -/
def unfinished (workers : List Worker) : List Nat :=
  (workers.zipIdx.filter fun entry => !entry.1.remaining.isEmpty).map Prod.snd

/-- Lets threads take steps until none has a call to make. -/
def runWorkers (cage : CageId) (workers : List Worker) (runtime : LoopbackRuntime) :
    Program (List Worker) :=
  Program.iterate (workers, runtime) fun (workers, runtime) => do
    match unfinished workers with
    | [] => return .inr workers
    | first :: others =>
      let choice ← Program.request (.choose (others.length + 1))
      let position := ((first :: others)[choice]?).getD first
      match workers[position]? with
      | none => return .inr workers
      | some worker =>
        let (worker, runtime) ← worker.step cage runtime
        return .inl (workers.set position worker, runtime)

/-- Makes a directory of markers and passes the gate in it. -/
def waitForRelease (cage : CageId) (config : RuntimeConfig) :
    Program (Except RuntimeError Unit) := do
  let rendezvous : Rendezvous := ⟨config.rendezvousDir⟩
  match ← rendezvous.ensure with
  | .error e => return .error (.gate e)
  | .ok () =>
    match ← Gate.pass rendezvous cage config.armTimeout with
    | .error e => return .error (.gate e)
    | .ok () => return .ok ()

/-- Makes the calls and says what they came to. -/
def makeCalls (cage : CageId) (threads : UInt64) (config : RuntimeConfig) :
    Program (Except RuntimeError CageOutcome) := do
  let self ← Program.request .identity
  let runtime := LoopbackRuntime.new config.journalPath (catalog config.stateDir) (.host self)
  let workers ← runWorkers cage ((List.range (max threads.toNat 1)).map Worker.fresh) runtime
  let outcome : CageOutcome := ⟨cage, workers.flatMap Worker.calls⟩
  let rendezvous : Rendezvous := ⟨config.rendezvousDir⟩
  match ← rendezvous.ensure with
  | .error e => return .error (.gate e)
  | .ok () =>
    match ← rendezvous.writeOutcome outcome with
    | .error e => return .error (.gate e)
    | .ok () => return .ok outcome

/-- The whole cage. -/
def runCage (options : CageOptions) (config : RuntimeConfig) :
    Program (Except RuntimeError CageOutcome) := do
  let cage := CageId.ofPid (← Program.request .identity).process
  if options.gated then
    match ← waitForRelease cage config with
    | .error e => return .error e
    | .ok () => makeCalls cage options.threads config
  else makeCalls cage options.threads config

end Interposition.Demo
