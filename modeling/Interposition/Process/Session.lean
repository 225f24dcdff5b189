/-
  Sessions: one gated cage under one grate.

  The cage is started first and waits at its gate.  Once it says that it is armed the grate is
  started and told which cage to serve.  Only when a probe finds the grate ready is the cage
  released.  When the cage has ended the grate is stopped, and both exits go to the journal, so that
  the registrations between the two are void for whoever reads it later.  When the two do not come
  together, whatever has been started is killed.
-/
import Interposition.Journal.File
import Interposition.Process.Executor
import Interposition.Process.Plan
import Interposition.Rendezvous.Directory

namespace Interposition.Session

/-- The states of a cage's life with one more. -/
def advance (states : List CageState) (next : CageState) : Except ProcessError (List CageState) :=
  match (states.getLast?.getD .created).become next with
  | .ok state => .ok (states ++ [state])
  | .error e => .error e

/-- Starts the cage, gated. -/
def spawnCage (config : RuntimeConfig) (cage : ImageSpec) : Supervised Pid := do
  let launch : CageLaunch := { gated := true, runtime := config }
  let settings ← ExceptT.mk (pure (LaunchSettings.toEnvironment launch))
  Executor.spawn .cage (cage.withLeadingArg gatedToken) (config.childEnvironment ++ [settings])
    none

/-- Starts the grate, telling it which cage to serve. -/
def spawnGrate (config : RuntimeConfig) (grate : ImageSpec) (target : CageId) :
    Supervised Pid := do
  let launch : GrateLaunch := { targetCage := target, runtime := config }
  let settings ← ExceptT.mk (pure (LaunchSettings.toEnvironment launch))
  Executor.spawn .grate grate (config.childEnvironment ++ [settings]) none

/-- Kills what has been started, whatever comes of it. -/
def abort (pids : List Pid) : Supervised Unit :=
  pids.forM fun pid => do
    let _ ← Supervised.attempt (Executor.kill pid)

/-- Runs a program; when it fails, kills what has been started and fails as it did. -/
def orAbort {α : Type} (pids : List Pid) (program : Supervised α) : Supervised α := do
  match ← Supervised.attempt program with
  | .ok a => return a
  | .error e =>
    abort pids
    throw e

/-- The record of a child, or what it would be if there were none. -/
def recordOf (pid : Pid) (role : Role) (image : ImageSpec) : Supervised ProcessRecord := do
  return ((← get).record? pid).getD (.new role image.name (Executor.key pid))

/-- A wait that asks for a child as it goes. -/
def asking {α : Type} (wait : Executor → Program (Except GateError α × Executor)) :
    Supervised α := fun e => do
  match ← wait e with
  | (.ok a, e) => return (.ok a, e)
  | (.error cause, e) => return (.error (.gate cause), e)

/-- Runs one cage under one grate from start to end. -/
def run (config : RuntimeConfig) (probe : Probe) (cage grate : ImageSpec) :
    Supervised SessionReport := do
  let rendezvous : Rendezvous := ⟨config.rendezvousDir⟩
  Supervised.ofGate rendezvous.ensure
  let journal ← Supervised.ofJournal (Journal.create config.journalPath)
  -- the cage arms
  let cagePid ← spawnCage config cage
  let cageId := CageId.ofPid cagePid
  orAbort [cagePid]
    (asking (rendezvous.waitArmed cageId config.armTimeout (Executor.isAlive cagePid)))
  let states ← ExceptT.mk (pure (advance [.created] .waitingForSignal))
  -- the grate becomes ready
  let gratePid ← orAbort [cagePid] (spawnGrate config grate cageId)
  let grateId := GrateId.ofPid gratePid
  let marker ← orAbort [cagePid, gratePid]
    (asking (probe.awaitReady grateId config.readyTimeout (Executor.isAlive gratePid)))
  -- the cage runs
  let _ ← Executor.signal cagePid .release
  let states ← ExceptT.mk (pure (advance states .running))
  let _ ← Executor.reap cagePid
  let states ← ExceptT.mk (pure (advance states .exited))
  -- the grate stops
  let _ ← Executor.signal gratePid .stopping
  let _ ← Executor.reap gratePid
  Supervised.ofJournal (journal.append (.grateExit grateId))
  Supervised.ofJournal (journal.append (.cageExit cageId))
  let outcome ← Supervised.run (rendezvous.readOutcome cageId)
  return {
    cage := ← recordOf cagePid .cage cage
    grate := ← recordOf gratePid .grate grate
    cageStates := states
    registrations := marker.registrations
    outcome := match outcome with
      | .ok found => found
      | .error _ => none }

/-- The channel on which an operator's lines arrive from standard input. -/
def standardInput : Nat := 0

/-- Runs the session that is asked for, waiting for an operator if it says so. -/
def runConfigured (config : RuntimeConfig) (session : SessionConfig) :
    Supervised SessionReport :=
  let rendezvous : Rendezvous := ⟨config.rendezvousDir⟩
  let probe := if session.operatorAck then Probe.operator rendezvous standardInput
    else Probe.marker rendezvous
  run config probe session.cage session.grate

end Interposition.Session
