/-
  The demonstration grate: in a session it registers and then serves until it is stopped; in a chain
  it takes its turn and ends with its children.
-/
import Interposition.Demo.Catalog
import Interposition.Process.Chain

namespace Interposition.Demo

/-- Requests registrations in order, up to the first that is refused. -/
def registerEach (channel : Channel Program) (target : CageId) (grate : GrateId) :
    List (SyscallNumber × HandlerIndex) → Program (Except RuntimeError (List Registration))
  | [] => pure (.ok [])
  | (syscall, handler) :: rest => do
    let r : Registration := ⟨target, syscall, handler, grate⟩
    match ← channel.register r with
    | .error e => return .error (.registration e)
    | .ok () =>
      match ← registerEach channel target grate rest with
      | .error e => return .error e
      | .ok done => return .ok (r :: done)

/-- Registers interceptions of a cage under a grate through the journal. -/
def registerAll (config : RuntimeConfig) (target : CageId) (grate : GrateId)
    (interceptions : List (SyscallNumber × HandlerIndex)) :
    Program (Except RuntimeError (List Registration)) := do
  match ← Journal.openWriter config.journalPath with
  | .error e => return .error (.journal e)
  | .ok writer => registerEach writer.channel target grate interceptions

/-- The grate of a session: registers, says that it is ready, and idles until it is stopped.  The
    stop signal is kept before the grate says anything, so it cannot be lost. -/
def serve (launch : GrateLaunch) : Program (Except RuntimeError Unit) := do
  let grate := GrateId.ofPid (← Program.request .identity).process
  let config := launch.runtime
  Program.request (.dispose .stopping .keep)
  match ← registerAll config launch.targetCage grate sessionInterceptions with
  | .error e => return .error e
  | .ok registrations =>
    let marker : ReadyMarker := ⟨grate, launch.targetCage, registrations⟩
    match ← Rendezvous.markReady ⟨config.rendezvousDir⟩ marker with
    | .error e => return .error (.gate e)
    | .ok () =>
      let _ ← Program.request (.awaitSignal .stopping none)
      return .ok ()

/-- The grate of a chain: serves the first cage and hands the other names on. -/
def continueChain (config : RuntimeConfig) (names : List String) :
    Program (Except ProcessError (Option ChainReport) × Executor) := do
  let grate := GrateId.ofPid (← Program.request .identity).process
  let environment ← Program.request .environment
  let depth := Chain.depthIn fun name => environment.lookup name
  Chain.advance ⟨config, chainInterceptions⟩ grate depth names default

end Interposition.Demo
