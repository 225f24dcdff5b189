/-
  The gate: a cage's half of the handshake.

  The release signal is kept from the moment before the cage says it is armed, so the loader can
  never send it to a cage that would die of it.
-/
import Interposition.Rendezvous.Directory

namespace Interposition.Gate

/-- Keeps the release signal, then says that the cage is armed. -/
def arm (rendezvous : Rendezvous) (cage : CageId) : Program (Except GateError Unit) := do
  Program.request (.dispose .release .keep)
  rendezvous.markArmed cage

/-- Waits for the release signal. -/
def awaitRelease (cage : CageId) (timeout : Duration) : Program (Except GateError Unit) := do
  if ← Program.request (.awaitSignal .release (some timeout.nanoseconds)) then
    return .ok ()
  else return .error (.timeout s!"release of {cage}" timeout)

/-- Arms the gate and waits until it opens. -/
def pass (rendezvous : Rendezvous) (cage : CageId) (timeout : Duration) :
    Program (Except GateError Unit) := do
  match ← arm rendezvous cage with
  | .error e => return .error e
  | .ok () => awaitRelease cage timeout

end Interposition.Gate
