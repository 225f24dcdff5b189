/-
  The rendezvous: markers in a directory through which a loader, its grate and its gated cage wait
  for one another.

  `cage-N.armed` says that a cage has installed its release handler and is blocked,
  `grate-N.ready` that a grate has made every registration it is going to make, and
  `cage-N.outcome.json` what a cage saw.  A marker is written under a temporary name and renamed
  into place, so a reader never meets half of one.
-/
import Interposition.Rendezvous.Marker
import Interposition.Rendezvous.Poll

namespace Interposition

/-- A directory of markers. -/
structure Rendezvous where
  dir : Path
deriving DecidableEq

namespace Rendezvous

/-! ## Names -/

/-- The marker of a cage that is armed. -/
def armedPath (rendezvous : Rendezvous) (cage : CageId) : Path :=
  rendezvous.dir.child s!"cage-{cage.raw}.armed"

/-- The marker of a grate that is ready. -/
def readyPath (rendezvous : Rendezvous) (grate : GrateId) : Path :=
  rendezvous.dir.child s!"grate-{grate.raw}.ready"

/-- The marker of what a cage saw. -/
def outcomePath (rendezvous : Rendezvous) (cage : CageId) : Path :=
  rendezvous.dir.child s!"cage-{cage.raw}.outcome.json"

/-- The name a marker has while it is being written. -/
def temporary (path : Path) : Path := ⟨path.bytes ++ Utf8.ofText ".tmp"⟩

/-! ## Writing -/

/-- Makes the directory. -/
def ensure (rendezvous : Rendezvous) : Program (Except GateError Unit) := do
  match ← Program.makeTree rendezvous.dir with
  | .ok () => return .ok ()
  | .error cause => return .error (.io rendezvous.dir cause)

/-- Puts bytes in place of a marker, all at once. -/
def publish (path : Path) (bytes : List UInt8) : Program (Except GateError Unit) := do
  match ← Program.writeFile (temporary path) bytes with
  | .error cause => return .error (.io path cause)
  | .ok () =>
    match ← Program.request (.rename (temporary path) path) with
    | .error cause => return .error (.io path cause)
    | .ok () => return .ok ()

/-- Says that a cage is armed. -/
def markArmed (rendezvous : Rendezvous) (cage : CageId) : Program (Except GateError Unit) :=
  publish (rendezvous.armedPath cage) (Utf8.ofText (toString cage.raw))

/-- Says that a grate is ready. -/
def markReady (rendezvous : Rendezvous) (marker : ReadyMarker) :
    Program (Except GateError Unit) :=
  publish (rendezvous.readyPath marker.grate) (Utf8.ofText (toJson marker).indented)

/-- Says what a cage saw. -/
def writeOutcome (rendezvous : Rendezvous) (outcome : CageOutcome) :
    Program (Except GateError Unit) :=
  publish (rendezvous.outcomePath outcome.cage) (Utf8.ofText (toJson outcome).indented)

/-! ## Reading -/

/-- Whether a cage has said that it is armed. -/
def isArmed (rendezvous : Rendezvous) (cage : CageId) : Program Bool :=
  Program.request (.pathExists (rendezvous.armedPath cage))

/-- Whether a grate has said that it is ready. -/
def isReady (rendezvous : Rendezvous) (grate : GrateId) : Program Bool :=
  Program.request (.pathExists (rendezvous.readyPath grate))

/-- What a marker says, if it is there. -/
def readMarker (α : Type) [Decode α] (path : Path) :
    Program (Except GateError (Option α)) := do
  match ← Program.request (.readFile path) with
  | .error cause => return if cause.isNotFound then .ok none else .error (.io path cause)
  | .ok bytes =>
    match decodeBytes α bytes with
    | .ok a => return .ok (some a)
    | .error cause => return .error (.malformed path cause)

/-- What a grate has said about being ready. -/
def readReady (rendezvous : Rendezvous) (grate : GrateId) :
    Program (Except GateError (Option ReadyMarker)) :=
  readMarker ReadyMarker (rendezvous.readyPath grate)

/-- What a cage has said it saw. -/
def readOutcome (rendezvous : Rendezvous) (cage : CageId) :
    Program (Except GateError (Option CageOutcome)) :=
  readMarker CageOutcome (rendezvous.outcomePath cage)

/-! ## Waiting -/

variable {σ : Type}

/-- Waits until a cage is armed. -/
def waitArmed (rendezvous : Rendezvous) (cage : CageId) (timeout : Duration)
    (alive : σ → Program (Bool × σ)) : σ → Program (Except GateError Unit × σ) :=
  Poll.wait s!"{cage} to arm" (toString cage) timeout alive do
    return .ok (if ← rendezvous.isArmed cage then some () else none)

/-- Waits until a grate is ready. -/
def waitReady (rendezvous : Rendezvous) (grate : GrateId) (timeout : Duration)
    (alive : σ → Program (Bool × σ)) : σ → Program (Except GateError ReadyMarker × σ) :=
  Poll.wait s!"{grate} to become ready" (toString grate) timeout alive
    (rendezvous.readReady grate)

end Rendezvous

/-! ## Probes -/

/-- What decides that a gated cage may be released.  A probe waits for a grate, asking as it goes
    whether the grate is still alive. -/
structure Probe where
  awaitReady : {σ : Type} → GrateId → Duration → (σ → Program (Bool × σ)) → σ →
    Program (Except GateError ReadyMarker × σ)

namespace Probe

/-- Releases on the grate's word alone. -/
def marker (rendezvous : Rendezvous) : Probe := ⟨rendezvous.waitReady⟩

/-- Releases on the grate's word and then one line from an operator, both within one timeout. -/
def operator (rendezvous : Rendezvous) (channel : Nat) : Probe where
  awaitReady grate timeout alive s := do
    let started ← Program.request .now
    match ← rendezvous.waitReady grate timeout alive s with
    | (.error e, s) => return (.error e, s)
    | (.ok marker, s) =>
      let now ← Program.request .now
      let remaining := timeout.nanoseconds - (now - started)
      match ← Program.request (.receiveLine channel remaining) with
      | .line _ => return (.ok marker, s)
      | .timedOut => return (.error (.timeout "operator acknowledgment" timeout), s)
      | .closed => return (.error .operatorClosed, s)

end Probe

end Interposition
