/-
  Chains: grates nested in grates, each serving one cage.

  The outermost loader starts only the first grate and gives it every other name.  A grate takes the
  first name as the cage it serves and starts it; the new process registers itself under the grate
  before it becomes the cage.  If names are left the grate starts the next grate with them, one level
  deeper, and then waits for both.
-/
import Interposition.Checked
import Interposition.Journal.File
import Interposition.Process.Executor
import Interposition.Process.Plan
import Interposition.Rendezvous.Directory

namespace Interposition.Chain

/-- What every level of a chain needs to know. -/
structure Settings where
  config : RuntimeConfig
  /-- What every cage of the chain registers under its grate. -/
  interceptions : List (SyscallNumber × HandlerIndex)
deriving DecidableEq

/-- The depth that an environment says a process stands at; one when it says nothing. -/
def depthIn (lookup : String → Option String) : UInt32 :=
  ((lookup chainDepthVariable).bind Text.halfWord?).getD 1

/-- The variables of a child at a depth. -/
def childVariables (settings : Settings) (depth : UInt32) : List (String × String) :=
  settings.config.childEnvironment ++ [(chainDepthVariable, toString depth)]

/-- The error number that a refused registration fails the setup of a child with. -/
def setupErrno (status : Int64) : Errno :=
  let negated := -status
  if Int32.minValue.toInt ≤ negated.toInt ∧ negated.toInt ≤ Int32.maxValue.toInt then
    ⟨negated.toInt32⟩
  else .einval

/-- Makes registrations of a cage under a grate in order, up to the first that is refused. -/
def registerSelf (channel : Channel Program) (cage : CageId) (grate : GrateId) :
    List (SyscallNumber × HandlerIndex) → Program (Option Errno)
  | [] => pure none
  | (syscall, handler) :: rest => do
    let status ← channel.registerRaw ⟨cage, syscall, handler, grate⟩
    if status ≠ RegistrationError.accepted then return some (setupErrno status)
    else registerSelf channel cage grate rest

/-- What a new process does before it becomes a cage: it registers itself under the grate. -/
def setup (settings : Settings) (writer : JournalWriter) (grate : GrateId) :
    Program (Option Errno) := do
  let self ← Program.request .identity
  registerSelf writer.channel (.ofPid self.process) grate settings.interceptions

/-- Starts a child of a level.  The answer is the message of a failure that concerns it alone; any
    other failure ends the level. -/
def startChild (role : Role) (image : ImageSpec) (vars : List (String × String))
    (setup : Option (Program (Option Errno))) : Supervised (List String) := do
  match ← Supervised.attempt (Executor.spawn role image vars setup) with
  | .ok _ => return []
  | .error e => if e.isLeaf then return [Diagnostic.message e] else throw e

/-- The outermost level: prepares the shared state, starts the first grate and waits for it. -/
def launch (settings : Settings) (plan : ChainPlan) : Supervised ChainReport := do
  let config := settings.config
  let depth := if plan.depth < UInt32.size then UInt32.ofNat plan.depth
    else UInt32.ofNat (UInt32.size - 1)
  if depth > config.maxChainDepth then throw (.chainTooDeep depth config.maxChainDepth)
  Supervised.ofGate (Rendezvous.ensure ⟨config.rendezvousDir⟩)
  let _ ← Supervised.ofJournal (Journal.create config.journalPath)
  let failures ← match plan.headImage? with
    | none => pure []
    | some head => startChild .grate head (childVariables settings 1) none
  return { depth := 0, records := ← Executor.reapAll, failures }

/-- The outermost level of a chain given by names. -/
def launchNamed (settings : Settings) (names : List String) : Supervised ChainReport := do
  launch settings (← ExceptT.mk (pure (ChainPlan.ofNames names)))

/-- Starts the next grate one level deeper, if names are left.  Nobody gets here at the limit, so
    this sum fits. -/
def startNext (settings : Settings) (depth : UInt32) : List String → Supervised (List String)
  | [] => pure []
  | next :: names =>
    startChild .grate ⟨.ofText next, names⟩ (childVariables settings (depth + 1)) none

/-- What a level does once its names are known to fit. -/
def work (settings : Settings) (grate : GrateId) (depth : UInt32) (cage : String)
    (rest : List String) : Supervised ChainReport := do
  let writer ← Supervised.ofJournal (Journal.openWriter settings.config.journalPath)
  let cageFailures ← startChild .cage ⟨.ofText cage, []⟩ (childVariables settings depth)
    (some (setup settings writer grate))
  let grateFailures ← startNext settings depth rest
  return { depth, records := ← Executor.reapAll, failures := cageFailures ++ grateFailures }

/-- Refuses a next grate that would stand deeper than the limit, naming its depth.  If there is no
    such depth the program stops at the sum, and there is no report. -/
def refuseDeeper (depth limit : UInt32) : Supervised (Option ChainReport) :=
  match Checked.unsigned? depth 1 with
  | some deeper => throw (.chainTooDeep deeper limit)
  | none => return none

/-- One level: `names` is the cage this grate serves, then the next grate and all its names. -/
def advance (settings : Settings) (grate : GrateId) (depth : UInt32) (names : List String) :
    Supervised (Option ChainReport) := do
  match names with
  | [] => return some { depth, records := [], failures := [] }
  | cage :: rest =>
    if rest.length % 2 ≠ 0 then throw (.unevenChain rest.length)
    else if !rest.isEmpty && depth ≥ settings.config.maxChainDepth then
      refuseDeeper depth settings.config.maxChainDepth
    else return some (← work settings grate depth cage rest)

end Interposition.Chain
