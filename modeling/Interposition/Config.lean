/-
  Settings of one orchestration session, read from the environment and handed down to child
  processes through it.

  A setting that is missing from the environment keeps its default.  The defaults include a state
  directory that is new for every session, which whoever loads the settings supplies.
-/
import Interposition.Diagnostic
import Interposition.Json.Decode
import Interposition.Text.Blank

namespace Interposition

/-- Why the environment does not describe settings. -/
inductive ConfigError where
  | invalidNumber (setting value : String)
  | zero (setting : String)
deriving DecidableEq

instance : Diagnostic ConfigError where
  message
    | .invalidNumber setting value => s!"{setting} must be an unsigned integer, got '{value}'"
    | .zero setting => s!"{setting} must be greater than zero"
  code
    | .invalidNumber _ _ => "config::invalid_number"
    | .zero _ => "config::zero"

/-- Settings of one session. -/
structure RuntimeConfig where
  /-- Directory that holds the registration journal and the rendezvous markers. -/
  stateDir : Path
  /-- How long a loader waits for a grate to report its registrations. -/
  readyTimeout : Duration
  /-- How long a gated cage waits for its release. -/
  armTimeout : Duration
  /-- How many grates a chained invocation may nest. -/
  maxChainDepth : UInt32
deriving DecidableEq

namespace RuntimeConfig

/-! ## Names -/

/-- Variable that names the state directory. -/
def stateDirVariable : String := "LIND_STATE_DIR"

/-- Variable that holds the ready timeout in milliseconds. -/
def readyTimeoutVariable : String := "LIND_READY_TIMEOUT_MS"

/-- Variable that holds the arm timeout in milliseconds. -/
def armTimeoutVariable : String := "LIND_ARM_TIMEOUT_MS"

/-- Variable that holds the deepest chain allowed. -/
def maxChainDepthVariable : String := "LIND_MAX_CHAIN_DEPTH"

/-- The registration journal in a state directory. -/
def journalPathIn (stateDir : Path) : Path := stateDir.child "registrations.journal"

/-- The registration journal of a session. -/
def journalPath (config : RuntimeConfig) : Path := journalPathIn config.stateDir

/-- The directory of rendezvous markers of a session. -/
def rendezvousDir (config : RuntimeConfig) : Path := config.stateDir.child "rendezvous"

/-! ## Loading -/

/-- Settings of a session in a given state directory, everything else as it is by default. -/
def defaults (stateDir : Path) : RuntimeConfig where
  stateDir := stateDir
  readyTimeout := .seconds 5
  armTimeout := .seconds 30
  maxChainDepth := 8

/-- The number a variable holds, if it is set. -/
def numberIn (lookup : String → Option String) (setting : String) :
    Except ConfigError (Option UInt64) :=
  match lookup setting with
  | none => .ok none
  | some value =>
    match Text.word? (Text.trimBlank value) with
    | some n => .ok (some n)
    | none => .error (.invalidNumber setting value)

/-- A depth as the settings keep it; larger ones saturate. -/
def saturatedDepth (depth : UInt64) : UInt32 :=
  if depth.toNat < UInt32.size then depth.toUInt32 else UInt32.ofNat (UInt32.size - 1)

/-- The settings an environment describes; `fresh` is the state directory of a session that names
    none. -/
def fromLookup (fresh : Path) (lookup : String → Option String) :
    Except ConfigError RuntimeConfig := do
  let start := defaults fresh
  let ready ← numberIn lookup readyTimeoutVariable
  let arm ← numberIn lookup armTimeoutVariable
  let depth ← numberIn lookup maxChainDepthVariable
  if depth = some 0 then .error (.zero maxChainDepthVariable)
  else
    return {
      stateDir := ((lookup stateDirVariable).map Path.ofText).getD start.stateDir
      readyTimeout := (ready.map .milliseconds).getD start.readyTimeout
      armTimeout := (arm.map .milliseconds).getD start.armTimeout
      maxChainDepth := (depth.map saturatedDepth).getD start.maxChainDepth }

/-- The settings with another deepest chain; a chain of one grate is always allowed. -/
def withMaxChainDepth (config : RuntimeConfig) (depth : UInt32) : RuntimeConfig :=
  { config with maxChainDepth := max depth 1 }

/-- The variables that hand the settings down to a child process. -/
def childEnvironment (config : RuntimeConfig) : List (String × String) :=
  [ (stateDirVariable, config.stateDir.display),
    (readyTimeoutVariable, toString config.readyTimeout.inMilliseconds),
    (armTimeoutVariable, toString config.armTimeout.inMilliseconds),
    (maxChainDepthVariable, toString config.maxChainDepth) ]

/-! ## Written form -/

/-- The document of the settings, if the state directory is text. -/
def toJson? (config : RuntimeConfig) : Except Failure Json :=
  match config.stateDir.toText? with
  | none => .error (.data "path contains invalid UTF-8 characters")
  | some dir =>
    .ok (.object
      [ ("state_dir", .text dir),
        ("ready_timeout", toJson config.readyTimeout),
        ("arm_timeout", toJson config.armTimeout),
        ("max_chain_depth", toJson config.maxChainDepth) ])

/-- The fields of the settings. -/
def fields : Fields RuntimeConfig :=
  Fields.done RuntimeConfig.mk
    |>.required "state_dir" |>.required "ready_timeout" |>.required "arm_timeout"
    |>.required "max_chain_depth"

instance : Decode RuntimeConfig := ⟨fields.decoder "RuntimeConfig"⟩

end RuntimeConfig

end Interposition
