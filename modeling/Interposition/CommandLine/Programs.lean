/-
  The command lines of the three programs.

  All of them take the settings of a session as flags, which go over those of the environment; a flag
  given to a subcommand goes over the same flag given before it.
-/
import Interposition.CommandLine.Reading
import Interposition.Process.Plan

namespace Interposition.CommandLine

/-! ## Settings -/

/-- The flag that names the state directory. -/
def stateDirFlag : String := "state-dir"

/-- The flag that says how long a grate may take to become ready, in milliseconds. -/
def readyTimeoutFlag : String := "ready-timeout-ms"

/-- The flag that says how long a cage may wait, in milliseconds. -/
def armTimeoutFlag : String := "arm-timeout-ms"

/-- The flag that says how many grates may be nested. -/
def maxChainDepthFlag : String := "max-chain-depth"

/-- The flags for settings. -/
def settingFlags : List Flag :=
  [ ⟨stateDirFlag, none, .takes .path⟩,
    ⟨readyTimeoutFlag, none, .takes .word⟩,
    ⟨armTimeoutFlag, none, .takes .word⟩,
    ⟨maxChainDepthFlag, none, .takes .halfWord⟩ ]

/-- The settings a command line gives. -/
structure Settings where
  stateDir : Option Path
  readyTimeout : Option UInt64
  armTimeout : Option UInt64
  maxChainDepth : Option UInt32
deriving DecidableEq

/-- The value of a flag. -/
def valueOf (given : Given) (name : String) : Option String :=
  (given.lookup name).bind List.head?

namespace Settings

/-- The settings among what is given. -/
def ofGiven (given : Given) : Settings where
  stateDir := (valueOf given stateDirFlag).map .ofText
  readyTimeout := (valueOf given readyTimeoutFlag).bind Text.word?
  armTimeout := (valueOf given armTimeoutFlag).bind Text.word?
  maxChainDepth := (valueOf given maxChainDepthFlag).bind halfWord?

/-- The settings of a session: those of the environment, and those given over them. -/
def config (settings : Settings) (fresh : Path) (lookup : String → Option String) :
    Except ConfigError RuntimeConfig := do
  let own ← RuntimeConfig.fromLookup fresh lookup
  if settings.maxChainDepth = some 0 then .error (.zero ("--" ++ maxChainDepthFlag))
  else
    let config : RuntimeConfig := { own with
      stateDir := settings.stateDir.getD own.stateDir
      readyTimeout := (settings.readyTimeout.map .milliseconds).getD own.readyTimeout
      armTimeout := (settings.armTimeout.map .milliseconds).getD own.armTimeout }
    match settings.maxChainDepth with
    | none => return config
    | some depth => return config.withMaxChainDepth depth

end Settings

/-! ## The loader -/

/-- What the loader is to do. -/
inductive LoaderCommand where
  | session (config : SessionConfig)
  | chain (names : List String)
  | run (programs : List String)
deriving DecidableEq

/-- The command line of the loader. -/
structure LoaderArguments where
  settings : Settings
  command : LoaderCommand
deriving DecidableEq

namespace LoaderArguments

/-- The switch that has a session wait for an operator. -/
def operatorFlag : String := "operator-ack"

/-- What a session takes. -/
def sessionUsage : Usage where
  flags := ⟨operatorFlag, none, .switch⟩ :: helpFlag :: settingFlags
  places :=
    [ ⟨"cage", .path, false, true, false⟩, ⟨"grate", .path, false, true, false⟩,
      ⟨"cage-args", .text, true, false, true⟩ ]

/-- What a subcommand takes that is given some names. -/
def namesUsage (name : String) : Usage :=
  ⟨helpFlag :: settingFlags, [⟨name, .text, true, true, false⟩]⟩

/-- The subcommands. -/
def subcommands : List (String × Usage) :=
  [("session", sessionUsage), ("chain", namesUsage "images"), ("run", namesUsage "programs")]

/-- What the loader takes in front of a subcommand. -/
def usage : Usage := ⟨helpFlag :: versionFlag :: settingFlags, []⟩

/-- The values of a place. -/
def valuesOf (given : Given) (name : String) : List String := (given.lookup name).getD []

/-- What a subcommand is to do with what it is given. -/
def commandOf (name : String) (given : Given) : LoaderCommand :=
  match name with
  | "session" => .session {
      cage := ⟨.ofText ((valueOf given "cage").getD ""), valuesOf given "cage-args"⟩
      grate := ⟨.ofText ((valueOf given "grate").getD ""), []⟩
      operatorAck := (given.lookup operatorFlag).isSome }
  | "chain" => .chain (valuesOf given "images")
  | _ => .run (valuesOf given "programs")

/-- Reads the words behind the loader's name. -/
def ofWords (words : List String) : Except UsageError LoaderArguments := do
  let (name, inner, outer) ← readNested usage subcommands words
  return { settings := .ofGiven (inner ++ outer), command := commandOf name inner }

end LoaderArguments

/-! ## The grate -/

/-- The command line of the demonstration grate. -/
structure GrateArguments where
  settings : Settings
  chain : List String
deriving DecidableEq

/-- Reads the words behind the grate's name. -/
def GrateArguments.ofWords (words : List String) : Except UsageError GrateArguments := do
  let given ← readPlain ⟨helpFlag :: settingFlags, [⟨"chain", .text, true, false, false⟩]⟩ words
  return ⟨.ofGiven given, LoaderArguments.valuesOf given "chain"⟩

/-! ## The cage -/

/-- The command line of the demonstration cage. -/
structure CageArguments where
  settings : Settings
  threads : UInt64
  rest : List String
deriving DecidableEq

namespace CageArguments

/-- The flag that says how many threads make calls. -/
def threadsFlag : String := "threads"

/-- What the cage takes. -/
def usage : Usage :=
  ⟨⟨threadsFlag, none, .takes .word⟩ :: helpFlag :: settingFlags,
    [⟨"rest", .text, true, false, false⟩]⟩

/-- Reads the words behind the cage's name. -/
def ofWords (words : List String) : Except UsageError CageArguments := do
  let given ← readPlain usage words
  return {
    settings := .ofGiven given
    threads := ((valueOf given threadsFlag).bind Text.word?).getD 1
    rest := LoaderArguments.valuesOf given "rest" }

/-- Whether the cage must wait for its release. -/
def isGated (arguments : CageArguments) : Bool := arguments.rest.head? = some gatedToken

end CageArguments

end Interposition.CommandLine
