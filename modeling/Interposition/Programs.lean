/-
  The three programs: the loader, the demonstration grate and the demonstration cage.

  A program reads its command line and its environment, does its work, and comes to an exit status.
-/
import Interposition.CommandLine.Programs
import Interposition.Demo.Cage
import Interposition.Demo.Grate
import Interposition.Process.Batch
import Interposition.Process.Session

namespace Interposition.Programs

open CommandLine

/-! ## Exit statuses -/

/-- A status as a program can leave it: below zero counts as zero, above 255 as 255. -/
def clamped (status : Int32) : Int32 := max 0 (min status 255)

/-- The status of a program that has stopped at a sum that does not fit. -/
def overflowed : Int32 := 101

/-- What a program leaves of the status it comes to, if it comes to one. -/
def leaves : Option Int32 → Int32
  | some status => clamped status
  | none => overflowed

/-- The status of a program of a demonstration that fails, whatever it fails of. -/
def failure : Int32 := 1

/-! ## Settings -/

/-- A state directory that is new for a session that names none. -/
def freshStateDir (lookup : String → Option String) : Program Path := do
  let name ← Program.request .freshName
  return (Path.ofText ((lookup "TMPDIR").getD "/tmp")).child s!"lind-{name}"

/-- The settings of a program, and its environment. -/
def configure (settings : Settings) : Program (Except ConfigError RuntimeConfig) := do
  let environment ← Program.request .environment
  let fresh ← freshStateDir fun name => environment.lookup name
  return settings.config fresh fun name => environment.lookup name

/-! ## The loader -/

/-- The status of something that manages processes. -/
def statusOf {α : Type} (status : α → Option Int32) (work : Supervised α) : Program Int32 := do
  match ← work default with
  | (.ok report, _) => return leaves (status report)
  | (.error e, _) => return clamped (RuntimeError.process e).exitCode

/-- Does what the loader was asked for. -/
def obey (config : RuntimeConfig) : LoaderCommand → Program Int32
  | .session session => statusOf SessionReport.exitCode (Session.runConfigured config session)
  | .chain names =>
    statusOf ChainReport.exitCode (Chain.launchNamed ⟨config, Demo.chainInterceptions⟩ names)
  | .run programs =>
    statusOf (fun records => some (if records.all ProcessRecord.succeeded then 0 else 1))
      (Batch.run config (programs.map fun program => ⟨.ofText program, []⟩))

/-- The loader, given the words behind its name. -/
def loader (words : List String) : Program Int32 := do
  match LoaderArguments.ofWords words with
  | .error e => return e.exitCode
  | .ok arguments =>
    match ← configure arguments.settings with
    | .error e => return clamped (RuntimeError.config e).exitCode
    | .ok config => obey config arguments.command

/-! ## The grate -/

/-- The demonstration grate, given the words behind its name: it serves a session if its
    environment says which, and takes its turn in a chain if not. -/
def grate (words : List String) : Program Int32 := do
  match GrateArguments.ofWords words with
  | .error e => return e.exitCode
  | .ok arguments =>
    let environment ← Program.request .environment
    match LaunchSettings.ofEnvironment GrateLaunch fun name => environment.lookup name with
    | .error _ => return failure
    | .ok (some launch) =>
      match ← Demo.serve launch with
      | .error _ => return failure
      | .ok () => return 0
    | .ok none =>
      match ← configure arguments.settings with
      | .error _ => return failure
      | .ok config =>
        match ← Demo.continueChain config arguments.chain with
        | (.error _, _) => return failure
        | (.ok report, _) => return leaves (report.bind ChainReport.exitCode)

/-! ## The cage -/

/-- The settings of a cage: those it was launched with, or those of its command line. -/
def cageConfig (settings : Settings) : Program (Option RuntimeConfig) := do
  let environment ← Program.request .environment
  match LaunchSettings.ofEnvironment CageLaunch fun name => environment.lookup name with
  | .error _ => return none
  | .ok (some launch) => return some launch.runtime
  | .ok none =>
    match ← configure settings with
    | .error _ => return none
    | .ok config => return some config

/-- The demonstration cage, given the words behind its name. -/
def cage (words : List String) : Program Int32 := do
  match CageArguments.ofWords words with
  | .error e => return e.exitCode
  | .ok arguments =>
    match ← cageConfig arguments.settings with
    | none => return failure
    | some config =>
      match ← Demo.runCage ⟨arguments.isGated, arguments.threads⟩ config with
      | .error _ => return failure
      | .ok _ => return 0

end Interposition.Programs
