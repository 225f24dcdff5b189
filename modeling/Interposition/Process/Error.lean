/-
  What can go wrong with managed processes, and with the library as a whole.
-/
import Interposition.Argument
import Interposition.Config
import Interposition.Dispatch
import Interposition.Journal.Error
import Interposition.Process.Record
import Interposition.Registration
import Interposition.Rendezvous.Error

namespace Interposition

/-- Why an operation on managed processes failed. -/
inductive ProcessError where
  | creationFailed (image : String) (cause : IoError)
  | imageReplacementFailed (image : String) (cause : IoError)
  | childSetupFailed (image : String) (cause : IoError)
  | invalidState (before after : CageState)
  | notManaged (pid : UInt32)
  | signalFailed (pid : UInt32) (signal : Signal) (cause : Errno)
  | waitFailed (pid : UInt32) (cause : Errno)
  | badLaunchConfig (setting : String) (cause : Failure)
  | unevenChain (count : Nat)
  | chainTooDeep (depth max : UInt32)
  | gate (cause : GateError)
  | journal (cause : JournalError)
  | registration (cause : RegistrationError)
deriving DecidableEq

namespace ProcessError

/-- Failures that concern one child only: the others go on, and the child counts as failed. -/
def isLeaf : ProcessError → Bool
  | imageReplacementFailed _ _ => true
  | childSetupFailed _ _ => true
  | _ => false

instance : Diagnostic ProcessError where
  message
    | creationFailed image cause => s!"failed to create process for {image}: {cause.message}"
    | imageReplacementFailed image cause =>
      s!"could not replace image with {image}: {cause.message}"
    | childSetupFailed image cause =>
      s!"child setup for {image} failed before exec: {cause.message}"
    | invalidState before after =>
      s!"invalid cage state transition: {before.described} -> {after.described}"
    | notManaged pid => s!"process {pid} is not managed by this executor"
    | signalFailed pid signal cause => s!"could not deliver {signal} to {pid}: {cause.describe}"
    | waitFailed pid cause => s!"waiting for {pid} failed: {cause.describe}"
    | badLaunchConfig setting _ => s!"launch configuration in {setting} is malformed"
    | unevenChain count => s!"chain list must alternate grate and cage, got {count} names"
    | chainTooDeep depth max => s!"chain depth {depth} exceeds the limit of {max}"
    | gate cause => Diagnostic.message cause
    | journal cause => Diagnostic.message cause
    | registration cause => Diagnostic.message cause
  code
    | creationFailed _ _ => "process::creation_failed"
    | imageReplacementFailed _ _ => "process::image_replacement_failed"
    | childSetupFailed _ _ => "process::child_setup_failed"
    | invalidState _ _ => "process::invalid_state"
    | notManaged _ => "process::not_found"
    | signalFailed _ _ _ => "process::signal_failed"
    | waitFailed _ _ => "process::wait_failed"
    | badLaunchConfig _ _ => "process::bad_launch_config"
    | unevenChain _ => "process::uneven_chain"
    | chainTooDeep _ _ => "process::chain_too_deep"
    | gate cause => Diagnostic.code cause
    | journal cause => Diagnostic.code cause
    | registration cause => Diagnostic.code cause
  help
    | creationFailed _ _ =>
      some "Check system resources and process limits. Startup is aborted."
    | imageReplacementFailed _ _ => some "Check that the executable exists and is runnable."
    | childSetupFailed _ _ =>
      some "The child could not register itself as an interception target."
    | unevenChain _ => some "Pass pairs: grate cage [grate cage ...]"
    | chainTooDeep _ _ => some "Raise LIND_MAX_CHAIN_DEPTH or shorten the chain."
    | gate cause => Diagnostic.help cause
    | journal cause => Diagnostic.help cause
    | registration cause => Diagnostic.help cause
    | _ => none
  cause
    | badLaunchConfig _ cause => some cause
    | gate cause => Diagnostic.cause cause
    | _ => none

end ProcessError

/-- The next state of a cage, unless its life may not take that step. -/
def CageState.become (before after : CageState) : Except ProcessError CageState :=
  if before.canBecome after then .ok after else .error (.invalidState before after)

/-- Any error of the library, as its programs report them. -/
inductive RuntimeError where
  | config (cause : ConfigError)
  | dispatch (cause : DispatchError)
  | provenance (cause : ProvenanceError)
  | registration (cause : RegistrationError)
  | journal (cause : JournalError)
  | gate (cause : GateError)
  | process (cause : ProcessError)
  | startup (cause : IoError)
deriving DecidableEq

namespace RuntimeError

instance : Diagnostic RuntimeError where
  message
    | config cause => Diagnostic.message cause
    | dispatch cause => Diagnostic.message cause
    | provenance cause => Diagnostic.message cause
    | registration cause => Diagnostic.message cause
    | journal cause => Diagnostic.message cause
    | gate cause => Diagnostic.message cause
    | process cause => Diagnostic.message cause
    | startup cause => s!"async runtime could not start: {cause.message}"
  code
    | config cause => Diagnostic.code cause
    | dispatch cause => Diagnostic.code cause
    | provenance cause => Diagnostic.code cause
    | registration cause => Diagnostic.code cause
    | journal cause => Diagnostic.code cause
    | gate cause => Diagnostic.code cause
    | process cause => Diagnostic.code cause
    | startup _ => "lind::runtime"
  help
    | config cause => Diagnostic.help cause
    | dispatch cause => Diagnostic.help cause
    | provenance cause => Diagnostic.help cause
    | registration cause => Diagnostic.help cause
    | journal cause => Diagnostic.help cause
    | gate cause => Diagnostic.help cause
    | process cause => Diagnostic.help cause
    | startup _ => none
  cause
    | gate cause => Diagnostic.cause cause
    | process cause => Diagnostic.cause cause
    | _ => none

/-- The exit status of a program that ends with the error. -/
def exitCode : RuntimeError → Int32
  | process cause => if cause.isLeaf then 127 else 1
  | config _ => 2
  | _ => 1

end RuntimeError

end Interposition
