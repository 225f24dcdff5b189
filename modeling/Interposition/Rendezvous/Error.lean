/-
  What can go wrong while processes wait for one another.
-/
import Interposition.Diagnostic
import Interposition.IoError
import Interposition.Signal

namespace Interposition

/-- Why a wait, or the exchange it waits for, failed. -/
inductive GateError where
  | timeout (what : String) (waited : Duration)
  | peerExited (what peer : String)
  | io (path : Path) (cause : IoError)
  | malformed (path : Path) (cause : Failure)
  | install (signal : Signal) (cause : IoError)
  | operatorClosed
deriving DecidableEq

instance : Diagnostic GateError where
  message
    | .timeout what waited => s!"timed out after {waited} waiting for {what}"
    | .peerExited what peer => s!"{peer} went away before {what}"
    | .io path cause => s!"rendezvous I/O failed on {path}: {cause.message}"
    | .malformed path _ => s!"malformed marker {path}"
    | .install signal cause => s!"could not install handler for {signal}: {cause.message}"
    | .operatorClosed => "operator input closed before acknowledgment"
  code
    | .timeout _ _ => "gate::timeout"
    | .peerExited _ _ => "gate::peer_exited"
    | .io _ _ => "gate::io"
    | .malformed _ _ => "gate::malformed_marker"
    | .install _ _ => "gate::install"
    | .operatorClosed => "gate::operator_closed"
  help
    | .timeout _ _ =>
      some "Raise LIND_READY_TIMEOUT_MS or LIND_ARM_TIMEOUT_MS if the peer is merely slow."
    | _ => none
  cause
    | .malformed _ cause => some cause
    | _ => none

end Interposition
