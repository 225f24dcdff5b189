/-
  What can go wrong with the registration journal.
-/
import Interposition.Diagnostic
import Interposition.IoError
import Interposition.Id

namespace Interposition

/-- Why the journal could not be written or read. -/
inductive JournalError where
  | io (path : Path) (cause : IoError)
  | unknownOperation (operation : Word) (record : Nat)
deriving DecidableEq

instance : Diagnostic JournalError where
  message
    | .io path cause => s!"journal I/O failed on {path}: {cause.message}"
    | .unknownOperation operation record =>
      s!"unknown journal op {operation} in record {record}"
  code
    | .io _ _ => "journal::io"
    | .unknownOperation _ _ => "journal::corrupt"
  help
    | .io _ _ => some "Check that the state directory exists and is writable."
    | .unknownOperation _ _ => none

end Interposition
