/-
  Every kind of document, by name.

  A kind is what it does with a text: read it, and write what has been read in the one way this
  library writes it.
-/
import Interposition.Audit
import Interposition.Dispatch
import Interposition.Journal.Record
import Interposition.Process.Plan
import Interposition.Rendezvous.Marker

namespace Interposition.Documents

/-- What a kind of document makes of a text. -/
abbrev Kind := String → Except Failure Json

/-- The kind of a type all of whose values can be written. -/
def written (α : Type) [Encode α] [Decode α] : Kind := fun source =>
  (decodeText α source).map toJson

/-- The kind of a type some of whose values cannot be written. -/
def writtenIf (α : Type) [Decode α] (document : α → Except Failure Json) : Kind := fun source => do
  document (← decodeText α source)

/-- The kinds by name. -/
def kinds : List (String × Kind) :=
  [ ("CageId", written CageId),
    ("GrateId", written GrateId),
    ("SyscallNumber", written SyscallNumber),
    ("HandlerIndex", written HandlerIndex),
    ("Registration", written Registration),
    ("Binding", written Binding),
    ("RegistrationOutcome", written RegistrationOutcome),
    ("RegistrationError", written RegistrationError),
    ("AuditEvent", written AuditEvent),
    ("JournalRecord", written JournalRecord),
    ("DispatchError", written DispatchError),
    ("DispatchStats", written DispatchStats),
    ("Arg", written Argument),
    ("ArgumentVector", written ArgumentVector),
    ("RuntimeConfig", writtenIf RuntimeConfig RuntimeConfig.toJson?),
    ("ImageSpec", writtenIf ImageSpec ImageSpec.toJson?),
    ("CageLaunch", writtenIf CageLaunch LaunchSettings.document),
    ("GrateLaunch", writtenIf GrateLaunch LaunchSettings.document),
    ("ChainLink", written ChainLink),
    ("ChainPlan", written ChainPlan),
    ("ChainReport", written ChainReport),
    ("ProcessRecord", written ProcessRecord),
    ("Termination", written Termination),
    ("CageState", written CageState),
    ("Role", written Role),
    ("ReadyMarker", written ReadyMarker),
    ("CallRecord", written CallRecord),
    ("CageOutcome", written CageOutcome),
    ("SessionConfig", writtenIf SessionConfig SessionConfig.toJson?),
    ("SessionReport", written SessionReport) ]

/-- What a text comes to as a document of the named kind, if there is such a kind. -/
def normalForm? (kind source : String) : Option (Except Failure Json) :=
  (kinds.lookup kind).map fun make => make source

end Interposition.Documents
