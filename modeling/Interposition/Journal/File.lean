/-
  The registration journal as a file shared between processes.

  Grates and cages are separate processes, so the interception table cannot live in one of them.
  Every change is appended to the journal as one record, in one write to a file opened for
  appending, and every reader rebuilds the table from the records.  A missing journal reads as an
  empty one, and a record that is not complete yet is not there yet.
-/
import Interposition.Client
import Interposition.Host.Program
import Interposition.Journal.Error
import Interposition.Journal.Record

namespace Interposition

/-- A journal opened for appending. -/
structure JournalWriter where
  file : FileHandle
  path : Path
deriving DecidableEq

namespace Journal

/-! ## Opening -/

/-- A failure of the file as a failure of the journal. -/
def failure {α : Type} (path : Path) (cause : IoError) : Except JournalError α :=
  .error (.io path cause)

/-- Opens a journal for appending, new if need be. -/
def openWriter (path : Path) : Program (Except JournalError JournalWriter) := do
  match ← Program.request (.openAppending path) with
  | .ok file => return .ok ⟨file, path⟩
  | .error cause => return failure path cause

/-- Empties the journal, or makes an empty one, and opens it for appending. -/
def truncate (path : Path) : Program (Except JournalError JournalWriter) := do
  match ← Program.request (.createFile path) with
  | .error cause => return failure path cause
  | .ok file =>
    Program.request (.close file)
    openWriter path

/-- Starts an empty journal, discarding any earlier one, and the directories it lies in. -/
def create (path : Path) : Program (Except JournalError JournalWriter) := do
  match path.parent? with
  | none => truncate path
  | some above =>
    match ← Program.makeTree above with
    | .error cause => return failure path cause
    | .ok () => truncate path

/-! ## Reading -/

/-- The complete records from a record number on. -/
def readFrom (path : Path) (skip : Nat) : Program (Except JournalError (List JournalRecord)) := do
  match ← Program.request (.readFile path) with
  | .error cause => return if cause.isNotFound then .ok [] else failure path cause
  | .ok bytes =>
    match JournalRecord.readFrom bytes skip with
    | .ok records => return .ok records
    | .error unknown => return .error (.unknownOperation unknown.operation unknown.record)

/-- Every complete record. -/
def readAll (path : Path) : Program (Except JournalError (List JournalRecord)) := readFrom path 0

/-- Applies every complete record to a table.  Also how many there were. -/
def replayInto (path : Path) (table : InterceptionTable) :
    Program (Except JournalError (Nat × InterceptionTable)) := do
  match ← readAll path with
  | .error e => return .error e
  | .ok records => return .ok (records.length, JournalRecord.replay records table)

end Journal

namespace JournalWriter

/-! ## Appending -/

/-- Appends one record. -/
def appendRaw (writer : JournalWriter) (r : JournalRecord) : Program (Except IoError Unit) :=
  Program.writeAll writer.file r.encode

/-- Appends one record; a failure names the journal. -/
def append (writer : JournalWriter) (r : JournalRecord) : Program (Except JournalError Unit) := do
  match ← writer.appendRaw r with
  | .ok () => return .ok ()
  | .error cause => return Journal.failure writer.path cause

/-- The refusal of a registration that needs no table to be refused. -/
def refusal? (r : Registration) : Option RegistrationError :=
  if !r.namesProcesses then some (.invalid r)
  else if Syscall.isReserved r.syscall then some (.reserved r.syscall)
  else none

/-- A channel that carries registrations only and records them in the journal.  Whether a process
    had exited by then is decided when the journal is replayed. -/
def channel (writer : JournalWriter) : Channel Program := fun number words =>
  if number ≠ Syscall.registerHandler then pure Errno.enosys.status
  else
    let r := Registration.ofWords words
    match refusal? r with
    | some e => pure e.toStatus
    | none => do
      match ← writer.appendRaw (.register r) with
      | .ok () => return RegistrationError.accepted
      | .error _ => return RegistrationError.io.toStatus

end JournalWriter

end Interposition
