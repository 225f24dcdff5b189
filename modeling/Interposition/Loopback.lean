/-
  The loopback runtime: a process's own view of the interception table.

  Before every call the runtime folds in the journal records it has not seen yet.  Grates it meets
  there are looked up in a catalog; bindings of a grate the catalog does not know answer that there
  is no such process.  When the journal cannot be read the call goes to the table as it is.
-/
import Interposition.Journal.File

namespace Interposition

/-- Finds the dispatcher that serves a grate. -/
abbrev GrateCatalog := GrateId → Option Dispatcher

/-- A table kept in step with a journal. -/
structure LoopbackRuntime where
  table : InterceptionTable
  journal : Path
  catalog : GrateCatalog
  /-- How many records of the journal are in the table. -/
  applied : Nat

namespace LoopbackRuntime

/-- A runtime that has seen nothing of its journal. -/
def new (journal : Path) (catalog : GrateCatalog) (native : Native) : LoopbackRuntime :=
  ⟨.new native, journal, catalog, 0⟩

/-! ## Following the journal -/

/-- Attaches a grate's dispatcher unless there is one already or the grate has exited. -/
def ensureAttached (catalog : GrateCatalog) (grate : GrateId) (table : InterceptionTable) :
    InterceptionTable :=
  if table.isAttached grate || table.hasExited grate.asCage then table
  else
    match catalog grate with
    | some d => (table.attach d).2
    | none => table

/-- Applies a record, the grate of a registration being attached first. -/
def applyRecord (catalog : GrateCatalog) (table : InterceptionTable) (r : JournalRecord) :
    InterceptionTable :=
  match r with
  | .register registration =>
    r.apply (ensureAttached catalog registration.grate table)
  | _ => r.apply table

/-- The runtime with further records of its journal applied. -/
def absorb (runtime : LoopbackRuntime) (records : List JournalRecord) : LoopbackRuntime :=
  { runtime with
    table := records.foldl (applyRecord runtime.catalog) runtime.table
    applied := runtime.applied + records.length }

/-- Applies the records appended since the last time.  Also how many there were. -/
def sync (runtime : LoopbackRuntime) : Program (Except JournalError Nat × LoopbackRuntime) := do
  match ← Journal.readFrom runtime.journal runtime.applied with
  | .error e => return (.error e, runtime)
  | .ok records => return (.ok records.length, runtime.absorb records)

/-! ## Calls -/

/-- What the table as it is answers a call with. -/
def respondSynced (runtime : LoopbackRuntime) (caller : CageId) (syscall : SyscallNumber)
    (args : ArgumentVector) : Reply × LoopbackRuntime :=
  let (reply, table) := runtime.table.call caller syscall args
  (reply, { runtime with table })

/-- A call answered by the table as it is. -/
def callSynced (runtime : LoopbackRuntime) (caller : CageId) (syscall : SyscallNumber)
    (args : ArgumentVector) : Program (Int64 × LoopbackRuntime) := do
  let (reply, runtime) := runtime.respondSynced caller syscall args
  return (← Program.perform reply, runtime)

/-- What the table answers a call with once it has followed the journal. -/
def respond (runtime : LoopbackRuntime) (caller : CageId) (syscall : SyscallNumber)
    (args : ArgumentVector) : Program (Reply × LoopbackRuntime) := do
  let (_, runtime) ← runtime.sync
  return runtime.respondSynced caller syscall args

/-- A call by a cage. -/
def call (runtime : LoopbackRuntime) (caller : CageId) (syscall : SyscallNumber)
    (args : ArgumentVector) : Program (Int64 × LoopbackRuntime) := do
  let (reply, runtime) ← runtime.respond caller syscall args
  return (← Program.perform reply, runtime)

/-- A call by a cage whose six words are all its own. -/
def makeSyscall (runtime : LoopbackRuntime) (caller : CageId) (syscall : SyscallNumber)
    (words : Vector Word 6) : Program (Int64 × LoopbackRuntime) :=
  runtime.call caller syscall (.ofOwner caller words)

end LoopbackRuntime

/-! ## A table of one's own -/

/-- A table that a cage calls into directly, as the channel of the cage. -/
def InterceptionTable.channel (caller : CageId) :
    Channel (StateT InterceptionTable Program) := fun syscall words => do
  let reply ← modifyGet fun table => table.makeSyscall caller syscall words
  Program.perform reply

end Interposition
