/-
  The interception table: who answers which call of which cage.

  Every pair of a cage and a call has at most one binding, and a later registration replaces an
  earlier one.  Grates attach the dispatcher through which the calls bound to them are served.
  When a cage or a grate exits, every binding that names it in that role is dropped, and its id
  can no longer be registered.  Every change leaves an event in the audit trail.
-/
import Interposition.Audit
import Interposition.Bindings
import Interposition.Dispatch
import Interposition.Native

namespace Interposition

/-- The table and everything it has to know to serve calls. -/
structure InterceptionTable where
  /-- The active bindings. -/
  bindings : Bindings
  /-- The dispatchers of attached grates. -/
  attached : List (GrateId × Dispatcher)
  /-- Processes known to have exited. -/
  exited : List CageId
  /-- Every change so far, oldest first. -/
  audit : List AuditEvent
  /-- What answers calls nobody intercepts. -/
  native : Native

namespace InterceptionTable

/-- A table in which nothing has happened. -/
def new (native : Native) : InterceptionTable := ⟨.empty, [], [], [], native⟩

/-! ## Questions -/

/-- Whether a process is known to have exited. -/
def hasExited (table : InterceptionTable) (cage : CageId) : Bool := table.exited.contains cage

/-- The binding of a pair. -/
def lookup (table : InterceptionTable) (cage : CageId) (syscall : SyscallNumber) :
    Option Binding :=
  table.bindings.lookup cage syscall

/-- The active registrations in order of cage and call. -/
def registrations (table : InterceptionTable) : List Registration := table.bindings.entries

/-- How many bindings are active. -/
def size (table : InterceptionTable) : Nat := table.bindings.size

/-- The dispatcher of a grate. -/
def dispatcher? (table : InterceptionTable) (grate : GrateId) : Option Dispatcher :=
  table.attached.lookup grate

/-- Whether a grate has a dispatcher attached. -/
def isAttached (table : InterceptionTable) (grate : GrateId) : Bool :=
  (table.dispatcher? grate).isSome

/-! ## Grates -/

/-- Dispatchers with one set for its grate. -/
def setDispatcher (d : Dispatcher) :
    List (GrateId × Dispatcher) → List (GrateId × Dispatcher)
  | [] => [(d.grate, d)]
  | (grate, other) :: rest =>
    if grate = d.grate then (grate, d) :: rest else (grate, other) :: setDispatcher d rest

/-- Makes a grate reachable.  Also the dispatcher that was attached for it before. -/
def attach (table : InterceptionTable) (d : Dispatcher) :
    Option Dispatcher × InterceptionTable :=
  (table.dispatcher? d.grate, { table with attached := setDispatcher d table.attached })

/-! ## Registrations -/

/-- Why a registration is refused, if it is. -/
def refusal? (table : InterceptionTable) (r : Registration) : Option RegistrationError :=
  if !r.namesProcesses then some (.invalid r)
  else if Syscall.isReserved r.syscall then some (.reserved r.syscall)
  else if table.hasExited r.targetCage then some (.exited r.targetCage)
  else if table.hasExited r.grate.asCage then some (.exited r.grate.asCage)
  else none

/-- The table with an event added to its trail. -/
def record (table : InterceptionTable) (event : AuditEvent) : InterceptionTable :=
  { table with audit := table.audit ++ [event] }

/-- Makes a registration; the last writer wins. -/
def register (table : InterceptionTable) (r : Registration) :
    Except RegistrationError RegistrationOutcome × InterceptionTable :=
  match table.refusal? r with
  | some e => (.error e, table)
  | none =>
    let bound := { table with bindings := table.bindings.insert r }
    match table.lookup r.targetCage r.syscall with
    | none => (.ok .installed, bound.record (.installed r))
    | some previous =>
      if previous = r.binding then (.ok .unchanged, table)
      else (.ok (.replaced previous), bound.record (.replaced r previous))

/-- Drops the binding of one pair. -/
def revoke (table : InterceptionTable) (cage : CageId) (syscall : SyscallNumber) :
    Option Binding × InterceptionTable :=
  match table.lookup cage syscall with
  | none => (none, table)
  | some binding =>
    let kept := table.bindings.filter fun r => !r.isFor cage syscall
    (some binding, { table with bindings := kept }.record (.revoked cage syscall binding))

/-! ## Exits -/

/-- The exited processes with one more. -/
def noteExit (exited : List CageId) (cage : CageId) : List CageId :=
  if exited.contains cage then exited else exited ++ [cage]

/-- A grate went away: it is detached, and every binding it owned is dropped.  Also how many. -/
def grateExited (table : InterceptionTable) (grate : GrateId) : Nat × InterceptionTable :=
  let kept := table.bindings.filter fun r => r.grate ≠ grate
  let removed := table.bindings.size - kept.size
  (removed, { table with
    bindings := kept
    attached := table.attached.filter fun entry => entry.1 ≠ grate
    exited := noteExit table.exited grate.asCage }.record (.grateDetached grate removed))

/-- A cage went away: every binding of its calls is dropped.  Also how many. -/
def cageExited (table : InterceptionTable) (cage : CageId) : Nat × InterceptionTable :=
  let kept := table.bindings.filter fun r => r.targetCage ≠ cage
  let removed := table.bindings.size - kept.size
  (removed, { table with
    bindings := kept
    exited := noteExit table.exited cage }.record (.cageExited cage removed))

/-! ## Calls -/

/-- Routes a call to the grate it is bound to; nothing when it is not bound.  A binding that names
    a grate without a dispatcher answers that there is no such process. -/
def route (table : InterceptionTable) (caller : CageId) (syscall : SyscallNumber)
    (args : ArgumentVector) : Option Reply × InterceptionTable :=
  match table.lookup caller syscall with
  | none => (none, table)
  | some binding =>
    match table.dispatcher? binding.grate with
    | none => (some (.value Errno.esrch.status), table)
    | some d =>
      let (reply, d') := d.dispatch binding.handler caller args
      (some reply, { table with attached := setDispatcher d' table.attached })

/-- A call by a cage.  The dead make no calls but the one that ends them; the reserved number
    registers; every other call goes to the grate it is bound to, or to the native
    implementation. -/
def call (table : InterceptionTable) (caller : CageId) (syscall : SyscallNumber)
    (args : ArgumentVector) : Reply × InterceptionTable :=
  if table.hasExited caller ∧ syscall ≠ Syscall.exit then (.value Errno.esrch.status, table)
  else if syscall = Syscall.registerHandler then
    match table.register (.ofWords args.values) with
    | (.ok _, table') => (.value RegistrationError.accepted, table')
    | (.error e, table') => (.value e.toStatus, table')
  else
    match table.route caller syscall args with
    | (some reply, table') => (reply, table')
    | (none, table') => (.value (table'.native caller syscall args), table')

/-- A call by a cage whose six words are all its own. -/
def makeSyscall (table : InterceptionTable) (caller : CageId) (syscall : SyscallNumber)
    (words : Vector Word 6) : Reply × InterceptionTable :=
  table.call caller syscall (.ofOwner caller words)

end InterceptionTable

end Interposition
