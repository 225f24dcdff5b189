/-
  A chain among its processes.

  A process has to do with others in three ways only: it starts them, it is told how they end, and
  before a child becomes its image it may append to the journal.  So what a chain does is what its
  processes do, put together: the life of each is told by itself, with the ends of its children
  foretold (`host`), and the children then live lives with those ends (`Lives`, `Below`).

  1. **Children** (`Child`, `Doings`): whom a process has started, oldest first, and who of them it
     has not been told the end of.

  2. **The machine** (`host`, `boot`): nobody else collects the children, and a wait may tell
     nothing.  Whether files can be opened and children started is left open unless `mayFail`
     excludes failures.

  3. **Lives** (`Lives`): a process may have come to any point, and it may be killed at any.  The
     children with a setup are the cages, and how they end is left open; those without are grates of
     the demonstration, and each has a life of its own.
-/
import Interposition.Programs
import Interposition.Proofs.Host.Alone
import Interposition.Proofs.Journal.File

namespace Interposition.Chain

/-! ## A process and its children -/

/-- Who a process is, and the variables it finds. -/
structure Surroundings where
  pid : Pid
  vars : List (String × String)

/-- A process as its parent has started it. -/
structure Child where
  pid : Pid
  launch : Launch
  /-- Whether it ran a setup before it became its image. -/
  hooked : Bool
  /-- What it had appended to the journal by then. -/
  written : List JournalRecord
deriving DecidableEq

/-- A child finds the variables it was given, and those of its parent behind them. -/
def Surroundings.ofChild (self : Surroundings) (child : Child) : Surroundings :=
  ⟨child.pid, child.launch.vars ++ self.vars⟩

/-- What a process has to do with others. -/
structure Doings where
  /-- Whom it has started, oldest first. -/
  started : List Child
  /-- Whose end it has not been told. -/
  alive : List Pid
deriving DecidableEq

namespace Doings

/-- So far nothing. -/
def none : Doings := ⟨[], []⟩

/-- One more child has been started. -/
def starts (now : Doings) (child : Child) : Doings :=
  ⟨now.started ++ [child], child.pid :: now.alive⟩

/-- The end of a child has been told. -/
def told (now : Doings) (pid : Pid) : Doings := { now with alive := now.alive.erase pid }

end Doings

/-! ## The machine -/

/-- A machine that a chain runs on. -/
structure Machine where
  journalPath : Path
  /-- What a process gets when it opens the journal. -/
  journal : Pid → FileHandle
  /-- Whether files may fail to open and children to start. -/
  mayFail : Bool

/-- What the operating system does for a child that has yet to become its image.  The world is what
    the child has appended to the journal, which its parent has opened. -/
def boot (machine : Machine) (parent pid : Pid) : OperatingSystem JournalContents where
  answers
    | written, .identity, self, next => self.process = pid ∧ next = written
    | written, request, answer, next =>
      (journalFile ⟨machine.journal parent, machine.journalPath⟩).answers written request answer next
  spawns _ _ _ _ _ _ := False

/-- A child comes of a start: it has a number that no other child has that may still be waited for,
    and its setup has come to its end and failed of nothing. -/
structure Child.Born (machine : Machine) (parent : Pid) (launch : Launch) (hooked : Bool)
    (setup : Program (Option Errno)) (now : Doings) (child : Child) : Prop where
  launch_eq : child.launch = launch
  hooked_eq : child.hooked = hooked
  pos : 0 < child.pid
  fresh : child.pid ∉ now.alive
  boots : setup.Runs (boot machine parent child.pid) (some []) none
    (some (child.written.flatMap JournalRecord.encode))

/-- What the operating system does for a process whose children end as foretold. -/
def host (machine : Machine) (self : Surroundings) (fate : Pid → Option Termination) :
    OperatingSystem Doings where
  answers
    | now, .identity, who, next => who.process = self.pid ∧ next = now
    | now, .environment, vars, next =>
      (∀ name, vars.lookup name = self.vars.lookup name) ∧ next = now
    | now, .makeDirectory _, _, next => next = now
    | now, .isDirectory _, there, next => (there = false → machine.mayFail = true) ∧ next = now
    | now, .createFile _, opened, next =>
      (∀ cause, opened = .error cause → machine.mayFail = true) ∧ next = now
    | now, .openAppending path, opened, next =>
      (∀ cause, opened = .error cause → machine.mayFail = true) ∧
        (∀ handle, opened = .ok handle → path = machine.journalPath →
          handle = machine.journal self.pid) ∧ next = now
    | now, .wait pid _, .ok status, next =>
      match Termination.ofWaitStatus? status with
      | some t => pid ∈ now.alive ∧ fate pid = some t ∧ next = now.told pid
      | none => next = now
    -- nobody else collects the children, so only one whose end was told is gone
    | now, .wait pid _, .error cause, next =>
      (cause = .eintr ∨ cause = .echild ∧ pid ∉ now.alive) ∧ next = now
    -- other requests may be answered in any way
    | now, _, _, next => next = now
  spawns
    | now, _, _, _, .error _, next => machine.mayFail = true ∧ next = now
    | now, launch, hooked, setup, .ok pid, next =>
      ∃ child : Child, child.Born machine self.pid launch hooked setup now ∧ child.pid = pid ∧
        next = now.starts child

/-! ## Lives -/

/-- How a process may end that has come to a point. -/
def Ends (rest : Program Int32) : Option Termination → Prop
  | none => True
  | some (.exited code) => rest = .pure code
  | some (.signaled _) => True
  | some .vanished => False

/-- A process of a chain, and how it has ended if it has. -/
structure Entry where
  child : Child
  ended : Option Termination
deriving DecidableEq

mutual

/-- The life of a process, and those below it in the order they are started in: a process comes to
    a point, and those it has started by then live on. -/
inductive Lives (machine : Machine) :
    Surroundings → Program Int32 → Option Termination → List Entry → Prop where
  | intro {self : Surroundings} {program rest : Program Int32} {fate : Pid → Option Termination}
      {now : Doings} {ended : Option Termination} {entries : List Entry}
      (reaches : Program.Reaches (host machine self fate) program .none rest now)
      (ends : Ends rest ended) (below : Below machine self fate now.started entries) :
      Lives machine self program ended entries

/-- The lives of children and of those below them. -/
inductive Below (machine : Machine) :
    Surroundings → (Pid → Option Termination) → List Child → List Entry → Prop where
  | nobody {self : Surroundings} {fate : Pid → Option Termination} : Below machine self fate [] []
  | cage {self : Surroundings} {fate : Pid → Option Termination} {child : Child}
      {children : List Child} {entries : List Entry} (hooked : child.hooked = true)
      (rest : Below machine self fate children entries) :
      Below machine self fate (child :: children) (⟨child, fate child.pid⟩ :: entries)
  | grate {self : Surroundings} {fate : Pid → Option Termination} {child : Child}
      {children : List Child} {below entries : List Entry} (unhooked : child.hooked = false)
      (life : Lives machine (self.ofChild child) (Programs.grate child.launch.args)
        (fate child.pid) below)
      (rest : Below machine self fate children entries) :
      Below machine self fate (child :: children) (⟨child, fate child.pid⟩ :: (below ++ entries))

end

end Interposition.Chain
