/-
  A session among its processes.

  The loader, the cage and the grate are three processes with one file system.  Here is what the
  operating system does for each of them, and how the three take turns.

  1. **The world** (`World`): the shared files and the two children, with what each has decided to
     do about signals, the signals that were kept for it, and whether it has ended.

  2. **The operating system** (`Setting.os`): every request may fail, a write may take any part of
     its bytes, a wait may be interrupted.  Nobody but the three writes the files or sends signals,
     and the journal can always be read.  What no program of a session asks for is left open.

  3. **Steps** (`Setting.Step`): at any time any process that has not ended may go on by one deed, and
     a child may end in any way and at any point.  A process number may be given to the grate again
     once the cage has ended.
-/
import Mathlib.Logic.Relation
import Interposition.Programs
import Interposition.Proofs.Host.Contract
import Interposition.Proofs.Host.SharedFiles
import Interposition.Simulation.Machine

namespace Interposition.Session

open CommandLine (CageArguments GrateArguments)

/-! ## The world -/

/-- The processes of a session. -/
inductive Party where
  | loader
  | cage
  | grate
deriving DecidableEq

/-- A child of the loader. -/
structure Child where
  launch : Launch
  disposition : Signal → Disposition
  /-- The signals that were kept for it and that it has not asked for yet. -/
  kept : Signal → Bool
  ended : Bool

namespace Child

/-- A child that has just become its image: it keeps no signal. -/
structure Starts (launch : Launch) (child : Child) : Prop where
  launch_eq : child.launch = launch
  disposition : ∀ signal, child.disposition signal ≠ .keep
  kept : ∀ signal, child.kept signal = false
  ended : child.ended = false

/-- The child with another disposition; a signal it does not keep is no longer kept for it. -/
def dispose (child : Child) (signal : Signal) (disposition : Disposition) : Child :=
  { child with
    disposition := Function.update child.disposition signal disposition
    kept := if disposition = .keep then child.kept else Function.update child.kept signal false }

/-- The child once a signal has reached it.  One signal ends it whatever it has decided. -/
def reached (child : Child) (signal : Signal) : Child :=
  if child.ended then child
  else if signal = .kill then { child with ended := true }
  else
    match child.disposition signal with
    | .ignore => child
    | .keep => { child with kept := Function.update child.kept signal true }
    | .default =>
      if Simulation.effectOf signal = .terminate then { child with ended := true } else child

/-- The child once it has asked for a signal. -/
def take (child : Child) (signal : Signal) : Child :=
  { child with kept := Function.update child.kept signal false }

end Child

/-- The files and the children. -/
structure World where
  files : SharedFiles Party
  children : Party → Option Child

namespace World

/-- Whether a process can take a step.  The loader can as long as it likes to. -/
def Alive (world : World) (party : Party) : Prop :=
  party = .loader ∨ ∃ child, world.children party = some child ∧ child.ended = false

/-- The child that would be started next: the cage first, then the grate. -/
def next? (world : World) : Option Party :=
  if (world.children .cage).isNone then some .cage
  else if (world.children .grate).isNone then some .grate
  else none

/-- The world with its children changed. -/
def mapChildren (world : World) (change : Party → Child → Child) : World :=
  { world with children := fun party => (world.children party).map (change party) }

/-- The world with one child changed. -/
def change (world : World) (party : Party) (change : Child → Child) : World :=
  world.mapChildren fun other child => if other = party then change child else child

/-- The world with one child ended. -/
def endOf (world : World) (party : Party) : World :=
  world.change party fun child => { child with ended := true }

end World

/-! ## A session -/

/-- The program of a child. -/
def image (party : Party) (launch : Launch) : Program Int32 :=
  match party with
  | .grate => Programs.grate launch.args
  | _ => Programs.cage launch.args

/-- A session: one gated cage and one grate, both of the demonstration.  The process numbers are
    those the operating system will give to the children. -/
structure Setting where
  config : RuntimeConfig
  cage : ImageSpec
  grate : ImageSpec
  pid : Party → Pid
  cageArguments : CageArguments
  grateArguments : GrateArguments
  pid_pos : ∀ party, 0 < pid party
  ofWords_cage : CageArguments.ofWords (gatedToken :: cage.args) = .ok cageArguments
  ofWords_grate : GrateArguments.ofWords grate.args = .ok grateArguments
  gated : cageArguments.isGated = true

namespace Setting

variable (setting : Setting)

def cageId : CageId := .ofPid (setting.pid .cage)

def grateId : GrateId := .ofPid (setting.pid .grate)

def rendezvous : Rendezvous := ⟨setting.config.rendezvousDir⟩

def journal : Path := setting.config.journalPath

/-- The marker that says that the cage is armed. -/
def armed : Path := setting.rendezvous.armedPath setting.cageId

/-- The marker that says that the grate is ready. -/
def ready : Path := setting.rendezvous.readyPath setting.grateId

/-- The marker that says what the cage saw. -/
def outcome : Path := setting.rendezvous.outcomePath setting.cageId

/-- What the grate registers. -/
def registrations : List Registration :=
  Demo.sessionInterceptions.map fun (syscall, handler) =>
    ⟨setting.cageId, syscall, handler, setting.grateId⟩

/-- The bytes of the journal once the grate has registered. -/
def recorded : List UInt8 :=
  setting.registrations.flatMap fun r => (JournalRecord.register r).encode

/-- What the grate says when it is ready. -/
def marker : ReadyMarker := ⟨setting.grateId, setting.cageId, setting.registrations⟩

/-- The program of the loader. -/
def loader : Supervised SessionReport :=
  run setting.config (.marker setting.rendezvous) setting.cage setting.grate

/-! ## The operating system -/

/-- Every child that has been given a process number has ended. -/
def Ended (pid : Pid) (world : World) : Prop :=
  ∀ party child, world.children party = some child → setting.pid party = pid → child.ended = true

/-- The world once a signal has been sent to a process number. -/
def signalled (pid : Pid) (signal : Signal) (world : World) : World :=
  world.mapChildren fun party child =>
    if setting.pid party = pid then child.reached signal else child

/-- How a request of a process may be answered. -/
def answers (party : Party) (world : World) :
    (request : Request) → request.Answer → World → Prop
  | .now, _, next => next = world
  | .sleep _, _, next => next = world
  | .freshName, _, next => next = world
  | .choose _, _, next => next = world
  | .makeDirectory _, _, next => next = world
  | .isDirectory _, _, next => next = world
  | .identity, self, next => self.process = setting.pid party ∧ next = world
  | .environment, vars, next =>
    (∀ child, world.children party = some child → ∀ name value,
      child.launch.vars.lookup name = some value → vars.lookup name = some value) ∧ next = world
  | .pathExists path, found, next =>
    (found = true → (world.files.names path).isSome) ∧ next = world
  | .readFile path, result, next =>
    (result = world.files.reading path ∨ path ≠ setting.journal ∧ ∃ e, result = .error e) ∧
      next = world
  | .createFile path, result, next =>
    (∃ e, result = .error e) ∧ next = world ∨
      ∃ handle, result = .ok handle ∧ world.files.opened party handle = none ∧
        next = { world with files := world.files.create party path handle }
  | .openAppending path, result, next =>
    (∃ e, result = .error e) ∧ next = world ∨
      ∃ handle, result = .ok handle ∧ world.files.opened party handle = none ∧
        next = { world with files := world.files.openToAppend party path handle }
  | .write handle bytes, result, next =>
    (∃ e, result = .error e) ∧ next = world ∨
      ∃ count, result = .ok count ∧ count ≤ bytes.length ∧
        (world.files.opened party handle).isSome ∧
        next = { world with files := world.files.write party handle (bytes.take count) }
  | .close handle, _, next => next = { world with files := world.files.close party handle }
  | .rename source target, result, next =>
    (∃ e, result = .error e) ∧ next = world ∨
      result = .ok () ∧ (world.files.names source).isSome ∧
        next = { world with files := world.files.rename source target }
  | .kill pid signal, result, next =>
    (∃ e, result = .error e) ∧ next = world ∨
      result = .ok () ∧ next = setting.signalled pid signal world
  | .wait pid _, result, next =>
    (match result with
      | .ok status => (Termination.ofWaitStatus? status).isSome → setting.Ended pid world
      | .error e => e = .echild → setting.Ended pid world) ∧ next = world
  | .dispose signal disposition, _, next =>
    next = world.change party fun child => child.dispose signal disposition
  | .awaitSignal signal _, found, next =>
    found = false ∧ next = world ∨
      found = true ∧ (∃ child, world.children party = some child ∧ child.kept signal = true) ∧
        next = world.change party fun child => child.take signal
  | _, _, _ => True

/-- How starting a child may be answered.  A child gets a process number that nobody else has who
    has not ended. -/
def spawns (world : World) (launch : Launch) (result : Except IoError Pid) (next : World) : Prop :=
  (∃ e, result = .error e) ∧ next = world ∨
    ∃ party child, world.next? = some party ∧ child.Starts launch ∧
      setting.Ended (setting.pid party) world ∧ result = .ok (setting.pid party) ∧
      next = { world with children := Function.update world.children party (some child) }

/-- What the operating system does for a process. -/
def os (party : Party) : OperatingSystem World where
  answers world request answer next :=
    world.Alive party ∧ setting.answers party world request answer next
  spawns world launch _ _ result next := world.Alive party ∧ setting.spawns world launch result next

end Setting

/-! ## Steps -/

/-- The world, and what every process has still to do. -/
structure Snapshot where
  world : World
  loader : Program (Except ProcessError SessionReport × Executor)
  children : Party → Program Int32

/-- What the children have still to do once the world is another: a child that has been started has
    its whole program to run. -/
def Snapshot.started (s : Snapshot) (world : World) (party : Party) : Program Int32 :=
  match s.world.children party, world.children party with
  | none, some child => image party child.launch
  | _, _ => s.children party

/-- What happens in a step. -/
inductive Event where
  | does (party : Party) (deed : Deed)
  | ends (party : Party)

namespace Setting

variable (setting : Setting)

/-- One step of a session. -/
inductive Step : Snapshot → Event → Snapshot → Prop where
  | loader {s : Snapshot} {deed : Deed}
      {program : Program (Except ProcessError SessionReport × Executor)} {world : World}
      (h : Program.Step (setting.os .loader) s.loader s.world deed program world) :
      Step s (.does .loader deed) ⟨world, program, s.started world⟩
  | child {s : Snapshot} {party : Party} {deed : Deed} {program : Program Int32} {world : World}
      (hparty : party ≠ .loader) (halive : s.world.Alive party)
      (h : Program.Step (setting.os party) (s.children party) s.world deed program world) :
      Step s (.does party deed) ⟨world, s.loader, Function.update s.children party program⟩
  | ends {s : Snapshot} {party : Party} :
      Step s (.ends party) { s with world := s.world.endOf party }

/-- What a session may have come to. -/
def Reaches : Snapshot → Snapshot → Prop :=
  Relation.ReflTransGen fun s next => ∃ event, setting.Step s event next

/-- Nothing has been started, and there are no markers of earlier processes with the numbers of the
    children. -/
structure Starts (s : Snapshot) : Prop where
  loader : ∃ executor, s.loader = setting.loader executor
  children : ∀ party, s.world.children party = none
  apart : s.world.files.Apart
  armed : s.world.files.names setting.armed = none
  ready : s.world.files.names setting.ready = none
  outcome : s.world.files.names setting.outcome = none

end Setting

end Interposition.Session
