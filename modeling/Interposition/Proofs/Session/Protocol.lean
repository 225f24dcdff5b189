import Interposition.Proofs.Session.Names

namespace Interposition.Session

variable {world mid next : World} {party : Party}

namespace World

/-- The cage keeps the release signal. -/
def Keeps (world : World) : Prop :=
  ∃ child, world.children .cage = some child ∧ child.disposition .release = .keep

end World

namespace Setting

variable (setting : Setting)

/-! ## What is so of a world -/

/-- The bytes of the marker that says that the grate is ready. -/
def readyBytes : List UInt8 := Utf8.ofText (toJson setting.marker).indented

/-- The grate has said that it is ready. -/
def Published (world : World) : Prop :=
  world.files.file? setting.ready = some setting.readyBytes

/-- Both registrations are in the journal, and nothing else is. -/
def Recorded (world : World) : Prop :=
  world.files.file? setting.journal = some setting.recorded

/-- How many threads of the cage make calls. -/
def threads : Nat := max 1 setting.cageArguments.threads.toNat

/-- What the cage saw is what the grate's handlers answer, once for each thread. -/
structure Served (outcome : CageOutcome) : Prop where
  cage : outcome.cage = setting.cageId
  getuid : outcome.returnsOf Syscall.getuid = List.replicate setting.threads Demo.userId
  geteuid : outcome.returnsOf Syscall.geteuid = List.replicate setting.threads Demo.userId

/-- What a child has been launched with. -/
def Launches (launch : Launch) : Party → Prop
  | .loader => False
  | .cage => ∃ entry,
    LaunchSettings.toEnvironment ({ gated := true, runtime := setting.config } : CageLaunch) =
      .ok entry ∧
    launch = ⟨setting.cage.program, gatedToken :: setting.cage.args,
      setting.config.childEnvironment ++ [entry]⟩
  | .grate => ∃ entry,
    LaunchSettings.toEnvironment
      ({ targetCage := setting.cageId, runtime := setting.config } : GrateLaunch) = .ok entry ∧
    launch = ⟨setting.grate.program, setting.grate.args,
      setting.config.childEnvironment ++ [entry]⟩

/-- **The protocol**: what is so of the world at any time. -/
structure Protocol (world : World) : Prop where
  apart : world.files.Apart
  launched : ∀ {party child}, world.children party = some child →
    setting.Launches child.launch party
  /-- The cage keeps the release signal before it says that it is armed. -/
  armed : (world.files.file? setting.armed).isSome → world.Keeps
  /-- The grate says that it is ready in one way only. -/
  ready : ∀ {bytes}, world.files.file? setting.ready = some bytes → bytes = setting.readyBytes
  /-- It has been started by then, and while one of the children is alive nothing is in the journal
      but what the grate has registered. -/
  published : setting.Published world → (world.children .grate).isSome ∧
    (world.Alive .cage ∨ world.Alive .grate → setting.Recorded world)
  outcome : ∀ {bytes}, world.files.file? setting.outcome = some bytes →
    ∃ outcome : CageOutcome, bytes = Utf8.ofText (toJson outcome).indented ∧
      setting.Served outcome
  /-- The cage is released after the grate has said that it is ready. -/
  released : ∀ {child}, world.children .cage = some child → child.kept .release = true →
    setting.Published world

/-! ## What the others may do -/

/-- What the loader can rely on: nobody else starts a process, and nobody else writes the journal
    but the grate before it says that it is ready. -/
structure Watches (world next : World) : Prop where
  started : ∀ party, next.children party = none ↔ world.children party = none
  ended : ∀ {pid}, setting.Ended pid world → setting.Ended pid next
  alive : next.Alive .grate → world.Alive .grate
  names : ∀ {node}, world.files.names setting.journal = some node →
    next.files.names setting.journal = some node
  journal : ¬ world.Alive .grate → world.files.SameAt next.files setting.journal
  recorded : (setting.Published world → setting.Recorded world) →
    setting.Published next → setting.Recorded next

/-- What a process can rely on while it is alive: its open files and the files it writes are its
    own, and what has been said remains so. -/
structure Relies (party : Party) (world next : World) : Prop where
  alive : next.Alive party
  lived : world.Alive party ∨ world.children party = none
  opened : next.files.opened party = world.files.opened party
  own : ∀ {name : Name}, name.OwnedBy party →
    world.files.SameAt next.files (setting.path name)
  keeps : world.Keeps → next.Keeps
  published : setting.Published world → setting.Published next
  watches : party = .loader → setting.Watches world next

/-- What a process may do at all: the release signal is sent to the cage and in time, and the cage
    lets no thread take a step and does not look at the journal before it has been released. -/
def Proper (party : Party) (world : World) : Deed → Prop
  | .asks (.kill pid signal) => party = .loader ∧
    (signal = .release → pid = setting.pid .cage ∧ world.Keeps ∧ setting.Recorded world ∧
      setting.Published world)
  | .asks (.choose _) => party = .cage → setting.Recorded world ∧ setting.Published world
  | .asks (.readFile path) => party = .cage → path = setting.journal →
    setting.Recorded world ∧ setting.Published world
  | _ => True

/-- A grate begins with an empty journal and before anybody says that it is ready. -/
def Begins (world next : World) : Prop :=
  world.children .grate = none → next.Alive .grate →
    next.files.file? setting.journal = some [] ∧ next.files.file? setting.ready = none

theorem Watches.trans (h : setting.Watches world mid) (h' : setting.Watches mid next) :
    setting.Watches world next where
  started party := (h'.started party).trans (h.started party)
  ended hended := h'.ended (h.ended hended)
  alive halive := h.alive (h'.alive halive)
  names hname := h'.names (h.names hname)
  journal hgrate := (h.journal hgrate).trans (h'.journal fun halive => hgrate (h.alive halive))
  recorded hrecorded := h'.recorded (h.recorded hrecorded)

theorem Relies.trans (h : setting.Relies party world mid) (h' : setting.Relies party mid next) :
    setting.Relies party world next where
  alive := h'.alive
  lived := h.lived
  opened := h'.opened.trans h.opened
  own howned := (h.own howned).trans (h'.own howned)
  keeps hkeeps := h'.keeps (h.keeps hkeeps)
  published hpublished := h'.published (h.published hpublished)
  watches hparty := (h.watches hparty).trans setting (h'.watches hparty)

/-- What a process owes the others, and what they owe it. -/
def contract (party : Party) : Contract World where
  invariant := setting.Protocol
  rely := setting.Relies party
  guarantee world deed next :=
    (∀ other, other ≠ party → next.Alive other → setting.Relies other world next) ∧
      setting.Proper party world deed ∧ setting.Begins world next
  rely_trans h h' := h.trans setting h'

end Setting

end Interposition.Session
