/-
  Calls on a loopback runtime, as programs.

  Before it answers a call the runtime reads its journal, and that is the only request it makes
  before the table has answered.  So in a world in which this request has a known answer, what a
  call comes to is known in advance, up to what its own answer brings about:

  1. **The two steps** (`runs_sync`, `runs_call`): a sync is a reading, and a call is a sync and
     what the table then answers, whatever the operating system does.

  2. **Reading** (`runs_sync_of_gives`): whether the journal can be read or not, a sync comes to one
     runtime.

  3. **Answering** (`answersGiven`): a call is a call to the table of that runtime.

  A file that is there, or is not, is one kind of answer (`runs_sync_iff`, `answers`).
-/
import Interposition.Loopback
import Interposition.Proofs.Journal.File

namespace Interposition.LoopbackRuntime

/-- The runtime after a reading of its journal.  A reading that fails changes nothing. -/
def afterReading (runtime : LoopbackRuntime) (read : Except JournalError (List JournalRecord)) :
    LoopbackRuntime :=
  match read with
  | .ok records => runtime.absorb records
  | .error _ => runtime

/-- The runtime that has read a file as its journal.  A file that cannot be read changes nothing. -/
def refreshed (runtime : LoopbackRuntime) (contents : JournalContents) : LoopbackRuntime :=
  match Journal.reading contents.bytes runtime.applied with
  | .ok records => runtime.absorb records
  | .error _ => runtime

/-- In every world in which the journal reads as given, a sync succeeds and comes to a runtime. -/
def SyncsTo (runtime : LoopbackRuntime) (contents : JournalContents) (next : LoopbackRuntime) :
    Prop :=
  ∃ count, ∀ (World : Type) (os : OperatingSystem World) (world : World),
    os.Shows world runtime.journal contents → ∀ outcome final,
      runtime.sync.Runs os world outcome final ↔ outcome = (.ok count, next) ∧ final = world

/-- In every world in which the journal reads as given, a call comes to bringing about a reply, and
    leaves a runtime behind. -/
def Answers (runtime : LoopbackRuntime) (contents : JournalContents) (caller : CageId)
    (syscall : SyscallNumber) (args : ArgumentVector) (reply : Reply) (next : LoopbackRuntime) :
    Prop :=
  ∀ (World : Type) (os : OperatingSystem World) (world : World),
    os.Shows world runtime.journal contents → ∀ ret after final,
      (runtime.call caller syscall args).Runs os world (ret, after) final ↔
        after = next ∧ (Program.perform reply).Runs os world ret final

/-- In every world in which the request for the journal has this answer, a call comes to bringing
    about a reply, and leaves a runtime behind. -/
def AnswersGiven (runtime : LoopbackRuntime) (answer : Except IoError (List UInt8))
    (caller : CageId) (syscall : SyscallNumber) (args : ArgumentVector) (reply : Reply)
    (next : LoopbackRuntime) : Prop :=
  ∀ (World : Type) (os : OperatingSystem World) (world : World),
    os.Gives world runtime.journal answer → ∀ ret after final,
      (runtime.call caller syscall args).Runs os world (ret, after) final ↔
        after = next ∧ (Program.perform reply).Runs os world ret final

variable {runtime : LoopbackRuntime} {contents : JournalContents} {records : List JournalRecord}
  {answer : Except IoError (List UInt8)} {World : Type} {os : OperatingSystem World}
  {world final : World}

theorem refreshed_of_reading
    (hread : Journal.reading contents.bytes runtime.applied = .ok records) :
    runtime.refreshed contents = runtime.absorb records := by
  unfold refreshed
  rw [hread]

/-- A file in which there is nothing new to read changes nothing. -/
theorem refreshed_of_nothing (h : ∀ records,
    Journal.reading contents.bytes runtime.applied = .ok records → records = []) :
    runtime.refreshed contents = runtime := by
  unfold refreshed
  split
  case h_1 records hread =>
    obtain rfl := h records hread
    rfl
  case h_2 => rfl

/-- **A sync** is a reading, and says how many records there were to read. -/
theorem runs_sync {outcome : Except JournalError Nat × LoopbackRuntime} :
    runtime.sync.Runs os world outcome final ↔
      ∃ read, (Journal.readFrom runtime.journal runtime.applied).Runs os world read final ∧
        outcome = (read.map List.length, runtime.afterReading read) := by
  unfold sync
  rw [Program.runs_bind]
  constructor
  · rintro ⟨read, between, hread, hrest⟩
    cases read with
    | ok records =>
      obtain ⟨rfl, rfl⟩ := hrest
      exact ⟨_, hread, rfl⟩
    | error e =>
      obtain ⟨rfl, rfl⟩ := hrest
      exact ⟨_, hread, rfl⟩
  · rintro ⟨read, hread, rfl⟩
    refine ⟨read, final, hread, ?_⟩
    cases read <;> exact ⟨rfl, rfl⟩

/-- **A call** is a sync, and what the table answers then. -/
theorem runs_call {caller : CageId} {syscall : SyscallNumber} {args : ArgumentVector} {ret : Int64}
    {after : LoopbackRuntime} :
    (runtime.call caller syscall args).Runs os world (ret, after) final ↔
      ∃ outcome synced between, runtime.sync.Runs os world (outcome, synced) between ∧
        after = (synced.respondSynced caller syscall args).2 ∧
        (Program.perform (synced.respondSynced caller syscall args).1).Runs os between ret
          final := by
  unfold LoopbackRuntime.call respond
  rw [Program.runs_bind]
  constructor
  · rintro ⟨response, between, hrespond, hperform⟩
    obtain ⟨⟨outcome, synced⟩, between, hsync, hresponse⟩ := Program.runs_bind.mp hrespond
    obtain ⟨rfl, rfl⟩ := hresponse
    obtain ⟨ret', last, hrun, hreturned⟩ := Program.runs_bind.mp hperform
    obtain ⟨hsame, rfl⟩ := hreturned
    obtain ⟨rfl, rfl⟩ := Prod.mk.inj hsame
    exact ⟨outcome, synced, _, hsync, rfl, hrun⟩
  · rintro ⟨outcome, synced, between, hsync, rfl, hrun⟩
    refine ⟨synced.respondSynced caller syscall args, between, ?_, ?_⟩
    · exact Program.runs_bind.mpr ⟨_, _, hsync, rfl, rfl⟩
    · exact Program.runs_bind.mpr ⟨ret, final, hrun, rfl, rfl⟩

/-- **Reading**: a sync has one outcome. -/
theorem runs_sync_of_gives (hgives : os.Gives world runtime.journal answer)
    {outcome : Except JournalError Nat × LoopbackRuntime} :
    runtime.sync.Runs os world outcome final ↔
      outcome = ((Journal.found runtime.journal answer runtime.applied).map List.length,
        runtime.afterReading (Journal.found runtime.journal answer runtime.applied)) ∧
      final = world := by
  rw [runs_sync]
  constructor
  · rintro ⟨read, hread, rfl⟩
    obtain ⟨rfl, rfl⟩ := (Journal.runs_readFrom_of_gives hgives).mp hread
    exact ⟨rfl, rfl⟩
  · rintro ⟨rfl, rfl⟩
    exact ⟨_, (Journal.runs_readFrom_of_gives hgives).mpr ⟨rfl, rfl⟩, rfl⟩

/-- A sync in a world in which the journal reads as some file. -/
theorem runs_sync_iff (hshows : os.Shows world runtime.journal contents)
    {outcome : Except JournalError Nat × LoopbackRuntime} :
    runtime.sync.Runs os world outcome final ↔
      outcome = ((Journal.reading contents.bytes runtime.applied).map List.length,
        runtime.refreshed contents) ∧ final = world := by
  obtain ⟨answer, hgives, hfound⟩ := hshows.gives
  rw [runs_sync_of_gives hgives, hfound]
  rfl

theorem syncsTo_of_reading
    (hread : Journal.reading contents.bytes runtime.applied = .ok records) :
    runtime.SyncsTo contents (runtime.absorb records) := by
  refine ⟨records.length, fun World os world hshows outcome final => ?_⟩
  rw [runs_sync_iff hshows, refreshed_of_reading hread, hread]
  rfl

/-- **Answering**: what the table of the runtime answers once it has read its journal is brought
    about. -/
theorem answersGiven (runtime : LoopbackRuntime) (answer : Except IoError (List UInt8))
    (caller : CageId) (syscall : SyscallNumber) (args : ArgumentVector) :
    let synced := runtime.afterReading (Journal.found runtime.journal answer runtime.applied)
    runtime.AnswersGiven answer caller syscall args (synced.table.call caller syscall args).1
      { synced with table := (synced.table.call caller syscall args).2 } := by
  intro synced World os world hgives ret after final
  rw [runs_call]
  constructor
  · rintro ⟨outcome, synced', between, hsync, rfl, hrun⟩
    obtain ⟨hsynced, rfl⟩ := (runs_sync_of_gives hgives).mp hsync
    obtain ⟨rfl, rfl⟩ := Prod.mk.inj hsynced
    exact ⟨rfl, hrun⟩
  · rintro ⟨rfl, hrun⟩
    exact ⟨_, _, world, (runs_sync_of_gives hgives).mpr ⟨rfl, rfl⟩, rfl, hrun⟩

/-- A call in a world in which the journal reads as some file. -/
theorem answers (runtime : LoopbackRuntime) (contents : JournalContents) (caller : CageId)
    (syscall : SyscallNumber) (args : ArgumentVector) :
    let responded := (runtime.refreshed contents).respondSynced caller syscall args
    runtime.Answers contents caller syscall args responded.1 responded.2 := by
  intro responded World os world hshows ret after final
  obtain ⟨answer, hgives, hfound⟩ := hshows.gives
  have hanswers := answersGiven runtime answer caller syscall args
  rw [hfound] at hanswers
  exact hanswers World os world hgives ret after final

/-- An answer that is a word is brought about by returning it. -/
theorem Answers.runs_iff {caller : CageId} {syscall : SyscallNumber} {args : ArgumentVector}
    {result ret : Int64} {next after : LoopbackRuntime}
    (h : runtime.Answers contents caller syscall args (.value result) next)
    (hshows : os.Shows world runtime.journal contents) :
    (runtime.call caller syscall args).Runs os world (ret, after) final ↔
      after = next ∧ ret = result ∧ final = world :=
  h World os world hshows ret after final

end Interposition.LoopbackRuntime
