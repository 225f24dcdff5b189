/-
  What the programs of the journal do to its file.

  Readers and writers of a journal make two kinds of requests: they read the whole file, and they
  write to an end of it that was opened for appending.  `journalFile` is an operating system that
  keeps what it is documented to keep about these two and promises nothing about any other request:

  * reading answers the bytes of the file, or that there is no such file;
  * a write appends as many of its bytes as it says it took, or fails and takes none.

  A write may take fewer bytes than it was given, and a record is written in a loop.  The
  specifications below say that this cannot be seen from outside:

  1. **Reading** (`runs_replayInto`): a readable journal is replayed, the same way every time.

  2. **Appending** (`runs_append_iff`): a record whose appending succeeds is in the file, whole and
     once.

  3. **The channel** (`runs_channel_iff`): a registration through the journal is refused for its
     words alone, or recorded.
-/
import Interposition.Journal.File
import Interposition.Proofs.Host.Execution
import Interposition.Proofs.Journal.Bytes
import Interposition.Proofs.Table.Operations

namespace Interposition

/-! ## The file -/

/-- The file of a journal, if there is one. -/
abbrev JournalContents := Option (List UInt8)

namespace JournalContents

/-- The bytes a reader finds; a missing file reads as an empty one. -/
def bytes (contents : JournalContents) : List UInt8 := contents.getD []

/-- The file with bytes behind its end. -/
def extended (contents : JournalContents) (more : List UInt8) : JournalContents :=
  contents.map (· ++ more)

theorem extended_nil (contents : JournalContents) : contents.extended [] = contents := by
  cases contents with
  | none => rfl
  | some old => exact congrArg some (List.append_nil old)

theorem extended_extended (contents : JournalContents) (more further : List UInt8) :
    (contents.extended more).extended further = contents.extended (more ++ further) := by
  cases contents with
  | none => rfl
  | some old => exact congrArg some (List.append_assoc old more further)

end JournalContents

/-- An operating system, as far as the file of one journal goes. -/
def journalFile (writer : JournalWriter) : OperatingSystem JournalContents where
  answers
    | contents, .readFile path, answer, next =>
      path = writer.path → next = contents ∧
        answer = match contents with
          | some bytes => .ok bytes
          | none => .error (.os .enoent)
    | contents, .write file bytes, answer, next =>
      file = writer.file →
        (∃ taken ≤ bytes.length, answer = .ok taken ∧
          next = contents.extended (bytes.take taken)) ∨
        (∃ e, answer = .error e ∧ next = contents)
    | _, _, _, _ => True
  spawns _ _ _ _ _ _ := True

variable {writer : JournalWriter} {contents next : JournalContents}

/-! ## Reading -/

/-- What reading a journal from a record on comes to. -/
def Journal.reading (bytes : List UInt8) (skip : Nat) :
    Except JournalError (List JournalRecord) :=
  match JournalRecord.readFrom bytes skip with
  | .ok records => .ok records
  | .error unknown => .error (.unknownOperation unknown.operation unknown.record)

theorem Journal.reading_nil (skip : Nat) : Journal.reading [] skip = .ok [] := by
  unfold Journal.reading JournalRecord.readFrom
  rw [JournalRecord.chunks_of_short (by decide), List.zipIdx_nil, List.drop_nil]
  rfl

/-- What reading a journal from a record on comes to, when this is what the system answers to the
    request for its bytes. -/
def Journal.found (path : Path) (answer : Except IoError (List UInt8)) (skip : Nat) :
    Except JournalError (List JournalRecord) :=
  match answer with
  | .ok bytes => Journal.reading bytes skip
  | .error cause => if cause.isNotFound then .ok [] else Journal.failure path cause

/-- Reading is one request, and what is made of its answer. -/
theorem Journal.readFrom_eq (path : Path) (skip : Nat) :
    Journal.readFrom path skip =
      Program.request (.readFile path) >>= fun answer => pure (Journal.found path answer skip) := by
  refine congrArg (Program.request (.readFile path) >>= ·) (funext fun answer => ?_)
  unfold Journal.found Journal.reading
  cases answer with
  | error cause => rfl
  | ok bytes => cases hread : JournalRecord.readFrom bytes skip <;> simp only [hread]

/-- In a world of an operating system, the request for the bytes of a file has one answer, and
    asking does nothing else. -/
def OperatingSystem.Gives {World : Type} (os : OperatingSystem World) (world : World) (path : Path)
    (answer : Except IoError (List UInt8)) : Prop :=
  ∀ given next, os.answers world (.readFile path) given next ↔ next = world ∧ given = answer

/-- **Reading** has one outcome and leaves the world alone, whatever the system answers. -/
theorem Journal.runs_readFrom_of_gives {World : Type} {os : OperatingSystem World}
    {world final : World} {path : Path} {answer : Except IoError (List UInt8)}
    (hgives : os.Gives world path answer) {skip : Nat}
    {outcome : Except JournalError (List JournalRecord)} :
    (Journal.readFrom path skip).Runs os world outcome final ↔
      outcome = Journal.found path answer skip ∧ final = world := by
  rw [Journal.readFrom_eq, Program.runs_request_bind]
  constructor
  · rintro ⟨given, between, hgiven, houtcome⟩
    obtain ⟨rfl, rfl⟩ := (hgives given between).mp hgiven
    exact houtcome
  · intro houtcome
    exact ⟨answer, world, (hgives answer world).mpr ⟨rfl, rfl⟩, houtcome⟩

/-- In a world of an operating system, a file has some contents: asked for its bytes, the system
    answers with them and does nothing else. -/
def OperatingSystem.Shows {World : Type} (os : OperatingSystem World) (world : World) (path : Path)
    (contents : JournalContents) : Prop :=
  ∀ answer next, os.answers world (.readFile path) answer next ↔
    next = world ∧
      answer = match contents with
        | some bytes => .ok bytes
        | none => .error (.os .enoent)

theorem journalFile_shows (writer : JournalWriter) (contents : JournalContents) :
    (journalFile writer).Shows contents writer.path contents :=
  fun _ _ => ⟨fun h => h rfl, fun h _ => h⟩

/-- The request for the bytes of a file with some contents is answered by them. -/
theorem OperatingSystem.Shows.gives {World : Type} {os : OperatingSystem World} {world : World}
    {path : Path} (hshows : os.Shows world path contents) :
    ∃ answer, os.Gives world path answer ∧
      ∀ skip, Journal.found path answer skip = Journal.reading contents.bytes skip := by
  refine ⟨_, hshows, fun skip => ?_⟩
  cases contents with
  | none => exact (Journal.reading_nil skip).symm
  | some bytes => rfl

/-- **Reading** a file with some contents. -/
theorem Journal.runs_readFrom_of_shows {World : Type} {os : OperatingSystem World}
    {world final : World} {path : Path} (hshows : os.Shows world path contents) {skip : Nat}
    {outcome : Except JournalError (List JournalRecord)} :
    (Journal.readFrom path skip).Runs os world outcome final ↔
      outcome = Journal.reading contents.bytes skip ∧ final = world := by
  obtain ⟨answer, hgives, hfound⟩ := hshows.gives
  rw [Journal.runs_readFrom_of_gives hgives, hfound]

/-- **Reading** the file of a journal. -/
theorem Journal.runs_readFrom {skip : Nat} {outcome : Except JournalError (List JournalRecord)} :
    (Journal.readFrom writer.path skip).Runs (journalFile writer) contents outcome next ↔
      outcome = Journal.reading contents.bytes skip ∧ next = contents :=
  Journal.runs_readFrom_of_shows (journalFile_shows writer contents)

theorem Journal.reading_eq_ok_iff {bytes : List UInt8} {skip : Nat}
    {records : List JournalRecord} :
    Journal.reading bytes skip = .ok records ↔
      ((JournalRecord.chunks bytes).drop skip).map JournalRecord.ofBytes? = records.map some := by
  rw [← JournalRecord.readFrom_eq_ok_iff]
  unfold Journal.reading
  cases JournalRecord.readFrom bytes skip <;> simp

/-- As many records are read as there are behind the skipped ones. -/
theorem Journal.length_of_reading {bytes : List UInt8} {skip : Nat}
    {records : List JournalRecord} (h : Journal.reading bytes skip = .ok records) :
    records.length = (JournalRecord.chunks bytes).length - skip := by
  have hlengths := congrArg List.length (Journal.reading_eq_ok_iff.mp h)
  rw [List.length_map, List.length_map, List.length_drop] at hlengths
  exact hlengths.symm

/-- What is read is what they stand for. -/
theorem Journal.filterMap_of_reading {bytes : List UInt8} {skip : Nat}
    {records : List JournalRecord} (h : Journal.reading bytes skip = .ok records) :
    ((JournalRecord.chunks bytes).drop skip).filterMap JournalRecord.ofBytes? = records := by
  have hread := congrArg (List.filterMap id) (Journal.reading_eq_ok_iff.mp h)
  rw [List.filterMap_map, List.filterMap_map] at hread
  exact hread.trans List.filterMap_some

/-- A readable file is read from whatever record on. -/
theorem Journal.reading_of_readable {bytes : List UInt8} (h : JournalRecord.Readable bytes)
    (skip : Nat) :
    Journal.reading bytes skip = .ok ((JournalRecord.recordsOf bytes).drop skip) := by
  unfold Journal.reading
  rw [h.readFrom]

theorem JournalRecord.replay_append (records more : List JournalRecord)
    (table : InterceptionTable) :
    JournalRecord.replay (records ++ more) table =
      JournalRecord.replay more (JournalRecord.replay records table) :=
  List.foldl_append

/-- **Replaying** a readable journal has one outcome. -/
theorem Journal.runs_replayInto (h : JournalRecord.Readable contents.bytes)
    {table : InterceptionTable} {outcome : Except JournalError (Nat × InterceptionTable)} :
    (Journal.replayInto writer.path table).Runs (journalFile writer) contents outcome next ↔
      outcome = .ok ((JournalRecord.recordsOf contents.bytes).length,
        JournalRecord.replay (JournalRecord.recordsOf contents.bytes) table) ∧ next = contents := by
  unfold Journal.replayInto Journal.readAll
  rw [Program.runs_bind]
  constructor
  · rintro ⟨read, between, hread, hrest⟩
    obtain ⟨rfl, rfl⟩ := Journal.runs_readFrom.mp hread
    rw [Journal.reading_of_readable h] at hrest
    exact hrest
  · rintro ⟨rfl, rfl⟩
    refine ⟨_, next, Journal.runs_readFrom.mpr ⟨rfl, rfl⟩, ?_⟩
    rw [Journal.reading_of_readable h]
    exact ⟨rfl, rfl⟩

/-- Replaying the journal into a table in which nothing has happened gives a table, and nothing
    else can come of it. -/
def Journal.Rebuilds (writer : JournalWriter) (native : Native) (contents : JournalContents)
    (count : Nat) (rebuilt : InterceptionTable) : Prop :=
  ∀ outcome next,
    (Journal.replayInto writer.path (.new native)).Runs (journalFile writer) contents outcome next ↔
      outcome = .ok (count, rebuilt) ∧ next = contents

theorem Journal.rebuilds_of_readable (writer : JournalWriter) (native : Native)
    (h : JournalRecord.Readable contents.bytes) :
    Journal.Rebuilds writer native contents (JournalRecord.recordsOf contents.bytes).length
      (JournalRecord.replay (JournalRecord.recordsOf contents.bytes) (.new native)) :=
  fun _ _ => Journal.runs_replayInto h

/-! ## Appending -/

/-- One round of writing: the rest after it, or how it ended. -/
def writeRound (file : FileHandle) (rest : List UInt8) :
    Program (List UInt8 ⊕ Except IoError Unit) := do
  if rest.isEmpty then return .inr (.ok ())
  match ← Program.request (.write file rest) with
  | .ok 0 => return .inr (.error .writeZero)
  | .ok n => return .inl (rest.drop n)
  | .error e => return if e.errno? = some .eintr then .inl rest else .inr (.error e)

theorem writeAll_eq (file : FileHandle) (bytes : List UInt8) :
    Program.writeAll file bytes = Program.iterate bytes (writeRound file) := rfl

/-- What a round leaves to write and what it has put in the file make up what there was to write. -/
theorem runs_writeRound {rest : List UInt8} {outcome : List UInt8 ⊕ Except IoError Unit}
    (h : (writeRound writer.file rest).Runs (journalFile writer) contents outcome next) :
    (outcome = .inr (.ok ()) → rest = [] ∧ next = contents) ∧
    ∀ left, outcome = .inl left → ∃ taken, left = rest.drop taken ∧
      next = contents.extended (rest.take taken) := by
  unfold writeRound at h
  cases rest with
  | nil =>
    obtain ⟨rfl, rfl⟩ := Program.runs_pure.mp h
    exact ⟨fun _ => ⟨rfl, rfl⟩, fun left hleft => by contradiction⟩
  | cons byte rest =>
    obtain ⟨answer, between, hanswer, h⟩ := h
    rcases hanswer rfl with ⟨taken, -, rfl, rfl⟩ | ⟨e, rfl, rfl⟩
    · cases taken with
      | zero =>
        obtain ⟨rfl, -⟩ := Program.runs_pure.mp h
        exact ⟨fun hdone => by simp at hdone, fun left hleft => by contradiction⟩
      | succ n =>
        obtain ⟨rfl, rfl⟩ := Program.runs_pure.mp h
        refine ⟨fun hdone => by contradiction, fun left hleft => ?_⟩
        exact ⟨n + 1, (Sum.inl.inj hleft).symm, rfl⟩
    · obtain ⟨rfl, rfl⟩ := Program.runs_pure.mp h
      split
      · -- an interrupted write is made again, with nothing taken
        refine ⟨fun hdone => by contradiction, fun left hleft => ⟨0, (Sum.inl.inj hleft).symm, ?_⟩⟩
        exact (JournalContents.extended_nil _).symm
      · exact ⟨fun hdone => by simp at hdone, fun left hleft => by contradiction⟩

/-- **Writing that ends well** has put everything in the file, in however many rounds. -/
theorem writeAll_extends {bytes : List UInt8}
    (h : (Program.writeAll writer.file bytes).Runs (journalFile writer) contents (.ok ()) next) :
    next = contents.extended bytes := by
  rw [writeAll_eq, Program.runs_iterate] at h
  -- an induction on the rounds; only the last of them knows the result
  generalize hresult : (Except.ok () : Except IoError Unit) = result at h
  induction h with
  | stop h =>
    obtain ⟨rfl, rfl⟩ := (runs_writeRound h).1 (congrArg Sum.inr hresult.symm)
    exact (JournalContents.extended_nil _).symm
  | @again rest left _ contents between _ h _ ih =>
    obtain ⟨taken, rfl, rfl⟩ := (runs_writeRound h).2 left rfl
    rw [ih hresult, JournalContents.extended_extended, List.take_append_drop]

/-- Writing can end well: the file takes everything at once. -/
theorem runs_writeAll (contents : JournalContents) (bytes : List UInt8) :
    (Program.writeAll writer.file bytes).Runs (journalFile writer) contents (.ok ())
      (contents.extended bytes) := by
  rw [writeAll_eq, Program.runs_iterate]
  have hstop (contents : JournalContents) : Program.Iterates
      (fun rest => (writeRound writer.file rest).Runs (journalFile writer)) [] contents (.ok ())
      contents := .stop ⟨rfl, rfl⟩
  cases bytes with
  | nil =>
    rw [JournalContents.extended_nil]
    exact hstop contents
  | cons byte bytes =>
    refine .again ?_ (hstop (contents.extended (byte :: bytes)))
    refine ⟨.ok (bytes.length + 1), _, fun _ => .inl ⟨_, Nat.le_refl _, rfl, rfl⟩, ?_⟩
    have hall : (byte :: bytes).take (byte :: bytes).length = byte :: bytes := List.take_length
    have hnone : (byte :: bytes).drop (byte :: bytes).length = [] := List.drop_length
    exact ⟨congrArg Sum.inl hnone.symm, congrArg contents.extended hall.symm⟩

/-- **Appending** succeeds exactly by putting the record behind the others. -/
theorem JournalWriter.runs_appendRaw_iff {r : JournalRecord} :
    (writer.appendRaw r).Runs (journalFile writer) contents (.ok ()) next ↔
      next = contents.extended r.encode := by
  constructor
  · exact writeAll_extends
  · rintro rfl
    exact runs_writeAll contents r.encode

theorem JournalWriter.runs_append_iff {r : JournalRecord} :
    (writer.append r).Runs (journalFile writer) contents (.ok ()) next ↔
      next = contents.extended r.encode := by
  unfold JournalWriter.append
  rw [Program.runs_bind, ← runs_appendRaw_iff]
  constructor
  · rintro ⟨result, between, happend, hrest⟩
    cases result with
    | ok _ =>
      obtain ⟨-, rfl⟩ := hrest
      exact happend
    | error cause =>
      obtain ⟨hok, -⟩ := hrest
      contradiction
  · intro happend
    exact ⟨_, next, happend, rfl, rfl⟩

/-! ## The channel -/

/-- The journal refuses what a table would refuse in which nobody has exited. -/
theorem JournalWriter.refusal?_eq (r : Registration) (native : Native) :
    JournalWriter.refusal? r = (InterceptionTable.new native).refusal? r := by
  unfold JournalWriter.refusal? InterceptionTable.refusal?
  cases r.namesProcesses <;> cases Syscall.isReserved r.syscall <;> rfl

theorem JournalWriter.refusal?_eq_none_iff {r : Registration} :
    JournalWriter.refusal? r = none ↔ r.WellFormed := by
  rw [JournalWriter.refusal?_eq r Native.unsupported, InterceptionTable.refusal?_eq_none_iff]
  exact ⟨And.left, fun h => ⟨h, rfl, rfl⟩⟩

/-- **The channel** records a registration that is well-formed and refuses any other, unless the
    journal cannot be written. -/
theorem JournalWriter.runs_channel_iff {words : Vector Word 6} {status : Int64} :
    (writer.channel Syscall.registerHandler words).Runs (journalFile writer) contents status next ∧
        status ≠ RegistrationError.io.toStatus ↔
      if (Registration.ofWords words).WellFormed then
        status = RegistrationError.accepted ∧
          next = contents.extended (JournalRecord.register (.ofWords words)).encode
      else status = Errno.einval.status ∧ next = contents := by
  unfold channel
  rw [if_neg (not_not_intro rfl)]
  by_cases hr : (Registration.ofWords words).WellFormed
  · have hnone : refusal? (Registration.ofWords words) = none :=
      JournalWriter.refusal?_eq_none_iff.mpr hr
    simp only [hnone, if_pos hr]
    show Program.Runs _ (writer.appendRaw _ >>= _) _ _ _ ∧ _ ↔ _
    rw [Program.runs_bind, ← runs_appendRaw_iff]
    constructor
    · rintro ⟨⟨result, between, happend, hrest⟩, hstatus⟩
      cases result with
      | ok _ =>
        obtain ⟨rfl, rfl⟩ := hrest
        exact ⟨rfl, happend⟩
      | error cause =>
        obtain ⟨rfl, -⟩ := hrest
        exact absurd rfl hstatus
    · rintro ⟨rfl, happend⟩
      exact ⟨⟨.ok (), next, happend, rfl, rfl⟩, by decide⟩
  · obtain ⟨e, he, hstatus⟩ :=
      InterceptionTable.refusal?_of_malformed (InterceptionTable.new Native.unsupported) hr
    have hsome : refusal? (Registration.ofWords words) = some e :=
      (JournalWriter.refusal?_eq _ Native.unsupported).trans he
    simp only [hsome, if_neg hr]
    show (status = e.toStatus ∧ next = contents) ∧ _ ↔ _
    rw [hstatus]
    constructor
    · exact And.left
    · rintro ⟨rfl, rfl⟩
      exact ⟨⟨rfl, rfl⟩, by decide⟩

end Interposition
