/-
  Following a journal while it grows is replaying it once.

  A loopback runtime reads its journal again and again, and each time it applies the records behind
  those it has counted.  Meanwhile the file grows, and not by whole records, and other threads put
  calls to the same table.  What happens is a sequence of steps on what the threads share:

  * the file grows by any bytes, or comes into being;
  * a thread that holds the lock reads the file, applies the records one after another, and counts
    them; before a registration it attaches the grate, which is a step of its own;
  * a thread calls, at any time, whatever number but the reserved one.

  1. **What is pending** (`Shared.settled`): the table as it will be once the records that were read
     and not applied are applied.  Calls and attachments do not change it, in the sense of
     `InterceptionTable.Agrees`, and applying a record does not change it at all.

  2. **The invariant** (`Following`): the settled table is the replay of as many records as have
     been taken from the file, counted or not.  Growth keeps the records that were taken, because
     they were complete.

  3. **The end**: a thread that reads the file takes every record there is, so when all is applied
     and counted the table is the replay of them all.

  That the steps are what `sync` does when nobody interferes is `steps_of_sync`.
-/
import Mathlib.Logic.Relation
import Interposition.Proofs.Loopback.Calls

namespace Interposition.LoopbackRuntime

/-! ## What a sync does, piece by piece -/

/-- Something a sync does to the table that nothing comes in between of. -/
inductive Task where
  | attach (grate : GrateId)
  | apply (r : JournalRecord)

namespace Task

/-- The table with a task done. -/
def run (catalog : GrateCatalog) (table : InterceptionTable) : Task → InterceptionTable
  | .attach grate => ensureAttached catalog grate table
  | .apply r => r.apply table

/-- The record that a task applies, if it applies one. -/
def record? : Task → Option JournalRecord
  | .attach _ => none
  | .apply r => some r

/-- What there is to do about a record. -/
def ofRecord : JournalRecord → List Task
  | .register registration => [.attach registration.grate, .apply (.register registration)]
  | r => [.apply r]

/-- The records of a list of tasks. -/
def records (tasks : List Task) : List JournalRecord := tasks.filterMap record?

theorem foldl_run_ofRecord (catalog : GrateCatalog) (table : InterceptionTable)
    (r : JournalRecord) :
    (ofRecord r).foldl (run catalog) table = applyRecord catalog table r := by
  cases r <;> rfl

theorem foldl_run_flatMap (catalog : GrateCatalog) (table : InterceptionTable)
    (rs : List JournalRecord) :
    (rs.flatMap ofRecord).foldl (run catalog) table = rs.foldl (applyRecord catalog) table := by
  induction rs generalizing table with
  | nil => rfl
  | cons r rs ih =>
    rw [List.flatMap_cons, List.foldl_append, foldl_run_ofRecord, ih, List.foldl_cons]

theorem records_flatMap_ofRecord (rs : List JournalRecord) :
    records (rs.flatMap ofRecord) = rs := by
  unfold records
  induction rs with
  | nil => rfl
  | cons r rs ih =>
    have hone : (ofRecord r).filterMap record? = [r] := by cases r <;> rfl
    rw [List.flatMap_cons, List.filterMap_append, hone, ih, List.singleton_append]

end Task

theorem ensureAttached_agrees (catalog : GrateCatalog) (grate : GrateId)
    (table : InterceptionTable) : (ensureAttached catalog grate table).Agrees table := by
  unfold ensureAttached
  split
  · exact .refl table
  · cases catalog grate with
    | none => exact .refl table
    | some d => exact table.attach_agrees d

/-! ## What threads share -/

/-- A journal file, a runtime that follows it, and the syncs on it. -/
structure Shared where
  file : JournalContents
  runtime : LoopbackRuntime
  /-- How many records the holder of the lock has read, and what is left to do; nothing while
      nobody holds the lock. -/
  underWay : Option (Nat × List Task)
  /-- What the syncs have returned, in order. -/
  returned : List Nat

namespace Shared

/-- A runtime that has seen nothing yet. -/
def start (file : JournalContents) (journal : Path) (catalog : GrateCatalog) (native : Native) :
    Shared :=
  ⟨file, .new journal catalog native, none, []⟩

/-- A thread takes the lock and reads the records that are new. -/
def Begins (writer : JournalWriter) (s s' : Shared) : Prop :=
  s.underWay = none ∧ ∃ records,
    (Journal.readFrom s.runtime.journal s.runtime.applied).Runs (journalFile writer) s.file
      (.ok records) s.file ∧
    s' = { s with underWay := some (records.length, records.flatMap Task.ofRecord) }

/-- A task done, others being left. -/
def done (s : Shared) (count : Nat) (task : Task) (tasks : List Task) : Shared :=
  { s with
    runtime := { s.runtime with table := task.run s.runtime.catalog s.runtime.table }
    underWay := some (count, tasks) }

/-- A sync at its end: the records are counted, the lock is free, and the number is returned. -/
def counted (s : Shared) (count : Nat) : Shared :=
  { s with
    runtime := { s.runtime with applied := s.runtime.applied + count }
    underWay := none
    returned := s.returned ++ [count] }

/-- One step of one thread, or of the file. -/
inductive Step (writer : JournalWriter) : Shared → Shared → Prop where
  /-- The file grows, or comes into being. -/
  | grow {s : Shared} {bytes : List UInt8} (h : s.file.bytes <+: bytes) :
      Step writer s { s with file := some bytes }
  | begin {s s' : Shared} (h : s.Begins writer s') : Step writer s s'
  /-- The holder of the lock does the next thing there is to do. -/
  | work {s : Shared} {count : Nat} {task : Task} {tasks : List Task}
      (h : s.underWay = some (count, task :: tasks)) :
      Step writer s (s.done count task tasks)
  /-- The holder of the lock has nothing left to do. -/
  | finish {s : Shared} {count : Nat} (h : s.underWay = some (count, [])) :
      Step writer s (s.counted count)
  /-- A thread puts a call to the table; the sync that goes before is a sync like any other. -/
  | call {s : Shared} {caller : CageId} {syscall : SyscallNumber} {args : ArgumentVector}
      (h : syscall ≠ Syscall.registerHandler) :
      Step writer s { s with runtime := (s.runtime.respondSynced caller syscall args).2 }

/-- Any number of steps, of any threads, in any order. -/
abbrev Steps (writer : JournalWriter) : Shared → Shared → Prop :=
  Relation.ReflTransGen (Step writer)

/-- How many records have been taken from the file, counted or not. -/
def taken (s : Shared) : Nat := s.runtime.applied + (s.underWay.map Prod.fst).getD 0

/-- The records that were taken from the file and not applied yet. -/
def pending (s : Shared) : List JournalRecord := Task.records ((s.underWay.map Prod.snd).getD [])

/-- The table as it will be once they are applied. -/
def settled (s : Shared) : InterceptionTable := JournalRecord.replay s.pending s.runtime.table

variable {s : Shared} {count : Nat} {tasks : List Task}

theorem taken_of_free (h : s.underWay = none) : s.taken = s.runtime.applied := by
  unfold taken
  rw [h]
  rfl

theorem taken_of_underWay (h : s.underWay = some (count, tasks)) :
    s.taken = s.runtime.applied + count := by
  unfold taken
  rw [h]
  rfl

theorem settled_of_free (h : s.underWay = none) : s.settled = s.runtime.table := by
  unfold settled pending
  rw [h]
  rfl

theorem settled_of_underWay (h : s.underWay = some (count, tasks)) :
    s.settled = JournalRecord.replay (Task.records tasks) s.runtime.table := by
  unfold settled pending
  rw [h]
  rfl

end Shared

open Shared

variable {writer : JournalWriter} {s s' : Shared}

/-! ## The invariant -/

/-- The runtime is where its count says. -/
structure Following (writer : JournalWriter) (s : Shared) : Prop where
  journal : s.runtime.journal = writer.path
  returned : s.returned.sum = s.runtime.applied
  taken_le : s.taken ≤ (JournalRecord.recordsOf s.file.bytes).length
  settled : ∀ native, s.settled.Agrees
    (JournalRecord.replay ((JournalRecord.recordsOf s.file.bytes).take s.taken) (.new native))

theorem following_start (writer : JournalWriter) (file : JournalContents) (catalog : GrateCatalog)
    (native : Native) : Following writer (start file writer.path catalog native) where
  journal := rfl
  returned := rfl
  taken_le := Nat.zero_le _
  settled _ := ⟨rfl, rfl, rfl⟩

namespace Following

/-- The records that were taken stay where they are. -/
theorem grow {bytes : List UInt8} (h : Following writer s) (hgrowth : s.file.bytes <+: bytes) :
    Following writer { s with file := some bytes } := by
  obtain ⟨later, hlater⟩ := JournalRecord.recordsOf_isPrefix hgrowth
  have htaken := h.taken_le
  constructor
  · exact h.journal
  · exact h.returned
  · show s.taken ≤ (JournalRecord.recordsOf bytes).length
    rw [← hlater, List.length_append]
    omega
  · intro native
    show s.settled.Agrees
      (JournalRecord.replay ((JournalRecord.recordsOf bytes).take s.taken) (.new native))
    rw [← hlater, List.take_append_of_le_length htaken]
    exact h.settled native

/-- **Reading takes every record there is.** -/
theorem begin (h : Following writer s) (hbegins : s.Begins writer s')
    (readable : JournalRecord.Readable s.file.bytes) :
    Following writer s' ∧ s'.taken = (JournalRecord.recordsOf s.file.bytes).length := by
  obtain ⟨free, records, hread, rfl⟩ := hbegins
  rw [h.journal] at hread
  have hrecords : records = (JournalRecord.recordsOf s.file.bytes).drop s.runtime.applied := by
    have hreading := (Journal.runs_readFrom.mp hread).1
    rw [Journal.reading_of_readable readable] at hreading
    exact Except.ok.inj hreading
  have htaken := taken_of_free free
  have happlied := h.taken_le
  rw [htaken] at happlied
  have hall : s.runtime.applied + records.length =
      (JournalRecord.recordsOf s.file.bytes).length := by
    rw [hrecords, List.length_drop]
    omega
  refine ⟨⟨h.journal, h.returned, Nat.le_of_eq hall, fun native => ?_⟩, hall⟩
  have hsettled := h.settled native
  rw [settled_of_free free, htaken] at hsettled
  show (JournalRecord.replay (Task.records (records.flatMap Task.ofRecord)) s.runtime.table).Agrees
    (JournalRecord.replay ((JournalRecord.recordsOf s.file.bytes).take
      (s.runtime.applied + records.length)) (.new native))
  rw [Task.records_flatMap_ofRecord, hall, List.take_length, hrecords]
  -- what was counted and what is new are all the records, in order
  have hsplit := JournalRecord.replay_append
    ((JournalRecord.recordsOf s.file.bytes).take s.runtime.applied)
    ((JournalRecord.recordsOf s.file.bytes).drop s.runtime.applied) (.new native)
  rw [List.take_append_drop] at hsplit
  rw [hsplit]
  exact hsettled.replay _

/-- A task done is a task that is not pending. -/
theorem done (h : Following writer s) {count : Nat} {task : Task} {tasks : List Task}
    (hunderWay : s.underWay = some (count, task :: tasks)) :
    Following writer (s.done count task tasks) := by
  have htaken : (s.done count task tasks).taken = s.taken := (taken_of_underWay hunderWay).symm
  have hsettled : (s.done count task tasks).settled.Agrees s.settled := by
    rw [settled_of_underWay hunderWay]
    -- an attachment is not a record; a record applied is one that was to be replayed first
    cases task with
    | attach grate => exact (ensureAttached_agrees s.runtime.catalog grate s.runtime.table).replay _
    | apply r => exact .refl _
  constructor
  · exact h.journal
  · exact h.returned
  · rw [htaken]
    exact h.taken_le
  · intro native
    rw [htaken]
    exact hsettled.trans (h.settled native)

/-- Counting moves no table. -/
theorem counted (h : Following writer s) {count : Nat} (hunderWay : s.underWay = some (count, [])) :
    Following writer (s.counted count) := by
  have htaken : (s.counted count).taken = s.taken := (taken_of_underWay hunderWay).symm
  have hsettled : (s.counted count).settled = s.settled := (settled_of_underWay hunderWay).symm
  constructor
  · exact h.journal
  · show (s.returned ++ [count]).sum = s.runtime.applied + count
    rw [List.sum_append, h.returned, List.sum_singleton]
  · rw [htaken]
    exact h.taken_le
  · intro native
    rw [htaken, hsettled]
    exact h.settled native

/-- Calls are quiet, also in the middle of a sync. -/
theorem call (h : Following writer s) {caller : CageId} {syscall : SyscallNumber}
    {args : ArgumentVector} (hsyscall : syscall ≠ Syscall.registerHandler) :
    Following writer { s with runtime := (s.runtime.respondSynced caller syscall args).2 } := by
  have hquiet := s.runtime.table.call_agrees caller args hsyscall
  constructor
  · exact h.journal
  · exact h.returned
  · exact h.taken_le
  · intro native
    exact (hquiet.replay s.pending).trans (h.settled native)

end Following

/-! ## Steps and runs -/

/-- A file only grows. -/
theorem file_isPrefix_of_step (h : Step writer s s') : s.file.bytes <+: s'.file.bytes := by
  cases h with
  | grow h => exact h
  | begin h =>
    obtain ⟨-, records, -, rfl⟩ := h
    exact List.prefix_rfl
  | work h => exact List.prefix_rfl
  | finish h => exact List.prefix_rfl
  | call h => exact List.prefix_rfl

/-- **One step** keeps the runtime where its count says, and takes records from the file but does
    not put any back. -/
theorem Following.step (h : Following writer s) (hstep : Step writer s s')
    (readable : JournalRecord.Readable s'.file.bytes) :
    Following writer s' ∧ s.taken ≤ s'.taken := by
  cases hstep with
  | grow hgrowth => exact ⟨h.grow hgrowth, Nat.le_refl _⟩
  | begin hbegins =>
    have hgrowth := file_isPrefix_of_step (.begin hbegins)
    obtain ⟨hnext, hall⟩ := h.begin hbegins (readable.of_isPrefix hgrowth)
    exact ⟨hnext, hall ▸ h.taken_le⟩
  | work hunderWay => exact ⟨h.done hunderWay, Nat.le_of_eq (taken_of_underWay hunderWay)⟩
  | finish hunderWay => exact ⟨h.counted hunderWay, Nat.le_of_eq (taken_of_underWay hunderWay)⟩
  | call hsyscall => exact ⟨h.call hsyscall, Nat.le_refl _⟩

/-- **A whole run** does so too. -/
theorem Following.steps (h : Following writer s) (hsteps : Steps writer s s')
    (readable : JournalRecord.Readable s'.file.bytes) :
    Following writer s' ∧ s.taken ≤ s'.taken := by
  induction hsteps with
  | refl => exact ⟨h, Nat.le_refl _⟩
  -- the file was shorter before the last step, so it was readable then
  | tail _ hstep ih =>
    obtain ⟨hmid, htaken⟩ := ih (readable.of_isPrefix (file_isPrefix_of_step hstep))
    obtain ⟨hlast, htaken'⟩ := hmid.step hstep readable
    exact ⟨hlast, Nat.le_trans htaken htaken'⟩

/-! ## Being caught up -/

/-- The runtime is where one replay of the whole journal would be: it agrees with the table that
    replaying gives, it has counted every complete record, and the syncs have returned as many. -/
structure CaughtUp (writer : JournalWriter) (s : Shared) : Prop where
  replayed : ∀ fresh, ∃ rebuilt, Journal.Rebuilds writer fresh s.file s.runtime.applied rebuilt ∧
    s.runtime.table.Agrees rebuilt
  applied : s.runtime.applied = s.file.bytes.length / JournalRecord.byteLength
  returned : s.returned.sum = s.runtime.applied

/-- With every record taken and nobody at work, the runtime has caught up. -/
theorem Following.caughtUp (h : Following writer s) (free : s.underWay = none)
    (readable : JournalRecord.Readable s.file.bytes)
    (hall : (JournalRecord.recordsOf s.file.bytes).length ≤ s.taken) : CaughtUp writer s := by
  have htaken : s.taken = (JournalRecord.recordsOf s.file.bytes).length :=
    Nat.le_antisymm h.taken_le hall
  have happlied : s.runtime.applied = (JournalRecord.recordsOf s.file.bytes).length :=
    (taken_of_free free).symm.trans htaken
  constructor
  · intro fresh
    have hagrees := h.settled fresh
    rw [settled_of_free free, htaken, List.take_length] at hagrees
    have hrebuilds := Journal.rebuilds_of_readable writer fresh readable
    rw [← happlied] at hrebuilds
    exact ⟨_, hrebuilds, hagrees⟩
  · rw [happlied, readable.length_recordsOf]
  · exact h.returned

/-! ## Syncs without interference -/

/-- Tasks are done one after another. -/
theorem steps_tasks (writer : JournalWriter) {count : Nat} (tasks : List Task)
    (h : s.underWay = some (count, tasks)) :
    Steps writer s { s with
      runtime := { s.runtime with
        table := tasks.foldl (Task.run s.runtime.catalog) s.runtime.table }
      underWay := some (count, []) } := by
  induction tasks generalizing s with
  | nil =>
    rw [← h]
    exact .refl
  | cons task tasks ih => exact .head (.work h) (ih rfl)

/-- The records that a runtime has not counted yet. -/
def Shared.uncounted (s : Shared) : List JournalRecord :=
  (JournalRecord.recordsOf s.file.bytes).drop s.runtime.applied

/-- What is shared after a sync that nobody interferes with. -/
def Shared.synced (s : Shared) : Shared :=
  { s with
    runtime := s.runtime.absorb s.uncounted
    underWay := none
    returned := s.returned ++ [s.uncounted.length] }

/-- **A sync that nobody interferes with** is a reading, its tasks and the counting. -/
theorem steps_of_reading (hjournal : s.runtime.journal = writer.path) (free : s.underWay = none)
    {records : List JournalRecord}
    (hreading : Journal.reading s.file.bytes s.runtime.applied = .ok records) :
    ∃ s', s.Begins writer s' ∧ Steps writer s' { s with
      runtime := s.runtime.absorb records
      underWay := none
      returned := s.returned ++ [records.length] } := by
  let s' : Shared :=
    { s with underWay := some (records.length, records.flatMap Task.ofRecord) }
  have hread : (Journal.readFrom s.runtime.journal s.runtime.applied).Runs (journalFile writer)
      s.file (.ok records) s.file := by
    rw [hjournal]
    exact Journal.runs_readFrom.mpr ⟨hreading.symm, rfl⟩
  have htasks := (steps_tasks writer (s := s') _ rfl).tail (.finish rfl)
  rw [Task.foldl_run_flatMap] at htasks
  exact ⟨s', ⟨free, _, hread, rfl⟩, htasks⟩

namespace Following

/-- A sync of a readable journal has one outcome: it returns how many records are new. -/
theorem runs_sync_of_shows (h : Following writer s) (readable : JournalRecord.Readable s.file.bytes)
    {World : Type} {os : OperatingSystem World} {world final : World}
    (hshows : os.Shows world writer.path s.file)
    {outcome : Except JournalError Nat × LoopbackRuntime} :
    s.runtime.sync.Runs os world outcome final ↔
      outcome = (.ok s.uncounted.length, s.synced.runtime) ∧ final = world := by
  have hread := Journal.reading_of_readable readable s.runtime.applied
  rw [runs_sync_iff (h.journal.symm ▸ hshows), refreshed_of_reading hread, hread]
  rfl

theorem runs_sync (h : Following writer s) (readable : JournalRecord.Readable s.file.bytes)
    {outcome : Except JournalError Nat × LoopbackRuntime} {next : JournalContents} :
    s.runtime.sync.Runs (journalFile writer) s.file outcome next ↔
      outcome = (.ok s.uncounted.length, s.synced.runtime) ∧ next = s.file :=
  h.runs_sync_of_shows readable (journalFile_shows writer s.file)

/-- A sync of a readable journal that nobody interferes with. -/
theorem steps_of_sync (h : Following writer s) (free : s.underWay = none)
    (readable : JournalRecord.Readable s.file.bytes) :
    ∃ s', s.Begins writer s' ∧ Steps writer s' s.synced :=
  steps_of_reading h.journal free (Journal.reading_of_readable readable s.runtime.applied)

end Following

/-- **Incremental sync is one full replay.**  Threads share a runtime that has seen nothing of its
    journal, and a file that grows to a content whose complete records all mean something.

    * Whatever they do, and wherever the file was cut when it was read before: once a sync has read
      the last content and nobody is at work any more, the runtime has caught up.
    * A sync that is made then and there, nobody being at work, succeeds, and has caught up when it
      returns. -/
theorem syncs_replay_once (writer : JournalWriter) (first : JournalContents)
    (catalog : GrateCatalog) (native : Native) {last : List UInt8}
    (readable : JournalRecord.Readable last) :
    (∀ s s' s'', Steps writer (start first writer.path catalog native) s → s.Begins writer s' →
      Steps writer s' s'' → s.file.bytes = last → s''.file.bytes = last → s''.underWay = none →
      CaughtUp writer s'') ∧
    ∀ s, Steps writer (start first writer.path catalog native) s → s.file.bytes = last →
      s.underWay = none →
      ∃ count runtime,
        (∀ outcome next, s.runtime.sync.Runs (journalFile writer) s.file outcome next ↔
          outcome = (.ok count, runtime) ∧ next = s.file) ∧
        CaughtUp writer { s with runtime, returned := s.returned ++ [count] } := by
  have hstart := following_start writer first catalog native
  have hread (s s' s'' : Shared) (before : Steps writer (start first writer.path catalog native) s)
      (hbegins : s.Begins writer s') (after : Steps writer s' s'') (hs : s.file.bytes = last)
      (hs'' : s''.file.bytes = last) (free : s''.underWay = none) : CaughtUp writer s'' := by
    subst hs
    have hs : Following writer s := (hstart.steps before readable).1
    obtain ⟨hs', hall⟩ := hs.begin hbegins readable
    have hreadable : JournalRecord.Readable s''.file.bytes := hs''.symm ▸ readable
    obtain ⟨hlast, htaken⟩ := hs'.steps after hreadable
    refine hlast.caughtUp free hreadable ?_
    rw [hs'', ← hall]
    exact htaken
  refine ⟨hread, fun s before hs free => ?_⟩
  subst hs
  have hs : Following writer s := (hstart.steps before readable).1
  obtain ⟨s', hbegins, hsteps⟩ := hs.steps_of_sync free readable
  refine ⟨s.uncounted.length, s.synced.runtime, fun _ _ => hs.runs_sync readable, ?_⟩
  rw [free]
  exact hread s s' s.synced before hbegins hsteps rfl rfl rfl

/-- A journal that does not exist at first, is read when half a record is there, and is read again
    with that record complete and a byte of another behind it. -/
theorem syncs_replay_once_torn :
    let writer : JournalWriter := ⟨⟨3⟩, .ofText "journal"⟩
    let last := (JournalRecord.register ⟨⟨5⟩, ⟨107⟩, ⟨1⟩, ⟨2⟩⟩).encode ++ [4]
    let nothing := start none writer.path (fun _ => none) Native.unsupported
    JournalRecord.Readable last ∧
    ∃ s, Steps writer nothing { nothing with file := some (last.take 20) } ∧
      Steps writer { nothing with file := some (last.take 20) } s ∧
      s.returned.length = 1 ∧ s.file.bytes = last ∧ s.underWay = none ∧
      (∃ s' s'', s.Begins writer s' ∧ Steps writer s' s'' ∧ CaughtUp writer s'') ∧
      ∃ count runtime, CaughtUp writer { s with runtime, returned := s.returned ++ [count] } := by
  intro writer last nothing
  have hfront : last <+: [JournalRecord.register ⟨⟨5⟩, ⟨107⟩, ⟨1⟩, ⟨2⟩⟩, .cageExit ⟨0⟩].flatMap
      JournalRecord.encode := by
    decide +kernel
  have readable : JournalRecord.Readable last :=
    (JournalRecord.readable_flatMap_encode _).of_isPrefix hfront
  let half : Shared := { nothing with file := some (last.take 20) }
  have hhalf : Steps writer nothing half := .single (.grow List.nil_prefix)
  have hfollowing : Following writer half :=
    (following_start writer none (fun _ => none) Native.unsupported).grow List.nil_prefix
  obtain ⟨_, hbegins, hsynced⟩ := hfollowing.steps_of_sync rfl
    (readable.of_isPrefix (List.take_prefix 20 last))
  let whole : Shared := { half.synced with file := some last }
  have hgrowth : Step writer half.synced whole := .grow (List.take_prefix 20 last)
  have hwhole : Steps writer half whole := (hsynced.head (.begin hbegins)).tail hgrowth
  have hagain := hfollowing.steps hwhole readable
  obtain ⟨s', hbegins', hsynced'⟩ := hagain.1.steps_of_sync rfl readable
  obtain ⟨hread, hsync⟩ := syncs_replay_once writer none (fun _ => none) Native.unsupported readable
  obtain ⟨count, runtime, -, hcaughtUp⟩ := hsync whole (hhalf.trans hwhole) rfl rfl
  exact ⟨readable, whole, hhalf, hwhole, rfl, rfl, rfl,
    ⟨s', whole.synced, hbegins', hsynced',
      hread whole s' whole.synced (hhalf.trans hwhole) hbegins' hsynced' rfl rfl rfl⟩,
    count, runtime, hcaughtUp⟩

end Interposition.LoopbackRuntime
