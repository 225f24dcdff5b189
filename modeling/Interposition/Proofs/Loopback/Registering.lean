/-
  Registering by a call on a loopback runtime.

  A registration comes to the table of a runtime in two ways: as a record of the journal, or by a
  call of the reserved number, which goes to the table like any other call.  Only the first way
  attaches the grate.  So what is accepted by a call is bound, and answered by the grate if and only
  if the journal has named the grate in some registration, for whatever pair; until then it is
  answered that there is no such process.

  1. **One task** (`handlers?_of_run`, `isSome_handlers?_run`): of all that a sync does, attaching
     the grate gives it handlers, those of its entry, and only its exit takes them away.

  2. **The invariant** (`Meeting`): while the grate has not exited, it has handlers, or its
     attachment is still to be done, exactly if one of the records read so far registers it.  Calls
     of whatever number keep this (`Meeting.move`), those that register too.

  3. **In between** (`agrees_of_idles`): growth, syncs that find nothing and calls of other numbers
     leave every binding as it is.

  Together with what an accepted request does to the table this is `registrations_route_once_met`;
  that the grate need not have been met is `accepted_registration_unreachable`.
-/
import Interposition.Proofs.Journal.Views
import Interposition.Proofs.Loopback.Routing
import Interposition.Proofs.Table.Verdicts

namespace Interposition.LoopbackRuntime

open Shared InterceptionTable

variable {catalog : GrateCatalog} {native : Native} {writer : JournalWriter} {s s' : Shared}
  {table : InterceptionTable} {grate : GrateId} {d : Dispatcher}

/-! ## Moves -/

/-- One step of one thread, or of the file; or a thread that has synced requests a registration. -/
inductive Move (writer : JournalWriter) : Shared → Shared → Prop where
  | step {s s' : Shared} (h : Step writer s s') : Move writer s s'
  | request {s : Shared} {caller : CageId} {args : ArgumentVector} :
      Move writer s
        { s with runtime := (s.runtime.respondSynced caller Syscall.registerHandler args).2 }

/-- Any number of moves, of any threads, in any order. -/
abbrev Moves (writer : JournalWriter) : Shared → Shared → Prop :=
  Relation.ReflTransGen (Move writer)

/-- A step by which nobody is registered or revoked and nobody exits. -/
inductive Idle (writer : JournalWriter) : Shared → Shared → Prop where
  | grow {s : Shared} {bytes : List UInt8} (h : s.file.bytes <+: bytes) :
      Idle writer s { s with file := some bytes }
  /-- A sync that finds nothing new. -/
  | look {s s' : Shared} (h : s.Begins writer s') (nothing : s'.underWay = some (0, [])) :
      Idle writer s s'
  | finish {s : Shared} {count : Nat} (h : s.underWay = some (count, [])) :
      Idle writer s (s.counted count)
  | call {s : Shared} {caller : CageId} {syscall : SyscallNumber} {args : ArgumentVector}
      (h : syscall ≠ Syscall.registerHandler) :
      Idle writer s { s with runtime := (s.runtime.respondSynced caller syscall args).2 }

/-- Any number of such steps. -/
abbrev Idles (writer : JournalWriter) : Shared → Shared → Prop :=
  Relation.ReflTransGen (Idle writer)

theorem Idle.move (h : Idle writer s s') : Move writer s s' := by
  cases h with
  | grow h => exact .step (.grow h)
  | look h nothing => exact .step (.begin h)
  | finish h => exact .step (.finish h)
  | call h => exact .step (.call h)

namespace Shared

/-- What the holder of the lock has left to do. -/
def tasks (s : Shared) : List Task := (s.underWay.map Prod.snd).getD []

/-- The records that have been read so far, applied or not. -/
def seen (s : Shared) : List JournalRecord :=
  ((JournalRecord.chunks s.file.bytes).take s.taken).filterMap JournalRecord.ofBytes?

/-- A registration for a grate is among the records that have been read. -/
def HasMet (s : Shared) (grate : GrateId) : Prop :=
  ∃ r, JournalRecord.register r ∈ s.seen ∧ r.grate = grate

theorem tasks_of_free (h : s.underWay = none) : s.tasks = [] := by
  unfold tasks
  rw [h]
  rfl

theorem tasks_of_underWay {count : Nat} {tasks : List Task} (h : s.underWay = some (count, tasks)) :
    s.tasks = tasks := by
  unfold Shared.tasks
  rw [h]
  rfl

/-- Whom a runtime has met is a matter of the file and of how far it has been read. -/
theorem hasMet_congr (hfile : s'.file = s.file) (htaken : s'.taken = s.taken) :
    s'.HasMet grate ↔ s.HasMet grate := by
  unfold HasMet seen
  rw [hfile, htaken]

/-- Growth leaves the records that were read where they are. -/
theorem seen_grow {bytes : List UInt8} (hgrowth : s.file.bytes <+: bytes)
    (htaken : s.taken ≤ (JournalRecord.chunks s.file.bytes).length) :
    seen { s with file := some bytes } = s.seen := by
  obtain ⟨later, hlater⟩ := JournalRecord.chunks_isPrefix hgrowth
  show ((JournalRecord.chunks bytes).take s.taken).filterMap _ = _
  rw [← hlater, List.take_append_of_le_length htaken]
  rfl

/-- Reading takes up all the chunks that are left, and what it reads is seen from then on. -/
theorem seen_begin (tasks : List Task) {records : List JournalRecord} (free : s.underWay = none)
    (htaken : s.taken ≤ (JournalRecord.chunks s.file.bytes).length)
    (hread : Journal.reading s.file.bytes s.runtime.applied = .ok records) :
    s.runtime.applied + records.length = (JournalRecord.chunks s.file.bytes).length ∧
    seen { s with underWay := some (records.length, tasks) } = s.seen ++ records := by
  rw [taken_of_free free] at htaken
  have hlength := Journal.length_of_reading hread
  have hall : s.runtime.applied + records.length =
      (JournalRecord.chunks s.file.bytes).length := by omega
  refine ⟨hall, ?_⟩
  show ((JournalRecord.chunks s.file.bytes).take (s.runtime.applied + records.length)).filterMap
    _ = ((JournalRecord.chunks s.file.bytes).take s.taken).filterMap _ ++ records
  rw [hall, List.take_length, taken_of_free free]
  conv_rhs => rw [← Journal.filterMap_of_reading hread, ← List.filterMap_append,
    List.take_append_drop]

end Shared

/-! ## One task -/

/-- A catalog has an entry for a grate that serves it, and no other entry does. -/
structure Serves (catalog : GrateCatalog) (grate : GrateId) (d : Dispatcher) : Prop where
  entry : catalog grate = some d
  alone : ∀ other d', catalog other = some d' → (d'.grate = grate ↔ other = grate)

theorem Serves.grate_eq (h : Serves catalog grate d) : d.grate = grate :=
  (h.alone grate d h.entry).mpr rfl

/-- Trying to attach a grate gives it handlers, unless it has some or has exited, and gives nobody
    else any. -/
theorem handlers?_ensureAttached (serves : Serves catalog grate d) (table : InterceptionTable)
    (other : GrateId) :
    (ensureAttached catalog other table).handlers? grate =
      if other = grate ∧ table.hasExited grate.asCage = false then
        some ((table.handlers? grate).getD d.table)
      else table.handlers? grate := by
  unfold ensureAttached
  by_cases hother : other = grate
  · subst hother
    have hattached := isSome_handlers? table other
    cases lives : table.hasExited other.asCage with
    | true => simp
    | false =>
      cases hhandlers : table.handlers? other with
      | some handlers =>
        rw [hhandlers] at hattached
        simp [← hattached, hhandlers]
      | none =>
        rw [hhandlers] at hattached
        simp [← hattached, serves.entry, handlers?_attach, serves.grate_eq]
  · have hnot : ¬ (other = grate ∧ table.hasExited grate.asCage = false) := fun h => hother h.1
    rw [if_neg hnot]
    split
    · rfl
    · cases hentry : catalog other with
      | none => rfl
      | some d' =>
        have hgrate : grate ≠ d'.grate := fun heq =>
          hother ((serves.alone other d' hentry).mp heq.symm)
        exact (handlers?_attach table d' grate).trans (if_neg hgrate)

/-- A record that is not its exit leaves a grate its handlers. -/
theorem handlers?_apply (table : InterceptionTable) (r : JournalRecord) (grate : GrateId) :
    (r.apply table).handlers? grate =
      if r = .grateExit grate then none else table.handlers? grate := by
  cases r with
  | register r => exact congrArg _ (dispatcher?_register table r grate)
  | revoke cage syscall => exact congrArg _ (dispatcher?_revoke table cage syscall grate)
  | grateExit gone =>
    refine (handlers?_grateExited table gone grate).trans (if_congr ?_ rfl rfl)
    rw [JournalRecord.grateExit.injEq, eq_comm]
  | cageExit cage => rfl

/-- The handlers of a grate that a task leaves behind were there before, or are those of its entry,
    and the task was to attach it. -/
theorem handlers?_of_run (serves : Serves catalog grate d) {task : Task} {handlers : HandlerTable}
    (h : (task.run catalog table).handlers? grate = some handlers) :
    table.handlers? grate = some handlers ∨ handlers = d.table ∧ task = .attach grate := by
  cases task with
  | attach other =>
    have h := (handlers?_ensureAttached serves table other).symm.trans h
    split at h
    case isTrue hnow =>
      cases hbefore : table.handlers? grate with
      | some former =>
        rw [hbefore] at h
        exact .inl h
      | none =>
        rw [hbefore] at h
        exact .inr ⟨(Option.some.inj h).symm, congrArg Task.attach hnow.1⟩
    case isFalse => exact .inl h
  | apply r =>
    have h := (handlers?_apply table r grate).symm.trans h
    split at h
    case isTrue => contradiction
    case isFalse => exact .inl h

/-- Whoever lives after a task lived before it. -/
theorem hasExited_of_run (task : Task) {process : CageId}
    (lives : (task.run catalog table).hasExited process = false) :
    table.hasExited process = false := by
  cases task with
  | attach other =>
    exact ((ensureAttached_agrees catalog other table).hasExited process).symm.trans lives
  | apply r =>
    have hexited := congrFun (r.hasExited_apply table) process
    exact (Bool.or_eq_false_iff.mp (hexited.symm.trans lives)).1

/-- **One task** leaves a grate that lives the handlers it has, and gives it some if it is to attach
    it. -/
theorem isSome_handlers?_run (serves : Serves catalog grate d) (task : Task)
    (lives : (task.run catalog table).hasExited grate.asCage = false)
    (h : (table.handlers? grate).isSome ∨ task = .attach grate) :
    ((task.run catalog table).handlers? grate).isSome := by
  cases task with
  | attach other =>
    have lived := hasExited_of_run (.attach other) lives
    show ((ensureAttached catalog other table).handlers? grate).isSome
    rw [handlers?_ensureAttached serves]
    split
    case isTrue => rfl
    case isFalse hnot =>
      rcases h with hbefore | hattach
      · exact hbefore
      · exact absurd ⟨Task.attach.inj hattach, lived⟩ hnot
  | apply r =>
    have hlives : r ≠ .grateExit grate := by
      rintro rfl
      have hexited := congrFun ((JournalRecord.grateExit grate).hasExited_apply table) grate.asCage
      have hgone := hexited.symm.trans lives
      simp [JournalRecord.exitedAfter, JournalRecord.exit?] at hgone
    show ((r.apply table).handlers? grate).isSome
    rw [handlers?_apply, if_neg hlives]
    rcases h with hbefore | hattach
    · exact hbefore
    · contradiction

theorem keyed_run (keyed : table.Keyed) (task : Task) : (task.run catalog table).Keyed := by
  cases task with
  | attach other =>
    show (ensureAttached catalog other table).Keyed
    unfold ensureAttached
    split
    · exact keyed
    · cases catalog other with
      | none => exact keyed
      | some d => exact keyed.perform (.attach d)
  | apply r =>
    show (r.apply table).Keyed
    rw [← JournalRecord.perform_operation]
    exact keyed.perform r.operation

/-! ## The invariant -/

/-- A runtime that has met a grate has attached it, or is about to, unless the grate has exited; and
    it attaches nobody it has not met. -/
structure Meeting (writer : JournalWriter) (catalog : GrateCatalog) (grate : GrateId)
    (d : Dispatcher) (s : Shared) : Prop where
  journal : s.runtime.journal = writer.path
  sameCatalog : s.runtime.catalog = catalog
  keyed : s.runtime.table.Keyed
  taken_le : s.taken ≤ (JournalRecord.chunks s.file.bytes).length
  due : .attach grate ∈ s.tasks → s.HasMet grate
  served : ∀ handlers, s.runtime.table.handlers? grate = some handlers →
    handlers = d.table ∧ s.HasMet grate
  met : s.runtime.table.hasExited grate.asCage = false → s.HasMet grate →
    (s.runtime.table.handlers? grate).isSome ∨ .attach grate ∈ s.tasks

theorem meeting_start (writer : JournalWriter) (file : JournalContents) (catalog : GrateCatalog)
    (native : Native) (grate : GrateId) (d : Dispatcher) :
    Meeting writer catalog grate d (start file writer.path catalog native) where
  journal := rfl
  sameCatalog := rfl
  keyed := .new native
  taken_le := Nat.zero_le _
  due h := by contradiction
  served handlers h := by contradiction
  met _ h := by
    obtain ⟨r, hr, -⟩ := h
    contradiction

/-- What there is to do about records attaches the grates they register. -/
theorem attach_mem_flatMap_iff {records : List JournalRecord} :
    .attach grate ∈ records.flatMap Task.ofRecord ↔
      ∃ r, JournalRecord.register r ∈ records ∧ r.grate = grate := by
  rw [List.mem_flatMap]
  constructor
  · rintro ⟨record, hrecord, hattach⟩
    cases record with
    | register r =>
      rcases List.mem_cons.mp hattach with hhead | hrest
      · exact ⟨r, hrecord, (Task.attach.inj hhead).symm⟩
      · exact absurd (List.mem_singleton.mp hrest) (by simp)
    | revoke cage syscall => exact absurd (List.mem_singleton.mp hattach) (by simp)
    | grateExit gone => exact absurd (List.mem_singleton.mp hattach) (by simp)
    | cageExit gone => exact absurd (List.mem_singleton.mp hattach) (by simp)
  · rintro ⟨r, hr, rfl⟩
    exact ⟨_, hr, List.mem_cons_self⟩

namespace Meeting

/-- Growth meets nobody. -/
theorem grow {bytes : List UInt8} (h : Meeting writer catalog grate d s)
    (hgrowth : s.file.bytes <+: bytes) :
    Meeting writer catalog grate d { s with file := some bytes } := by
  have hmet : Shared.HasMet { s with file := some bytes } grate ↔ s.HasMet grate := by
    unfold Shared.HasMet
    rw [seen_grow hgrowth h.taken_le]
  refine ⟨h.journal, h.sameCatalog, h.keyed, ?_, fun hattach => hmet.mpr (h.due hattach), ?_,
    fun lives hnow => h.met lives (hmet.mp hnow)⟩
  · exact Nat.le_trans h.taken_le (JournalRecord.chunks_isPrefix hgrowth).length_le
  · intro handlers hhandlers
    exact (h.served handlers hhandlers).imp_right hmet.mpr

/-- Reading meets the grates that the new records register, and lets them be attached. -/
theorem begin (h : Meeting writer catalog grate d s) (hbegins : s.Begins writer s') :
    Meeting writer catalog grate d s' := by
  obtain ⟨free, records, hread, rfl⟩ := hbegins
  rw [h.journal] at hread
  obtain ⟨hall, hseen⟩ := seen_begin (records.flatMap Task.ofRecord) free h.taken_le
    (Journal.runs_readFrom.mp hread).1.symm
  have hmet : Shared.HasMet
      { s with underWay := some (records.length, records.flatMap Task.ofRecord) } grate ↔
      s.HasMet grate ∨ .attach grate ∈ records.flatMap Task.ofRecord := by
    rw [attach_mem_flatMap_iff]
    unfold Shared.HasMet
    simp only [hseen, List.mem_append, or_and_right, exists_or]
  refine ⟨h.journal, h.sameCatalog, h.keyed, Nat.le_of_eq hall, ?_, ?_, ?_⟩
  · exact fun hattach => hmet.mpr (.inr hattach)
  · intro handlers hhandlers
    obtain ⟨hentry, hbefore⟩ := h.served handlers hhandlers
    exact ⟨hentry, hmet.mpr (.inl hbefore)⟩
  · intro lives hnow
    rcases hmet.mp hnow with hbefore | hattach
    · -- nothing was left to do before, so who had been met had been attached
      rcases h.met lives hbefore with hserved | hdue
      · exact .inl hserved
      · rw [tasks_of_free free] at hdue
        contradiction
    · exact .inr hattach

/-- A task done: an attachment that was due gives the grate its handlers. -/
theorem done (serves : Serves catalog grate d) (h : Meeting writer catalog grate d s) {count : Nat}
    {task : Task} {tasks : List Task} (hunderWay : s.underWay = some (count, task :: tasks)) :
    Meeting writer catalog grate d (s.done count task tasks) := by
  have hsameCatalog := h.sameCatalog
  subst hsameCatalog
  have htaken : (s.done count task tasks).taken = s.taken := (taken_of_underWay hunderWay).symm
  have hmet : (s.done count task tasks).HasMet grate ↔ s.HasMet grate := hasMet_congr rfl htaken
  have hdue : .attach grate ∈ task :: tasks → s.HasMet grate := by
    have hdue := h.due
    rw [tasks_of_underWay hunderWay] at hdue
    exact hdue
  refine ⟨h.journal, rfl, keyed_run h.keyed task, htaken ▸ h.taken_le, ?_, ?_, ?_⟩
  · rw [hmet]
    exact fun hattach => hdue (List.mem_cons_of_mem task hattach)
  · intro handlers hhandlers
    rw [hmet]
    rcases handlers?_of_run serves hhandlers with hbefore | ⟨hentry, rfl⟩
    · exact h.served handlers hbefore
    · exact ⟨hentry, hdue List.mem_cons_self⟩
  · intro lives hnow
    rw [hmet] at hnow
    have hkept := isSome_handlers?_run serves task lives
    rcases h.met (hasExited_of_run task lives) hnow with hserved | hattach
    · exact .inl (hkept (.inl hserved))
    · rw [tasks_of_underWay hunderWay] at hattach
      rcases List.mem_cons.mp hattach with hfirst | hrest
      · exact .inl (hkept (.inr hfirst.symm))
      · exact .inr hrest

/-- Counting what was read moves nothing. -/
theorem counted (h : Meeting writer catalog grate d s) {count : Nat}
    (hunderWay : s.underWay = some (count, [])) :
    Meeting writer catalog grate d (s.counted count) := by
  have htaken : (s.counted count).taken = s.taken := (taken_of_underWay hunderWay).symm
  have hmet : (s.counted count).HasMet grate ↔ s.HasMet grate := hasMet_congr rfl htaken
  have hnothing : s.tasks = (s.counted count).tasks := tasks_of_underWay hunderWay
  refine ⟨h.journal, h.sameCatalog, h.keyed, htaken ▸ h.taken_le, ?_, ?_, ?_⟩
  · exact fun hattach => absurd hattach List.not_mem_nil
  · intro handlers hhandlers
    exact (h.served handlers hhandlers).imp_right hmet.mpr
  · rw [hmet, ← hnothing]
    exact h.met

/-- A call leaves every grate the handlers it has, whatever its number. -/
theorem call (h : Meeting writer catalog grate d s) (caller : CageId) (syscall : SyscallNumber)
    (args : ArgumentVector) :
    Meeting writer catalog grate d
      { s with runtime := (s.runtime.respondSynced caller syscall args).2 } := by
  let op : Operation := .call caller syscall args
  have hhandlers : (s.runtime.table.perform op).2.handlers? grate =
      s.runtime.table.handlers? grate := handlers?_perform h.keyed op grate
  have hexited : (s.runtime.table.perform op).2.hasExited grate.asCage =
      s.runtime.table.hasExited grate.asCage :=
    (hasExited_perform s.runtime.table op grate.asCage).trans (Bool.or_false _)
  refine ⟨h.journal, h.sameCatalog, h.keyed.perform op, h.taken_le, h.due, ?_, ?_⟩
  · exact fun handlers hnow => h.served handlers (hhandlers.symm.trans hnow)
  · intro lives hmet
    rcases h.met (hexited.symm.trans lives) hmet with hserved | hattach
    · exact .inl ((congrArg Option.isSome hhandlers).trans hserved)
    · exact .inr hattach

/-- **One move** keeps the invariant. -/
theorem move (serves : Serves catalog grate d) (h : Meeting writer catalog grate d s)
    (hmove : Move writer s s') : Meeting writer catalog grate d s' := by
  cases hmove with
  | step hstep =>
    cases hstep with
    | grow hgrowth => exact h.grow hgrowth
    | begin hbegins => exact h.begin hbegins
    | work hunderWay => exact h.done serves hunderWay
    | finish hunderWay => exact h.counted hunderWay
    | call _ => exact h.call _ _ _
  | request => exact h.call _ _ _

/-- **A whole run** does so too. -/
theorem moves (serves : Serves catalog grate d) (h : Meeting writer catalog grate d s)
    (hmoves : Moves writer s s') : Meeting writer catalog grate d s' := by
  induction hmoves with
  | refl => exact h
  | tail _ hmove ih => exact ih.move serves hmove

/-- A sync that nobody interferes with keeps it, whether the journal can be read or not. -/
theorem refreshed (serves : Serves catalog grate d) (h : Meeting writer catalog grate d s)
    (free : s.underWay = none) :
    Meeting writer catalog grate d { s with runtime := s.runtime.refreshed s.file } := by
  cases hreading : Journal.reading s.file.bytes s.runtime.applied with
  | ok records =>
    rw [refreshed_of_reading hreading]
    obtain ⟨began, hbegins, hsteps⟩ := steps_of_reading h.journal free hreading
    have hmoves := Relation.ReflTransGen.mono (fun _ _ => Move.step) _ _ hsteps
    have hsynced := (h.begin hbegins).moves serves hmoves
    rw [free]
    exact ⟨hsynced.journal, hsynced.sameCatalog, hsynced.keyed, hsynced.taken_le, hsynced.due,
      hsynced.served, hsynced.met⟩
  | error e =>
    have hsame : s.runtime.refreshed s.file = s.runtime := by
      unfold LoopbackRuntime.refreshed
      rw [hreading]
    rw [hsame]
    exact h

end Meeting

/-! ## In between -/

/-- Steps that bring no news leave every binding and every exit as it is, and nothing to do. -/
theorem agrees_of_idles (hidles : Idles writer s s') (hnothing : s.tasks = []) :
    s'.runtime.table.Agrees s.runtime.table ∧ s'.tasks = [] := by
  induction hidles with
  | refl => exact ⟨.refl _, hnothing⟩
  | tail _ hidle ih =>
    obtain ⟨hagrees, htasks⟩ := ih
    cases hidle with
    | grow _ => exact ⟨hagrees, htasks⟩
    | look hbegins nothing =>
      obtain ⟨-, records, -, rfl⟩ := hbegins
      exact ⟨hagrees, tasks_of_underWay nothing⟩
    | finish _ => exact ⟨hagrees, rfl⟩
    | @call caller syscall args hsyscall =>
      exact ⟨(call_agrees _ caller args hsyscall).trans hagrees, htasks⟩

/-! ## Accepted requests -/

/-- A request that is answered with success was granted by a table that had nothing against it. -/
theorem accepted_of_runs {runtime registered : LoopbackRuntime} {contents : JournalContents}
    {World : Type} {os : OperatingSystem World} {world final : World}
    (hshows : os.Shows world runtime.journal contents) {caller : CageId} {r : Registration}
    (haccepted : (runtime.makeSyscall caller Syscall.registerHandler r.toWords).Runs os world
      (RegistrationError.accepted, registered) final) :
    registered = ((runtime.refreshed contents).respondSynced caller Syscall.registerHandler
      (.ofOwner caller r.toWords)).2 ∧
    registered.table = ((runtime.refreshed contents).table.register r).2 ∧
    (runtime.refreshed contents).table.refusal? r = none := by
  let table := (runtime.refreshed contents).table
  let args : ArgumentVector := .ofOwner caller r.toWords
  let op : Operation := .call caller Syscall.registerHandler args
  obtain ⟨rfl, hperform⟩ :=
    (runtime.answers contents caller Syscall.registerHandler args World os world hshows _ _ _).mp
      haccepted
  -- whoever the caller is, the answer is a word
  have hanswer : (table.call caller Syscall.registerHandler args).1 =
      .value RegistrationError.accepted := by
    have hperform : (Program.perform (table.call caller Syscall.registerHandler args).1).Runs os
      world RegistrationError.accepted final := hperform
    cases lives : table.hasExited caller with
    | true =>
      rw [call_of_exited args lives (by decide)] at hperform
      exact absurd hperform.1 (by decide)
    | false =>
      rw [call_registerHandler args lives] at hperform ⊢
      exact congrArg Reply.value hperform.1.symm
  have hrequest : op.requested? = some r := congrArg some (ofWords_values_ofOwner caller r)
  obtain ⟨-, lives, hrefusal⟩ := accepts_iff.mp ⟨hrequest, hanswer⟩
  exact ⟨rfl, (perform_requested hrequest lives).1, hrefusal⟩

/-- **An accepted registration routes once its grate has been met.**  A runtime has followed a
    journal from nothing, whatever was called meanwhile, registrations included.  A cage requests a
    registration by a call that is answered with success, and the catalog has an entry for the
    grate, which alone serves it.  After it nobody is registered or revoked and nobody exits, and
    the journal has nothing new for the next call.

    * The pair is bound as requested.
    * If a registration for the grate is among the records that were read from the journal, a call
      of the pair is dispatched to the handler of the entry with the index, and comes to its answer.
    * If there is none, it reaches nobody, and comes to the answer that there is no such process. -/
theorem registrations_route_once_met (writer : JournalWriter) (first : JournalContents)
    (catalog : GrateCatalog) (native : Native) {s : Shared}
    (hmoves : Moves writer (start first writer.path catalog native) s) (free : s.underWay = none)
    {caller : CageId} {r : Registration} {d : Dispatcher} (serves : Serves catalog r.grate d)
    {World : Type} {os : OperatingSystem World} {world final : World}
    (hshows : os.Shows world writer.path s.file) {registered : LoopbackRuntime}
    (haccepted : (s.runtime.makeSyscall caller Syscall.registerHandler r.toWords).Runs os world
      (RegistrationError.accepted, registered) final)
    {s' : Shared} (hidles : Idles writer { s with runtime := registered } s')
    (hnothing : ∀ records, Journal.reading s'.file.bytes s'.runtime.applied = .ok records →
      records = []) :
    s'.runtime.table.lookup r.targetCage r.syscall = some r.binding ∧
    ∀ args,
      (s'.HasMet r.grate →
        s'.runtime.table.service r.targetCage r.syscall args =
          .through (some d.table) r.targetCage args r.binding ∧
        ∃ next, s'.runtime.Answers s'.file r.targetCage r.syscall args
          (d.dispatch r.handler r.targetCage args).1 next) ∧
      (¬ s'.HasMet r.grate →
        s'.runtime.table.service r.targetCage r.syscall args = .unreachable r.grate ∧
        ∃ next, s'.runtime.Answers s'.file r.targetCage r.syscall args
          (.value Errno.esrch.status) next) := by
  have hmeeting : Meeting writer catalog r.grate d s :=
    (meeting_start writer first catalog native r.grate d).moves serves hmoves
  obtain ⟨hcalled, htable, hrefusal⟩ :=
    accepted_of_runs (hmeeting.journal.symm ▸ hshows) haccepted
  have hregistered : Meeting writer catalog r.grate d { s with runtime := registered } := by
    rw [hcalled]
    exact (hmeeting.refreshed serves free).call caller Syscall.registerHandler _
  have hlast : Meeting writer catalog r.grate d s' :=
    hregistered.moves serves (Relation.ReflTransGen.mono (fun _ _ => Idle.move) _ _ hidles)
  obtain ⟨hagrees, htasks⟩ := agrees_of_idles hidles (tasks_of_free free)
  obtain ⟨hwellFormed, htarget, hgrate⟩ := refusal?_eq_none_iff.mp hrefusal
  have hexited (process : CageId) : s'.runtime.table.hasExited process =
      (s.runtime.refreshed s.file).table.hasExited process := by
    rw [hagrees.hasExited, htable, hasExited_register]
  have hlookup : s'.runtime.table.lookup r.targetCage r.syscall = some r.binding := by
    have hfor : r.isFor r.targetCage r.syscall = true := Registration.isFor_iff.mpr ⟨rfl, rfl⟩
    rw [hagrees.lookup, htable, lookup_register, if_pos ⟨hrefusal, hfor⟩]
  have hsyscall : r.syscall ≠ Syscall.registerHandler := fun heq =>
    hwellFormed.syscall (congrArg SyscallNumber.raw heq)
  have hservice (args : ArgumentVector) : s'.runtime.table.service r.targetCage r.syscall args =
      .through (s'.runtime.table.handlers? r.grate) r.targetCage args r.binding :=
    service_of_bound ((hexited _).trans htarget) hsyscall hlookup args
  have hanswers (args : ArgumentVector) : ∃ next,
      s'.runtime.Answers s'.file r.targetCage r.syscall args (s'.runtime.table.replyOf r.targetCage
        r.syscall args (s'.runtime.table.service r.targetCage r.syscall args)) next := by
    have hanswers := s'.runtime.answers s'.file r.targetCage r.syscall args
    rw [refreshed_of_nothing hnothing] at hanswers
    rw [← respondSynced_fst]
    exact ⟨_, hanswers⟩
  refine ⟨hlookup, fun args => ⟨fun hmet => ?_, fun hunmet => ?_⟩⟩
  · have hhandlers : s'.runtime.table.handlers? r.grate = some d.table := by
      rcases hlast.met ((hexited _).trans hgrate) hmet with hserved | hdue
      · obtain ⟨handlers, hhandlers⟩ := Option.isSome_iff_exists.mp hserved
        rw [hhandlers, (hlast.served handlers hhandlers).1]
      · rw [htasks] at hdue
        contradiction
    have hthrough := hservice args
    obtain ⟨next, hnext⟩ := hanswers args
    rw [hhandlers] at hthrough
    rw [hthrough, replyOf_through] at hnext
    exact ⟨hthrough, next, hnext⟩
  · have hhandlers : s'.runtime.table.handlers? r.grate = none := by
      cases hhandlers : s'.runtime.table.handlers? r.grate with
      | none => rfl
      | some handlers => exact absurd (hlast.served handlers hhandlers).2 hunmet
    have hthrough := hservice args
    obtain ⟨next, hnext⟩ := hanswers args
    rw [hhandlers] at hthrough
    rw [hthrough] at hnext
    exact ⟨hthrough, next, hnext⟩

/-- The journal registers a grate for one cage, and then another cage registers with it by a call:
    the grate has been met, and its handler answers. -/
theorem registrations_route_once_met_for_another :
    let writer : JournalWriter := ⟨⟨3⟩, .ofText "journal"⟩
    let catalog : GrateCatalog := fun grate => some (.new grate [.identity "geteuid" 7])
    let record : JournalRecord := .register ⟨⟨6⟩, ⟨51⟩, ⟨0⟩, ⟨2⟩⟩
    let r : Registration := ⟨⟨5⟩, ⟨51⟩, ⟨0⟩, ⟨2⟩⟩
    let s : Shared := start (some record.encode) writer.path catalog Native.unsupported
    let args : ArgumentVector := .ofOwner ⟨5⟩ (Vector.replicate 6 unusedWord)
    ∃ registered next,
      (s.runtime.makeSyscall ⟨5⟩ Syscall.registerHandler r.toWords).Runs (journalFile writer) s.file
        (RegistrationError.accepted, registered) s.file ∧
      registered.Answers s.file ⟨5⟩ ⟨51⟩ args (.value 7) next := by
  intro writer catalog record r s args
  have hfile : s.file.Holds [record] := by
    have hholds := JournalContents.holds_flatMap_encode [record]
    rw [List.flatMap_singleton] at hholds
    exact hholds
  have hreading (skip : Nat) : Journal.reading s.file.bytes skip = .ok ([record].drop skip) := by
    rw [Journal.reading_of_readable hfile.readable, hfile.records]
  have hrefreshed : s.runtime.refreshed s.file = s.runtime.absorb [record] :=
    refreshed_of_reading (hreading 0)
  let words : ArgumentVector := .ofOwner ⟨5⟩ r.toWords
  let responded := (s.runtime.absorb [record]).respondSynced ⟨5⟩ Syscall.registerHandler words
  have hgranted : responded.1 = .value RegistrationError.accepted := by decide +kernel
  have haccepted : (s.runtime.makeSyscall ⟨5⟩ Syscall.registerHandler r.toWords).Runs
      (journalFile writer) s.file (RegistrationError.accepted, responded.2) s.file := by
    have hanswers := s.runtime.answers s.file ⟨5⟩ Syscall.registerHandler words
    rw [hrefreshed] at hanswers
    have hanswers : s.runtime.Answers s.file ⟨5⟩ Syscall.registerHandler words
      (.value RegistrationError.accepted) responded.2 := hgranted ▸ hanswers
    exact (hanswers.runs_iff (journalFile_shows writer s.file)).mpr ⟨rfl, rfl, rfl⟩
  have serves : Serves catalog r.grate (.new ⟨2⟩ [.identity "geteuid" 7]) := by
    refine ⟨rfl, fun other d' hentry => ?_⟩
    rw [← Option.some.inj hentry]
    exact Iff.rfl
  obtain ⟨-, hcalls⟩ := registrations_route_once_met writer (some record.encode) catalog
    Native.unsupported .refl rfl serves (journalFile_shows writer s.file) haccepted .refl
    (fun records hrecords => Except.ok.inj ((hreading 1).symm.trans hrecords).symm)
  have hmet : Shared.HasMet { s with runtime := responded.2 } r.grate := by
    refine ⟨⟨⟨6⟩, ⟨51⟩, ⟨0⟩, ⟨2⟩⟩, ?_, rfl⟩
    show record ∈ ((JournalRecord.chunks record.encode).take 1).filterMap JournalRecord.ofBytes?
    have hchunks := JournalRecord.chunks_flatMap_encode [record]
    rw [List.flatMap_singleton] at hchunks
    rw [hchunks]
    exact List.mem_filterMap.mpr ⟨_, List.mem_cons_self, record.ofBytes?_encode⟩
  obtain ⟨-, next, hnext⟩ := (hcalls args).1 hmet
  exact ⟨responded.2, next, haccepted, hnext⟩

/-- A runtime with an empty journal and a catalog that has an entry for the grate: the registration
    is accepted, and the next call of the pair is answered that there is no such process. -/
theorem accepted_registration_unreachable :
    let writer : JournalWriter := ⟨⟨3⟩, .ofText "journal"⟩
    let d : Dispatcher := .new ⟨2⟩ [.identity "geteuid" 7]
    let catalog : GrateCatalog := fun grate => if grate = ⟨2⟩ then some d else none
    let r : Registration := ⟨⟨5⟩, ⟨51⟩, ⟨0⟩, ⟨2⟩⟩
    let words : Vector Word 6 := Vector.replicate 6 unusedWord
    let fresh : LoopbackRuntime := .new writer.path catalog Native.unsupported
    catalog r.grate = some d ∧ d.grate = r.grate ∧
    (d.dispatch r.handler ⟨5⟩ (.ofOwner ⟨5⟩ words)).1 = .value 7 ∧
    ∃ registered next,
      (∀ ret runtime final,
        (fresh.makeSyscall ⟨5⟩ Syscall.registerHandler r.toWords).Runs (journalFile writer)
          (some []) (ret, runtime) final ↔
        runtime = registered ∧ ret = RegistrationError.accepted ∧ final = some []) ∧
      ∀ ret runtime final,
        (registered.makeSyscall ⟨5⟩ ⟨51⟩ words).Runs (journalFile writer) (some []) (ret, runtime)
          final ↔
        runtime = next ∧ ret = Errno.esrch.status ∧ final = some [] := by
  intro writer d catalog r words fresh
  -- there is nothing to read, whatever has been counted
  have hanswers (runtime : LoopbackRuntime) (syscall : SyscallNumber) (args : ArgumentVector) :
      runtime.Answers (some []) ⟨5⟩ syscall args (runtime.respondSynced ⟨5⟩ syscall args).1
        (runtime.respondSynced ⟨5⟩ syscall args).2 := by
    have hnothing : runtime.refreshed (some []) = runtime :=
      refreshed_of_nothing fun records hrecords =>
        Except.ok.inj (hrecords.symm.trans (Journal.reading_nil runtime.applied))
    have hanswers := runtime.answers (some []) ⟨5⟩ syscall args
    rw [hnothing] at hanswers
    exact hanswers
  let request : ArgumentVector := .ofOwner ⟨5⟩ r.toWords
  let registered := (fresh.respondSynced ⟨5⟩ Syscall.registerHandler request).2
  let args : ArgumentVector := .ofOwner ⟨5⟩ words
  have hgranted : (fresh.respondSynced ⟨5⟩ Syscall.registerHandler request).1 =
      .value RegistrationError.accepted := by
    decide +kernel
  have hunreachable : (registered.respondSynced ⟨5⟩ ⟨51⟩ args).1 = .value Errno.esrch.status := by
    decide +kernel
  have hfirst := hanswers fresh Syscall.registerHandler request
  have hsecond := hanswers registered ⟨51⟩ args
  rw [hgranted] at hfirst
  rw [hunreachable] at hsecond
  have hshows := journalFile_shows writer (some [])
  exact ⟨if_pos rfl, rfl, by decide +kernel, registered, _, fun ret runtime final =>
    hfirst.runs_iff hshows, fun ret runtime final => hsecond.runs_iff hshows⟩

end Interposition.LoopbackRuntime
