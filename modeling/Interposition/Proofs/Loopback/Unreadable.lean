/-
  What a loopback runtime does while its journal cannot be read.

  A sync decodes every record it has not counted before it applies the first of them.  So a journal
  with one record that means nothing, wherever it stands among the others, is as good as a file that
  cannot be read at all: the sync fails, and nothing has happened.

  1. **When** (`Unreadable`, `failsToSync_iff`): the system refuses the file for another reason than
     that there is none, or some complete record that was not counted means nothing.

  2. **What then** (`eq_of_failed_sync`, `answersGiven_of_unreadable`): the runtime is as it was,
     and a call is a call to its table.  Over any number of failed syncs and of calls meanwhile, the
     table is the one of the last sync that succeeded, with these calls made to it (`Stale.eq`).

  3. **Afterwards** (`Followed.abreast`): whatever the file was when it was read, the runtime is
     where one reading of the bytes that were applied would have brought it, by induction on what it
     did.  `Alike` is what calls in between leave alone.  So a file that begins with these bytes,
     and whose records all mean something, is caught up with.
-/
import Interposition.Proofs.Journal.Reading
import Interposition.Proofs.Loopback.Registering

namespace Interposition

namespace LoopbackRuntime

open JournalRecord InterceptionTable

variable {runtime next last : LoopbackRuntime} {answer : Except IoError (List UInt8)}
  {applied : Nat} {World : Type} {os : OperatingSystem World} {world final : World}

/-! ## When a sync fails -/

/-- What the system answers to the request for a journal is of no use to a reader who has counted
    some of its records: the file is there and cannot be had, or a complete record that was not
    counted means nothing. -/
def Unreadable (answer : Except IoError (List UInt8)) (applied : Nat) : Prop :=
  match answer with
  | .error cause => cause.isNotFound = false
  | .ok bytes => ∃ i, applied ≤ i ∧ i < recordCount bytes ∧ ¬ KnownOperation (recordAt bytes i)

/-- **Reading fails** exactly then. -/
theorem exists_found_error_iff (path : Path) :
    (∃ e, Journal.found path answer applied = .error e) ↔ Unreadable answer applied := by
  cases answer with
  | error cause =>
    show (∃ e, (if cause.isNotFound then .ok [] else Journal.failure path cause) = .error e) ↔
      cause.isNotFound = false
    cases cause.isNotFound <;> simp [Journal.failure]
  | ok bytes =>
    show (∃ e, Journal.reading bytes applied = .error e) ↔ ∃ i, _
    rw [← not_iff_not]
    have hread : (¬ ∃ e, Journal.reading bytes applied = .error e) ↔
        ∃ records, Journal.reading bytes applied = .ok records := by
      cases Journal.reading bytes applied <;> simp
    rw [hread, Journal.exists_reading_ok_iff]
    simp

/-- In every world in which the request for its journal has this answer, a sync fails, and leaves
    the runtime and the world as they were. -/
def FailsToSync (runtime : LoopbackRuntime) (answer : Except IoError (List UInt8)) : Prop :=
  ∃ e, ∀ (World : Type) (os : OperatingSystem World) (world : World),
    os.Gives world runtime.journal answer → ∀ outcome final,
      runtime.sync.Runs os world outcome final ↔ outcome = (.error e, runtime) ∧ final = world

/-- An operating system that answers every request for a file alike. -/
def answering (answer : Except IoError (List UInt8)) : OperatingSystem Unit where
  answers
    | _, .readFile _, given, _ => given = answer
    | _, _, _, _ => True
  spawns _ _ _ _ _ _ := True

theorem answering_gives (answer : Except IoError (List UInt8)) (path : Path) :
    (answering answer).Gives () path answer :=
  fun _ _ => ⟨fun h => ⟨rfl, h⟩, And.right⟩

/-- **When** a sync fails. -/
theorem failsToSync_iff : runtime.FailsToSync answer ↔ Unreadable answer runtime.applied := by
  rw [← exists_found_error_iff runtime.journal]
  constructor
  · rintro ⟨e, hfails⟩
    have hgives := answering_gives answer runtime.journal
    have hrun := (hfails _ _ () hgives _ ()).mp ((runs_sync_of_gives hgives).mpr ⟨rfl, rfl⟩)
    have houtcome := (Prod.mk.inj hrun.1).1
    cases hfound : Journal.found runtime.journal answer runtime.applied with
    | error e' => exact ⟨e', rfl⟩
    | ok records =>
      rw [hfound] at houtcome
      contradiction
  · rintro ⟨e, hfound⟩
    refine ⟨e, fun World os world hgives outcome final => ?_⟩
    rw [runs_sync_of_gives hgives, hfound]
    rfl

/-! ## What happens then -/

/-- **A sync that fails has changed nothing**, whatever the operating system did. -/
theorem eq_of_failed_sync {e : JournalError}
    (h : runtime.sync.Runs os world (.error e, next) final) : next = runtime := by
  obtain ⟨read, -, houtcome⟩ := runs_sync.mp h
  obtain ⟨hread, rfl⟩ := Prod.mk.inj houtcome
  cases read with
  | error e => rfl
  | ok records => contradiction

/-- **A call while the journal cannot be read** is a call to the table as it is. -/
theorem answersGiven_of_unreadable (runtime : LoopbackRuntime)
    (h : Unreadable answer runtime.applied) (caller : CageId) (syscall : SyscallNumber)
    (args : ArgumentVector) :
    runtime.AnswersGiven answer caller syscall args (runtime.table.call caller syscall args).1
      { runtime with table := (runtime.table.call caller syscall args).2 } := by
  obtain ⟨e, hfound⟩ := (exists_found_error_iff runtime.journal).mpr h
  have hanswers := answersGiven runtime answer caller syscall args
  rw [hfound] at hanswers
  exact hanswers

/-- What a runtime can come to from the last sync that succeeded, with the calls that were made to
    it since. -/
inductive Stale (last : LoopbackRuntime) : List Operation → LoopbackRuntime → Prop where
  | synced : Stale last [] last
  /-- A sync fails. -/
  | sync {ops : List Operation} {runtime next : LoopbackRuntime} (h : Stale last ops runtime)
      {World : Type} {os : OperatingSystem World} {world final : World} {e : JournalError}
      (hrun : runtime.sync.Runs os world (.error e, next) final) : Stale last ops next
  /-- A call is made in a world in which the journal cannot be read. -/
  | call {ops : List Operation} {runtime next : LoopbackRuntime} (h : Stale last ops runtime)
      {World : Type} {os : OperatingSystem World} {world final : World}
      {answer : Except IoError (List UInt8)} (hgives : os.Gives world runtime.journal answer)
      (unreadable : Unreadable answer runtime.applied) {caller : CageId} {syscall : SyscallNumber}
      {args : ArgumentVector} {ret : Int64}
      (hrun : (runtime.call caller syscall args).Runs os world (ret, next) final) :
      Stale last (ops ++ [.call caller syscall args]) next

/-- **A whole outage** leaves the table of the last sync, with the calls made to it. -/
theorem Stale.eq {ops : List Operation} (h : Stale last ops runtime) :
    runtime = { last with table := last.table.after ops } := by
  induction h with
  | synced => rfl
  | sync _ hrun ih => rw [eq_of_failed_sync hrun, ih]
  | @call ops runtime next _ World os world final answer hgives unreadable caller syscall args ret
      hrun ih =>
    obtain ⟨rfl, -⟩ := (answersGiven_of_unreadable runtime unreadable caller syscall args World os
      world hgives ret next final).mp hrun
    rw [after_snoc, ih]
    rfl

/-! ## Afterwards -/

/-- The bytes of its journal that a sync of a runtime applies: nothing when the journal cannot be
    read. -/
def unapplied (runtime : LoopbackRuntime) (answer : Except IoError (List UInt8)) : List UInt8 :=
  match answer with
  | .error _ => []
  | .ok bytes =>
    match Journal.reading bytes runtime.applied with
    | .error _ => []
    | .ok records =>
      (bytes.drop (byteLength * runtime.applied)).take (byteLength * records.length)

/-- What a runtime can come to that had counted nothing at first, with the bytes of its journal that
    were applied since.  The file may be another one each time it is read, and it may not be
    readable.  The runtime is called with any number but the reserved one. -/
inductive Followed (first : LoopbackRuntime) : List UInt8 → LoopbackRuntime → Prop where
  | start (uncounted : first.applied = 0) (keyed : first.table.Keyed) : Followed first [] first
  | sync {seen : List UInt8} {runtime next : LoopbackRuntime} (h : Followed first seen runtime)
      {World : Type} {os : OperatingSystem World} {world final : World}
      {answer : Except IoError (List UInt8)} (hgives : os.Gives world runtime.journal answer)
      {outcome : Except JournalError Nat}
      (hrun : runtime.sync.Runs os world (outcome, next) final) :
      Followed first (seen ++ runtime.unapplied answer) next
  | call {seen : List UInt8} {runtime next : LoopbackRuntime} (h : Followed first seen runtime)
      {World : Type} {os : OperatingSystem World} {world final : World}
      {answer : Except IoError (List UInt8)} (hgives : os.Gives world runtime.journal answer)
      {caller : CageId} {syscall : SyscallNumber} {args : ArgumentVector} {ret : Int64}
      (hsyscall : syscall ≠ Syscall.registerHandler)
      (hrun : (runtime.call caller syscall args).Runs os world (ret, next) final) :
      Followed first (seen ++ runtime.unapplied answer) next

/-- The bytes that a sync applies are the records it reads. -/
theorem unapplied_of_reading {bytes : List UInt8} {records : List JournalRecord}
    (hread : Journal.reading bytes runtime.applied = .ok records) :
    (runtime.unapplied (.ok bytes)).length = byteLength * records.length ∧
      Readable (runtime.unapplied (.ok bytes)) ∧
      recordsOf (runtime.unapplied (.ok bytes)) = records := by
  have hbytes : runtime.unapplied (.ok bytes) =
      (bytes.drop (byteLength * runtime.applied)).take (byteLength * records.length) := by
    unfold unapplied
    simp only [hread]
  have hcount : records.length = bytes.length / byteLength - runtime.applied := by
    rw [Journal.length_of_reading hread, length_chunks]
  have hfits : byteLength * records.length ≤
      (bytes.drop (byteLength * runtime.applied)).length := by
    rw [List.length_drop, hcount]
    unfold byteLength
    omega
  have hchunks : chunks (runtime.unapplied (.ok bytes)) =
      (chunks bytes).drop runtime.applied := by
    rw [hbytes, chunks_take hfits, chunks_drop]
    refine List.take_of_length_le (Nat.le_of_eq ?_)
    rw [List.length_drop, length_chunks, hcount]
  refine ⟨?_, ?_, ?_⟩
  · rw [hbytes, List.length_take_of_le hfits]
  · intro record hrecord
    rw [hchunks] at hrecord
    have hmem : ofBytes? record ∈ records.map some := by
      rw [← Journal.reading_eq_ok_iff.mp hread]
      exact List.mem_map_of_mem hrecord
    obtain ⟨r, -, hr⟩ := List.mem_map.mp hmem
    exact isSome_ofBytes?_iff.mp (by rw [← hr]; rfl)
  · unfold recordsOf
    rw [hchunks]
    exact Journal.filterMap_of_reading hread

/-- Two tables that calls and records cannot tell apart.  The counters of the dispatchers may
    differ. -/
structure Alike (table other : InterceptionTable) : Prop where
  agrees : table.Agrees other
  handlers : ∀ grate, table.handlers? grate = other.handlers? grate
  native : table.native = other.native

namespace Alike

variable {table other : InterceptionTable}

theorem refl (table : InterceptionTable) : Alike table table := ⟨.refl table, fun _ => rfl, rfl⟩

/-- **Calls** are not seen afterwards, but those of the reserved number. -/
theorem call (h : Alike table other) (keyed : table.Keyed) (caller : CageId)
    {syscall : SyscallNumber} (args : ArgumentVector)
    (hsyscall : syscall ≠ Syscall.registerHandler) :
    Alike (table.call caller syscall args).2 other where
  agrees := (table.call_agrees caller args hsyscall).trans h.agrees
  handlers grate :=
    (handlers?_perform keyed (.call caller syscall args) grate).trans (h.handlers grate)
  native := (native_perform table (.call caller syscall args)).trans h.native

theorem attach (h : Alike table other) (d : Dispatcher) :
    Alike (table.attach d).2 (other.attach d).2 where
  agrees := ((table.attach_agrees d).trans h.agrees).trans (other.attach_agrees d).symm
  handlers grate := by rw [handlers?_attach, handlers?_attach, h.handlers grate]
  native := h.native

/-- Whether there is a grate to attach is the same for both. -/
theorem ensureAttached (h : Alike table other) (catalog : GrateCatalog) (grate : GrateId) :
    Alike (ensureAttached catalog grate table) (ensureAttached catalog grate other) := by
  have hattached : table.isAttached grate = other.isAttached grate := by
    rw [← isSome_handlers?, ← isSome_handlers?, h.handlers grate]
  have hexited : table.hasExited grate.asCage = other.hasExited grate.asCage :=
    h.agrees.hasExited grate.asCage
  unfold LoopbackRuntime.ensureAttached
  rw [hattached, hexited]
  split
  · exact h
  · cases catalog grate with
    | none => exact h
    | some d => exact h.attach d

theorem apply (h : Alike table other) (r : JournalRecord) :
    Alike (r.apply table) (r.apply other) where
  agrees := h.agrees.apply r
  handlers grate := by rw [handlers?_apply, handlers?_apply, h.handlers grate]
  native := by
    have hnative (table : InterceptionTable) : (r.apply table).native = table.native := by
      rw [← r.perform_operation]
      exact native_perform table r.operation
    rw [hnative, hnative, h.native]

/-- **One record** keeps tables alike. -/
theorem applyRecord (h : Alike table other) (catalog : GrateCatalog) (r : JournalRecord) :
    Alike (applyRecord catalog table r) (applyRecord catalog other r) := by
  cases r with
  | register r => exact (h.ensureAttached catalog r.grate).apply (.register r)
  | revoke cage syscall => exact h.apply (.revoke cage syscall)
  | grateExit grate => exact h.apply (.grateExit grate)
  | cageExit cage => exact h.apply (.cageExit cage)

/-- **All of them** do. -/
theorem foldl_applyRecord (h : Alike table other) (catalog : GrateCatalog)
    (records : List JournalRecord) :
    Alike (records.foldl (LoopbackRuntime.applyRecord catalog) table)
      (records.foldl (LoopbackRuntime.applyRecord catalog) other) := by
  induction records generalizing table other with
  | nil => exact h
  | cons r records ih => exact ih (h.applyRecord catalog r)

end Alike

/-- Applying records leaves dispatchers under their grates. -/
theorem keyed_foldl_applyRecord (catalog : GrateCatalog) {table : InterceptionTable}
    (h : table.Keyed) (records : List JournalRecord) :
    (records.foldl (applyRecord catalog) table).Keyed := by
  rw [← Task.foldl_run_flatMap]
  induction records.flatMap Task.ofRecord generalizing table with
  | nil => exact h
  | cons task tasks ih => exact ih (keyed_run h task)

/-- Applying records is replaying them, for the attachments in between are quiet. -/
theorem foldl_applyRecord_agrees (catalog : GrateCatalog) {table other : InterceptionTable}
    (h : table.Agrees other) (records : List JournalRecord) :
    (records.foldl (applyRecord catalog) table).Agrees (replay records other) := by
  induction records generalizing table other with
  | nil => exact h
  | cons r records ih =>
    have hrecord : (applyRecord catalog table r).Agrees (r.apply other) := by
      cases r with
      | register r => exact ((ensureAttached_agrees catalog r.grate table).trans h).register r
      | revoke cage syscall => exact h.revoke cage syscall
      | grateExit grate => exact h.grateExited grate
      | cageExit cage => exact h.cageExited cage
    exact ih hrecord

/-- The runtime is where one reading of the bytes that were applied would have brought it. -/
structure Abreast (first : LoopbackRuntime) (seen : List UInt8) (runtime : LoopbackRuntime) :
    Prop where
  uncounted : first.applied = 0
  journal : runtime.journal = first.journal
  catalog : runtime.catalog = first.catalog
  length : seen.length = byteLength * runtime.applied
  readable : Readable seen
  keyed : runtime.table.Keyed
  table : Alike runtime.table (first.absorb (recordsOf seen)).table

namespace Abreast

variable {first : LoopbackRuntime} {seen : List UInt8}

theorem start (uncounted : first.applied = 0) (keyed : first.table.Keyed) :
    Abreast first [] first where
  uncounted := uncounted
  journal := rfl
  catalog := rfl
  length := by rw [uncounted]; rfl
  readable := readable_flatMap_encode []
  keyed := keyed
  table := by
    rw [show recordsOf [] = [] from recordsOf_flatMap_encode []]
    exact .refl first.table

/-- The bytes that were applied are whole records. -/
theorem whole (h : Abreast first seen runtime) : byteLength ∣ seen.length := by
  rw [h.length]
  exact Nat.dvd_mul_right _ _

theorem length_recordsOf (h : Abreast first seen runtime) :
    (recordsOf seen).length = runtime.applied := by
  rw [h.readable.length_recordsOf, h.length, Nat.mul_div_cancel_left _ (by decide)]

/-- What is absorbed behind the bytes that were applied is absorbed by one reading as well. -/
theorem absorb (h : Abreast first seen runtime) (records : List JournalRecord) :
    Alike (runtime.absorb records).table (first.absorb (recordsOf seen ++ records)).table := by
  have htable := h.table.foldl_applyRecord first.catalog records
  rw [← h.catalog] at htable
  show Alike (records.foldl _ _) ((recordsOf seen ++ records).foldl _ _)
  rw [List.foldl_append, ← h.catalog]
  exact h.catalog ▸ htable

/-- **Reading** brings the runtime where the bytes it applies do. -/
theorem afterReading (h : Abreast first seen runtime) (answer : Except IoError (List UInt8)) :
    Abreast first (seen ++ runtime.unapplied answer)
      (runtime.afterReading (Journal.found runtime.journal answer runtime.applied)) := by
  have hquiet : Abreast first (seen ++ []) runtime := by
    rw [List.append_nil]
    exact h
  cases answer with
  | error cause =>
    show Abreast first (seen ++ []) (LoopbackRuntime.afterReading runtime
      (if cause.isNotFound then .ok [] else Journal.failure runtime.journal cause))
    cases cause.isNotFound with
    | false => exact hquiet
    | true => exact hquiet
  | ok bytes =>
    show Abreast first _ (LoopbackRuntime.afterReading runtime
      (Journal.reading bytes runtime.applied))
    cases hread : Journal.reading bytes runtime.applied with
    | error e =>
      have hnone : runtime.unapplied (.ok bytes) = [] := by
        unfold unapplied
        simp only [hread]
      rw [hnone]
      exact hquiet
    | ok records =>
      obtain ⟨hlength, hreadable, hrecords⟩ := unapplied_of_reading hread
      constructor
      · exact h.uncounted
      · exact h.journal
      · exact h.catalog
      · show _ = byteLength * (runtime.applied + records.length)
        rw [List.length_append, h.length, hlength, Nat.mul_add]
      · exact Readable.append h.readable hreadable h.whole
      · exact keyed_foldl_applyRecord runtime.catalog h.keyed records
      · rw [recordsOf_append_of_whole h.whole, hrecords]
        exact h.absorb records

/-- **Calls** leave it there. -/
theorem respondSynced (h : Abreast first seen runtime) (caller : CageId) {syscall : SyscallNumber}
    (args : ArgumentVector) (hsyscall : syscall ≠ Syscall.registerHandler) :
    Abreast first seen { runtime with table := (runtime.table.call caller syscall args).2 } where
  uncounted := h.uncounted
  journal := h.journal
  catalog := h.catalog
  length := h.length
  readable := h.readable
  keyed := h.keyed.perform (.call caller syscall args)
  table := h.table.call h.keyed caller args hsyscall

end Abreast

/-- **A whole history** of syncs and calls keeps the runtime where its bytes have brought it. -/
theorem Followed.abreast {first : LoopbackRuntime} {seen : List UInt8}
    (h : Followed first seen runtime) : Abreast first seen runtime := by
  induction h with
  | start uncounted keyed => exact .start uncounted keyed
  | @sync seen runtime next _ World os world final answer hgives outcome hrun ih =>
    obtain ⟨houtcome, -⟩ := (runs_sync_of_gives hgives).mp hrun
    obtain ⟨-, rfl⟩ := Prod.mk.inj houtcome
    exact ih.afterReading answer
  | @call seen runtime next _ World os world final answer hgives caller syscall args ret hsyscall
      hrun ih =>
    obtain ⟨rfl, -⟩ := (answersGiven runtime answer caller syscall args World os world hgives ret
      next final).mp hrun
    exact (ih.afterReading answer).respondSynced caller args hsyscall

/-- A sync with its journal brings the runtime where it brings the runtime it was at first.  All the
    records of the journal are counted then; and if nothing had happened in the table at first, the
    table is the replay of the journal. -/
def CatchesUp (first runtime : LoopbackRuntime) (contents : JournalContents) : Prop :=
  ∃ next whole, runtime.SyncsTo contents next ∧ first.SyncsTo contents whole ∧
    next.applied = recordCount contents.bytes ∧ whole.applied = next.applied ∧
    Alike next.table whole.table ∧
    ∀ (writer : JournalWriter) (fresh : Native), writer.path = first.journal →
      first.table.Agrees (.new fresh) →
      ∃ rebuilt, Journal.Rebuilds writer fresh contents next.applied rebuilt ∧
        next.table.Agrees rebuilt

/-- **Catching up** with a file that begins with the bytes that were applied, and whose records all
    mean something. -/
theorem Abreast.catchesUp {first : LoopbackRuntime} {seen : List UInt8} {contents : JournalContents}
    (h : Abreast first seen runtime) (readable : Readable contents.bytes)
    (hfile : seen <+: contents.bytes) : CatchesUp first runtime contents := by
  obtain ⟨more, hmore⟩ := hfile
  have hrecords : recordsOf contents.bytes = recordsOf seen ++ recordsOf more := by
    rw [← hmore]
    exact recordsOf_append_of_whole h.whole
  have hread : Journal.reading contents.bytes runtime.applied = .ok (recordsOf more) := by
    rw [Journal.reading_of_readable readable, hrecords, List.drop_left' h.length_recordsOf]
  have hfirst : Journal.reading contents.bytes first.applied = .ok (recordsOf contents.bytes) := by
    rw [Journal.reading_of_readable readable, h.uncounted, List.drop_zero]
  have hcount : runtime.applied + (recordsOf more).length =
      (recordsOf contents.bytes).length := by
    rw [hrecords, List.length_append, h.length_recordsOf]
  have htable : Alike (runtime.absorb (recordsOf more)).table
      (first.absorb (recordsOf contents.bytes)).table := by
    rw [hrecords]
    exact h.absorb (recordsOf more)
  refine ⟨_, _, syncsTo_of_reading hread, syncsTo_of_reading hfirst, ?_, ?_, htable, ?_⟩
  · exact hcount.trans readable.length_recordsOf
  · show first.applied + (recordsOf contents.bytes).length = runtime.applied + _
    rw [h.uncounted, Nat.zero_add, hcount]
  · rintro writer fresh hpath hfresh
    have hrebuilds := Journal.rebuilds_of_readable writer fresh readable
    rw [← hcount] at hrebuilds
    refine ⟨_, hrebuilds, htable.agrees.trans ?_⟩
    exact foldl_applyRecord_agrees first.catalog hfresh (recordsOf contents.bytes)

/-! ## What a journal that cannot be read costs -/

/-- **A sync that fails changes nothing**, and costs nothing.

    * Whatever the operating system does, the runtime that a failed sync leaves is the one there
      was; and a sync fails exactly when the journal cannot be had or a record that was not counted
      means nothing, whatever stands around it.
    * After any failed syncs, and calls while the journal cannot be read, the runtime is the one of
      the last sync that succeeded with these calls made to its table; and the next such call is a
      call to that table.
    * Once the journal begins with the bytes that were applied, and all its records mean something,
      one sync catches up with it, whatever it was and whatever failed before. -/
theorem failed_sync_changes_nothing :
    (∀ (runtime next : LoopbackRuntime) (World : Type) (os : OperatingSystem World)
      (world final : World) (e : JournalError),
      runtime.sync.Runs os world (.error e, next) final → next = runtime) ∧
    (∀ (runtime : LoopbackRuntime) (answer : Except IoError (List UInt8)),
      runtime.FailsToSync answer ↔ Unreadable answer runtime.applied) ∧
    (∀ (last runtime : LoopbackRuntime) (ops : List Operation), Stale last ops runtime →
      runtime = { last with table := last.table.after ops } ∧
      ∀ (answer : Except IoError (List UInt8)) (caller : CageId) (syscall : SyscallNumber)
        (args : ArgumentVector), Unreadable answer last.applied →
        let called := (last.table.after ops).call caller syscall args
        runtime.AnswersGiven answer caller syscall args called.1 { last with table := called.2 }) ∧
    (∀ (first runtime : LoopbackRuntime) (seen : List UInt8) (contents : JournalContents),
      Followed first seen runtime → Readable contents.bytes → seen <+: contents.bytes →
      CatchesUp first runtime contents) := by
  refine ⟨?_, ?_, ?_, ?_⟩
  · intro runtime next World os world final e hrun
    exact eq_of_failed_sync hrun
  · intro runtime answer
    exact failsToSync_iff
  · intro last runtime ops hstale
    have hruntime : runtime = { last with table := last.table.after ops } := hstale.eq
    refine ⟨hruntime, fun answer caller syscall args unreadable => ?_⟩
    rw [hruntime]
    exact answersGiven_of_unreadable { last with table := last.table.after ops } unreadable caller
      syscall args
  · intro first runtime seen contents hfollowed readable hfile
    exact hfollowed.abreast.catchesUp readable hfile

/-- A grate is registered.  Then the journal holds its exit, a record that means nothing, and one
    more: the grate answers as before, and exits when the journal is mended. -/
theorem failed_sync_changes_nothing_bad_record :
    let catalog : GrateCatalog := fun grate =>
      if grate = ⟨2⟩ then some (.new ⟨2⟩ [.identity "geteuid" 7]) else none
    let first : LoopbackRuntime := .new (.ofText "journal") catalog Native.unsupported
    let registered : JournalRecord := .register ⟨⟨5⟩, ⟨107⟩, ⟨0⟩, ⟨2⟩⟩
    let mended := [registered, .grateExit ⟨2⟩].flatMap encode
    let bad := mended ++ List.replicate 40 9 ++ encode (.cageExit ⟨5⟩)
    let args : ArgumentVector := .ofOwner ⟨5⟩ (Vector.replicate 6 unusedWord)
    ∃ synced called : LoopbackRuntime, first.SyncsTo (some registered.encode) synced ∧
      synced.FailsToSync (.ok bad) ∧
      synced.AnswersGiven (.ok bad) ⟨5⟩ ⟨107⟩ args (.value 7) called ∧
      CatchesUp first called (some mended) := by
  intro catalog first registered mended bad args
  obtain ⟨-, hfails, hstale, hcatch⟩ := failed_sync_changes_nothing
  let good := registered.encode
  let synced := first.absorb [registered]
  let called : LoopbackRuntime :=
    { synced with table := (synced.table.call ⟨5⟩ ⟨107⟩ args).2 }
  have hread : Journal.reading (JournalContents.bytes (some good)) first.applied =
      .ok [registered] := by decide +kernel
  have hbad : Unreadable (.ok bad) synced.applied :=
    ⟨2, by decide, by decide +kernel, by decide +kernel⟩
  -- the outage: a call that is answered from the table of the sync before it
  have hreply : (synced.table.call ⟨5⟩ ⟨107⟩ args).1 = .value 7 := by decide +kernel
  have hanswers : synced.AnswersGiven (.ok bad) ⟨5⟩ ⟨107⟩ args (.value 7) called := by
    rw [← hreply]
    exact (hstale synced synced [] .synced).2 (.ok bad) ⟨5⟩ ⟨107⟩ args hbad
  -- the history: the sync, and the call
  have hgood : (answering (.ok good)).Gives () first.journal (.ok good) :=
    answering_gives (.ok good) first.journal
  have hsynced : first.sync.Runs (answering (.ok good)) () (.ok 1, synced) () := by
    have hfound : Journal.found first.journal (.ok good) first.applied = .ok [registered] := hread
    rw [runs_sync_of_gives hgood, hfound]
    exact ⟨rfl, rfl⟩
  have hgiven : (answering (.ok bad)).Gives () synced.journal (.ok bad) :=
    answering_gives (.ok bad) synced.journal
  have hcalled : (synced.call ⟨5⟩ ⟨107⟩ args).Runs (answering (.ok bad)) () (7, called) () :=
    (hanswers Unit _ () hgiven 7 called ()).mpr ⟨rfl, rfl, rfl⟩
  have hstart : Followed first [] first := .start rfl (Keyed.new Native.unsupported)
  have hfollowed := (hstart.sync hgood hsynced).call hgiven (by decide) hcalled
  have hseen : [] ++ first.unapplied (.ok good) ++ synced.unapplied (.ok bad) = good := by
    decide +kernel
  rw [hseen] at hfollowed
  have hcatches : CatchesUp first called (some mended) :=
    hcatch first called good (some mended) hfollowed (readable_flatMap_encode _)
      (List.prefix_append _ _)
  have hfailed : synced.FailsToSync (.ok bad) := (hfails synced (.ok bad)).mpr hbad
  exact ⟨synced, called, syncsTo_of_reading hread, hfailed, hanswers, hcatches⟩

end LoopbackRuntime

end Interposition
