/-
  Registering through the journal is registering.

  There are two ways to bring about a change.  A process that holds the table makes it there; a
  process that does not writes a record, and whoever wants the table replays the records.  The two
  ways check a registration in different places and at different times:

  * the table refuses at once what is malformed and what names the dead;
  * the journal refuses only what is malformed, for it knows nobody who has exited, and takes the
    rest.  The other half of the check is made when the record is replayed.

  So the statuses may differ, in one direction: a registration that comes too late is recorded, and
  answered with success, but has no effect.

  1. **One change** (`direct_agrees`): what a change does to a table, its record does to a table
     that agrees with it.  A record for a registration too late is in the file and does nothing.

  2. **A whole run** (`SideBySide.mirrors`): the file is the records of the changes, and replaying
     them gives the table, by induction on the changes.

  `journaled_agrees_with_direct` adds what each registration is answered on either side.
-/
import Interposition.Proofs.Journal.File

namespace Interposition.Journal

/-! ## Changes, made in two ways -/

/-- Something that changes who intercepts what. -/
inductive Change where
  | register (caller : CageId) (args : ArgumentVector)
  | revoke (cage : CageId) (syscall : SyscallNumber)
  | grateExit (grate : GrateId)
  | cageExit (cage : CageId)

namespace Change

/-- The table with a change made directly; a registration is a call. -/
def direct (table : InterceptionTable) : Change → InterceptionTable
  | .register caller args => (table.call caller Syscall.registerHandler args).2
  | .revoke cage syscall => (table.revoke cage syscall).2
  | .grateExit grate => (table.grateExited grate).2
  | .cageExit cage => (table.cageExited cage).2

/-- Whoever makes the call, if there is one, has not exited. -/
def CallerLives (table : InterceptionTable) : Change → Prop
  | .register caller _ => table.hasExited caller = false
  | _ => True

/-- A change made through the journal, which takes whatever it is given: a registration is a call on
    the channel, any other change is appended. -/
inductive Journaled (writer : JournalWriter) :
    Change → JournalContents → JournalContents → Prop where
  | register {caller : CageId} {args : ArgumentVector} {status : Int64}
      {contents next : JournalContents}
      (h : (writer.channel Syscall.registerHandler args.values).Runs (journalFile writer) contents
        status next)
      (written : status ≠ RegistrationError.io.toStatus) :
      Journaled writer (.register caller args) contents next
  | revoke {cage : CageId} {syscall : SyscallNumber} {contents next : JournalContents}
      (h : (writer.append (.revoke cage syscall)).Runs (journalFile writer) contents (.ok ())
        next) :
      Journaled writer (.revoke cage syscall) contents next
  | grateExit {grate : GrateId} {contents next : JournalContents}
      (h : (writer.append (.grateExit grate)).Runs (journalFile writer) contents (.ok ()) next) :
      Journaled writer (.grateExit grate) contents next
  | cageExit {cage : CageId} {contents next : JournalContents}
      (h : (writer.append (.cageExit cage)).Runs (journalFile writer) contents (.ok ()) next) :
      Journaled writer (.cageExit cage) contents next

end Change

/-- Changes made in both ways at once, on a table in which nothing has happened and on an empty
    journal. -/
inductive SideBySide (writer : JournalWriter) (native : Native) :
    List Change → InterceptionTable → JournalContents → Prop where
  | start : SideBySide writer native [] (.new native) (some [])
  | step {changes : List Change} {change : Change} {table : InterceptionTable}
      {contents next : JournalContents} (run : SideBySide writer native changes table contents)
      (lives : change.CallerLives table) (h : change.Journaled writer contents next) :
      SideBySide writer native (changes ++ [change]) (change.direct table) next

variable {writer : JournalWriter} {native : Native} {contents next : JournalContents}
  {table rebuilt : InterceptionTable}

/-! ## Records of changes -/

/-- The record that a change leaves in the journal, if it is not refused there. -/
def Change.record? : Change → Option JournalRecord
  | .register _ args =>
    if (Registration.ofWords args.values).WellFormed then some (.register (.ofWords args.values))
    else none
  | .revoke cage syscall => some (.revoke cage syscall)
  | .grateExit grate => some (.grateExit grate)
  | .cageExit cage => some (.cageExit cage)

theorem flatMap_toList_some (r : JournalRecord) :
    (some r).toList.flatMap JournalRecord.encode = r.encode := List.append_nil r.encode

/-- **A change through the journal** puts its record there, and nothing else. -/
theorem Change.journaled_iff {change : Change} :
    change.Journaled writer contents next ↔
      next = contents.extended (change.record?.toList.flatMap JournalRecord.encode) := by
  cases change with
  | register caller args =>
    by_cases hr : (Registration.ofWords args.values).WellFormed
    · have hrecord : (Change.register caller args).record? =
          some (.register (.ofWords args.values)) := if_pos hr
      rw [hrecord, flatMap_toList_some]
      constructor
      · rintro ⟨h, written⟩
        have hrecorded := JournalWriter.runs_channel_iff.mp ⟨h, written⟩
        rw [if_pos hr] at hrecorded
        exact hrecorded.2
      · intro hnext
        obtain ⟨h, written⟩ := JournalWriter.runs_channel_iff.mpr
          ((if_pos hr).mpr ⟨rfl, hnext⟩)
        exact .register h written
    · have hrecord : (Change.register caller args).record? = none := if_neg hr
      rw [hrecord]
      show _ ↔ next = contents.extended []
      rw [JournalContents.extended_nil]
      constructor
      · rintro ⟨h, written⟩
        have hrefused := JournalWriter.runs_channel_iff.mp ⟨h, written⟩
        rw [if_neg hr] at hrefused
        exact hrefused.2
      · intro hnext
        obtain ⟨h, written⟩ := JournalWriter.runs_channel_iff.mpr
          ((if_neg hr).mpr ⟨rfl, hnext⟩)
        exact .register h written
  | revoke cage syscall =>
    show _ ↔ next = contents.extended ((some _).toList.flatMap _)
    rw [flatMap_toList_some, ← JournalWriter.runs_append_iff]
    exact ⟨fun | .revoke h => h, .revoke⟩
  | grateExit grate =>
    show _ ↔ next = contents.extended ((some _).toList.flatMap _)
    rw [flatMap_toList_some, ← JournalWriter.runs_append_iff]
    exact ⟨fun | .grateExit h => h, .grateExit⟩
  | cageExit cage =>
    show _ ↔ next = contents.extended ((some _).toList.flatMap _)
    rw [flatMap_toList_some, ← JournalWriter.runs_append_iff]
    exact ⟨fun | .cageExit h => h, .cageExit⟩

/-- A registration that is refused changes nothing. -/
theorem register_of_refusal? {r : Registration} {e : RegistrationError}
    (h : table.refusal? r = some e) : table.register r = (.error e, table) := by
  rw [InterceptionTable.register_eq, h]

/-- **One change**: a table and a table that agrees with it, changed in the two ways. -/
theorem Change.direct_agrees {change : Change} (h : rebuilt.Agrees table)
    (lives : change.CallerLives table) :
    (JournalRecord.replay change.record?.toList rebuilt).Agrees (change.direct table) := by
  cases change with
  | register caller args =>
    have hcall : (table.call caller Syscall.registerHandler args).2 =
        (table.register (.ofWords args.values)).2 :=
      congrArg Prod.snd (InterceptionTable.call_registerHandler args lives)
    show (JournalRecord.replay (Option.toList (if _ then _ else _)) rebuilt).Agrees
      (table.call caller Syscall.registerHandler args).2
    rw [hcall]
    by_cases hr : (Registration.ofWords args.values).WellFormed
    · rw [if_pos hr]
      exact h.register _
    · obtain ⟨e, he, -⟩ := table.refusal?_of_malformed hr
      rw [if_neg hr, register_of_refusal? he]
      exact h
  | revoke cage syscall => exact h.revoke cage syscall
  | grateExit grate => exact h.grateExited grate
  | cageExit cage => exact h.cageExited cage

/-! ## Runs -/

/-- What the journal and the table have in common: the journal is a file of records, and the records
    make the table. -/
structure Mirrors (records : List JournalRecord) (table : InterceptionTable)
    (contents : JournalContents) : Prop where
  contents : contents = some (records.flatMap JournalRecord.encode)
  agrees : ∀ native, (JournalRecord.replay records (.new native)).Agrees table

/-- **A whole run** keeps journal and table in common. -/
theorem SideBySide.mirrors {changes : List Change}
    (h : SideBySide writer native changes table contents) :
    Mirrors (changes.filterMap Change.record?) table contents := by
  induction h with
  | start => exact ⟨rfl, fun native => ⟨rfl, rfl, rfl⟩⟩
  | @step changes change table contents next run lives h ih =>
    have hrecords : (changes ++ [change]).filterMap Change.record? =
        changes.filterMap Change.record? ++ change.record?.toList := by
      rw [List.filterMap_append]
      refine congrArg (_ ++ ·) ?_
      cases hrecord : change.record? <;> simp [hrecord]
    rw [hrecords]
    constructor
    · rw [Change.journaled_iff.mp h, ih.contents, List.flatMap_append]
      rfl
    · intro native
      rw [JournalRecord.replay_append]
      exact Change.direct_agrees (ih.agrees native) lives

/-- A file of records is replayed. -/
theorem rebuilds_flatMap_encode (writer : JournalWriter) (native : Native)
    (records : List JournalRecord) :
    Rebuilds writer native (some (records.flatMap JournalRecord.encode)) records.length
      (JournalRecord.replay records (.new native)) := by
  let contents : JournalContents := some (records.flatMap JournalRecord.encode)
  have hreadable : JournalRecord.Readable contents.bytes :=
    JournalRecord.readable_flatMap_encode records
  have hrecords : JournalRecord.recordsOf contents.bytes = records :=
    JournalRecord.recordsOf_flatMap_encode records
  have hrebuilds := rebuilds_of_readable writer native hreadable
  rw [hrecords] at hrebuilds
  exact hrebuilds

namespace Mirrors

variable {records : List JournalRecord}

theorem rebuilds (h : Mirrors records table contents) (native : Native) :
    Rebuilds writer native contents records.length
      (JournalRecord.replay records (.new native)) := by
  rw [h.contents]
  exact rebuilds_flatMap_encode writer native records

/-- A record that the table refuses is counted, and does nothing. -/
theorem rebuilds_late (h : Mirrors records table contents) {r : Registration}
    {e : RegistrationError} (hrefusal : table.refusal? r = some e) (native : Native) :
    Rebuilds writer native (contents.extended (JournalRecord.register r).encode)
      (records.length + 1) (JournalRecord.replay records (.new native)) := by
  have hlate : (JournalRecord.replay records (.new native)).refusal? r = some e :=
    ((h.agrees native).refusal? r).trans hrefusal
  have hreplay : JournalRecord.replay (records ++ [JournalRecord.register r]) (.new native) =
      JournalRecord.replay records (.new native) := by
    rw [JournalRecord.replay_append]
    exact congrArg Prod.snd (register_of_refusal? hlate)
  have hnext : contents.extended (JournalRecord.register r).encode =
      some ((records ++ [JournalRecord.register r]).flatMap JournalRecord.encode) := by
    rw [h.contents, List.flatMap_append, List.flatMap_singleton]
    rfl
  have hrebuilds := rebuilds_flatMap_encode writer native (records ++ [JournalRecord.register r])
  rw [hreplay, List.length_append] at hrebuilds
  rw [hnext]
  exact hrebuilds

/-- **A registration on both sides**, its caller being alive. -/
theorem verdict (h : Mirrors records table contents) {caller : CageId} {args : ArgumentVector}
    {status : Int64} (lives : table.hasExited caller = false)
    (hchannel : (writer.channel Syscall.registerHandler args.values).Runs (journalFile writer)
      contents status next) (written : status ≠ RegistrationError.io.toStatus) (native : Native) :
    let r := Registration.ofWords args.values
    let called := table.call caller Syscall.registerHandler args
    (called.1 = .value status ∨
      called.1 = .value Errno.esrch.status ∧ status = RegistrationError.accepted ∧
        called.2 = table ∧ ∃ count rebuilt, Rebuilds writer native contents count rebuilt ∧
          Rebuilds writer native next (count + 1) rebuilt) ∧
    (status = Errno.einval.status ↔ called.1 = .value Errno.einval.status) ∧
    (status = RegistrationError.accepted ∧
        next = contents.extended (JournalRecord.register r).encode ∨
      status ≠ RegistrationError.accepted ∧ next = contents) := by
  intro r called
  have hcalled : called = _ := InterceptionTable.call_registerHandler args lives
  have hrecorded := JournalWriter.runs_channel_iff.mp ⟨hchannel, written⟩
  by_cases hr : r.WellFormed
  · rw [if_pos hr] at hrecorded
    obtain ⟨rfl, hnext⟩ := hrecorded
    cases hrefusal : table.refusal? r with
    | none =>
      -- both sides grant it
      have hreply : called.1 = .value RegistrationError.accepted := by
        rw [hcalled, InterceptionTable.register_eq, hrefusal]
        rfl
      refine ⟨.inl hreply, ?_, .inl ⟨rfl, hnext⟩⟩
      rw [hreply]
      decide
    | some e =>
      -- it names the dead: the journal does not know, and records it
      rw [register_of_refusal? hrefusal] at hcalled
      have hstatus : e.toStatus = Errno.esrch.status := by
        rw [InterceptionTable.toStatus_of_refusal? hrefusal, if_pos hr]
      have hreply : called.1 = .value Errno.esrch.status := by
        rw [hcalled, ← hstatus]
        rfl
      have hlate : Rebuilds writer native next (records.length + 1)
          (JournalRecord.replay records (.new native)) := hnext ▸ h.rebuilds_late hrefusal native
      refine ⟨.inr ⟨hreply, rfl, by rw [hcalled], _, _, h.rebuilds native, hlate⟩, ?_,
        .inl ⟨rfl, hnext⟩⟩
      rw [hreply]
      decide
  · rw [if_neg hr] at hrecorded
    obtain ⟨rfl, rfl⟩ := hrecorded
    -- both sides refuse it, for the same words
    obtain ⟨e, he, hstatus⟩ := table.refusal?_of_malformed hr
    rw [register_of_refusal? he] at hcalled
    have hreply : called.1 = .value Errno.einval.status := by
      rw [hcalled, ← hstatus]
      rfl
    exact ⟨.inl hreply, iff_of_true rfl hreply, .inr ⟨by decide, rfl⟩⟩

end Mirrors

/-- **Direct and journaled operation agree.**  After any changes made in both ways, on a table and
    through a journal that takes all it is given, by callers that are alive:

    * replaying the journal gives one table, which agrees with the one the changes were made on in
      bindings, exits and trail;
    * the journal can take any further change;
    * a further registration is answered alike on either side, except that the table may answer
      that somebody has exited where the journal answers success, and then it changes neither the
      table nor what replaying the journal gives;
    * it is refused as malformed on either side or on neither;
    * it is recorded, once, exactly when the journal answers success. -/
theorem journaled_agrees_with_direct {changes : List Change}
    (run : SideBySide writer native changes table contents) (fresh : Native) :
    (∃ count rebuilt, Rebuilds writer fresh contents count rebuilt ∧ rebuilt.Agrees table) ∧
    (∀ change : Change, ∃ next, change.Journaled writer contents next) ∧
    ∀ caller args status next, table.hasExited caller = false →
      (writer.channel Syscall.registerHandler args.values).Runs (journalFile writer) contents
        status next → status ≠ RegistrationError.io.toStatus →
      let r := Registration.ofWords args.values
      let called := table.call caller Syscall.registerHandler args
      (called.1 = .value status ∨
        called.1 = .value Errno.esrch.status ∧ status = RegistrationError.accepted ∧
          called.2 = table ∧ ∃ count rebuilt, Rebuilds writer fresh contents count rebuilt ∧
            Rebuilds writer fresh next (count + 1) rebuilt) ∧
      (status = Errno.einval.status ↔ called.1 = .value Errno.einval.status) ∧
      (status = RegistrationError.accepted ∧
          next = contents.extended (JournalRecord.register r).encode ∨
        status ≠ RegistrationError.accepted ∧ next = contents) := by
  have hmirrors := run.mirrors
  refine ⟨⟨_, _, hmirrors.rebuilds fresh, hmirrors.agrees fresh⟩, ?_, ?_⟩
  · intro change
    exact ⟨_, Change.journaled_iff.mpr rfl⟩
  · intro caller args status next lives hchannel written
    exact hmirrors.verdict lives hchannel written fresh

/-- A registration that comes too late: the grate it names has exited. -/
theorem journaled_agrees_with_direct_too_late :
    let writer : JournalWriter := ⟨⟨3⟩, .ofText "journal"⟩
    let table := (Change.grateExit ⟨2⟩).direct (.new Native.unsupported)
    let contents := some (JournalRecord.grateExit ⟨2⟩).encode
    let args := ArgumentVector.ofOwner ⟨5⟩ #v[5, 107, 1, 2, 0, 0]
    let next := JournalContents.extended contents
      (JournalRecord.register ⟨⟨5⟩, ⟨107⟩, ⟨1⟩, ⟨2⟩⟩).encode
    SideBySide writer Native.unsupported [.grateExit ⟨2⟩] table contents ∧
    table.hasExited ⟨5⟩ = false ∧
    (writer.channel Syscall.registerHandler args.values).Runs (journalFile writer) contents
      RegistrationError.accepted next ∧
    (table.call ⟨5⟩ Syscall.registerHandler args).1 = .value Errno.esrch.status ∧
    ∃ count rebuilt, Rebuilds writer Native.unsupported contents count rebuilt ∧
      Rebuilds writer Native.unsupported next (count + 1) rebuilt := by
  intro writer table contents args next
  have hrun : SideBySide writer Native.unsupported [.grateExit ⟨2⟩] table contents :=
    .step .start trivial (Change.journaled_iff.mpr rfl)
  have hlives : table.hasExited ⟨5⟩ = false := by decide
  have hchannel : (writer.channel Syscall.registerHandler args.values).Runs (journalFile writer)
      contents RegistrationError.accepted next := by
    have hwords : Registration.ofWords args.values = ⟨⟨5⟩, ⟨107⟩, ⟨1⟩, ⟨2⟩⟩ := by
      decide +kernel
    have hr : (Registration.ofWords args.values).WellFormed := by
      rw [hwords]
      decide
    exact (JournalWriter.runs_channel_iff.mpr ((if_pos hr).mpr ⟨rfl, by rw [hwords]⟩)).1
  have hreply : (table.call ⟨5⟩ Syscall.registerHandler args).1 = .value Errno.esrch.status := by
    decide +kernel
  have hagree := (journaled_agrees_with_direct hrun Native.unsupported).2.2 ⟨5⟩ args
    RegistrationError.accepted next hlives hchannel (by decide)
  refine ⟨hrun, hlives, hchannel, hreply, ?_⟩
  rcases hagree.1 with hsame | ⟨-, -, -, hrebuilds⟩
  · rw [hreply] at hsame
    exact absurd hsame (by decide)
  · exact hrebuilds

end Interposition.Journal
