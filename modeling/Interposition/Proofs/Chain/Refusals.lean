/-
  Setups that come to nothing.

  Before a child becomes a cage it makes its registrations one after the other, and it stops at the
  first that is refused.  What it has put in the journal by then is its own doing alone: it does not
  look at the journal, so nothing that others append in between makes a difference to it.

  1. **Writing that fails** (`writeAll_stops`): some of the bytes are in the file, and not all.

  2. **Why a registration is refused** (`Refusal`, `runs_channel_io`): its words are, or the
     journal cannot be written.

  3. **Setups** (`Stopped`, `leaves_of_boots`): the records of the registrations before the first
     that is refused, and of that one less than a whole record.
-/
import Interposition.Proofs.Chain.Children

namespace Interposition

variable {writer : JournalWriter} {contents next : JournalContents}

/-! ## Writing that fails -/

/-- A round in which writing fails has taken nothing, and there was something left to write. -/
theorem runs_writeRound_failed {rest : List UInt8} {cause : IoError}
    (h : (writeRound writer.file rest).Runs (journalFile writer) contents
      (.inr (.error cause)) next) :
    rest ≠ [] ∧ next = contents := by
  unfold writeRound at h
  cases rest with
  | nil => cases (Program.runs_pure.mp h).1
  | cons byte rest =>
    refine ⟨nofun, ?_⟩
    obtain ⟨answer, between, hanswer, h⟩ := h
    obtain ⟨taken, -, rfl, rfl⟩ | ⟨e, rfl, rfl⟩ := hanswer rfl
    · cases taken with
      | zero =>
        obtain ⟨-, rfl⟩ := Program.runs_pure.mp h
        exact JournalContents.extended_nil _
      | succ n => cases (Program.runs_pure.mp h).1
    · exact (Program.runs_pure.mp h).2

/-- **Writing that fails** has put some of the bytes in the file, but not all of them. -/
theorem writeAll_stops {bytes : List UInt8} {cause : IoError}
    (h : (Program.writeAll writer.file bytes).Runs (journalFile writer) contents (.error cause)
      next) :
    ∃ part, part <+: bytes ∧ part.length < bytes.length ∧ next = contents.extended part := by
  rw [writeAll_eq, Program.runs_iterate] at h
  generalize hresult : (Except.error cause : Except IoError Unit) = result at h
  induction h with
  | stop h =>
    subst hresult
    obtain ⟨hrest, rfl⟩ := runs_writeRound_failed h
    exact ⟨[], List.nil_prefix, List.length_pos_iff.mpr hrest,
      (JournalContents.extended_nil _).symm⟩
  | @again rest left _ contents between _ h _ ih =>
    -- what this round has taken, and then what the others take
    obtain ⟨taken, rfl, rfl⟩ := (runs_writeRound h).2 left rfl
    obtain ⟨part, hpart, hshort, rfl⟩ := ih hresult
    refine ⟨rest.take taken ++ part, ?_, ?_, JournalContents.extended_extended ..⟩
    · calc rest.take taken ++ part
          <+: rest.take taken ++ rest.drop taken := (List.prefix_append_right_inj _).mpr hpart
        _ = rest := List.take_append_drop taken rest
    · calc (rest.take taken ++ part).length
          < (rest.take taken ++ rest.drop taken).length := by
            rw [List.length_append, List.length_append]
            exact Nat.add_lt_add_left hshort _
        _ = rest.length := by rw [List.take_append_drop]

/-! ## Why a registration is refused -/

/-- A registration is refused with an error number: it is not well-formed, or its record cannot be
    written, and then some bytes of it may be in the journal. -/
inductive Refusal (r : Registration) : Errno → List UInt8 → Prop where
  | malformed (h : ¬r.WellFormed) : Refusal r .einval []
  | unwritten {part : List UInt8} (h : r.WellFormed)
      (hpart : part <+: (JournalRecord.register r).encode)
      (hshort : part.length < JournalRecord.byteLength) : Refusal r .eio part

/-- **The channel** says that the journal cannot be written only of a registration it would have
    recorded. -/
theorem JournalWriter.runs_channel_io {words : Vector Word 6}
    (h : (writer.channel Syscall.registerHandler words).Runs (journalFile writer) contents
      RegistrationError.io.toStatus next) :
    ∃ part, Refusal (.ofWords words) .eio part ∧ next = contents.extended part := by
  unfold channel at h
  rw [if_neg (not_not_intro rfl)] at h
  cases hrefusal : refusal? (Registration.ofWords words) with
  | some e =>
    -- whatever is refused for its words has another status
    have hmalformed : ¬(Registration.ofWords words).WellFormed := fun hr => by
      rw [refusal?_eq_none_iff.mpr hr] at hrefusal
      cases hrefusal
    obtain ⟨e', he', hstatus⟩ :=
      InterceptionTable.refusal?_of_malformed (.new Native.unsupported) hmalformed
    rw [← refusal?_eq, hrefusal] at he'
    cases he'
    simp only [hrefusal] at h
    obtain ⟨heq, -⟩ := Program.runs_pure.mp h
    rw [hstatus] at heq
    exact absurd heq (by decide)
  | none =>
    simp only [hrefusal] at h
    obtain ⟨result, between, happend, hrest⟩ := Program.runs_bind.mp h
    cases result with
    | ok => exact absurd (Program.runs_pure.mp hrest).1 (by decide)
    | error cause =>
      obtain ⟨-, rfl⟩ := Program.runs_pure.mp hrest
      obtain ⟨part, hpart, hshort, rfl⟩ := writeAll_stops happend
      rw [JournalRecord.length_encode] at hshort
      exact ⟨part, .unwritten (refusal?_eq_none_iff.mp hrefusal) hpart hshort, rfl⟩

namespace Chain

/-! ## Setups -/

variable {machine : Machine} {settings : Settings} {cage : CageId} {grate : GrateId}
  {parent pid : Pid} {errno : Errno} {records : List JournalRecord} {part : List UInt8}

/-- Registrations were stopped: the records of those before the first that was refused are in the
    journal, and of that one what its refusal has left. -/
inductive Stopped (cage : CageId) (grate : GrateId)
    (interceptions : List (SyscallNumber × HandlerIndex)) (errno : Errno) :
    List JournalRecord → List UInt8 → Prop where
  | intro {accepted rest : List (SyscallNumber × HandlerIndex)} {syscall : SyscallNumber}
      {handler : HandlerIndex} {records : List JournalRecord} {part : List UInt8}
      (split : interceptions = accepted ++ (syscall, handler) :: rest)
      (wellFormed : ∀ entry ∈ accepted,
        Registration.WellFormed ⟨cage, entry.1, entry.2, grate⟩)
      (refusal : Refusal ⟨cage, syscall, handler, grate⟩ errno part)
      (records_eq : records = accepted.map fun (syscall, handler) =>
        .register ⟨cage, syscall, handler, grate⟩) :
      Stopped cage grate interceptions errno records part

theorem Stopped.cons {interceptions : List (SyscallNumber × HandlerIndex)} {syscall : SyscallNumber}
    {handler : HandlerIndex} (h : Stopped cage grate interceptions errno records part)
    (hr : Registration.WellFormed ⟨cage, syscall, handler, grate⟩) :
    Stopped cage grate ((syscall, handler) :: interceptions) errno
      (.register ⟨cage, syscall, handler, grate⟩ :: records) part := by
  obtain ⟨rfl, hwellFormed, hrefusal, rfl⟩ := h
  exact .intro rfl (List.forall_mem_cons.mpr ⟨hr, hwellFormed⟩) hrefusal rfl

/-- **Registering** that is refused stops at the first registration that is. -/
theorem runs_registerSelf_refused {interceptions : List (SyscallNumber × HandlerIndex)}
    (h : (registerSelf writer.channel cage grate interceptions).Runs (journalFile writer) contents
      (some errno) next) :
    ∃ records part, Stopped cage grate interceptions errno records part ∧
      next = contents.extended (records.flatMap JournalRecord.encode ++ part) := by
  induction interceptions generalizing contents with
  | nil => cases (Program.runs_pure.mp h).1
  | cons interception rest ih =>
    obtain ⟨syscall, handler⟩ := interception
    obtain ⟨status, between, hregister, hrest⟩ := Program.runs_bind.mp h
    have hfirst {part : List UInt8}
        (hrefusal : Refusal ⟨cage, syscall, handler, grate⟩ errno part) :
        Stopped cage grate ((syscall, handler) :: rest) errno [] part :=
      @Stopped.intro _ _ _ _ [] rest syscall handler [] part rfl (fun _ => nofun) hrefusal rfl
    by_cases hio : status = RegistrationError.io.toStatus
    · -- the record of this one could not be written
      subst hio
      obtain ⟨part, hrefusal, rfl⟩ := JournalWriter.runs_channel_io hregister
      obtain ⟨heq, rfl⟩ := Program.runs_pure.mp hrest
      obtain rfl : errno = .eio := Option.some.inj heq
      exact ⟨[], part, hfirst hrefusal, rfl⟩
    · have houtcome := JournalWriter.runs_channel_iff.mp ⟨hregister, hio⟩
      split at houtcome
      · next hr =>
        obtain ⟨rfl, rfl⟩ := houtcome
        obtain ⟨records, part, hstopped, rfl⟩ := ih hrest
        refine ⟨_, part, hstopped.cons hr, ?_⟩
        rw [JournalContents.extended_extended, List.flatMap_cons, List.append_assoc]
        rfl
      · next hr =>
        obtain ⟨rfl, rfl⟩ := houtcome
        obtain ⟨heq, rfl⟩ := Program.runs_pure.mp hrest
        obtain rfl : errno = .einval := Option.some.inj heq
        exact ⟨[], [], hfirst (.malformed hr), (JournalContents.extended_nil _).symm⟩

/-- **Registering** that is not refused has registrations that are well-formed throughout. -/
theorem wellFormed_of_runs_registerSelf {interceptions : List (SyscallNumber × HandlerIndex)}
    (h : (registerSelf writer.channel cage grate interceptions).Runs (journalFile writer) contents
      none next) :
    ∀ entry ∈ interceptions, Registration.WellFormed ⟨cage, entry.1, entry.2, grate⟩ := by
  induction interceptions generalizing contents with
  | nil => exact fun _ => nofun
  | cons interception rest ih =>
    obtain ⟨status, between, hregister, hrest⟩ := Program.runs_bind.mp h
    by_cases hstatus : status = RegistrationError.accepted
    · have haccepted := JournalWriter.runs_channel_iff.mp ⟨hregister, by rw [hstatus]; decide⟩
      rw [if_neg (not_not_intro hstatus)] at hrest
      split at haccepted
      · next hr => exact List.forall_mem_cons.mpr ⟨hr, ih hrest⟩
      · rw [haccepted.1] at hstatus
        exact absurd hstatus (by decide)
    · rw [if_pos hstatus] at hrest
      exact nomatch hrest.1

/-- What a child has put in the journal when its setup is at its end: the records of the
    registrations that were accepted, and less than a whole record behind them. -/
inductive Leaves (settings : Settings) (cage : CageId) (grate : GrateId) :
    Option Errno → List JournalRecord → List UInt8 → Prop where
  | registered (wellFormed : ∀ entry ∈ settings.interceptions,
      Registration.WellFormed ⟨cage, entry.1, entry.2, grate⟩) :
      Leaves settings cage grate none (settings.registrations cage grate) []
  | stopped {errno : Errno} {records : List JournalRecord} {part : List UInt8}
      (h : Stopped cage grate settings.interceptions errno records part) :
      Leaves settings cage grate (some errno) records part

namespace Leaves

variable {outcome : Option Errno}

theorem length_lt (h : Leaves settings cage grate outcome records part) :
    part.length < JournalRecord.byteLength := by
  cases h with
  | registered => decide
  | stopped h =>
    obtain ⟨-, -, hrefusal, -⟩ := h
    cases hrefusal with
    | malformed => decide
    | unwritten _ _ hshort => exact hshort

/-- **The complete records** of a journal that was whole: those that were there, and those that were
    accepted. -/
theorem recordsOf_eq (h : Leaves settings cage grate outcome records part) {before : List UInt8}
    (hwhole : JournalRecord.byteLength ∣ before.length) :
    JournalRecord.recordsOf (before ++ (records.flatMap JournalRecord.encode ++ part)) =
      JournalRecord.recordsOf before ++ records := by
  have hpart : JournalRecord.recordsOf part = [] := by
    unfold JournalRecord.recordsOf
    rw [JournalRecord.chunks_of_short h.length_lt, List.filterMap_nil]
  rw [JournalRecord.recordsOf_append_of_whole hwhole,
    JournalRecord.recordsOf_append_of_whole (JournalRecord.dvd_length_flatMap_encode records),
    JournalRecord.recordsOf_flatMap_encode, hpart, List.append_nil]

end Leaves

/-- A child has put in the journal what its setup leaves. -/
def Wrote (settings : Settings) (cage : CageId) (grate : GrateId) (outcome : Option Errno)
    (written : List UInt8) : Prop :=
  ∃ records part, Leaves settings cage grate outcome records part ∧
    written = records.flatMap JournalRecord.encode ++ part

/-- **A setup** at its end, whatever was in the journal before. -/
theorem leaves_of_boots {before : List UInt8} {outcome : Option Errno} {after : JournalContents}
    (h : (setup settings ⟨machine.journal parent, machine.journalPath⟩ grate).Runs
      (boot machine parent pid) (some before) outcome after) :
    ∃ records part, Leaves settings (.ofPid pid) grate outcome records part ∧
      after = some (before ++ (records.flatMap JournalRecord.encode ++ part)) := by
  obtain ⟨who, between, ⟨rfl, rfl⟩, hregister⟩ := Program.runs_request_bind.mp h
  replace hregister := hregister.within boot_within
  cases outcome with
  | none =>
    refine ⟨_, [], .registered (wellFormed_of_runs_registerSelf hregister), ?_⟩
    rw [runs_registerSelf hregister, List.append_nil]
    rfl
  | some errno =>
    obtain ⟨records, part, hstopped, rfl⟩ := runs_registerSelf_refused hregister
    exact ⟨records, part, .stopped hstopped, rfl⟩

theorem wrote_of_boots {outcome : Option Errno} {written : List UInt8}
    (h : (setup settings ⟨machine.journal parent, machine.journalPath⟩ grate).Runs
      (boot machine parent pid) (some []) outcome (some written)) :
    Wrote settings (.ofPid pid) grate outcome written := by
  obtain ⟨records, part, hleaves, hwritten⟩ := leaves_of_boots h
  exact ⟨records, part, hleaves, Option.some.inj hwritten⟩

end Chain

end Interposition
