/-
  Status words are faithful.

  A refusal travels as one word, and whoever asked reads the word with nothing but its request beside
  it.  Which refusal it was may be lost on the way (`Proofs/Table/Verdicts`).  What is not lost is the
  word, and with it whether there was a refusal at all.

  1. **Numbers** (`numberOf_eq_iff`): a word is read by the number it is the negation of.  The least
     word is the negation of nothing, and zero stands for that, which is no error number; so the least
     word is not taken for one.

  2. **Reading and writing** (`ofStatus?_eq`, `toStatus_ofNumber`): what a word other than zero stands
     for is decided by its number, and written it is the same word again.

  3. **Clients** (`Channel.runs_register`): a client reports what it reads.  What that comes to on the
     channel of a table and on that of a journal is `InterceptionTable.runs_register_ok_iff` and
     `JournalWriter.runs_register_iff`: success is reported of what was granted, or recorded.
-/
import Interposition.Proofs.Journal.File
import Interposition.Proofs.Table.Verdicts

namespace Interposition

namespace RegistrationError

variable {status : Int64} {r : Registration} {e : RegistrationError}

/-! ## Numbers -/

/-- The number that a word is the negation of; zero for the least word, which is the negation of
    none. -/
def numberOf (status : Int64) : Int64 := if status = Int64.minValue then 0 else -status

/-- An error number negates a word exactly when the word is its status, the least word included. -/
theorem numberOf_eq_iff {errno : Errno} (h : errno.code ≠ 0) :
    numberOf status = errno.code.toInt64 ↔ status = errno.status := by
  have hwide : errno.code.toInt64.toInt = errno.code.toInt := Int32.toInt_toInt64 errno.code
  have hsmall : -2 ^ 31 ≤ errno.code.toInt := Int32.le_toInt errno.code
  have hzero : errno.code.toInt64 ≠ 0 := by
    rw [ne_eq, ← Int64.toInt_inj, hwide]
    exact fun heq => h (Int32.toInt_inj.mp heq)
  have hleast : errno.code.toInt64 ≠ Int64.minValue := by
    rw [ne_eq, ← Int64.toInt_inj, hwide, Int64.toInt_minValue]
    omega
  unfold numberOf Errno.status
  split
  · next heq =>
    subst heq
    refine iff_of_false (Ne.symm hzero) fun heq => hleast ?_
    rw [← Int64.neg_inj, ← heq]
    decide
  · rw [← Int64.neg_inj, Int64.neg_neg]

/-! ## Reading and writing -/

/-- The refusal that an error number stands for when it came in a status word. -/
def ofNumber (number status : Int64) (requested : Registration) : RegistrationError :=
  if number = Errno.einval.code.toInt64 then
    if Syscall.isReserved requested.syscall then .reserved requested.syscall
    else .invalid requested
  else if number = Errno.esrch.code.toInt64 then .exited requested.targetCage
  else if number = Errno.enosys.code.toInt64 then .unsupported
  else if number = Errno.eio.code.toInt64 then .io
  else .rejected status

/-- **Reading** goes by the number. -/
theorem ofStatus?_eq (status : Int64) (r : Registration) :
    ofStatus? status r =
      if status = accepted then none else some (ofNumber (numberOf status) status r) := by
  unfold ofStatus? ofNumber
  simp (disch := decide) only [numberOf_eq_iff, apply_ite some]

theorem ofStatus?_eq_none_iff : ofStatus? status r = none ↔ status = accepted := by
  rw [ofStatus?_eq]
  split
  · next h => exact iff_of_true rfl h
  · next h => exact iff_of_false nofun h

/-- **Writing** what was read gives the same word. -/
theorem toStatus_ofNumber (status : Int64) (r : Registration) :
    (ofNumber (numberOf status) status r).toStatus = status := by
  unfold ofNumber
  simp (disch := decide) only [numberOf_eq_iff]
  split_ifs with heinval _ hesrch henosys heio
  · exact heinval.symm
  · exact heinval.symm
  · exact hesrch.symm
  · exact henosys.symm
  · exact heio.symm
  · rfl

theorem ofStatus?_eq_some_iff :
    ofStatus? status r = some e ↔ status ≠ accepted ∧ e = ofNumber (numberOf status) status r := by
  rw [ofStatus?_eq]
  split
  · next h => exact iff_of_false nofun fun hread => hread.1 h
  · next h =>
    constructor
    · intro hread
      exact ⟨h, (Option.some.inj hread).symm⟩
    · rintro ⟨-, rfl⟩
      rfl

/-- A refusal that was read has the word it was read from. -/
theorem toStatus_of_ofStatus? (h : ofStatus? status r = some e) :
    e.toStatus = status ∧ status ≠ accepted := by
  obtain ⟨hrefused, rfl⟩ := ofStatus?_eq_some_iff.mp h
  exact ⟨toStatus_ofNumber status r, hrefused⟩

theorem check_eq_ok_iff : check status r = .ok () ↔ status = accepted := by
  rw [← ofStatus?_eq_none_iff (r := r)]
  unfold check
  cases ofStatus? status r <;> simp

theorem check_eq_error_iff : check status r = .error e ↔ ofStatus? status r = some e := by
  unfold check
  cases ofStatus? status r <;> simp

/-- What a client is told of a request that is refused for its words. -/
def ofMalformed (r : Registration) : RegistrationError :=
  if Syscall.isReserved r.syscall then .reserved r.syscall else .invalid r

end RegistrationError

open RegistrationError

/-! ## Clients -/

variable {World : Type} {os : OperatingSystem World} {world final : World} {r : Registration}

/-- **A client** reports what it reads, whatever the channel. -/
theorem Channel.runs_register {channel : Channel Program}
    {outcome : Except RegistrationError Unit} :
    (channel.register r).Runs os world outcome final ↔
      ∃ status, (channel.registerRaw r).Runs os world status final ∧ outcome = check status r := by
  unfold Channel.register
  rw [Program.runs_bind]
  constructor
  · rintro ⟨status, between, hraw, rfl, rfl⟩
    exact ⟨status, hraw, rfl⟩
  · rintro ⟨status, hraw, rfl⟩
    exact ⟨status, final, hraw, rfl, rfl⟩

/-- A client of a journal reports a malformed request as such, and that any other was recorded or
    could not be. -/
theorem JournalWriter.runs_register_iff {writer : JournalWriter}
    {outcome : Except RegistrationError Unit} :
    (writer.channel.register r).Runs os world outcome final ↔
      if r.WellFormed then
        ∃ result, (writer.appendRaw (.register r)).Runs os world result final ∧
          outcome = result.mapError fun _ => .io
      else outcome = .error (ofMalformed r) ∧ final = world := by
  have hwords : Registration.ofWords r.toWords = r := rfl
  rw [Channel.runs_register]
  unfold Channel.registerRaw channel
  simp only [hwords, ne_eq, not_true_eq_false, if_false]
  by_cases hr : r.WellFormed
  · have hnone : refusal? r = none := JournalWriter.refusal?_eq_none_iff.mpr hr
    simp only [hnone, if_pos hr, Program.runs_bind]
    constructor
    · rintro ⟨status, ⟨result, between, happend, hrest⟩, rfl⟩
      cases result with
      | ok =>
        obtain ⟨rfl, rfl⟩ := hrest
        exact ⟨.ok (), happend, rfl⟩
      | error cause =>
        obtain ⟨rfl, rfl⟩ := hrest
        exact ⟨.error cause, happend, rfl⟩
    · rintro ⟨result, happend, rfl⟩
      cases result with
      | ok => exact ⟨accepted, ⟨.ok (), final, happend, rfl, rfl⟩, rfl⟩
      | error cause => exact ⟨io.toStatus, ⟨.error cause, final, happend, rfl, rfl⟩, rfl⟩
  · obtain ⟨e, he, hstatus⟩ :=
      InterceptionTable.refusal?_of_malformed (InterceptionTable.new Native.unsupported) hr
    have hsome : refusal? r = some e := (JournalWriter.refusal?_eq r Native.unsupported).trans he
    have hcheck : check e.toStatus r = .error (ofMalformed r) := by
      rw [hstatus]
      exact check_einval r
    simp only [hsome, if_neg hr]
    constructor
    · rintro ⟨status, ⟨rfl, rfl⟩, rfl⟩
      exact ⟨hcheck, rfl⟩
    · rintro ⟨rfl, rfl⟩
      exact ⟨e.toStatus, ⟨rfl, rfl⟩, hcheck.symm⟩

namespace InterceptionTable

variable {table table' : InterceptionTable} {caller : CageId}

/-- No refusal of a table has the word of success. -/
theorem toStatus_of_register {e : RegistrationError} (h : (table.register r).1 = .error e) :
    e.toStatus ≠ accepted := by
  rw [register_eq] at h
  cases hrefusal : table.refusal? r with
  | none =>
    rw [hrefusal] at h
    contradiction
  | some refusal =>
    rw [hrefusal] at h
    exact (Except.error.inj h) ▸ toStatus_ne_accepted hrefusal

theorem statusOf_eq_accepted_iff :
    statusOf (table.register r).1 = accepted ↔ ∃ outcome, (table.register r).1 = .ok outcome := by
  cases hverdict : (table.register r).1 with
  | ok outcome => exact iff_of_true rfl ⟨outcome, rfl⟩
  | error e => exact iff_of_false (toStatus_of_register hverdict) nofun

/-- A request of the dead is read as the exit of its target, and leaves the table alone. -/
theorem run_register_of_exited (dead : table.hasExited caller = true) (r : Registration) :
    ((channel caller).register r).run table = pure (.error (.exited r.targetCage), table) := by
  have hcall : table.makeSyscall caller Syscall.registerHandler r.toWords =
      (.value Errno.esrch.status, table) :=
    call_of_exited (.ofOwner caller r.toWords) dead (by decide)
  have hread : check Errno.esrch.status r = .error (.exited r.targetCage) := check_esrch r
  unfold Channel.register Channel.registerRaw channel
  simp only [StateT.run_bind, StateT.run_modifyGet, hcall]
  show (pure (check Errno.esrch.status r, table) : Program _) = _
  rw [hread]

/-- **A client of a table** reports success exactly when it lives and the registration is granted. -/
theorem runs_register_ok_iff :
    (((channel caller).register r).run table).Runs os world (.ok (), table') final ↔
      table.hasExited caller = false ∧ (∃ outcome, table.register r = (.ok outcome, table')) ∧
        final = world := by
  cases hcaller : table.hasExited caller with
  | true =>
    rw [run_register_of_exited hcaller]
    exact iff_of_false (fun hruns => nomatch hruns.1) nofun
  | false =>
    rw [run_register hcaller]
    constructor
    · rintro ⟨hreported, rfl⟩
      obtain ⟨hok, rfl⟩ := Prod.mk.inj hreported
      obtain ⟨outcome, hverdict⟩ := statusOf_eq_accepted_iff.mp (check_eq_ok_iff.mp hok.symm)
      exact ⟨rfl, ⟨outcome, Prod.ext hverdict rfl⟩, rfl⟩
    · rintro ⟨-, ⟨outcome, hverdict⟩, rfl⟩
      rw [hverdict]
      exact ⟨rfl, rfl⟩

end InterceptionTable

/-- **Status words are faithful.**

    * A word is read as success exactly when it is zero.  Every other word, the least one included, is
      read as the refusal that its number stands for, and the refusal is written as the word again.
    * No refusal that is read has the word zero, and none that a table makes.
    * A client reports success on a channel exactly when the channel answers zero, and a refusal only
      when the channel answers its word.
    * A client of a table reports success exactly when it lives and its registration is granted, and a
      client of a journal exactly when its request is well-formed and has been recorded. -/
theorem status_words_are_faithful :
    (∀ (status : Int64) (r : Registration),
      (ofStatus? status r = none ↔ status = 0) ∧
      (status ≠ 0 → ∃ e, ofStatus? status r = some e ∧ e = ofNumber (numberOf status) status r ∧
        e.toStatus = status)) ∧
    (∀ (status : Int64) (r : Registration) e, ofStatus? status r = some e → e.toStatus ≠ 0) ∧
    (∀ (table : InterceptionTable) (r : Registration) e,
      (table.register r).1 = .error e → e.toStatus ≠ 0) ∧
    ∀ (World : Type) (os : OperatingSystem World) (world final : World) (r : Registration),
      (∀ channel : Channel Program,
        ((channel.register r).Runs os world (.ok ()) final ↔
          (channel.registerRaw r).Runs os world 0 final) ∧
        ∀ e, (channel.register r).Runs os world (.error e) final →
          e.toStatus ≠ 0 ∧ (channel.registerRaw r).Runs os world e.toStatus final) ∧
      (∀ (table table' : InterceptionTable) (caller : CageId),
        (((InterceptionTable.channel caller).register r).run table).Runs os world (.ok (), table')
            final ↔
          table.hasExited caller = false ∧ (∃ outcome, table.register r = (.ok outcome, table')) ∧
            final = world) ∧
      ∀ writer : JournalWriter,
        (writer.channel.register r).Runs os world (.ok ()) final ↔
          r.WellFormed ∧ (writer.appendRaw (.register r)).Runs os world (.ok ()) final := by
  refine ⟨?_, fun status r e hread => ?_, fun table r e => InterceptionTable.toStatus_of_register, ?_⟩
  · intro status r
    refine ⟨ofStatus?_eq_none_iff, fun hrefused => ?_⟩
    exact ⟨_, ofStatus?_eq_some_iff.mpr ⟨hrefused, rfl⟩, rfl, toStatus_ofNumber status r⟩
  · obtain ⟨hstatus, hrefused⟩ := toStatus_of_ofStatus? hread
    rw [hstatus]
    exact hrefused
  · intro World os world final r
    refine ⟨fun channel => ⟨?_, fun e hreported => ?_⟩, ?_, fun writer => ?_⟩
    · rw [Channel.runs_register]
      constructor
      · rintro ⟨status, hraw, hok⟩
        obtain rfl := check_eq_ok_iff.mp hok.symm
        exact hraw
      · intro hraw
        exact ⟨accepted, hraw, (check_eq_ok_iff.mpr rfl).symm⟩
    · obtain ⟨status, hraw, herror⟩ := Channel.runs_register.mp hreported
      obtain ⟨rfl, hrefused⟩ := toStatus_of_ofStatus? (check_eq_error_iff.mp herror.symm)
      exact ⟨hrefused, hraw⟩
    · intro table table' caller
      exact InterceptionTable.runs_register_ok_iff
    · rw [JournalWriter.runs_register_iff]
      split
      · next hr =>
        constructor
        · rintro ⟨result, happend, hok⟩
          cases result with
          | ok => exact ⟨hr, happend⟩
          | error cause => contradiction
        · rintro ⟨-, happend⟩
          exact ⟨.ok (), happend, rfl⟩
      · next hr => exact iff_of_false (fun hruns => nomatch hruns.1) fun hruns => hr hruns.1

/-- The least word, the word of a malformed request for the reserved number, a registration of a grate
    that has exited, and a journal asked for the reserved number. -/
theorem status_words_are_faithful_at_the_edges :
    let ordinary : Registration := ⟨⟨5⟩, ⟨107⟩, ⟨1⟩, ⟨2⟩⟩
    let wrong : Registration := ⟨⟨5⟩, ⟨400⟩, ⟨1⟩, ⟨2⟩⟩
    let table := (InterceptionTable.new Native.unsupported).after [.grateExited ⟨2⟩]
    let writer : JournalWriter := ⟨⟨3⟩, .ofText "journal"⟩
    ofStatus? Int64.minValue ordinary = some (.rejected Int64.minValue) ∧
    (.rejected Int64.minValue : RegistrationError).toStatus ≠ 0 ∧
    (∃ e, ofStatus? (-22) wrong = some e ∧ e = .reserved ⟨400⟩ ∧ e.toStatus = -22) ∧
    (table.register ordinary).1 = .error (.exited ⟨2⟩) ∧
    (.exited ⟨2⟩ : RegistrationError).toStatus ≠ 0 ∧
    ∃ status, (writer.channel.registerRaw wrong).Runs (journalFile writer) (some []) status (some []) ∧
      status ≠ 0 ∧
      ¬ (writer.channel.register wrong).Runs (journalFile writer) (some []) (.ok ()) (some []) := by
  intro ordinary wrong table writer
  obtain ⟨hwords, hread, htable, hclients⟩ := status_words_are_faithful
  have hleast : ofStatus? Int64.minValue ordinary = some (.rejected Int64.minValue) := by decide
  have hlate : (table.register ordinary).1 = .error (.exited ⟨2⟩) := rfl
  have hmalformed : ¬ wrong.WellFormed := by decide
  obtain ⟨hchannel, -, hjournal⟩ := hclients _ (journalFile writer) (some []) (some []) wrong
  have hreported : (writer.channel.register wrong).Runs (journalFile writer) (some [])
      (.error (.reserved ⟨400⟩)) (some []) :=
    JournalWriter.runs_register_iff.mpr ((if_neg hmalformed).mpr ⟨rfl, rfl⟩)
  obtain ⟨hrefused, hraw⟩ := (hchannel writer.channel).2 _ hreported
  refine ⟨hleast, hread _ _ _ hleast, (hwords (-22) wrong).2 (by decide), hlate,
    htable table ordinary _ hlate, _, hraw, hrefused, ?_⟩
  exact fun hok => hmalformed ((hjournal writer).mp hok).1

end Interposition
