/-
  What a status says of the children behind it.

  A level of a chain reports the status of its first child that failed, a session that of its cage
  and then of its grate, and a program leaves its status between 0 and 255.  Zero is meant to say
  that nothing failed.

  1. **Ends** (`Termination.uncounted_iff`): a failed end counts as zero or less when its code is
     negative or its signal lies so far below zero that 128 more is not above it.  No end that a wait
     reports is such an end, as long as the code is not negative (`ReportedByWait.counted`).  Where
     128 more does not fit (`Termination.exitCode_eq_none_iff`), an end counts as nothing, and the
     program that asks for its status stops with another one than zero.

  2. **Levels** (`verdicts_differ_on_untold_ends`): a level that succeeded counts as zero, and one
     that names a failure counts as its first failure, at least one.  The two verdicts part on the
     records that tell of no end: they are failures to the one and nothing to the other.

  3. **Sessions** (`status_zero_iff_passed_or_hidden`): a session that passed leaves zero.  The others
     that do are named one by one (`Hides`): the cage's record tells of no end, or a failed end counts
     as zero or less.  There are none among the sessions whose ends both come from waits.
-/
import Interposition.Programs
import Mathlib.Tactic.Common

namespace Interposition

/-! ## Ends -/

namespace Termination

/-- A child that was not collected by somebody else did what it should if it ended with zero. -/
theorem isSuccess_iff {t : Termination} (h : t ≠ .vanished) :
    t.isSuccess = true ↔ t = .exited 0 := by
  cases t with
  | exited code => simp [isSuccess]
  | signaled => simp [isSuccess]
  | vanished => contradiction

/-- **An end has no status** when it is a signal so far out that 128 more does not fit. -/
theorem exitCode_eq_none_iff {t : Termination} :
    t.exitCode = none ↔ ∃ number, 2147483519 < number ∧ t = .signaled number := by
  cases t with
  | exited | vanished => simp [exitCode]
  | signaled number =>
    have hlow := number.le_toInt
    have h128 : (128 : Int32).toInt = 128 := rfl
    have hlast : (2147483519 : Int32).toInt = 2147483519 := rfl
    rw [exitCode, Checked.signed?_eq_none_iff, Int32.toInt_minValue, Int32.toInt_maxValue, h128]
    simp only [Termination.signaled.injEq, exists_eq_right', Int32.lt_iff_toInt_lt, hlast]
    omega

/-- 128 and a signal number are a status that is not above zero for a number far below zero. -/
theorem shell_nonpos_iff {number : Int32} :
    (∃ code ≤ 0, Checked.signed? 128 number = some code) ↔ number ≤ -128 := by
  have hlow := number.le_toInt
  have h128 : (128 : Int32).toInt = 128 := rfl
  have hzero : (0 : Int32).toInt = 0 := rfl
  have hminus : (-128 : Int32).toInt = -128 := rfl
  simp only [Checked.signed?_eq_some_iff, Int32.le_iff_toInt_le, h128, hzero, hminus]
  refine ⟨fun ⟨code, hcode, hsum⟩ => by omega, fun hnumber => ?_⟩
  refine ⟨128 + number, ?_, ?_⟩ <;>
    rw [Int32.toInt_add, h128, Int.bmod_eq_of_le_mul_two (by omega) (by omega)]
  omega

/-- A failure that counts as zero or less. -/
def Uncounted (t : Termination) : Prop :=
  t.isSuccess = false ∧ ∃ code ≤ 0, t.exitCode = some code

/-- **The failures that count as zero or less**: a negative code, or a signal that 128 more does not
    bring above zero. -/
theorem uncounted_iff {t : Termination} :
    t.Uncounted ↔ (∃ code < 0, t = .exited code) ∨ ∃ number ≤ -128, t = .signaled number := by
  cases t with
  | exited code =>
    have hnegative : code ≠ 0 ∧ code ≤ 0 ↔ code < 0 :=
      ⟨fun ⟨hne, hle⟩ => Int32.lt_of_le_of_ne hle hne,
        fun hlt => ⟨Int32.ne_of_lt hlt, Int32.le_of_lt hlt⟩⟩
    simpa [Uncounted, isSuccess, exitCode] using hnegative
  | signaled number => simpa [Uncounted, isSuccess, exitCode] using shell_nonpos_iff
  | vanished => simp [Uncounted, isSuccess]

/-- An end that a wait reported, with no negative code. -/
def ReportedByWait (t : Termination) : Prop :=
  (∃ code, 0 ≤ code ∧ ofWaitStatus? (.exited code) = some t) ∨
    ∃ signal core, ofWaitStatus? (.signaled signal core) = some t

/-- What a wait reports counts as more than zero when it is a failure. -/
theorem ReportedByWait.counted {t : Termination} (h : t.ReportedByWait) : ¬ t.Uncounted := by
  rw [uncounted_iff]
  rintro (⟨code, hnegative, rfl⟩ | ⟨number, hfar, rfl⟩)
  · obtain ⟨code', hpos, hcode⟩ | ⟨signal, core, hsignal⟩ := h
    · obtain rfl : code' = code := by simpa [ofWaitStatus?] using hcode
      exact Int32.not_lt.mpr hpos hnegative
    · simp [ofWaitStatus?] at hsignal
  · obtain ⟨code', hpos, hcode⟩ | ⟨signal, core, hsignal⟩ := h
    · simp [ofWaitStatus?] at hcode
    · obtain rfl : signal.number = number := by simpa [ofWaitStatus?] using hsignal
      revert hfar
      cases signal <;> decide

end Termination

/-- What a program leaves of a status is zero only if the status is not above it. -/
theorem Programs.clamped_eq_zero_iff {status : Int32} :
    Programs.clamped status = 0 ↔ status ≤ 0 := by
  show (if (0 : Int32) ≤ (if status ≤ 255 then status else 255)
    then (if status ≤ 255 then status else 255) else 0) = 0 ↔ _
  simp only [← Int32.not_lt]
  grind

/-- A program that comes to no status does not leave zero. -/
theorem Programs.leaves_eq_zero_iff {status? : Option Int32} :
    Programs.leaves status? = 0 ↔ ∃ status ≤ 0, status? = some status := by
  cases status? with
  | none => exact iff_of_false (by decide) nofun
  | some status => simp [Programs.leaves, Programs.clamped_eq_zero_iff]

/-! ## Records -/

namespace ProcessRecord

/-- A record that tells of a failure. -/
def Failed (r : ProcessRecord) (t : Termination) : Prop :=
  r.termination = some t ∧ t.isSuccess = false

/-- A record that tells of no failure: of a success, or of no end at all. -/
def Silent (r : ProcessRecord) : Prop := r.succeeded = true ∨ r.termination = none

/-- A record succeeded when it tells of an end that did what it should. -/
theorem succeeded_iff {r : ProcessRecord} :
    r.succeeded = true ↔ ∃ t, r.termination = some t ∧ t.isSuccess = true := by
  unfold succeeded
  cases r.termination <;> simp

theorem silent_iff {r : ProcessRecord} :
    r.Silent ↔ ∀ t, r.termination = some t → t.isSuccess = true := by
  unfold Silent
  rw [succeeded_iff]
  cases r.termination <;> simp

/-- A record that tells of a failure that counts as zero or less. -/
def Uncounted (r : ProcessRecord) : Prop := ∃ t, r.termination = some t ∧ t.Uncounted

/-- A record of a child whose end a wait reported, or somebody else's wait, or nobody's yet. -/
def ToldByWait (r : ProcessRecord) : Prop :=
  ∀ t, r.termination = some t → t = .vanished ∨ t.ReportedByWait

theorem ToldByWait.counted {r : ProcessRecord} (h : r.ToldByWait) : ¬ r.Uncounted := by
  rintro ⟨t, hend, huncounted⟩
  obtain rfl | hreported := h t hend
  · exact absurd huncounted.1 (by decide)
  · exact hreported.counted huncounted

/-- A record that tells of a failure is not one that tells of none. -/
theorem Failed.not_silent {r : ProcessRecord} {t : Termination} (h : r.Failed t) : ¬ r.Silent :=
  fun hsilent => absurd (silent_iff.mp hsilent t h.1) (by simp [h.2])

theorem Uncounted.failed {r : ProcessRecord} (h : r.Uncounted) :
    ∃ t, r.Failed t ∧ ∃ code ≤ 0, t.exitCode = some code := by
  obtain ⟨t, hend, hfailed, hcode⟩ := h
  exact ⟨t, ⟨hend, hfailed⟩, hcode⟩

theorem silent_or_failed (r : ProcessRecord) : r.Silent ∨ ∃ t, r.Failed t := by
  rw [silent_iff]
  unfold Failed
  cases r.termination <;> simp

end ProcessRecord

/-! ## Levels -/

namespace ChainReport

variable {depth : UInt32} {r : ProcessRecord} {rest : List ProcessRecord} {t : Termination}

/-- A child that failed counts as more than zero. -/
theorem failed_pos (status : Int32) : 0 < max status 1 := by
  show 0 < if status ≤ 1 then 1 else status
  split
  · decide
  · next hgreater => exact Int32.lt_trans (by decide) (Int32.not_le.mp hgreater)

/-- A child that failed counts as more than zero, if it counts as anything. -/
theorem pos_of_raised {status? : Option Int32} {code : Int32}
    (h : status?.map (max · 1) = some code) : 0 < code := by
  obtain ⟨status, -, rfl⟩ := Option.map_eq_some_iff.mp h
  exact failed_pos status

/-- No report counts as less than zero. -/
theorem exitCode_nonneg {report : ChainReport} {code : Int32} (h : report.exitCode = some code) :
    0 ≤ code := by
  unfold exitCode at h
  split at h
  · cases h
    decide
  · split at h
    · exact Int32.le_of_lt (pos_of_raised h)
    · cases h
      exact Int32.le_refl 0

/-- A child that could not be started counts as one. -/
theorem exitCode_of_failures {report : ChainReport} (h : report.failures ≠ []) :
    report.exitCode = some 1 := by
  simp [exitCode, h]

/-- A record that tells of no failure does not count. -/
theorem exitCode_cons_of_silent (h : r.Silent) :
    exitCode ⟨depth, r :: rest, []⟩ = exitCode ⟨depth, rest, []⟩ := by
  rw [ProcessRecord.silent_iff] at h
  unfold exitCode
  cases hend : r.termination with
  | none => rw [List.filterMap_cons_none hend]
  | some t =>
    rw [List.filterMap_cons_some hend, List.find?_cons_of_neg (by simpa using h t hend)]

/-- A record that tells of a failure hides every later one. -/
theorem exitCode_cons_of_failed (h : r.Failed t) :
    exitCode ⟨depth, r :: rest, []⟩ = t.exitCode.map (max · 1) := by
  unfold exitCode
  rw [List.filterMap_cons_some h.1, List.find?_cons_of_pos (by simpa using h.2)]
  rfl

/-- **A report counts as zero** when no child failed to start and none is recorded as a failure. -/
theorem exitCode_eq_zero_iff {report : ChainReport} :
    report.exitCode = some 0 ↔ report.failures = [] ∧
      ∀ r ∈ report.records, ∀ t, r.termination = some t → t.isSuccess = true := by
  obtain ⟨depth, records, failures⟩ := report
  cases failures with
  | cons => simp [exitCode]
  | nil =>
    simp only [true_and, ← ProcessRecord.silent_iff]
    induction records with
    | nil => exact ⟨fun _ _ hmem => absurd hmem List.not_mem_nil, fun _ => rfl⟩
    | cons r rest ih =>
      obtain hsilent | ⟨t, hfailed⟩ := r.silent_or_failed
      · rw [exitCode_cons_of_silent hsilent, ih, List.forall_mem_cons]
        exact (and_iff_right hsilent).symm
      · rw [exitCode_cons_of_failed hfailed, List.forall_mem_cons]
        exact iff_of_false (fun hzero => Int32.lt_irrefl (pos_of_raised hzero))
          fun h => hfailed.not_silent h.1

/-- A program leaves zero for a level that counts as zero, and for no other. -/
theorem leaves_exitCode_eq_zero_iff {report : ChainReport} :
    Programs.leaves report.exitCode = 0 ↔ report.exitCode = some 0 := by
  rw [Programs.leaves_eq_zero_iff]
  refine ⟨fun ⟨code, hnonpos, hcode⟩ => ?_, fun hcode => ⟨0, Int32.le_refl 0, hcode⟩⟩
  rw [hcode, Int32.le_antisymm hnonpos (exitCode_nonneg hcode)]

/-- The first failure of a list of records, after the records that tell of none. -/
def FirstFailure (records : List ProcessRecord) (r : ProcessRecord) (t : Termination) : Prop :=
  ∃ before after, records = before ++ r :: after ∧ (∀ earlier ∈ before, earlier.Silent) ∧ r.Failed t

/-- **The first failure** is what a level counts as, raised to one. -/
theorem exitCode_of_firstFailure {records : List ProcessRecord}
    (h : FirstFailure records r t) :
    exitCode ⟨depth, records, []⟩ = t.exitCode.map (max · 1) := by
  obtain ⟨before, after, rfl, hsilent, hfailed⟩ := h
  induction before with
  | nil => exact exitCode_cons_of_failed hfailed
  | cons earlier before ih =>
    obtain ⟨hearlier, hbefore⟩ := List.forall_mem_cons.mp hsilent
    rw [List.cons_append, exitCode_cons_of_silent hearlier]
    exact ih hbefore

/-- Where a record tells of a failure, some record tells of the first. -/
theorem exists_firstFailure {records : List ProcessRecord} (h : ¬ ∀ r ∈ records, r.Silent) :
    ∃ r t, FirstFailure records r t := by
  induction records with
  | nil => exact absurd (fun _ hmem => absurd hmem List.not_mem_nil) h
  | cons r rest ih =>
    obtain hsilent | ⟨t, hfailed⟩ := r.silent_or_failed
    · obtain ⟨first, t, before, after, rfl, hbefore, hfailed⟩ :=
        ih fun hrest => h (List.forall_mem_cons.mpr ⟨hsilent, hrest⟩)
      exact ⟨first, t, r :: before, after, rfl, List.forall_mem_cons.mpr ⟨hsilent, hbefore⟩, hfailed⟩
    · exact ⟨r, t, [], rest, rfl, fun _ hmem => absurd hmem List.not_mem_nil, hfailed⟩

/-- A level succeeded when no child failed to start and each record tells of a success. -/
theorem succeeded_eq_true_iff {report : ChainReport} :
    report.succeeded = true ↔ report.failures = [] ∧ ∀ r ∈ report.records, r.succeeded = true := by
  simp [succeeded]

/-- **The two verdicts of a level.**  A level that succeeded counts as zero.  One that counts as zero
    and did not succeed has a record that tells of no end, and none that tells of a failure.  One that
    did not succeed otherwise counts as one for a child that could not be started, and else as the
    first failure that a record tells of, at least one.  It counts as nothing where that failure
    does. -/
theorem verdicts_differ_on_untold_ends (report : ChainReport) :
    (report.exitCode = some 0 ↔ report.succeeded = true ∨
      (report.failures = [] ∧ (∀ r ∈ report.records, r.Silent) ∧
        ∃ r ∈ report.records, r.termination = none)) ∧
    (report.failures ≠ [] → report.exitCode = some 1) ∧
    (report.failures = [] → (∃ r ∈ report.records, ∃ t, r.Failed t) →
      ∃ r t, FirstFailure report.records r t ∧ report.exitCode = t.exitCode.map (max · 1) ∧
        ∀ code, report.exitCode = some code → 0 < code) := by
  refine ⟨?_, exitCode_of_failures, fun hfailures ⟨r, hr, t, hfailed⟩ => ?_⟩
  · rw [exitCode_eq_zero_iff, succeeded_eq_true_iff]
    simp only [← ProcessRecord.silent_iff]
    refine ⟨fun ⟨hfailures, hsilent⟩ => ?_, ?_⟩
    · by_cases hmissing : ∃ r ∈ report.records, r.termination = none
      · exact .inr ⟨hfailures, hsilent, hmissing⟩
      · exact .inl ⟨hfailures, fun r hr =>
          (hsilent r hr).resolve_right fun hnone => hmissing ⟨r, hr, hnone⟩⟩
    · rintro (⟨hfailures, hsucceeded⟩ | ⟨hfailures, hsilent, -⟩)
      · exact ⟨hfailures, fun r hr => .inl (hsucceeded r hr)⟩
      · exact ⟨hfailures, hsilent⟩
  · obtain ⟨first, ending, hfirst⟩ :=
      exists_firstFailure fun hsilent => hfailed.not_silent (hsilent r hr)
    have hcode : report.exitCode = ending.exitCode.map (max · 1) := by
      obtain ⟨depth, records, failures⟩ := report
      obtain rfl : failures = [] := hfailures
      exact exitCode_of_firstFailure hfirst
    exact ⟨first, ending, hfirst, hcode, fun code h => pos_of_raised (hcode ▸ h)⟩

/-- A level that has one record, and it tells of no end, counts as zero without having succeeded. -/
theorem verdicts_differ_on_one_untold_end :
    ¬ ∀ report : ChainReport, report.exitCode = some 0 ↔ report.succeeded = true := by
  intro h
  have hagree := h ⟨1, [.new .cage "x" 0], []⟩
  exact absurd (hagree.mp rfl) (by decide)

end ChainReport

/-! ## Sessions -/

/-- The classic signals stand in the order of their numbers. -/
theorem Signal.number_of_named {i : Nat} {signal : Signal} {name : String}
    (h : Signal.named[i]? = some (signal, name)) : signal.number = Int32.ofNat (i + 1) := by
  have hnumbers : ∀ i : Fin named.length, (named.get i).1.number = Int32.ofNat (i.val + 1) := by
    decide
  obtain ⟨hlt, hat⟩ := List.getElem?_eq_some_iff.mp h
  exact (congrArg (fun entry : Signal × String => entry.1.number) hat).symm.trans (hnumbers ⟨i, hlt⟩)

/-- A number is that of the one classic signal that has it. -/
theorem Signal.ofNumber?_eq_some_iff {number : Int32} {signal : Signal} :
    Signal.ofNumber? number = some signal ↔ number = signal.number := by
  constructor
  · intro h
    unfold ofNumber? at h
    split at h
    · contradiction
    · next hclassic =>
      obtain ⟨⟨signal, name⟩, hat, rfl⟩ := Option.map_eq_some_iff.mp h
      have hone : 1 ≤ number.toInt := Int32.le_iff_toInt_le.mp (Int32.not_lt.mp hclassic)
      have hfits := number.toInt_lt
      apply Int32.toInt_inj.mp
      rw [number_of_named hat, Int32.toInt_ofNat_of_lt (by omega)]
      omega
  · rintro rfl
    cases signal <;> decide

/-- An end that is no failure, or the grate's being stopped, counts as nothing. -/
theorem Termination.signal?_eq_stopping_iff {t : Termination} :
    t.signal? = some Signal.stopping ↔ t = .signaled Signal.stopping.number := by
  cases t with
  | signaled number => simp [signal?, Signal.ofNumber?_eq_some_iff]
  | exited | vanished => simp [signal?]

namespace SessionReport

variable {report : SessionReport}

/-- The grate did what it should: it ended well, or it was stopped, as a grate is meant to end. -/
def GrateHeld (report : SessionReport) : Prop :=
  report.grate.succeeded = true ∨
    report.grate.termination = some (.signaled Signal.stopping.number)

/-- A session that passed: the cage ended well, and the grate did what it should. -/
structure Passed (report : SessionReport) : Prop where
  cage : report.cage.succeeded = true
  grate : report.GrateHeld

/-- The ways to leave zero without having passed. -/
inductive Hides (report : SessionReport) : Prop
  /-- The cage's failure counts as zero or less, whatever became of the grate. -/
  | uncountedCage (hcage : report.cage.Uncounted)
  /-- The grate's failure counts as zero or less, and no failure is told of the cage. -/
  | uncountedGrate (hcage : report.cage.Silent) (hgrate : report.grate.Uncounted)
  /-- Nothing is told of the cage's end, which passes for a good one. -/
  | untoldCage (hcage : report.cage.termination = none) (hgrate : report.GrateHeld)

/-- A failed cage decides the status. -/
theorem exitCode_of_failed_cage {t : Termination} (h : report.cage.Failed t) :
    report.exitCode = t.exitCode := by
  simp [exitCode, h.1, h.2]

/-- Without a failed cage the grate decides the status. -/
theorem exitCode_nonpos_of_silent_cage (h : report.cage.Silent) :
    (∃ code ≤ 0, report.exitCode = some code) ↔ report.GrateHeld ∨ report.grate.Uncounted := by
  have hcage : (report.cage.termination.getD .vanished).isSuccess = true := by
    rw [ProcessRecord.silent_iff] at h
    cases hend : report.cage.termination with
    | none => rfl
    | some t => exact h t hend
  unfold exitCode GrateHeld ProcessRecord.Uncounted
  rw [ProcessRecord.succeeded_iff]
  simp only [hcage, Bool.not_true, Bool.false_eq_true, if_false]
  cases report.grate.termination with
  | none => simp
  | some t =>
    simp only [Option.some.injEq, exists_eq_left', Termination.signal?_eq_stopping_iff]
    split
    · next hheld => exact iff_of_true ⟨0, Int32.le_refl 0, rfl⟩ (.inl hheld)
    · next hfailed =>
      rw [or_iff_right hfailed]
      simp only [not_or, Bool.not_eq_true] at hfailed
      exact (and_iff_right hfailed.1).symm

/-- A grate that did what it should does not count. -/
theorem GrateHeld.counted (h : report.GrateHeld) : ¬ report.grate.Uncounted := by
  intro huncounted
  obtain ⟨t, hfailed, code, hnonpos, hcode⟩ := huncounted.failed
  obtain hsucceeded | hstopped := h
  · exact hfailed.not_silent (.inl hsucceeded)
  · obtain rfl : _ = t := Option.some.inj (hstopped.symm.trans hfailed.1)
    obtain rfl : 143 = code := Option.some.inj hcode
    exact absurd hnonpos (by decide)

/-- No session that passed hides anything. -/
theorem Passed.not_hides (h : report.Passed) : ¬ report.Hides := by
  rintro (hcage | ⟨-, hgrate⟩ | ⟨hnone, -⟩)
  · obtain ⟨t, hfailed, -⟩ := hcage.failed
    exact hfailed.not_silent (.inl h.cage)
  · exact h.grate.counted hgrate
  · obtain ⟨t, hend, -⟩ := ProcessRecord.succeeded_iff.mp h.cage
    rw [hnone] at hend
    contradiction

/-- The status is zero or less when the session passed, or hides that it did not. -/
theorem exitCode_nonpos_iff (report : SessionReport) :
    (∃ code ≤ 0, report.exitCode = some code) ↔ report.Passed ∨ report.Hides := by
  obtain hsilent | ⟨t, hfailed⟩ := report.cage.silent_or_failed
  · rw [exitCode_nonpos_of_silent_cage hsilent]
    constructor
    · rintro (hheld | hgrate)
      · obtain hcage | huntold := hsilent
        · exact .inl ⟨hcage, hheld⟩
        · exact .inr (.untoldCage huntold hheld)
      · exact .inr (.uncountedGrate hsilent hgrate)
    · rintro (hpassed | hcage | ⟨-, hgrate⟩ | ⟨-, hheld⟩)
      · exact .inl hpassed.grate
      · obtain ⟨t, hfailed, -⟩ := hcage.failed
        exact absurd hsilent hfailed.not_silent
      · exact .inr hgrate
      · exact .inl hheld
  · rw [exitCode_of_failed_cage hfailed]
    refine ⟨fun hcode => .inr (.uncountedCage ⟨t, hfailed.1, hfailed.2, hcode⟩), ?_⟩
    rintro (hpassed | hcage | ⟨hsilent, -⟩ | ⟨hnone, -⟩)
    · exact absurd (.inl hpassed.cage) hfailed.not_silent
    · obtain ⟨t', hfailed', hcode⟩ := hcage.failed
      obtain rfl : t' = t := Option.some.inj (hfailed'.1.symm.trans hfailed.1)
      exact hcode
    · exact absurd hsilent hfailed.not_silent
    · exact absurd (.inr hnone) hfailed.not_silent

/-- **The status of a session.**  The program leaves zero when the session passed, and otherwise
    exactly when the report hides that it did not: an end that counts as zero or less, or a cage
    whose end is not told.  When the cage's end is told, and no end is anything that a wait would not
    have reported, zero says that the session passed. -/
theorem status_zero_iff_passed_or_hidden (report : SessionReport) :
    (Programs.leaves report.exitCode = 0 ↔ report.Passed ∨ report.Hides) ∧
      ¬ (report.Passed ∧ report.Hides) ∧
      (report.cage.termination ≠ none ∧ report.cage.ToldByWait ∧ report.grate.ToldByWait →
        (Programs.leaves report.exitCode = 0 ↔ report.Passed)) := by
  have hstatus : Programs.leaves report.exitCode = 0 ↔ report.Passed ∨ report.Hides :=
    Programs.leaves_eq_zero_iff.trans report.exitCode_nonpos_iff
  refine ⟨hstatus, fun ⟨hpassed, hhides⟩ => hpassed.not_hides hhides, ?_⟩
  rintro ⟨htold, hcage, hgrate⟩
  rw [hstatus, or_iff_left]
  rintro (huncounted | ⟨-, huncounted⟩ | ⟨hnone, -⟩)
  · exact hcage.counted huncounted
  · exact hgrate.counted huncounted
  · exact htold hnone

/-- A cage that is reported to have died of a signal with the number -128 leaves zero. -/
theorem status_zero_of_failed_cage :
    ¬ ∀ report : SessionReport, Programs.leaves report.exitCode = 0 ↔ report.Passed := by
  intro h
  have hpassed := (h ⟨⟨.cage, "x", 1, some (.signaled (-128))⟩, ⟨.grate, "x", 2, some (.exited 0)⟩,
    [], [], none⟩).mp rfl
  exact absurd hpassed.cage (by decide)

end SessionReport

end Interposition
