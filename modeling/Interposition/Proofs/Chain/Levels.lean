/-
  One level of a chain.

  A level is told by whom it has started (`Level`): nobody yet, the cage, the cage and then the next
  grate, or, where a start may fail, the grate alone.  This is so at every point a level can come to,
  so it is an invariant of its contract, and what the level comes to is the postcondition.

  1. **Reports** (`Outcome`, `meets_report`): a level that wants so many children is reported with a
     status of zero exactly when it has started them all and every one of them has ended with zero.

  2. **Names** (`unpaired_or_tooDeep_or_fits`, `runs_advance`): a level gets to work on names that
     fit, and asks nobody for anything with any others.

  3. **The levels** (`meets_advance`), and the outermost one (`meets_launch`).
-/
import Interposition.Proofs.Chain.Children
import Interposition.Proofs.Process.Statuses

namespace Interposition

open Program (Meets)

namespace Chain

variable {machine : Machine} {settings : Settings} {self : Surroundings} {grate : GrateId}
  {fate : Pid → Option Termination} {inv : List Child → Prop} {now : Doings} {e : Executor}

/-- What every level of a demonstration chain knows. -/
abbrev demo (config : RuntimeConfig) : Settings := ⟨config, Demo.chainInterceptions⟩

/-! ## Reports -/

/-- The status of a level that wants so many children. -/
structure Concluded (fate : Pid → Option Termination) (wanted : Nat) (started : List Child)
    (code : Int32) : Prop where
  zero_iff : code = 0 ↔
    started.length = wanted ∧ ∀ child ∈ started, fate child.pid = some (.exited 0)
  /-- A level that has started everybody has waited for everybody. -/
  ended : started.length = wanted → ∀ child ∈ started, (fate child.pid).isSome

/-- What a level comes to that wants so many children and `fits` what it has been given. -/
inductive Outcome (machine : Machine) (fate : Pid → Option Termination) (fits : Prop)
    (wanted : Nat) (started : List Child) : Except ProcessError (Option ChainReport) → Prop where
  | reported {report : ChainReport}
      (concluded : Concluded fate wanted started (Programs.leaves report.exitCode))
      (all : machine.mayFail = false → started.length = wanted) :
      Outcome machine fate fits wanted started (.ok (some report))
  /-- The program has stopped at a sum that does not fit. -/
  | stopped (some : wanted ≠ 0 → started.length ≠ wanted) (why : ¬fits) :
      Outcome machine fate fits wanted started (.ok none)
  | failed {cause : ProcessError} (some : wanted ≠ 0 → started.length ≠ wanted)
      (why : machine.mayFail = true ∨ ¬fits) :
      Outcome machine fate fits wanted started (.error cause)

/-- **The end of a level**: it collects its children and is reported. -/
theorem meets_report {fits : Prop} {wanted : Nat} {depth : UInt32} {failures : List String}
    (h : Tracks e now) (hfailures : failures = [] ↔ now.started.length = wanted)
    (hall : machine.mayFail = false → failures = []) :
    ((do return { depth, records := ← Executor.reapAll, failures } : Supervised ChainReport)
      e).Meets (host machine self fate) (.alone fun now => inv now.started) (fun outcome after =>
        Outcome machine fate fits wanted after.started (outcome.1.map some)) now := by
  refine Supervised.meets_bind ((meets_reapAll h).mono ?_)
  rintro ⟨_, e'⟩ after ⟨records, rfl, hstarted, htold, htells⟩
  show Outcome machine fate fits wanted after.started (.ok (some _))
  rw [hstarted]
  refine .reported ⟨?_, fun _ child hchild => ?_⟩ fun hsure => hfailures.mp (hall hsure)
  · rw [ChainReport.leaves_exitCode_eq_zero_iff, ChainReport.exitCode_eq_zero_iff, hfailures]
    refine and_congr_right fun _ => ⟨fun hsuccess child hchild => ?_, fun hzero r hr t ht => ?_⟩
    · obtain ⟨r, hr, t, hended, hfate, ht⟩ := htold child hchild
      rw [hfate, (Termination.isSuccess_iff hended).mp (hsuccess r hr t ht)]
    · obtain ⟨child, hchild, t', hended, hfate, ht'⟩ := htells r hr
      cases ht.symm.trans ht'
      rw [hzero child hchild] at hfate
      cases hfate
      rfl
  · obtain ⟨r, -, t, -, hfate, -⟩ := htold child hchild
    rw [hfate]
    rfl

/-! ## Names -/

/-- The names can be split into a cage and the pairs behind it, and if there are any the next level
    is not too deep. -/
def Fits (settings : Settings) (depth : UInt32) (names : List String) : Prop :=
  names.tail.length % 2 = 0 ∧ (names.tail = [] ∨ depth < settings.config.maxChainDepth)

/-- The names behind the cage are no pairs. -/
def Unpaired (names : List String) : Prop := names.tail.length % 2 = 1

/-- The names behind the cage are pairs, and the next grate would stand deeper than the limit. -/
def TooDeep (settings : Settings) (depth : UInt32) (names : List String) : Prop :=
  names.tail ≠ [] ∧ names.tail.length % 2 = 0 ∧ settings.config.maxChainDepth ≤ depth

section Names

variable {depth : UInt32} {names rest : List String} {cage : String}

/-- Names that do not fit are no pairs, or go too deep. -/
theorem unpaired_or_tooDeep_or_fits (settings : Settings) (depth : UInt32) (names : List String) :
    Unpaired names ∨ TooDeep settings depth names ∨ Fits settings depth names := by
  obtain heven | hodd := Nat.mod_two_eq_zero_or_one names.tail.length
  · by_cases hnil : names.tail = []
    · exact .inr (.inr ⟨heven, .inl hnil⟩)
    · obtain hless | hdeep := UInt32.lt_or_le depth settings.config.maxChainDepth
      · exact .inr (.inr ⟨heven, .inr hless⟩)
      · exact .inr (.inl ⟨hnil, heven, hdeep⟩)
  · exact .inl hodd

theorem Unpaired.not_fits (h : Unpaired names) : ¬Fits settings depth names :=
  fun hfits => Nat.one_ne_zero (h.symm.trans hfits.1)

theorem TooDeep.not_fits (h : TooDeep settings depth names) : ¬Fits settings depth names :=
  fun hfits => hfits.2.elim h.1 (UInt32.not_lt.mpr h.2.2)

theorem advance_cons : advance settings grate depth (cage :: rest) =
    if rest.length % 2 ≠ 0 then throw (.unevenChain rest.length)
    else if !rest.isEmpty && depth ≥ settings.config.maxChainDepth then
      refuseDeeper depth settings.config.maxChainDepth
    else do return some (← work settings grate depth cage rest) :=
  rfl

theorem advance_of_unpaired (h : Unpaired names) :
    advance settings grate depth names = throw (.unevenChain names.tail.length) := by
  cases names with
  | nil => cases (show 0 = 1 from h)
  | cons cage rest =>
    have hodd : rest.length % 2 ≠ 0 := fun heven => by
      rw [show rest.length % 2 = 1 from h] at heven
      contradiction
    rw [advance_cons, if_pos hodd, List.tail_cons]

theorem advance_of_tooDeep (h : TooDeep settings depth names) :
    advance settings grate depth names = refuseDeeper depth settings.config.maxChainDepth := by
  obtain ⟨hsome, heven, hdeep⟩ := h
  cases names with
  | nil => contradiction
  | cons cage rest =>
    rw [List.tail_cons] at hsome heven
    have hmore : rest.isEmpty = false := List.isEmpty_eq_false_iff.mpr hsome
    rw [advance_cons, if_neg (not_not.mpr heven), hmore, Bool.not_false, Bool.true_and,
      decide_eq_true hdeep, if_pos rfl]

theorem advance_of_fits (h : Fits settings depth (cage :: rest)) :
    advance settings grate depth (cage :: rest) =
      do return some (← work settings grate depth cage rest) := by
  obtain ⟨heven, hnil | hless⟩ := h
  · obtain rfl : rest = [] := hnil
    rw [advance_cons]
    rfl
  · rw [List.tail_cons] at heven
    rw [advance_cons, if_neg (not_not.mpr heven), decide_eq_false (UInt32.not_le.mpr hless),
      Bool.and_false, if_neg Bool.false_ne_true]

/-- **A refusal** of what would be too deep is one, or the program stops, and nobody is asked for
    anything. -/
theorem refuseDeeper_cases (depth limit : UInt32) :
    (∃ deeper, Checked.unsigned? depth 1 = some deeper ∧
      refuseDeeper depth limit = throw (.chainTooDeep deeper limit)) ∨
    Checked.unsigned? depth 1 = none ∧ refuseDeeper depth limit = pure none := by
  unfold refuseDeeper
  cases Checked.unsigned? depth 1 with
  | some deeper => exact .inl ⟨deeper, rfl, rfl⟩
  | none => exact .inr ⟨rfl, rfl⟩

/-- **A level** comes to its end without asking anybody for anything, or gets to work. -/
theorem runs_advance {World : Type} {os : OperatingSystem World} {world final : World}
    {e' : Executor} {result : Except ProcessError (Option ChainReport)}
    (h : (advance settings grate depth names e).Runs os world (result, e') final) :
    (e' = e ∧ final = world) ∨ ∃ cage rest told, names = cage :: rest ∧
      (work settings grate depth cage rest e).Runs os world (told, e') final ∧
        result = told.map some := by
  obtain hunpaired | hdeep | hfits := unpaired_or_tooDeep_or_fits settings depth names
  · rw [advance_of_unpaired hunpaired] at h
    exact .inl (Supervised.runs_throw.mp h).2
  · rw [advance_of_tooDeep hdeep] at h
    obtain ⟨deeper, -, heq⟩ | ⟨-, heq⟩ :=
      refuseDeeper_cases depth settings.config.maxChainDepth
    · rw [heq] at h
      exact .inl (Supervised.runs_throw.mp h).2
    · rw [heq] at h
      exact .inl (Supervised.runs_pure.mp h).2
  · cases names with
    | nil => exact .inl (Supervised.runs_pure.mp h).2
    | cons cage rest =>
      rw [advance_of_fits hfits] at h
      obtain ⟨told, hwork, hresult⟩ := Supervised.runs_bind_pure.mp h
      exact .inr ⟨cage, rest, told, rfl, hwork, hresult⟩

end Names

/-! ## Levels -/

/-- A child that was started as the cage of a grate. -/
structure IsCage (machine : Machine) (settings : Settings) (depth : UInt32) (grate : GrateId)
    (name : String) (child : Child) : Prop where
  launch_eq : child.launch = ⟨.ofText name, [], childVariables settings depth⟩
  hooked : child.hooked = true
  written : settings.config.journalPath = machine.journalPath →
    child.written = settings.registrations (.ofPid child.pid) grate

/-- A child that was started as a grate of a chain. -/
structure IsGrate (settings : Settings) (depth : UInt32) (name : String) (names : List String)
    (child : Child) : Prop where
  launch_eq : child.launch = ⟨.ofText name, names, childVariables settings depth⟩
  unhooked : child.hooked = false

/-- Whom a level has started that was given some names. -/
inductive Level (machine : Machine) (settings : Settings) (grate : GrateId) (depth : UInt32) :
    List String → List Child → Prop where
  | nobody {names : List String} : Level machine settings grate depth names []
  | cage {cage : String} {rest : List String} {child : Child}
      (h : IsCage machine settings depth grate cage child) :
      Level machine settings grate depth (cage :: rest) [child]
  | both {cage next : String} {names : List String} {child nextChild : Child}
      (h : IsCage machine settings depth grate cage child)
      (hnext : IsGrate settings (depth + 1) next names nextChild) :
      Level machine settings grate depth (cage :: next :: names) [child, nextChild]
  | grate {cage next : String} {names : List String} {nextChild : Child}
      (fails : machine.mayFail = true) (hnext : IsGrate settings (depth + 1) next names nextChild) :
      Level machine settings grate depth (cage :: next :: names) [nextChild]

/-- What has become of the cage: it was started, or, where a start may fail, a failure is listed. -/
inductive CageStage (machine : Machine) (settings : Settings) (grate : GrateId) (depth : UInt32)
    (cage : String) : List Child → List String → Prop where
  | started {child : Child} (h : IsCage machine settings depth grate cage child) :
      CageStage machine settings grate depth cage [child] []
  | failed {failures : List String} (fails : machine.mayFail = true) (some : failures ≠ []) :
      CageStage machine settings grate depth cage [] failures

namespace CageStage

variable {depth : UInt32} {cage : String} {started : List Child} {failures : List String}

theorem length_le (h : CageStage machine settings grate depth cage started failures) :
    started.length ≤ 1 := by
  cases h with
  | started => exact Nat.le_refl 1
  | failed => exact Nat.zero_le 1

theorem failures_eq_nil_iff (h : CageStage machine settings grate depth cage started failures) :
    failures = [] ↔ started.length = 1 := by
  cases h with
  | started => simp
  | failed _ hsome => simp [hsome]

theorem failures_eq_nil (h : CageStage machine settings grate depth cage started failures)
    (hsure : machine.mayFail = false) : failures = [] := by
  cases h with
  | started => rfl
  | failed hfails => exact absurd hfails (ne_true_of_eq_false hsure)

/-- The next grate is started behind the cage. -/
theorem level (h : CageStage machine settings grate depth cage started failures) {next : String}
    {names : List String} {child : Child} (hnext : IsGrate settings (depth + 1) next names child) :
    Level machine settings grate depth (cage :: next :: names) (started ++ [child]) := by
  cases h with
  | started hcage => exact .both hcage hnext
  | failed hfails => exact .grate hfails hnext

end CageStage

/-- **The second half** of a level: the next grate, if names are left, and the report. -/
theorem meets_next {fits : Prop} {depth : UInt32} {cage : String} {rest failures : List String}
    (hinv : ∀ started, Level machine settings grate depth (cage :: rest) started → inv started)
    (hcage : CageStage machine settings grate depth cage now.started failures)
    (h : Tracks e now) :
    ((do
      let grateFailures ← startNext settings depth rest
      return { depth, records := ← Executor.reapAll, failures := failures ++ grateFailures } :
        Supervised ChainReport) e).Meets (host machine self fate)
      (.alone fun now => inv now.started) (fun outcome after =>
        Outcome machine fate fits (min (cage :: rest).length 2) after.started
          (outcome.1.map some)) now := by
  have hcount := hcage.failures_eq_nil_iff
  cases rest with
  | nil =>
    refine Supervised.meets_bind ?_
    show Meets _ _ ((do return { depth, records := ← Executor.reapAll, failures := failures ++ [] } :
      Supervised ChainReport) e) _ _
    rw [List.append_nil]
    exact meets_report h hcount hcage.failures_eq_nil
  | cons next names =>
    have hwanted : min (cage :: next :: names).length 2 = 2 := Nat.min_eq_right (by simp)
    have hless := hcage.length_le
    rw [hwanted]
    refine Supervised.meets_bind (meets_startChild (fun child hchild => ⟨?_, ?_⟩) ?_)
    · exact hinv _ (hcage.level ⟨hchild.launch_eq, hchild.hooked_eq⟩)
    · show Meets _ _ ((do return { depth, records := ← Executor.reapAll, failures := failures ++ [] } :
        Supervised ChainReport) _) _ _
      rw [List.append_nil]
      refine meets_report (h.starts hchild.fresh) ?_ hcage.failures_eq_nil
      rw [hcount, Doings.starts, List.length_append, List.length_singleton]
      exact Nat.succ_inj.symm
    · rintro hfails (cause | grateFailures) hresult
      · exact .failed (fun _ => by omega) (.inl hfails)
      · -- a failure is listed, and at least one child fewer than wanted was started
        have hsome : failures ++ grateFailures ≠ [] := fun hnil =>
          hresult (congrArg Except.ok (List.append_eq_nil_iff.mp hnil).2)
        refine meets_report h ⟨fun hnil => absurd hnil hsome, fun hall => by omega⟩ fun hsure => ?_
        exact absurd hfails (ne_true_of_eq_false hsure)

/-- **A level whose names fit** starts the cage and then the next grate. -/
theorem meets_work (fits : Prop) {depth : UInt32} {cage : String} {rest : List String}
    (hinv : ∀ started, Level machine settings grate depth (cage :: rest) started → inv started) :
    (work settings grate depth cage rest default).Meets (host machine self fate)
      (.alone fun now => inv now.started) (fun outcome after =>
        Outcome machine fate fits (min (cage :: rest).length 2) after.started
          (outcome.1.map some)) .none := by
  refine Supervised.meets_bind (Supervised.meets_ofJournal (meets_openWriter.mono ?_))
  rintro (cause | writer) after ⟨⟨rfl, hopens⟩, hwriter⟩
  · exact .failed (fun h => h.symm) (.inl (hopens _ rfl))
  · refine Supervised.meets_bind (meets_startChild (fun child hchild => ?_) ?_)
    · have hcage : IsCage machine settings depth grate cage child := by
        refine ⟨hchild.launch_eq, hchild.hooked_eq, fun hpath => ?_⟩
        have hboots := hchild.boots
        rw [hwriter writer rfl hpath] at hboots
        exact written_of_boots hboots
      exact ⟨hinv _ (.cage hcage),
        meets_next hinv (.started hcage) (tracks_none.starts hchild.fresh)⟩
    · rintro hfails (cause | failures) hresult
      · exact .failed (fun h => h.symm) (.inl hfails)
      · have hsome : failures ≠ [] := fun hnil => hresult (congrArg Except.ok hnil)
        exact meets_next hinv (.failed hfails hsome) tracks_none

/-- **A level**, whatever names it has been given. -/
theorem meets_advance {depth : UInt32} {names : List String}
    (hinv : ∀ started, Level machine settings grate depth names started → inv started) :
    (advance settings grate depth names default).Meets (host machine self fate)
      (.alone fun now => inv now.started) (fun outcome after =>
        Outcome machine fate (Fits settings depth names) (min names.length 2) after.started
          outcome.1) .none := by
  have hnobody : min names.length 2 ≠ 0 → ([] : List Child).length ≠ min names.length 2 :=
    fun h => h.symm
  obtain hunpaired | hdeep | hfits := unpaired_or_tooDeep_or_fits settings depth names
  · rw [advance_of_unpaired hunpaired]
    exact .failed hnobody (.inr hunpaired.not_fits)
  · rw [advance_of_tooDeep hdeep]
    obtain ⟨deeper, -, heq⟩ | ⟨-, heq⟩ := refuseDeeper_cases depth settings.config.maxChainDepth
    · rw [heq]
      exact .failed hnobody (.inr hdeep.not_fits)
    · rw [heq]
      exact .stopped hnobody hdeep.not_fits
  · cases names with
    | nil => exact .reported ⟨⟨fun _ => ⟨rfl, nofun⟩, fun _ => rfl⟩, fun _ => nofun⟩ fun _ => rfl
    | cons cage rest =>
      rw [advance_of_fits hfits]
      refine Supervised.meets_bind ((meets_work (Fits settings depth (cage :: rest)) hinv).mono ?_)
      rintro ⟨cause | report, e⟩ after houtcome <;> exact houtcome

/-! ## The outermost level -/

/-- The names of links, as they are handed on. -/
def namesOf (links : List ChainLink) : List String :=
  links.flatMap fun link => [link.grate, link.cage]

/-- Whom the outermost level has started. -/
inductive Outermost (settings : Settings) : List ChainLink → List Child → Prop where
  | nobody {links : List ChainLink} : Outermost settings links []
  | grate {link : ChainLink} {links : List ChainLink} {child : Child}
      (h : IsGrate settings 1 link.grate (link.cage :: namesOf links) child) :
      Outermost settings (link :: links) [child]

/-- The depth of a plan, as it is compared with the limit. -/
def statedDepth (plan : ChainPlan) : UInt32 :=
  if plan.depth < UInt32.size then UInt32.ofNat plan.depth else UInt32.ofNat (UInt32.size - 1)

theorem statedDepth_of_lt {plan : ChainPlan} (h : plan.depth < UInt32.size) :
    statedDepth plan = UInt32.ofNat plan.depth := if_pos h

/-- A plan that is within the limit is stated to be. -/
theorem statedDepth_le {plan : ChainPlan} {limit : UInt32} (h : plan.depth ≤ limit.toNat) :
    statedDepth plan ≤ limit := by
  have hsize : plan.depth < UInt32.size := Nat.lt_of_le_of_lt h limit.toNat_lt_size
  rw [statedDepth_of_lt hsize]
  exact (UInt32.ofNat_le_iff hsize).mpr h

/-- Starts the first grate, if there is one. -/
def startFirst (settings : Settings) : Option ImageSpec → Supervised (List String)
  | none => pure []
  | some head => startChild .grate head (childVariables settings 1) none

theorem launch_eq {plan : ChainPlan} : launch settings plan =
    if statedDepth plan > settings.config.maxChainDepth then
      throw (.chainTooDeep (statedDepth plan) settings.config.maxChainDepth)
    else do
      Supervised.ofGate (Rendezvous.ensure ⟨settings.config.rendezvousDir⟩)
      let _ ← Supervised.ofJournal (Journal.create settings.config.journalPath)
      let failures ← startFirst settings plan.headImage?
      return { depth := 0, records := ← Executor.reapAll, failures } := by
  unfold launch
  show (if statedDepth plan > settings.config.maxChainDepth then _ else _ : Supervised _) = _
  split
  · rfl
  · cases plan.headImage? <;> rfl

/-- **A plan that is too deep** is refused, and nothing is asked of anybody. -/
theorem launch_of_too_deep {plan : ChainPlan} (h : settings.config.maxChainDepth.toNat < plan.depth)
    (hsize : plan.depth < UInt32.size) : launch settings plan e =
      pure (.error (.chainTooDeep (UInt32.ofNat plan.depth) settings.config.maxChainDepth), e) := by
  have hdeep : UInt32.ofNat plan.depth > settings.config.maxChainDepth :=
    (UInt32.lt_ofNat_iff hsize).mpr h
  rw [launch_eq, statedDepth_of_lt hsize, if_pos hdeep]
  rfl

/-- **The outermost level** starts the first grate, with all other names. -/
theorem meets_launch {plan : ChainPlan}
    (hinv : ∀ started, Outermost settings plan.links started → inv started) :
    (launch settings plan default).Meets (host machine self fate) (.alone fun now => inv now.started)
      (fun outcome after =>
        Outcome machine fate (plan.depth ≤ settings.config.maxChainDepth.toNat)
          (min plan.links.length 1) after.started (outcome.1.map some)) .none := by
  rw [launch_eq]
  split
  · next hdeep =>
    exact .failed (fun h => h.symm) (.inr fun hfits => absurd hdeep
      (UInt32.not_lt.mpr (statedDepth_le hfits)))
  · refine Supervised.meets_bind (Supervised.meets_ofGate (meets_ensure.mono ?_))
    rintro (cause | ⟨⟩) after ⟨rfl, hmade⟩
    · exact .failed (fun h => h.symm) (.inl (hmade _ rfl))
    refine Supervised.meets_bind (Supervised.meets_ofJournal (meets_create.mono ?_))
    rintro (cause | writer) after ⟨rfl, hmade⟩
    · exact .failed (fun h => h.symm) (.inl (hmade _ rfl))
    obtain ⟨links⟩ := plan
    cases links with
    | nil =>
      exact Supervised.meets_bind (meets_report tracks_none (by simp [Doings.none]) fun _ => rfl)
    | cons link links =>
      refine Supervised.meets_bind (meets_startChild (fun child hchild => ⟨?_, ?_⟩) ?_)
      · exact hinv _ (.grate ⟨hchild.launch_eq, hchild.hooked_eq⟩)
      · exact meets_report (tracks_none.starts hchild.fresh) (by simp [Doings.none, Doings.starts])
          fun _ => rfl
      · rintro hfails (cause | failures) hresult
        · exact .failed (fun h => h.symm) (.inl hfails)
        · have hsome : failures ≠ [] := fun hnil => hresult (congrArg Except.ok hnil)
          refine meets_report tracks_none (by simp [hsome, Doings.none]) fun hsure => ?_
          exact absurd hfails (ne_true_of_eq_false hsure)

end Chain

end Interposition
