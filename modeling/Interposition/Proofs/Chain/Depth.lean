/-
  How deep a chain may go.

  A grate learns from a variable how deep it stands, so it may find itself at any depth at all.  It
  starts its cage at its own depth and the next grate one deeper; it refuses when the names behind
  the cage are no pairs, or when they are and the next grate would stand deeper than the limit.

  1. **Failures** (`Supervised.FailsOnly`): what a program can fail of, whatever it is answered, put
     together from what its parts can fail of.  Nothing that a level does once its names are known
     to fit fails of their number or of the depth (`failsOnly_work`, `failsOnly_outermost`).

  2. **Starts** (`confined_advance`): a level asks for its cage, with its own depth, and for the next
     grate, with a depth that is one more as a number and within the limit.  The limit is compared
     before the depth is added to, so this sum always fits.

  3. **Refusals** (`depth_is_accounted_for`): a level refuses exactly the names it should, and asks
     nobody for anything then.  The depth that a refusal names is more than the limit.  Only where
     there is none to name, at the greatest depth there is, the program stops instead: nothing
     guards that sum.
-/
import Interposition.Proofs.Chain.Grates
import Interposition.Proofs.Process.Starting

namespace Interposition

variable {World : Type} {os : OperatingSystem World} {α β : Type}

/-! ## Failures -/

/-- Whatever a program is answered, it fails of nothing else. -/
def Supervised.FailsOnly (os : OperatingSystem World) (kind : ProcessError → Prop)
    (program : Supervised α) : Prop :=
  ∀ ⦃e world cause e' final⦄, (program e).Runs os world (.error cause, e') final → kind cause

namespace Supervised.FailsOnly

variable {kind : ProcessError → Prop} {program : Supervised α}

theorem pure {a : α} : (Pure.pure a : Supervised α).FailsOnly os kind := by
  intro e world cause e' final hrun
  cases (runs_pure.mp hrun).1

theorem get : (MonadState.get : Supervised Executor).FailsOnly os kind := by
  intro e world cause e' final hrun
  cases (Program.runs_pure.mp hrun).1

/-- **Sequencing**: the first program fails, or the second does. -/
theorem bind {next : α → Supervised β} (h : program.FailsOnly os kind)
    (hnext : ∀ a, (next a).FailsOnly os kind) : (program >>= next).FailsOnly os kind := by
  intro e world cause e' final hrun
  obtain ⟨a, middle, between, -, hrest⟩ | ⟨cause', hfirst, heq⟩ := runs_bind.mp hrun
  · exact hnext a hrest
  · cases heq
    exact h hfirst

theorem ofJournal {program : Program (Except JournalError α)} (h : ∀ cause, kind (.journal cause)) :
    (Supervised.ofJournal program).FailsOnly os kind := by
  intro e world cause e' final hrun
  obtain ⟨-, answer, -, heq⟩ := runs_ofJournal.mp hrun
  cases answer <;> cases heq
  exact h _

theorem ofGate {program : Program (Except GateError α)} (h : ∀ cause, kind (.gate cause)) :
    (Supervised.ofGate program).FailsOnly os kind := by
  intro e world cause e' final hrun
  obtain ⟨-, answer, -, heq⟩ := runs_ofGate.mp hrun
  cases answer <;> cases heq
  exact h _

/-- **A look** whether a child has ended. -/
theorem tryReap {pid : Pid} (h : ∀ pid cause, kind (.waitFailed pid cause)) :
    (Executor.tryReap pid).FailsOnly os kind := by
  intro e world cause e' final hrun
  obtain ⟨t, -, heq, -⟩ | ⟨-, answer, -, hanswer⟩ := Executor.runs_tryReap hrun
  · cases heq
  · cases htold : Termination.told? answer with
    | some t =>
      simp only [htold] at hanswer
      cases hanswer.1
    | none =>
      simp only [htold] at hanswer
      obtain ⟨-, heq | ⟨errno, -, -, heq⟩⟩ := hanswer
      · cases heq
      · cases heq
        exact h _ _

/-- **A sweep** looks and looks again. -/
theorem sweep (h : ∀ pid cause, kind (.waitFailed pid cause)) {count : Nat} {kept rest : List Pid}
    {finished : List ProcessRecord} :
    (Executor.sweep count kept rest finished).FailsOnly os kind := by
  induction count generalizing kept rest finished with
  | zero => exact pure
  | succ count ih =>
    cases rest with
    | nil => exact pure
    | cons pid rest =>
      refine (tryReap h).bind fun found => ?_
      cases found with
      | none => exact ih
      | some t =>
        refine get.bind fun e => ?_
        cases rest.getLast? <;> exact ih

/-- **Collecting** every child, by what each round can fail of. -/
theorem reapAll (h : ∀ pid cause, kind (.waitFailed pid cause)) :
    Executor.reapAll.FailsOnly os kind := by
  refine get.bind fun asked => ?_
  intro e world cause e' final hrun
  refine (Program.runs_iterate.mp hrun).keeps (fun _ _ => True)
    (fun outcome _ => ∀ cause, outcome.1 = .error cause → kind cause) ?_ trivial cause rfl
  rintro ⟨waiting, finished, pause, e⟩ world outcome next - hround
  replace hround : (if waiting.isEmpty = true then _ else _ : Program _).Runs os _ _ _ := hround
  split at hround
  · obtain ⟨rfl, -⟩ := hround
    exact nofun
  · obtain ⟨⟨_ | ⟨left, met⟩, after⟩, between, hsweep, hrest⟩ := Program.runs_bind.mp hround
    · obtain ⟨rfl, -⟩ := hrest
      rintro _ ⟨⟩
      exact sweep h hsweep
    · replace hrest : (if left.length < waiting.length then _ else _ : Program _).Runs os _ _ _ :=
        hrest
      split at hrest
      · obtain ⟨rfl, -⟩ := hrest
        exact trivial
      · obtain ⟨_, _, -, rfl, -⟩ := Program.runs_request_bind.mp hrest
        exact trivial

end Supervised.FailsOnly

namespace Chain

variable {settings : Settings} {grate : GrateId} {depth : UInt32} {names : List String}

/-- Failures of the system: the journal's, a directory's, those of starting a child, and those of
    waiting for one. -/
def OfSystem : ProcessError → Prop
  | .journal _ | .gate _ | .creationFailed _ _ | .waitFailed _ _ => True
  | _ => False

/-- **A start** that fails the level is a failure to make a process. -/
theorem failsOnly_startChild {role : Role} {image : ImageSpec} {vars : List (String × String)}
    {setup : Option (Program (Option Errno))} :
    (startChild role image vars setup).FailsOnly os OfSystem := by
  intro e world cause e' final hrun
  obtain ⟨attempted, middle, between, hspawn, hrest⟩ := Supervised.runs_attempt_bind.mp hrun
  obtain ⟨answer, -, hanswer⟩ := Executor.runs_spawn hspawn
  cases answer with
  | ok pid =>
    obtain ⟨rfl, -⟩ := hanswer
    cases (Supervised.runs_pure.mp hrest).1
  | error reason =>
    obtain ⟨rfl, -⟩ := hanswer
    cases hleaf : (Executor.spawnError image.name reason setup.isSome).isLeaf with
    | true =>
      simp only [hleaf, if_true] at hrest
      cases (Supervised.runs_pure.mp hrest).1
    | false =>
      simp only [hleaf, Bool.false_eq_true, if_false] at hrest
      obtain ⟨heq, -⟩ := Supervised.runs_throw.mp hrest
      cases heq
      rw [Executor.spawnError_eq_of_not_isLeaf hleaf]
      exact trivial

theorem failsOnly_startNext {rest : List String} :
    (startNext settings depth rest).FailsOnly os OfSystem := by
  cases rest with
  | nil => exact .pure
  | cons => exact failsOnly_startChild

/-- **A level whose names fit** fails of the system only. -/
theorem failsOnly_work {cage : String} {rest : List String} :
    (work settings grate depth cage rest).FailsOnly os OfSystem :=
  (Supervised.FailsOnly.ofJournal fun _ => trivial).bind fun _ =>
    failsOnly_startChild.bind fun _ =>
      failsOnly_startNext.bind fun _ =>
        (Supervised.FailsOnly.reapAll fun _ _ => trivial).bind fun _ => .pure

/-- **The outermost level**, of a plan within the limit, fails of the system only. -/
theorem failsOnly_outermost {plan : ChainPlan}
    (hfits : ¬ statedDepth plan > settings.config.maxChainDepth) :
    (launch settings plan).FailsOnly os OfSystem := by
  rw [launch_eq, if_neg hfits]
  refine (Supervised.FailsOnly.ofGate fun _ => trivial).bind fun _ =>
    (Supervised.FailsOnly.ofJournal fun _ => trivial).bind fun _ => .bind ?_ fun _ =>
      (Supervised.FailsOnly.reapAll fun _ _ => trivial).bind fun _ => .pure
  cases plan.headImage? with
  | none => exact .pure
  | some => exact failsOnly_startChild

/-! ## Starts -/

/-- What a level may start: its cage at its own depth, and the next grate one deeper, within the
    limit. -/
inductive Hands (settings : Settings) (depth : UInt32) : List String → Launch → Prop where
  | cage {cage : String} {rest : List String} :
      Hands settings depth (cage :: rest) ⟨.ofText cage, [], childVariables settings depth⟩
  | grate {cage next : String} {names : List String} {deeper : UInt32}
      (one : deeper.toNat = depth.toNat + 1) (within : deeper ≤ settings.config.maxChainDepth) :
      Hands settings depth (cage :: next :: names)
        ⟨.ofText next, names, childVariables settings deeper⟩

/-- A deed that starts nobody else. -/
def StartsOnly (starts : Launch → Prop) : Deed → Prop
  | .starts launch => starts launch
  | _ => True

/-- Below the limit, one level deeper is one more as a number, and within the limit. -/
theorem toNat_deeper {limit : UInt32} (h : depth < limit) :
    (depth + 1).toNat = depth.toNat + 1 ∧ depth + 1 ≤ limit := by
  have hless : depth.toNat < limit.toNat := UInt32.lt_iff_toNat_lt.mp h
  have hsize : limit.toNat < 2 ^ 32 := limit.toNat_lt
  have hone : (depth + 1).toNat = depth.toNat + 1 := by
    rw [UInt32.toNat_add, UInt32.toNat_one]
    exact Nat.mod_eq_of_lt (by omega)
  exact ⟨hone, UInt32.le_iff_toNat_le.mpr (hone ▸ hless)⟩

section Starts

variable {e : Executor} {starts : Launch → Prop}

theorem confined_startChild {role : Role} {image : ImageSpec} {vars : List (String × String)}
    {setup : Option (Program (Option Errno))} (h : starts ⟨image.program, image.args, vars⟩) :
    (startChild role image vars setup e).Confined (StartsOnly starts) := by
  refine Supervised.confined_bind (Supervised.confined_attempt ?_) fun attempted e => ?_
  · rw [Executor.spawn_eq]
    exact ⟨h, fun answer => by cases answer <;> exact trivial⟩
  · cases attempted with
    | ok => exact trivial
    | error cause =>
      show (if cause.isLeaf = true then _ else _ : Supervised _) e |>.Confined _
      split <;> exact trivial

theorem confined_get : ((get : Supervised Executor) e).Confined (StartsOnly starts) := trivial

theorem confined_sweep {count : Nat} {kept rest : List Pid} {finished : List ProcessRecord} :
    (Executor.sweep count kept rest finished e).Confined (StartsOnly starts) := by
  induction count generalizing kept rest finished e with
  | zero => exact trivial
  | succ count ih =>
    cases rest with
    | nil => exact trivial
    | cons pid rest =>
      refine Supervised.confined_bind (Executor.confined_tryReap trivial) fun found e => ?_
      cases found with
      | none => exact ih
      | some t =>
        refine Supervised.confined_bind confined_get fun asked e => ?_
        cases rest.getLast? <;> exact ih

/-- **Collecting** starts nobody. -/
theorem confined_reapAll : (Executor.reapAll e).Confined (StartsOnly starts) := by
  refine Program.confined_iterate fun (waiting, finished, pause, e) => ?_
  show (if waiting.isEmpty = true then _ else _ : Program _).Confined _
  split
  · exact trivial
  · refine confined_sweep.bind fun outcome => ?_
    rcases outcome with ⟨cause | ⟨left, met⟩, after⟩
    · exact trivial
    · show (if left.length < waiting.length then _ else _ : Program _).Confined _
      split
      · exact trivial
      · exact (Program.confined_request trivial).bind fun _ => trivial

/-- **A level whose names fit** starts the cage and the next grate, at their depths. -/
theorem confined_work {cage : String} {rest : List String}
    (hfits : rest = [] ∨ depth < settings.config.maxChainDepth) :
    (work settings grate depth cage rest e).Confined
      (StartsOnly (Hands settings depth (cage :: rest))) := by
  refine Supervised.confined_bind (Supervised.confined_ofJournal ?_) fun writer e => ?_
  · exact (Program.confined_request trivial).bind fun opened => by cases opened <;> exact trivial
  · refine Supervised.confined_bind (confined_startChild .cage) fun cageFailures e => ?_
    refine Supervised.confined_bind ?_ fun grateFailures e =>
      Supervised.confined_bind confined_reapAll fun records e => trivial
    cases rest with
    | nil => exact trivial
    | cons next names =>
      obtain ⟨hone, hwithin⟩ := toNat_deeper (hfits.resolve_left (List.cons_ne_nil next names))
      exact confined_startChild (.grate hone hwithin)

end Starts

/-! ## Refusals -/

/-- A level whose names fit fails of the system only. -/
theorem failsOnly_advance (h : Fits settings depth names) :
    (advance settings grate depth names).FailsOnly os OfSystem := by
  cases names with
  | nil => exact .pure
  | cons cage rest =>
    rw [advance_of_fits h]
    exact failsOnly_work.bind fun _ => .pure

/-- **Whatever a level is given**, it starts its cage and the next grate at most, at their depths. -/
theorem confined_advance {e : Executor} : (advance settings grate depth names e).Confined
    (StartsOnly (Hands settings depth names)) := by
  obtain hunpaired | hdeep | hfits := unpaired_or_tooDeep_or_fits settings depth names
  · rw [advance_of_unpaired hunpaired]
    exact trivial
  · rw [advance_of_tooDeep hdeep]
    obtain ⟨deeper, -, heq⟩ | ⟨-, heq⟩ := refuseDeeper_cases depth settings.config.maxChainDepth
    · rw [heq]
      exact trivial
    · rw [heq]
      exact trivial
  · cases names with
    | nil => exact trivial
    | cons cage rest =>
      rw [advance_of_fits hfits]
      exact Supervised.confined_bind (confined_work hfits.2) fun _ _ => trivial

/-- One level deeper than a depth, and above the limit. -/
def Above (settings : Settings) (depth deeper : UInt32) : Prop :=
  deeper.toNat = depth.toNat + 1 ∧ settings.config.maxChainDepth < deeper

/-- **A level that goes too deep** names the next depth, if there is one. -/
theorem advance_of_tooDeep_of_lt (h : TooDeep settings depth names) (hless : depth < 4294967295) :
    ∃ deeper, Above settings depth deeper ∧ advance settings grate depth names =
      throw (.chainTooDeep deeper settings.config.maxChainDepth) := by
  rw [advance_of_tooDeep h]
  obtain ⟨deeper, hsum, heq⟩ | ⟨hnone, -⟩ := refuseDeeper_cases depth settings.config.maxChainDepth
  · have hone : deeper.toNat = depth.toNat + 1 := Checked.unsigned?_eq_some_iff.mp hsum
    have hle : settings.config.maxChainDepth.toNat ≤ depth.toNat := UInt32.le_iff_toNat_le.mp h.2.2
    exact ⟨deeper, ⟨hone, UInt32.lt_iff_toNat_lt.mpr (by omega)⟩, heq⟩
  · have hover : UInt32.size ≤ depth.toNat + 1 := Checked.unsigned?_eq_none_iff.mp hnone
    have hfits : depth.toNat < 4294967295 := UInt32.lt_iff_toNat_lt.mp hless
    exact absurd hover (by simp only [UInt32.size]; omega)

/-- **The greatest depth** has no next one. -/
theorem advance_of_greatest (h : TooDeep settings 4294967295 names) :
    advance settings grate 4294967295 names = pure none :=
  advance_of_tooDeep h

/-- The depth of a plan is stated as a number of 32 bits, and a greater one as the greatest. -/
theorem toNat_statedDepth (plan : ChainPlan) :
    (statedDepth plan).toNat = min plan.depth 4294967295 := by
  unfold statedDepth
  split
  · next hsize =>
    rw [UInt32.toNat_ofNat_of_lt' hsize]
    exact (Nat.min_eq_left (Nat.le_of_lt_succ hsize)).symm
  · next hsize => exact (Nat.min_eq_right (Nat.le_of_succ_le (Nat.not_lt.mp hsize))).symm

/-- How a level accounts for the depth it stands at. -/
structure LevelAccount (settings : Settings) (grate : GrateId) (depth : UInt32)
    (names : List String) (e : Executor) : Prop where
  /-- Names that are no pairs are refused, and nobody is asked for anything. -/
  unpaired : Unpaired names → advance settings grate depth names e =
    pure (.error (.unevenChain names.tail.length), e)
  /-- So are pairs that go too deep, and the depth that is named is the next one, which is above the
      limit. -/
  tooDeep : TooDeep settings depth names → depth ≠ 4294967295 → ∃ deeper,
    Above settings depth deeper ∧ advance settings grate depth names e =
      pure (.error (.chainTooDeep deeper settings.config.maxChainDepth), e)
  /-- At the greatest depth there is no next one.  The program stops at the sum, before anybody is
      asked for anything, and nothing is refused. -/
  greatest : TooDeep settings depth names → depth = 4294967295 →
    advance settings grate depth names e = pure (.ok none, e)
  /-- Whatever a level is answered, it refuses nothing else, and otherwise fails of the system. -/
  only : ∀ {World : Type} (os : OperatingSystem World) ⦃world final : World⦄ ⦃cause : ProcessError⦄
    ⦃e' : Executor⦄, (advance settings grate depth names e).Runs os world (.error cause, e') final →
    OfSystem cause ∨ (Unpaired names ∧ cause = .unevenChain names.tail.length) ∨
      TooDeep settings depth names ∧ ∃ deeper, Above settings depth deeper ∧
        cause = .chainTooDeep deeper settings.config.maxChainDepth
  /-- Nothing else stops the program. -/
  stops : ∀ {World : Type} (os : OperatingSystem World) ⦃world final : World⦄ ⦃e' : Executor⦄,
    (advance settings grate depth names e).Runs os world (.ok none, e') final →
    TooDeep settings depth names ∧ depth = 4294967295
  /-- It starts its cage at its own depth, and the next grate at one more, within the limit. -/
  starts : (advance settings grate depth names e).Confined (StartsOnly (Hands settings depth names))
  /-- Whoever is given a depth finds itself at it, whatever else it finds. -/
  found : ∀ (given : UInt32) (inherited : List (String × String)),
    (depthIn fun name => (childVariables settings given ++ inherited).lookup name) = given

/-- How the outermost level accounts for the depth of its plan. -/
structure PlanAccount (settings : Settings) (plan : ChainPlan) (e : Executor) : Prop where
  /-- A plan that goes too deep is refused, and nobody is asked for anything. -/
  tooDeep : settings.config.maxChainDepth < statedDepth plan → launch settings plan e =
    pure (.error (.chainTooDeep (statedDepth plan) settings.config.maxChainDepth), e)
  /-- Whatever is answered, no other plan is refused, and the depth that is named is above the limit. -/
  only : ∀ {World : Type} (os : OperatingSystem World) ⦃world final : World⦄ ⦃cause : ProcessError⦄
    ⦃e' : Executor⦄, (launch settings plan e).Runs os world (.error cause, e') final →
    OfSystem cause ∨ settings.config.maxChainDepth < statedDepth plan ∧
      cause = .chainTooDeep (statedDepth plan) settings.config.maxChainDepth
  /-- The depth is that of the plan, and the greatest there is for a plan that is deeper still. -/
  stated : (statedDepth plan).toNat = min plan.depth 4294967295

/-- A depth that is not the greatest is below it. -/
theorem lt_greatest (h : depth ≠ 4294967295) : depth < 4294967295 := by
  have hsize : depth.toNat < 2 ^ 32 := depth.toNat_lt
  have hne : depth.toNat ≠ 4294967295 := fun heq => h (UInt32.toNat_inj.mp heq)
  exact UInt32.lt_iff_toNat_lt.mpr (show depth.toNat < 4294967295 by omega)

theorem levelAccount {e : Executor} : LevelAccount settings grate depth names e where
  unpaired h := by
    rw [advance_of_unpaired h]
    rfl
  tooDeep h hnot := by
    obtain ⟨deeper, habove, heq⟩ := advance_of_tooDeep_of_lt h (lt_greatest hnot)
    rw [heq]
    exact ⟨deeper, habove, rfl⟩
  greatest h hgreatest := by
    subst hgreatest
    rw [advance_of_greatest h]
    rfl
  only {World} os world final cause e' hrun := by
    obtain h | h | hfits := unpaired_or_tooDeep_or_fits settings depth names
    · rw [advance_of_unpaired h] at hrun
      cases (Supervised.runs_throw.mp hrun).1
      exact .inr (.inl ⟨h, rfl⟩)
    · by_cases hgreatest : depth = 4294967295
      · subst hgreatest
        rw [advance_of_greatest h] at hrun
        cases (Supervised.runs_pure.mp hrun).1
      · obtain ⟨deeper, habove, heq⟩ := advance_of_tooDeep_of_lt h (lt_greatest hgreatest)
        rw [heq] at hrun
        cases (Supervised.runs_throw.mp hrun).1
        exact .inr (.inr ⟨h, deeper, habove, rfl⟩)
    · exact .inl (failsOnly_advance hfits hrun)
  stops {World} os world final e' hrun := by
    obtain h | h | hfits := unpaired_or_tooDeep_or_fits settings depth names
    · rw [advance_of_unpaired h] at hrun
      cases (Supervised.runs_throw.mp hrun).1
    · refine ⟨h, not_not.mp fun hnot => ?_⟩
      obtain ⟨deeper, -, heq⟩ := advance_of_tooDeep_of_lt h (lt_greatest hnot)
      rw [heq] at hrun
      cases (Supervised.runs_throw.mp hrun).1
    · cases names with
      | nil => cases (Supervised.runs_pure.mp hrun).1
      | cons cage rest =>
        rw [advance_of_fits hfits] at hrun
        obtain ⟨_ | report, -, hresult⟩ := Supervised.runs_bind_pure.mp hrun <;> cases hresult
  starts := confined_advance
  found _ := depthIn_childVariables

theorem planAccount {plan : ChainPlan} {e : Executor} : PlanAccount settings plan e where
  tooDeep h := by
    rw [launch_eq, if_pos h]
    rfl
  only {World} os world final cause e' hrun := by
    by_cases hdeep : settings.config.maxChainDepth < statedDepth plan
    · rw [launch_eq, if_pos hdeep] at hrun
      cases (Supervised.runs_throw.mp hrun).1
      exact .inr ⟨hdeep, rfl⟩
    · exact .inl (failsOnly_outermost hdeep hrun)
  stated := toNat_statedDepth plan

/-- **The depths of a chain** are accounted for at every level. -/
theorem depth_is_accounted_for (settings : Settings) (grate : GrateId) (depth : UInt32)
    (names : List String) (plan : ChainPlan) (e : Executor) :
    LevelAccount settings grate depth names e ∧ PlanAccount settings plan e :=
  ⟨levelAccount, planAccount⟩

/-- At the greatest depth that a variable can say, a level does not refuse the pairs behind its cage,
    although the depth is not below the limit: its program stops. -/
theorem refusal_overflows_at_greatest_depth :
    ¬ ∀ (settings : Settings) (grate : GrateId) (lookup : String → Option String)
      (names : List String), 1 ≤ settings.config.maxChainDepth →
      TooDeep settings (depthIn lookup) names → ∃ named limit,
        advance settings grate (depthIn lookup) names default =
          pure (.error (.chainTooDeep named limit), default) := by
  intro h
  have hlookup : (depthIn fun _ => some "4294967295") = 4294967295 :=
    congrArg (Option.getD · 1) (Text.halfWord?_toString 4294967295)
  have htooDeep : TooDeep ⟨.defaults (.ofText "/tmp/chain"), []⟩ 4294967295
      ["cage", "grate", "cage"] :=
    ⟨List.cons_ne_nil _ _, rfl, by decide⟩
  obtain ⟨named, limit, hrefused⟩ := h _ ⟨2⟩ _ _ (by decide) (hlookup ▸ htooDeep)
  rw [hlookup, advance_of_greatest htooDeep] at hrefused
  cases hrefused

end Chain

end Interposition
