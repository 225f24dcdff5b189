/-
  What a grate of a chain makes of its names and its variables.

  A grate is started with names alone, which are read as names if none of them can be taken for a
  flag, and with variables that say how deep it stands and which settings are handed down.

  1. **Variables** (`Surroundings.InChain`, `IsGrate.depth_ofChild`): a grate is told its depth, and it
     is not told to serve a session if its parent was not.

  2. **The turn of a grate** (`meets_continueChain`): it is a level, with the names it was given.

  3. **The program** (`meets_grate`): its exit status is zero exactly when that of the level is.
-/
import Interposition.Proofs.Chain.Levels
import Interposition.Proofs.CommandLine.Names
import Interposition.Proofs.Config
import Interposition.Proofs.Json.RoundTrip

namespace Interposition.Chain

open CommandLine (GrateArguments IsPlain)
open Program (Meets meets_request_bind)

variable {machine : Machine} {self : Surroundings} {fate : Pid → Option Termination}
  {inv : List Child → Prop} {now : Doings}

/-! ## Variables -/

/-- A process finds nothing that tells it to serve a session. -/
def Surroundings.InChain (self : Surroundings) : Prop :=
  self.vars.lookup (LaunchSettings.setting GrateLaunch) = none

/-- The settings a process may take from the variables it finds. -/
def Surroundings.Allows (self : Surroundings) (config : RuntimeConfig) : Prop :=
  ∃ fresh, RuntimeConfig.fromLookup fresh (fun name => self.vars.lookup name) = .ok config

/-- Its variables hold no settings of a session. -/
theorem Surroundings.InChain.ofEnvironment (h : self.InChain) {vars : List (String × String)}
    (hvars : ∀ name, vars.lookup name = self.vars.lookup name) :
    LaunchSettings.ofEnvironment GrateLaunch (fun name => vars.lookup name) = .ok none := by
  have hlookup : vars.lookup (LaunchSettings.setting GrateLaunch) = none := (hvars _).trans h
  unfold LaunchSettings.ofEnvironment
  simp only [hlookup]

/-- The depth a process finds itself at. -/
def Surroundings.depth (self : Surroundings) : UInt32 := depthIn fun name => self.vars.lookup name

section

variable {child : Child} {settings : Settings} {depth : UInt32} {name : String}
  {names : List String}

/-- The names of the variables of a child are different. -/
theorem nodup_childVariables : ((childVariables settings depth).map Prod.fst).Nodup := by
  show [RuntimeConfig.stateDirVariable, RuntimeConfig.readyTimeoutVariable,
    RuntimeConfig.armTimeoutVariable, RuntimeConfig.maxChainDepthVariable,
    chainDepthVariable].Nodup
  decide

/-- A process finds the depth that its parent has given it, whatever else it finds. -/
theorem depthIn_childVariables (inherited : List (String × String)) :
    (depthIn fun name => (childVariables settings depth ++ inherited).lookup name) = depth := by
  have hentry : (chainDepthVariable, toString depth) ∈ childVariables settings depth :=
    List.mem_append_right _ (List.mem_singleton_self _)
  have hlookup : (childVariables settings depth ++ inherited).lookup chainDepthVariable =
      some (toString depth) := by
    rw [List.lookup_append, Fields.lookup_of_mem nodup_childVariables hentry, Option.some_or]
  show (((childVariables settings depth ++ inherited).lookup chainDepthVariable).bind
    Text.halfWord?).getD 1 = depth
  rw [hlookup, Option.bind_some, Text.halfWord?_toString, Option.getD_some]

namespace IsGrate

/-- A grate finds the variables it was given, whatever its parent has. -/
theorem lookup_ofChild (h : IsGrate settings depth name names child) {entry : String × String}
    (hentry : entry ∈ childVariables settings depth) :
    (self.ofChild child).vars.lookup entry.1 = some entry.2 := by
  unfold Surroundings.ofChild
  rw [h.launch_eq, List.lookup_append, Fields.lookup_of_mem nodup_childVariables hentry,
    Option.some_or]

/-- **The depth** a grate was given is the one it finds. -/
theorem depth_ofChild (h : IsGrate settings depth name names child) :
    (self.ofChild child).depth = depth := by
  unfold Surroundings.depth Surroundings.ofChild
  rw [h.launch_eq]
  exact depthIn_childVariables self.vars

/-- **Settings that survive** are the only ones a grate may take. -/
theorem fromLookup_ofChild (h : IsGrate settings depth name names child)
    (hsurvives : settings.config.Survives) (fresh : Path) :
    RuntimeConfig.fromLookup fresh (fun name => (self.ofChild child).vars.lookup name) =
      .ok settings.config :=
  hsurvives fresh _ fun _ hentry => h.lookup_ofChild (List.mem_append_left _ hentry)

/-- **A grate in a chain**: nothing tells it to serve a session, if nothing tells its parent to. -/
theorem inChain_ofChild (h : IsGrate settings depth name names child) (hchain : self.InChain) :
    (self.ofChild child).InChain := by
  have hnot : (childVariables settings depth).lookup (LaunchSettings.setting GrateLaunch) = none := by
    refine List.lookup_eq_none_iff.mpr fun entry hentry => ?_
    have hname : entry.1 ∈ [RuntimeConfig.stateDirVariable, RuntimeConfig.readyTimeoutVariable,
        RuntimeConfig.armTimeoutVariable, RuntimeConfig.maxChainDepthVariable, chainDepthVariable] :=
      List.mem_map_of_mem (f := Prod.fst) hentry
    revert hname
    generalize entry.1 = name
    revert name
    decide
  unfold Surroundings.InChain Surroundings.ofChild
  rw [h.launch_eq, List.lookup_append, hnot, Option.none_or]
  exact hchain

end IsGrate

end

/-! ## The program -/

/-- A program takes its settings from its variables. -/
theorem meets_configure {settings : CommandLine.Settings} :
    (Programs.configure settings).Meets (host machine self fate) (.alone fun now => inv now.started)
      (fun result after => after = now ∧ ∃ fresh,
        result = settings.config fresh fun name => self.vars.lookup name) now := by
  have hfresh (lookup : String → Option String) : (Programs.freshStateDir lookup).Meets
      (host machine self fate) (.alone fun now => inv now.started) (fun _ after => after = now)
      now := by
    refine meets_request_bind fun hinv name between hbetween => ?_
    obtain rfl : between = now := hbetween
    exact ⟨hinv, rfl⟩
  refine meets_request_bind fun hinv vars between ⟨hvars, hbetween⟩ => ?_
  subst hbetween
  refine ⟨hinv, Meets.bind (hfresh _) ?_⟩
  rintro fresh after rfl
  exact ⟨rfl, fresh, congrArg (settings.config fresh) (funext hvars)⟩

/-- A grate finds settings, and by those the names fit. -/
def Surroundings.Suits (self : Surroundings) (names : List String) : Prop :=
  ∀ fresh, ∃ config,
    RuntimeConfig.fromLookup fresh (fun name => self.vars.lookup name) = .ok config ∧
      Fits (demo config) self.depth names

/-- The names fit by whatever settings it takes. -/
theorem Surroundings.Suits.fits {names : List String} (h : self.Suits names) {config : RuntimeConfig}
    (hallowed : self.Allows config) : Fits (demo config) self.depth names := by
  obtain ⟨fresh, hconfig⟩ := hallowed
  obtain ⟨other, hother, hfits⟩ := h fresh
  cases hother.symm.trans hconfig
  exact hfits

/-- **The turn of a grate** is a level, at the depth the grate finds itself at. -/
theorem meets_continueChain {config : RuntimeConfig} {names : List String}
    (hinv : ∀ started, Level machine (demo config) (.ofPid self.pid) self.depth
      names started → inv started) :
    (Demo.continueChain config names).Meets (host machine self fate)
      (.alone fun now => inv now.started) (fun outcome after =>
        Outcome machine fate (Fits (demo config) self.depth names)
          (min names.length 2) after.started outcome.1) .none := by
  refine meets_request_bind fun hstart who between ⟨hwho, hbetween⟩ => ?_
  subst hbetween
  refine ⟨hstart, meets_request_bind fun hstart vars between ⟨hvars, hbetween⟩ => ?_⟩
  subst hbetween
  refine ⟨hstart, ?_⟩
  have hdepth : (depthIn fun name => vars.lookup name) = self.depth := congrArg depthIn (funext hvars)
  show (advance (demo config) (.ofPid who.process)
    (depthIn fun name => vars.lookup name) names default).Meets _ _ _ _
  rw [hdepth, hwho]
  exact meets_advance hinv

namespace Outcome

variable {fits : Prop} {wanted : Nat} {started : List Child}

/-- **No level fails** that fits, where no start may. -/
theorem exists_report {result : Except ProcessError (Option ChainReport)}
    (hsure : machine.mayFail = false) (hfits : fits)
    (h : Outcome machine fate fits wanted started result) :
    ∃ report, result = .ok (some report) := by
  cases h with
  | reported => exact ⟨_, rfl⟩
  | stopped _ hnot => exact absurd hfits hnot
  | failed _ hwhy =>
    obtain hfails | hnot := hwhy
    · exact absurd hfails (ne_true_of_eq_false hsure)
    · exact absurd hfits hnot

/-- **The status** of a program whose level is reported, if it is. -/
theorem answered_concluded {report? : Option ChainReport} (hwanted : wanted ≠ 0)
    (h : Outcome machine fate fits wanted started (.ok report?)) :
    Concluded fate wanted started (Programs.leaves (report?.bind ChainReport.exitCode)) ∧
      (machine.mayFail = false → fits → started.length = wanted) := by
  cases h with
  | reported hconcluded hall => exact ⟨hconcluded, fun hsure _ => hall hsure⟩
  | stopped hsome hnot =>
    refine ⟨⟨?_, fun hall => absurd hall (hsome hwanted)⟩, fun _ hfits => absurd hfits hnot⟩
    exact iff_of_false (by decide) fun hall => hsome hwanted hall.1

/-- **The status** of a program whose level fails. -/
theorem failed_concluded {cause : ProcessError} {code : Int32} (hwanted : wanted ≠ 0)
    (hcode : code ≠ 0) (h : Outcome machine fate fits wanted started (.error cause)) :
    Concluded fate wanted started code ∧
      (machine.mayFail = false → fits → started.length = wanted) := by
  cases h with
  | failed hsome hwhy =>
    refine ⟨⟨?_, fun hall => absurd hall (hsome hwanted)⟩, fun hsure hfits => ?_⟩
    · exact ⟨fun hzero => absurd hzero hcode, fun hall => absurd hall.1 (hsome hwanted)⟩
    · obtain hfails | hnot := hwhy
      · exact absurd hfails (ne_true_of_eq_false hsure)
      · exact absurd hfits hnot

end Outcome

/-- **The program of a grate** that has been given plain names. -/
theorem meets_grate {cage : String} {rest : List String}
    (hplain : ∀ name ∈ cage :: rest, IsPlain name) (hchain : self.InChain)
    (hinv : ∀ config, self.Allows config → ∀ started, Level machine (demo config)
      (.ofPid self.pid) self.depth (cage :: rest) started → inv started) :
    (Programs.grate (cage :: rest)).Meets (host machine self fate)
      (.alone fun now => inv now.started) (fun code after =>
        Concluded fate (min (cage :: rest).length 2) after.started code ∧
          (machine.mayFail = false → self.Suits (cage :: rest) →
            after.started.length = min (cage :: rest).length 2)) .none := by
  unfold Programs.grate
  rw [GrateArguments.ofWords_of_plain hplain]
  refine meets_request_bind fun hstart vars between ⟨hvars, hbetween⟩ => ?_
  subst hbetween
  refine ⟨hstart, ?_⟩
  simp only [hchain.ofEnvironment hvars]
  refine Meets.bind meets_configure ?_
  rintro result after ⟨rfl, fresh, hresult⟩
  rw [CommandLine.Settings.config_none] at hresult
  have hwanted : min (cage :: rest).length 2 ≠ 0 := by simp
  cases result with
  | error cause =>
    refine ⟨⟨⟨fun hzero => absurd hzero (by decide), fun hall => absurd hall.1 hwanted.symm⟩,
      fun hall => absurd hall hwanted.symm⟩, fun _ hsuits => ?_⟩
    obtain ⟨config, hconfig, -⟩ := hsuits fresh
    rw [hconfig] at hresult
    contradiction
  | ok config =>
    have hallowed : self.Allows config := ⟨fresh, hresult.symm⟩
    refine Meets.bind (meets_continueChain (hinv config hallowed)) ?_
    rintro ⟨cause | report?, e⟩ final hfinal
    · obtain ⟨hconcluded, hall⟩ := hfinal.failed_concluded hwanted
        (by decide : Programs.failure ≠ 0)
      exact ⟨hconcluded, fun hsure hsuits => hall hsure (hsuits.fits hallowed)⟩
    · obtain ⟨hconcluded, hall⟩ := hfinal.answered_concluded hwanted
      exact ⟨hconcluded, fun hsure hsuits => hall hsure (hsuits.fits hallowed)⟩

end Interposition.Chain
