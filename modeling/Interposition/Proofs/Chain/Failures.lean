/-
  A failure anywhere in a chain surfaces at the top.

  Each level makes one status of the ends of its children, and the level above makes one of that.
  No level makes a zero of anything but zeros, so the status at the top is zero only if everybody
  was started and nobody failed.

  1. **Success** (`Succeeded`): everybody was started, every cage ended with zero, and no grate was
     killed.

  2. **One grate** (`Lives.exited_zero_iff`), by induction on the links it was given: its status is
     zero exactly when everybody below it succeeded.

  3. **The loader** (`chain_exits_zero_iff`).  Names must not be such that a grate takes them for
     flags: a grate that is asked for help gives it and ends with zero, and the cage it should have
     started is missed by nobody (`missing_cage_goes_unnoticed`).
-/
import Interposition.Proofs.Chain.Obliging
import Interposition.Proofs.Chain.Stages

namespace Interposition.Chain

open CommandLine (LoaderArguments)
open Program (Meets)

variable {machine : Machine} {self : Surroundings} {fate : Pid → Option Termination}
  {link : ChainLink} {links : List ChainLink} {code : Int32} {entries : List Entry}

/-! ## Success -/

/-- The image of a process, and whether it is a cage. -/
def Entry.kind (entry : Entry) : Path × Bool := (entry.child.launch.program, entry.child.hooked)

/-- The processes of links, in order. -/
def kinds (links : List ChainLink) : List (Path × Bool) :=
  links.flatMap fun link => [(.ofText link.grate, false), (.ofText link.cage, true)]

/-- All the wanted processes were started, every cage ended with zero, and no grate was killed. -/
structure Succeeded (wanted : List (Path × Bool)) (entries : List Entry) : Prop where
  started : entries.map Entry.kind = wanted
  cages : ∀ entry ∈ entries, entry.child.hooked = true → entry.ended = some (.exited 0)
  grates : ∀ entry ∈ entries, entry.child.hooked = false →
    ∀ signal, entry.ended ≠ some (.signaled signal)

theorem succeeded_nil : Succeeded [] [] := ⟨rfl, nofun, nofun⟩

theorem not_succeeded_nil {first : Path × Bool} {wanted : List (Path × Bool)} :
    ¬Succeeded (first :: wanted) [] := fun h => nomatch h.started

/-- One process, and the others. -/
theorem succeeded_cons {first : Path × Bool} {wanted : List (Path × Bool)} {entry : Entry} :
    Succeeded (first :: wanted) (entry :: entries) ↔ entry.kind = first ∧
      (entry.child.hooked = true → entry.ended = some (.exited 0)) ∧
      (entry.child.hooked = false → ∀ signal, entry.ended ≠ some (.signaled signal)) ∧
      Succeeded wanted entries := by
  constructor
  · rintro ⟨hstarted, hcages, hgrates⟩
    rw [List.map_cons, List.cons.injEq] at hstarted
    exact ⟨hstarted.1, hcages entry List.mem_cons_self, hgrates entry List.mem_cons_self,
      hstarted.2, fun other hother => hcages other (List.mem_cons_of_mem _ hother),
      fun other hother => hgrates other (List.mem_cons_of_mem _ hother)⟩
  · rintro ⟨hkind, hcage, hgrate, hstarted, hcages, hgrates⟩
    refine ⟨by rw [List.map_cons, hkind, hstarted], fun other hother => ?_, fun other hother => ?_⟩
    · obtain rfl | hother := List.mem_cons.mp hother
      · exact hcage
      · exact hcages other hother
    · obtain rfl | hother := List.mem_cons.mp hother
      · exact hgrate
      · exact hgrates other hother

/-- A cage succeeds by ending with zero. -/
theorem succeeded_cage {settings : Settings} {depth : UInt32} {grate : GrateId} {name : String}
    {child : Child} {ended : Option Termination} {wanted : List (Path × Bool)}
    (h : IsCage machine settings depth grate name child) :
    Succeeded ((.ofText name, true) :: wanted) (⟨child, ended⟩ :: entries) ↔
      ended = some (.exited 0) ∧ Succeeded wanted entries := by
  have hkind : Entry.kind ⟨child, ended⟩ = (.ofText name, true) := by
    rw [Entry.kind, h.launch_eq, h.hooked]
  rw [succeeded_cons]
  simp [hkind, h.hooked]

/-- A grate does not succeed as a cage. -/
theorem not_succeeded_grate {settings : Settings} {depth : UInt32} {name : String} {path : Path}
    {names : List String} {child : Child} {ended : Option Termination}
    {wanted : List (Path × Bool)} (h : IsGrate settings depth name names child) :
    ¬Succeeded ((path, true) :: wanted) (⟨child, ended⟩ :: entries) := by
  intro hsucceeded
  have hkind := congrArg Prod.snd (succeeded_cons.mp hsucceeded).1
  exact absurd hkind (ne_true_of_eq_false h.unhooked)

/-! ## One grate -/

/-- A process that has ended has come to its end or was killed. -/
theorem Lives.exited_or_signaled {program : Program Int32} {t : Termination}
    (h : Lives machine self program (some t) entries) :
    (∃ code, t = .exited code) ∨ ∃ signal, t = .signaled signal := by
  cases h with
  | intro _ hends =>
    cases t with
    | exited code => exact .inl ⟨code, rfl⟩
    | signaled signal => exact .inr ⟨signal, rfl⟩
    | vanished => exact hends.elim

/-- **A grate ends with zero** exactly when it was not killed and everybody below it succeeded. -/
theorem exited_zero_iff_of_isGrate {settings : Settings} {depth : UInt32} {child : Child}
    (hchild : IsGrate settings depth link.grate (link.cage :: namesOf links) child)
    (hlife : Lives machine (self.ofChild child) (Programs.grate (link.cage :: namesOf links))
      (fate child.pid) entries) (hended : (fate child.pid).isSome)
    (hbelow : ∀ code, fate child.pid = some (.exited code) →
      (code = 0 ↔ Succeeded ((.ofText link.cage, true) :: kinds links) entries)) :
    fate child.pid = some (.exited 0) ↔
      Succeeded (kinds (link :: links)) (⟨child, fate child.pid⟩ :: entries) := by
  have hkind : Entry.kind ⟨child, fate child.pid⟩ = (.ofText link.grate, false) := by
    rw [Entry.kind, hchild.launch_eq, hchild.unhooked]
  have hkinds : kinds (link :: links) =
      (.ofText link.grate, false) :: (.ofText link.cage, true) :: kinds links := rfl
  rw [hkinds, succeeded_cons]
  constructor
  · intro hzero
    refine ⟨hkind, fun hhooked => hzero, fun _ signal hsignal => ?_, (hbelow 0 hzero).mp rfl⟩
    cases hzero.symm.trans hsignal
  · rintro ⟨-, -, hkilled, hsucceeded⟩
    obtain ⟨t, ht⟩ := Option.isSome_iff_exists.mp hended
    rw [ht] at hlife
    obtain ⟨code, rfl⟩ | ⟨signal, rfl⟩ := hlife.exited_or_signaled
    · rw [ht, (hbelow code ht).mpr hsucceeded]
    · exact absurd ht (hkilled hchild.unhooked signal)

/-- **The status of a grate** is zero exactly when everybody below it succeeded. -/
theorem Lives.exited_zero_iff (hplain : ArePlain (link :: links)) (hchain : self.InChain)
    (h : Lives machine self (Programs.grate (link.cage :: namesOf links)) (some (.exited code))
      entries) : code = 0 ↔ Succeeded ((.ofText link.cage, true) :: kinds links) entries := by
  induction links generalizing self link code entries with
  | nil =>
    obtain ⟨fate, started, hstage, hend⟩ := h.stage hplain.cage_namesOf hchain
    rw [(hend code rfl).1.zero_iff]
    cases hstage with
    | nobody => exact iff_of_false (fun hall => nomatch hall.1) not_succeeded_nil
    | cage _ hcage =>
      rw [succeeded_cage hcage]
      simp [wanted, kinds, succeeded_nil]
  | cons nextLink links ih =>
    obtain ⟨fate, started, hstage, hend⟩ := h.stage hplain.cage_namesOf hchain
    have hconcluded := (hend code rfl).1
    rw [hconcluded.zero_iff]
    cases hstage with
    | nobody => exact iff_of_false (fun hall => nomatch hall.1) not_succeeded_nil
    | cage _ hcage =>
      -- names are left, but nobody was started with them
      rw [succeeded_cage hcage]
      exact iff_of_false (fun hall => absurd hall.1 (by simp [wanted]))
        fun hall => not_succeeded_nil hall.2
    | grate _ _ hnext =>
      exact iff_of_false (fun hall => absurd hall.1 (by simp [wanted])) (not_succeeded_grate hnext)
    | @both _ _ _ cage next below _ hcage hnext hlife =>
      have hended : (fate next.pid).isSome := hconcluded.ended rfl next (by simp)
      have hchain : (self.ofChild next).InChain := hnext.inChain_ofChild hchain
      rw [succeeded_cage hcage, ← exited_zero_iff_of_isGrate hnext hlife hended fun code hcode =>
        ih hplain.tail hchain (hcode ▸ hlife)]
      simp [wanted]

/-! ## The loader -/

/-- Names that make a plan make a link. -/
theorem links_ne_nil_of_ofNames {names : List String} {plan : ChainPlan}
    (h : ChainPlan.ofNames names = .ok plan) : plan.links ≠ [] := by
  unfold ChainPlan.ofNames at h
  split at h
  · next first rest links hpairs =>
    cases h
    rintro rfl
    cases rest with
    | nil => cases hpairs
    | cons cage rest =>
      obtain ⟨links, -, hlinks⟩ := Option.map_eq_some_iff.mp hpairs
      cases hlinks
  · contradiction

/-- Whom the loader may have started, by whatever settings. -/
def MayHaveStartedFirst (links : List ChainLink) (started : List Child) : Prop :=
  started = [] ∨ ∃ settings, Outermost settings links started

/-- **The loader** that is given a chain is the outermost level of it. -/
theorem meets_loader {words names : List String} {settings : CommandLine.Settings}
    {plan : ChainPlan} (hwords : LoaderArguments.ofWords words = .ok ⟨settings, .chain names⟩)
    (hplan : ChainPlan.ofNames names = .ok plan) :
    (Programs.loader words).Meets (host machine self fate)
      (.alone fun now => MayHaveStartedFirst plan.links now.started)
      (fun code after => Concluded fate 1 after.started code) .none := by
  unfold Programs.loader
  rw [hwords]
  refine Meets.bind meets_configure ?_
  rintro result after ⟨rfl, -⟩
  cases result with
  | error cause =>
    exact ⟨⟨fun hzero => absurd hzero (show Programs.clamped 2 ≠ 0 by decide),
      fun hall => nomatch hall.1⟩, nofun⟩
  | ok config =>
    have hlaunch : launchNamed (demo config) names =
        launch (demo config) plan := by
      unfold launchNamed
      rw [hplan]
      rfl
    show (Programs.statusOf ChainReport.exitCode
      (launchNamed (demo config) names)).Meets _ _ _ _
    rw [hlaunch]
    exact (meets_statusOf_launch fun _ hstarted => .inr ⟨_, hstarted⟩).mono fun _ _ hend =>
      (hend (links_ne_nil_of_ofNames hplan)).1

/-- Nobody started is not everybody. -/
theorem not_succeeded_of_links (h : links ≠ []) : ¬Succeeded (kinds links) [] := by
  obtain ⟨link, links, rfl⟩ := List.exists_cons_of_ne_nil h
  exact not_succeeded_nil

/-- **The status of the outermost level** is zero exactly when everybody succeeded. -/
theorem OutermostStage.zero_iff {settings : Settings} {started : List Child}
    (hplain : ArePlain links) (hlinks : links ≠ []) (hchain : self.InChain)
    (hconcluded : Concluded fate 1 started code)
    (h : OutermostStage machine self settings fate links started entries) :
    code = 0 ↔ Succeeded (kinds links) entries := by
  rw [hconcluded.zero_iff]
  cases h with
  | nobody => exact iff_of_false (fun hall => nomatch hall.1) (not_succeeded_of_links hlinks)
  | @grate link links child below hchild hlife =>
    have hended : (fate child.pid).isSome := hconcluded.ended rfl child List.mem_cons_self
    have hchain : (self.ofChild child).InChain := hchild.inChain_ofChild hchain
    rw [← exited_zero_iff_of_isGrate hchild hlife hended fun code hcode =>
      (hcode ▸ hlife).exited_zero_iff hplain hchain]
    simp

/-- **A failure anywhere surfaces at the top.**  The loader that is given a chain of plain names ends
    with zero exactly when every grate and every cage was started, in order, every cage ended with
    zero and no grate was killed. -/
theorem chain_exits_zero_iff {words names : List String} {settings : CommandLine.Settings}
    {plan : ChainPlan} (hwords : LoaderArguments.ofWords words = .ok ⟨settings, .chain names⟩)
    (hplan : ChainPlan.ofNames names = .ok plan) (hplain : ArePlain plan.links)
    (hchain : self.InChain)
    (hlife : Lives machine self (Programs.loader words) (some (.exited code)) entries) :
    code = 0 ↔ Succeeded (kinds plan.links) entries := by
  cases hlife with
  | @intro _ _ _ fate now _ _ hreaches hends hbelow =>
  subst hends
  obtain ⟨hlevel, hconcluded⟩ := (meets_loader hwords hplan).reaches (.inl rfl) hreaches
  have hlinks := links_ne_nil_of_ofNames hplan
  obtain hnone | ⟨levelSettings, hlevel⟩ := hlevel
  · -- nobody was started, and the loader says so
    rw [hnone] at hbelow
    rw [hbelow.eq_nil]
    have hfailed : code ≠ 0 := fun hzero =>
      absurd (hconcluded.zero_iff.mp hzero).1 (by simp [hnone])
    exact iff_of_false hfailed (not_succeeded_of_links hlinks)
  · exact (hlevel.stage hbelow).zero_iff hplain hlinks hchain hconcluded

/-- A chain of two grates in which everybody succeeds. -/
theorem chain_exits_zero_of_two :
    LoaderArguments.ofWords ["chain", "outer", "first", "inner", "second"] =
      .ok ⟨.none, .chain ["outer", "first", "inner", "second"]⟩ ∧
    ChainPlan.ofNames ["outer", "first", "inner", "second"] = .ok ⟨[outerLink, innerLink]⟩ ∧
    ArePlain [outerLink, innerLink] ∧ starter.InChain ∧
    ∃ entries, Lives sureMachine starter
        (Programs.loader ["chain", "outer", "first", "inner", "second"]) (some (.exited 0)) entries ∧
      Succeeded (kinds [outerLink, innerLink]) entries := by
  have hwords : LoaderArguments.ofWords ["chain", "outer", "first", "inner", "second"] =
      .ok ⟨.none, .chain ["outer", "first", "inner", "second"]⟩ := rfl
  have hplain : ArePlain [outerLink, innerLink] := by
    simp [ArePlain, CommandLine.IsPlain, outerLink, innerLink]
  have hchain : starter.InChain := rfl
  have hlife : Lives sureMachine starter
      (Programs.loader ["chain", "outer", "first", "inner", "second"]) (some (.exited 0))
      (succeeding twoLinksStarted) :=
    .of_play (fun _ => some (.exited 0)) [(2, [])] 4 [grateOf 1 2 outerLink [innerLink]]
      (by decide +kernel) (.of_grate rfl lives_outerGrate)
  exact ⟨hwords, rfl, hplain, hchain, _, hlife,
    (chain_exits_zero_iff hwords rfl hplain hchain hlife).mp rfl⟩

/-- A name that begins with a dash.  The grate is asked for help instead of being given a cage, gives
    it and ends with zero, and so does the loader.  The cage was never started. -/
theorem missing_cage_goes_unnoticed :
    LoaderArguments.ofWords ["chain", "--", "lind-grate", "--help"] =
      .ok ⟨.none, .chain ["lind-grate", "--help"]⟩ ∧
    ChainPlan.ofNames ["lind-grate", "--help"] = .ok ⟨[⟨"lind-grate", "--help"⟩]⟩ ∧
    starter.InChain ∧ ∃ entries,
      Lives sureMachine starter (Programs.loader ["chain", "--", "lind-grate", "--help"])
        (some (.exited 0)) entries ∧
      ¬Succeeded (kinds [⟨"lind-grate", "--help"⟩]) entries := by
  have hgrate : Lives sureMachine
      (starter.ofChild (grateOf 1 2 ⟨"lind-grate", "--help"⟩ [])) (Programs.grate ["--help"])
      (some (.exited 0)) [] :=
    .of_play (fun _ => none) [] 4 [] (by decide +kernel) .nobody
  refine ⟨rfl, rfl, rfl, _, .of_play (fun _ => some (.exited 0)) [(2, [])] 4
    [grateOf 1 2 ⟨"lind-grate", "--help"⟩ []] (by decide +kernel) (.of_grate rfl hgrate), ?_⟩
  exact fun h => not_succeeded_nil (succeeded_cons.mp h).2.2.2

end Interposition.Chain
