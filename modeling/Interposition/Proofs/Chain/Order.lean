/-
  A chain starts every link once, and in order.

  Each grate splits the names it was given once more, compares its depth with the limit once more,
  and hands on what is left.  Nothing goes wrong on the way: what a grate hands on are the names of
  the links behind its own (`eq_cons_of_namesOf`), and the depth it hands on is its own and one.

  1. **Order** (`InOrder`): the processes of a chain, up to whichever has been started last.

  2. **Every grate** (`Lives.inOrder`, `Lives.length_eq`): those below it are in order, and they are
     all there once it and the grates below it have come to an end by themselves.

  3. **The whole chain** (`launch_starts_every_link`): with a plan within the limit no level fails,
     and a plan beyond it is refused before anything is asked of anybody.
-/
import Interposition.Proofs.Chain.Obliging
import Interposition.Proofs.Chain.Stages

namespace Interposition.Chain

open Program (Meets Reaches)

variable {machine : Machine} {self : Surroundings} {config : RuntimeConfig} {link : ChainLink}
  {links : List ChainLink} {ended : Option Termination} {entries : List Entry}

/-! ## Order -/

/-- The processes of links from a depth on, in the order of the links, each grate before its cage.
    Any number of them may not have been started. -/
inductive InOrder (machine : Machine) (config : RuntimeConfig) :
    UInt32 → List ChainLink → List Entry → Prop where
  | nobody {depth : UInt32} {links : List ChainLink} : InOrder machine config depth links []
  | grate {depth : UInt32} {link : ChainLink} {links : List ChainLink} {grate : Entry}
      (h : IsGrate (demo config) depth link.grate (link.cage :: namesOf links) grate.child) :
      InOrder machine config depth (link :: links) [grate]
  | link {depth : UInt32} {link : ChainLink} {links : List ChainLink} {grate cage : Entry}
      {rest : List Entry}
      (h : IsGrate (demo config) depth link.grate (link.cage :: namesOf links) grate.child)
      (hcage : IsCage machine (demo config) depth (.ofPid grate.child.pid) link.cage cage.child)
      (hwritten : cage.child.written =
        (demo config).registrations (.ofPid cage.child.pid) (.ofPid grate.child.pid))
      (hrest : InOrder machine config (depth + 1) links rest) :
      InOrder machine config depth (link :: links) (grate :: cage :: rest)

/-- The processes below a grate at a depth that serves a cage and has links to hand on. -/
inductive BelowInOrder (machine : Machine) (config : RuntimeConfig) (depth : UInt32) (grate : Pid)
    (cage : String) (links : List ChainLink) : List Entry → Prop where
  | nobody : BelowInOrder machine config depth grate cage links []
  | cage {child : Entry} {rest : List Entry}
      (h : IsCage machine (demo config) depth (.ofPid grate) cage child.child)
      (hwritten : child.child.written =
        (demo config).registrations (.ofPid child.child.pid) (.ofPid grate))
      (hrest : InOrder machine config (depth + 1) links rest) :
      BelowInOrder machine config depth grate cage links (child :: rest)

/-- A grate and those below it. -/
theorem BelowInOrder.inOrder {depth : UInt32} {link : ChainLink} {grate : Entry}
    (hgrate : IsGrate (demo config) depth link.grate (link.cage :: namesOf links) grate.child)
    (h : BelowInOrder machine config depth grate.child.pid link.cage links entries) :
    InOrder machine config depth (link :: links) (grate :: entries) := by
  cases h with
  | nobody => exact .grate hgrate
  | cage hcage hwritten hrest => exact .link hgrate hcage hwritten hrest

/-! ## Every grate -/

/-- A process in a chain whose settings are handed down unchanged, on a machine where nothing
    fails. -/
structure Steady (machine : Machine) (config : RuntimeConfig) (who : Surroundings) : Prop where
  sure : machine.mayFail = false
  journalPath : config.journalPath = machine.journalPath
  inChain : who.InChain
  settings : ∀ fresh,
    RuntimeConfig.fromLookup fresh (fun name => who.vars.lookup name) = .ok config

/-- The only settings it may take are those of the chain. -/
theorem Steady.eq_of_allows (h : Steady machine config self) {other : RuntimeConfig}
    (hother : self.Allows other) : other = config := by
  obtain ⟨fresh, hfresh⟩ := hother
  exact Except.ok.inj (hfresh.symm.trans (h.settings fresh))

/-- A grate that such a process starts is such a process. -/
theorem Steady.ofChild (hsure : machine.mayFail = false)
    (hpath : config.journalPath = machine.journalPath) (hchain : self.InChain)
    (hsurvives : config.Survives) {depth : UInt32} {name : String} {names : List String}
    {child : Child} (hchild : IsGrate (demo config) depth name names child) :
    Steady machine config (self.ofChild child) :=
  ⟨hsure, hpath, hchild.inChain_ofChild hchain, hchild.fromLookup_ofChild hsurvives⟩

theorem Steady.next (h : Steady machine config self) (hsurvives : config.Survives) {depth : UInt32}
    {name : String} {names : List String} {child : Child}
    (hchild : IsGrate (demo config) depth name names child) :
    Steady machine config (self.ofChild child) :=
  .ofChild h.sure h.journalPath h.inChain hsurvives hchild

/-- **Those below a grate** are in order. -/
theorem Lives.inOrder (hsteady : Steady machine config self) (hsurvives : config.Survives)
    (hplain : ArePlain (link :: links))
    (h : Lives machine self (Programs.grate (link.cage :: namesOf links)) ended entries) :
    BelowInOrder machine config self.depth self.pid link.cage links entries := by
  induction links generalizing self link ended entries with
  | nil =>
    obtain ⟨fate, started, hstage, -⟩ := h.stage hplain.cage_namesOf hsteady.inChain
    cases hstage with
    | nobody => exact .nobody
    | cage hallowed hcage =>
      rw [hsteady.eq_of_allows hallowed] at hcage
      exact .cage hcage (hcage.written hsteady.journalPath) .nobody
  | cons nextLink links ih =>
    obtain ⟨fate, started, hstage, -⟩ := h.stage hplain.cage_namesOf hsteady.inChain
    cases hstage with
    | nobody => exact .nobody
    | cage hallowed hcage =>
      rw [hsteady.eq_of_allows hallowed] at hcage
      exact .cage hcage (hcage.written hsteady.journalPath) .nobody
    | both hallowed hcage hnext hlife =>
      -- the next grate has the names of the links behind its own, and stands one deeper
      rw [hsteady.eq_of_allows hallowed] at hcage hnext
      have hbelow := ih (hsteady.next hsurvives hnext) hplain.tail hlife
      rw [hnext.depth_ofChild] at hbelow
      exact .cage hcage (hcage.written hsteady.journalPath) (hbelow.inOrder hnext)
    | grate _ hfails => exact absurd hfails (ne_true_of_eq_false hsteady.sure)

/-- One level deeper is deeper by one at most. -/
theorem toNat_succ_le (depth : UInt32) : (depth + 1).toNat ≤ depth.toNat + 1 := by
  rw [UInt32.toNat_add]
  exact Nat.mod_le _ _

/-- Every grate among some processes has come to an end by itself. -/
def GratesExit (entries : List Entry) : Prop :=
  ∀ entry ∈ entries, entry.child.hooked = false → ∃ code, entry.ended = some (.exited code)

/-- **All of those below a grate** are there in the end. -/
theorem Lives.length_eq (hsteady : Steady machine config self) (hsurvives : config.Survives)
    (hplain : ArePlain (link :: links))
    (hdepth : self.depth.toNat + links.length ≤ config.maxChainDepth.toNat) {code : Int32}
    (hexits : GratesExit entries)
    (h : Lives machine self (Programs.grate (link.cage :: namesOf links)) (some (.exited code))
      entries) : entries.length = 2 * links.length + 1 := by
  induction links generalizing self link code entries with
  | nil =>
    obtain ⟨fate, started, hstage, hend⟩ := h.stage hplain.cage_namesOf hsteady.inChain
    have hall := (hend code rfl).2 hsteady.sure fun fresh => ⟨config, hsteady.settings fresh, .inl rfl⟩
    cases hstage with
    | nobody => contradiction
    | cage => rfl
  | cons nextLink links ih =>
    obtain ⟨fate, started, hstage, hend⟩ := h.stage hplain.cage_namesOf hsteady.inChain
    rw [List.length_cons] at hdepth
    have hless : self.depth < config.maxChainDepth := by
      rw [UInt32.lt_iff_toNat_lt]
      omega
    have hall := (hend code rfl).2 hsteady.sure fun fresh =>
      ⟨config, hsteady.settings fresh, .inr hless⟩
    cases hstage with
    | nobody => contradiction
    | cage => exact absurd hall (by simp [wanted])
    | grate _ hfails => exact absurd hfails (ne_true_of_eq_false hsteady.sure)
    | @both _ _ _ cage next below hallowed _ hnext hlife =>
      rw [hsteady.eq_of_allows hallowed] at hnext
      obtain ⟨nextCode, hnextCode⟩ : ∃ code, fate next.pid = some (.exited code) :=
        hexits ⟨next, fate next.pid⟩ (List.mem_cons_of_mem _ List.mem_cons_self) hnext.unhooked
      rw [hnextCode] at hlife
      -- the links left are one fewer, and the depth is one more
      have hdeeper : (self.ofChild next).depth.toNat + links.length ≤ config.maxChainDepth.toNat := by
        have hsucc := toNat_succ_le self.depth
        rw [hnext.depth_ofChild]
        omega
      have hbelow := ih (hsteady.next hsurvives hnext) hplain.tail hdeeper
        (fun entry hentry => hexits entry (List.mem_cons_of_mem _ (List.mem_cons_of_mem _ hentry)))
        hlife
      rw [List.length_cons, List.length_cons, hbelow, List.length_cons]
      omega

/-! ## No level fails -/

/-- Whatever a grate finds, its turn comes to a report if it comes to anything. -/
def NeverFails (machine : Machine) (child : Child) : Prop :=
  ∀ parent fate config result e now, (Surroundings.ofChild parent child).Allows config →
    Reaches (host machine (parent.ofChild child) fate)
      (Demo.continueChain config child.launch.args) .none (.pure (result, e)) now →
    ∃ report, result = .ok (some report)

theorem IsGrate.neverFails (hsure : machine.mayFail = false) (hsurvives : config.Survives)
    {depth : UInt32} {child : Child} (hdepth : depth.toNat + links.length ≤ config.maxChainDepth.toNat)
    (h : IsGrate (demo config) depth link.grate (link.cage :: namesOf links) child) :
    NeverFails machine child := by
  intro parent fate other result e now hallowed hreaches
  have hsame : other = config := by
    obtain ⟨fresh, hfresh⟩ := hallowed
    exact Except.ok.inj (hfresh.symm.trans (h.fromLookup_ofChild hsurvives fresh))
  subst hsame
  have hargs : child.launch.args = link.cage :: namesOf links := congrArg Launch.args h.launch_eq
  rw [hargs] at hreaches
  have hmeets : (Demo.continueChain other (link.cage :: namesOf links)).Meets
      (host machine (parent.ofChild child) fate) (.alone fun now => Level machine (demo other)
        (.ofPid (parent.ofChild child).pid) (parent.ofChild child).depth
        (link.cage :: namesOf links) now.started) _ .none :=
    meets_continueChain fun _ h => h
  refine (hmeets.ends .nobody hreaches).exists_report hsure (fits_namesOf ?_)
  rw [h.depth_ofChild]
  cases links with
  | nil => exact .inl rfl
  | cons next links =>
    rw [List.length_cons] at hdepth
    exact .inr (UInt32.lt_iff_toNat_lt.mpr
      (show depth.toNat < other.maxChainDepth.toNat by omega))

/-- **No grate fails** of a chain within the limit. -/
theorem InOrder.neverFails (hsure : machine.mayFail = false) (hsurvives : config.Survives)
    {depth : UInt32} (h : InOrder machine config depth links entries)
    (hdepth : depth.toNat + links.length ≤ config.maxChainDepth.toNat + 1) :
    ∀ entry ∈ entries, entry.child.hooked = false → NeverFails machine entry.child := by
  induction h with
  | nobody => exact nofun
  | grate hgrate =>
    rintro entry hentry -
    rw [List.mem_singleton.mp hentry]
    rw [List.length_cons] at hdepth
    exact hgrate.neverFails hsure hsurvives (by omega)
  | @link depth _ links _ _ _ hgrate hcage _ _ ih =>
    intro entry hentry hunhooked
    rw [List.length_cons] at hdepth
    obtain rfl | hentry := List.mem_cons.mp hentry
    · exact hgrate.neverFails hsure hsurvives (by omega)
    · obtain rfl | hentry := List.mem_cons.mp hentry
      · exact absurd hcage.hooked (ne_true_of_eq_false hunhooked)
      · refine ih ?_ entry hentry hunhooked
        have hsucc := toNat_succ_le depth
        omega

/-! ## The whole chain -/

/-- What is started for links from a depth on. -/
def launches (config : RuntimeConfig) : UInt32 → List ChainLink → List Launch
  | _, [] => []
  | depth, link :: links =>
    ⟨.ofText link.grate, link.cage :: namesOf links, childVariables (demo config) depth⟩ ::
      ⟨.ofText link.cage, [], childVariables (demo config) depth⟩ ::
        launches config (depth + 1) links

/-- **All of a chain**: when as many have been started as there are names, each has been once. -/
theorem InOrder.map_launch_eq {depth : UInt32} (h : InOrder machine config depth links entries)
    (hall : entries.length = 2 * links.length) :
    entries.map (·.child.launch) = launches config depth links := by
  induction h with
  | @nobody depth links =>
    cases links with
    | nil => rfl
    | cons => simp at hall
  | grate => simp only [List.length_cons, List.length_nil] at hall; omega
  | link hgrate hcage _ _ ih =>
    rw [List.map_cons, List.map_cons, hgrate.launch_eq, hcage.launch_eq, ih (by
      simp only [List.length_cons] at hall
      omega)]
    rfl

/-- A chain that is accepted: its plan is within the limit, its names are plain, its settings can be
    handed down, and nothing fails on the machine it runs on. -/
structure Accepted (machine : Machine) (config : RuntimeConfig) (plan : ChainPlan)
    (who : Surroundings) : Prop where
  sure : machine.mayFail = false
  journalPath : config.journalPath = machine.journalPath
  inChain : who.InChain
  survives : config.Survives
  plain : ArePlain plan.links
  within : plan.depth ≤ config.maxChainDepth.toNat

/-- **The outermost level** does not fail either. -/
theorem Accepted.launch_ok {plan : ChainPlan} (h : Accepted machine config plan self)
    {fate : Pid → Option Termination} {result : Except ProcessError ChainReport} {e : Executor}
    {now : Doings} (hreaches : Reaches (host machine self fate) (launch (demo config) plan default)
      .none (.pure (result, e)) now) : ∃ report, result = .ok report := by
  have hmeets : (launch (demo config) plan default).Meets (host machine self fate)
      (.alone fun now => Outermost (demo config) plan.links now.started) _ .none :=
    meets_launch fun _ h => h
  obtain ⟨report, hreport⟩ := (hmeets.ends .nobody hreaches).exists_report h.sure h.within
  cases result with
  | error => contradiction
  | ok report => exact ⟨report, rfl⟩

namespace OutermostStage

variable {fate : Pid → Option Termination} {started : List Child}

/-- The first grate of a chain that is accepted. -/
theorem steady (h : Accepted machine config ⟨link :: links⟩ self) {child : Child}
    (hchild : IsGrate (demo config) 1 link.grate (link.cage :: namesOf links) child) :
    Steady machine config (self.ofChild child) :=
  .ofChild h.sure h.journalPath h.inChain h.survives hchild

/-- **The processes of a chain** that is accepted are in order. -/
theorem inOrder (h : Accepted machine config ⟨links⟩ self)
    (hstage : OutermostStage machine self (demo config) fate links started entries) :
    InOrder machine config 1 links entries := by
  cases hstage with
  | nobody => exact .nobody
  | grate hchild hlife =>
    have hbelow := hlife.inOrder (steady h hchild) h.survives h.plain
    rw [hchild.depth_ofChild] at hbelow
    exact hbelow.inOrder hchild

/-- **All processes of a chain** that is accepted are there in the end. -/
theorem length_eq (h : Accepted machine config ⟨links⟩ self)
    (hstarted : links ≠ [] → started.length = 1) (hexits : GratesExit entries)
    (hstage : OutermostStage machine self (demo config) fate links started entries) :
    entries.length = 2 * links.length := by
  cases hstage with
  | nobody =>
    cases links with
    | nil => rfl
    | cons => exact absurd (hstarted (List.cons_ne_nil _ _)) Nat.zero_ne_one
  | @grate link links child below hchild hlife =>
    obtain ⟨code, hcode⟩ : ∃ code, fate child.pid = some (.exited code) :=
      hexits ⟨child, fate child.pid⟩ List.mem_cons_self hchild.unhooked
    rw [hcode] at hlife
    have hdepth : (self.ofChild child).depth.toNat + links.length ≤ config.maxChainDepth.toNat := by
      have hone : (1 : UInt32).toNat = 1 := rfl
      have hwithin := h.within
      rw [ChainPlan.depth, List.length_cons] at hwithin
      rw [hchild.depth_ofChild]
      omega
    have hlength := hlife.length_eq (steady h hchild) h.survives h.plain hdepth fun entry hentry =>
      hexits entry (List.mem_cons_of_mem _ hentry)
    rw [List.length_cons, hlength, List.length_cons]
    omega

end OutermostStage

/-- **The life of a chain** that is accepted is in order, and in the end everybody was there. -/
theorem Accepted.inOrder {plan : ChainPlan} (h : Accepted machine config plan self)
    (hlife : Lives machine self (Programs.statusOf ChainReport.exitCode (launch (demo config) plan))
      ended entries) :
    InOrder machine config 1 plan.links entries ∧
      ∀ code, ended = some (.exited code) → GratesExit entries →
        entries.length = 2 * plan.depth := by
  cases hlife with
  | @intro _ _ rest fate now _ _ hreaches hends hbelow =>
  have hmeets : (Programs.statusOf ChainReport.exitCode (launch (demo config) plan)).Meets
      (host machine self fate) (.alone fun now => Outermost (demo config) plan.links now.started)
      _ .none := meets_statusOf_launch fun _ h => h
  obtain ⟨hlevel, hrest⟩ := hmeets.reaches .nobody hreaches
  have hstage := hlevel.stage hbelow
  refine ⟨hstage.inOrder h, ?_⟩
  rintro code rfl hexits
  subst hends
  exact hstage.length_eq h (fun hsome => (hrest hsome).2 h.sure h.within) hexits

/-- **A chain starts every link once, in order, and never trips its own checks.**  Of a plan that is
    accepted the grates and cages are started in order, each with what is left of the names and at
    its own depth; no level fails, neither the outermost nor that of any grate; and once all grates
    have come to an end by themselves, everybody has been started once.  A plan beyond the limit is
    refused before anything is asked of anybody. -/
theorem launch_starts_every_link (config : RuntimeConfig) (plan : ChainPlan) :
    (∀ machine self, Accepted machine config plan self →
      (∀ fate result e now, Reaches (host machine self fate) (launch (demo config) plan default)
        .none (.pure (result, e)) now → ∃ report, result = .ok report) ∧
      ∀ ended entries, Lives machine self
          (Programs.statusOf ChainReport.exitCode (launch (demo config) plan)) ended entries →
        InOrder machine config 1 plan.links entries ∧
        (∀ entry ∈ entries, entry.child.hooked = false → NeverFails machine entry.child) ∧
        ∀ code, ended = some (.exited code) → GratesExit entries →
          entries.map (·.child.launch) = launches config 1 plan.links) ∧
    (config.maxChainDepth.toNat < plan.depth → plan.depth < UInt32.size → ∀ e,
      launch (demo config) plan e =
        pure (.error (.chainTooDeep (UInt32.ofNat plan.depth) config.maxChainDepth), e)) := by
  refine ⟨fun machine self h => ⟨fun _ _ _ _ => h.launch_ok, fun ended entries hlife => ?_⟩,
    fun hdeep hsize _ => launch_of_too_deep hdeep hsize⟩
  obtain ⟨horder, hall⟩ := h.inOrder hlife
  refine ⟨horder, horder.neverFails h.sure h.survives ?_, fun code hcode hexits =>
    horder.map_launch_eq (hall code hcode hexits)⟩
  have hone : (1 : UInt32).toNat = 1 := rfl
  have hwithin : plan.links.length ≤ config.maxChainDepth.toNat := h.within
  omega

/-- Two links are started once each where two grates may be nested, and refused where only one may. -/
theorem launch_starts_every_link_of_two :
    Accepted sureMachine (settingsUpTo 8) ⟨[outerLink, innerLink]⟩ starter ∧
    (∃ entries, Lives sureMachine starter (Programs.statusOf ChainReport.exitCode
        (launch (demo (settingsUpTo 8)) ⟨[outerLink, innerLink]⟩)) (some (.exited 0)) entries ∧
      GratesExit entries ∧ InOrder sureMachine (settingsUpTo 8) 1 [outerLink, innerLink] entries ∧
      (∀ entry ∈ entries, entry.child.hooked = false → NeverFails sureMachine entry.child) ∧
      entries.map (·.child.launch) = launches (settingsUpTo 8) 1 [outerLink, innerLink]) ∧
    launch (demo (settingsUpTo 1)) ⟨[outerLink, innerLink]⟩ default =
      pure (.error (.chainTooDeep 2 1), default) := by
  have haccepted : Accepted sureMachine (settingsUpTo 8) ⟨[outerLink, innerLink]⟩ starter :=
    ⟨rfl, rfl, rfl, RuntimeConfig.survives (by decide),
      by simp [ArePlain, CommandLine.IsPlain, outerLink, innerLink], by decide⟩
  have hlife : Lives sureMachine starter (Programs.statusOf ChainReport.exitCode
      (launch (demo (settingsUpTo 8)) ⟨[outerLink, innerLink]⟩)) (some (.exited 0))
      (succeeding twoLinksStarted) :=
    .of_play (fun _ => some (.exited 0)) [(2, [])] 4 [grateOf 1 2 outerLink [innerLink]]
      (by decide +kernel) (.of_grate rfl lives_outerGrate)
  have hexits : GratesExit (succeeding twoLinksStarted) := by
    intro entry hentry _
    obtain ⟨child, -, rfl⟩ := List.mem_map.mp hentry
    exact ⟨0, rfl⟩
  obtain ⟨horder, hnever, hall⟩ :=
    ((launch_starts_every_link _ _).1 _ _ haccepted).2 _ _ hlife
  exact ⟨haccepted, ⟨_, hlife, hexits, horder, hnever, hall 0 rfl hexits⟩,
    (launch_starts_every_link (settingsUpTo 1) ⟨[outerLink, innerLink]⟩).2 (by decide) (by decide)
      default⟩

end Interposition.Chain
