/-
  The life of one grate, and of those it starts.

  A grate that was given the names of some links is at any time at one of four stages: it has
  started nobody, its cage, its cage and then the grate of the next link, or, where a start may
  fail, that grate alone.  The grate of the next link has the names of the links behind it, so it is
  in the same case one link further on, and what is said of a whole chain is said by induction on
  its links.

  1. **Names** (`namesOf`): what is handed on is read as the same links.

  2. **Stages** (`Stage`, `Lives.stage`): everybody below a grate, by the links it was given.

  3. **The outermost level** (`Outermost.stage`, `meets_statusOf_launch`): the same of the process
     that starts the first grate.
-/
import Interposition.Proofs.Chain.Grates

namespace Interposition.Chain

open CommandLine (IsPlain)
open Program (Meets)

variable {machine : Machine} {self : Surroundings} {fate : Pid → Option Termination}
  {cage : String} {link : ChainLink} {links : List ChainLink} {started : List Child}
  {ended : Option Termination} {entries : List Entry} {config : RuntimeConfig}

/-! ## Names -/

theorem namesOf_cons : namesOf (link :: links) = link.grate :: link.cage :: namesOf links := rfl

theorem length_namesOf : (namesOf links).length = 2 * links.length := by
  unfold namesOf
  rw [List.length_flatMap]
  simp [Nat.mul_comm]

/-- **Names are handed on** for the same links. -/
theorem eq_cons_of_namesOf {next : String} {names : List String}
    (h : namesOf links = next :: names) :
    ∃ link rest, links = link :: rest ∧ next = link.grate ∧ names = link.cage :: namesOf rest := by
  cases links with
  | nil => contradiction
  | cons link rest =>
    cases h
    exact ⟨link, rest, rfl, rfl, rfl⟩

/-- The links have names that cannot be taken for flags. -/
def ArePlain (links : List ChainLink) : Prop :=
  ∀ link ∈ links, IsPlain link.grate ∧ IsPlain link.cage

theorem ArePlain.tail (h : ArePlain (link :: links)) : ArePlain links :=
  fun other hother => h other (List.mem_cons_of_mem _ hother)

theorem ArePlain.namesOf (h : ArePlain links) : ∀ name ∈ namesOf links, IsPlain name := by
  intro name hname
  obtain ⟨link, hlink, hname⟩ := List.mem_flatMap.mp hname
  obtain rfl | hname := List.mem_cons.mp hname
  · exact (h link hlink).1
  · rw [List.mem_singleton.mp hname]
    exact (h link hlink).2

/-- What the grate of a link is given, the cage first. -/
theorem ArePlain.cage_namesOf (h : ArePlain (link :: links)) :
    ∀ name ∈ link.cage :: Chain.namesOf links, IsPlain name := by
  intro name hname
  obtain rfl | hname := List.mem_cons.mp hname
  · exact (h link List.mem_cons_self).2
  · exact h.tail.namesOf name hname

/-! ## Stages -/

/-- Whom a grate has started, and everybody below it: it serves a cage, and has the names of some
    links to hand on. -/
inductive Stage (machine : Machine) (self : Surroundings) (fate : Pid → Option Termination)
    (cage : String) : List ChainLink → List Child → List Entry → Prop where
  | nobody {links : List ChainLink} : Stage machine self fate cage links [] []
  | cage {config : RuntimeConfig} {links : List ChainLink} {child : Child}
      (allowed : self.Allows config)
      (h : IsCage machine (demo config) self.depth (.ofPid self.pid) cage child) :
      Stage machine self fate cage links [child] [⟨child, fate child.pid⟩]
  | both {config : RuntimeConfig} {link : ChainLink} {links : List ChainLink} {child next : Child}
      {below : List Entry} (allowed : self.Allows config)
      (h : IsCage machine (demo config) self.depth (.ofPid self.pid) cage child)
      (hnext : IsGrate (demo config) (self.depth + 1) link.grate
        (link.cage :: namesOf links) next)
      (life : Lives machine (self.ofChild next) (Programs.grate (link.cage :: namesOf links))
        (fate next.pid) below) :
      Stage machine self fate cage (link :: links) [child, next]
        (⟨child, fate child.pid⟩ :: ⟨next, fate next.pid⟩ :: below)
  | grate {config : RuntimeConfig} {link : ChainLink} {links : List ChainLink} {next : Child}
      {below : List Entry} (allowed : self.Allows config) (fails : machine.mayFail = true)
      (hnext : IsGrate (demo config) (self.depth + 1) link.grate
        (link.cage :: namesOf links) next)
      (life : Lives machine (self.ofChild next) (Programs.grate (link.cage :: namesOf links))
        (fate next.pid) below) :
      Stage machine self fate cage (link :: links) [next] (⟨next, fate next.pid⟩ :: below)

/-- Nobody is below a process that has started nobody. -/
theorem Below.eq_nil (h : Below machine self fate [] entries) : entries = [] := by
  cases h
  rfl

/-- One cage has nobody below it. -/
theorem Below.of_hooked {child : Child} {children : List Child} (hhooked : child.hooked = true)
    (h : Below machine self fate (child :: children) entries) :
    ∃ rest, entries = ⟨child, fate child.pid⟩ :: rest ∧ Below machine self fate children rest := by
  cases h with
  | cage _ hrest => exact ⟨_, rfl, hrest⟩
  | grate hunhooked => exact absurd hhooked (ne_true_of_eq_false hunhooked)

/-- One grate has its life below it. -/
theorem Below.of_isGrate {child : Child} {settings : Settings} {depth : UInt32} {name : String}
    {names : List String} (hgrate : IsGrate settings depth name names child)
    (h : Below machine self fate [child] entries) : ∃ below,
      entries = ⟨child, fate child.pid⟩ :: below ∧
        Lives machine (self.ofChild child) (Programs.grate names) (fate child.pid) below := by
  cases h with
  | cage hhooked => exact absurd hhooked (ne_true_of_eq_false hgrate.unhooked)
  | @grate _ _ _ _ below _ _ hlife hrest =>
    rw [hrest.eq_nil, List.append_nil]
    rw [hgrate.launch_eq] at hlife
    exact ⟨below, rfl, hlife⟩

/-- **The stage** of a grate, by whom it has started. -/
theorem Level.stage (hallowed : self.Allows config)
    (h : Level machine (demo config) (.ofPid self.pid) self.depth
      (cage :: namesOf links) started) (hbelow : Below machine self fate started entries) :
    Stage machine self fate cage links started entries := by
  generalize hnames : cage :: namesOf links = names at h
  cases h with
  | nobody =>
    rw [hbelow.eq_nil]
    exact .nobody
  | cage hcage =>
    obtain ⟨rest, rfl, hrest⟩ := hbelow.of_hooked hcage.hooked
    rw [hrest.eq_nil]
    cases hnames
    exact .cage hallowed hcage
  | both hcage hnext =>
    obtain ⟨hname, hnames⟩ := List.cons.inj hnames
    obtain ⟨link, rest, rfl, rfl, rfl⟩ := eq_cons_of_namesOf hnames
    obtain ⟨_, rfl, hrest⟩ := hbelow.of_hooked hcage.hooked
    obtain ⟨below, rfl, hlife⟩ := hrest.of_isGrate hnext
    exact .both hallowed (hname ▸ hcage) hnext hlife
  | grate hfails hnext =>
    obtain ⟨hname, hnames⟩ := List.cons.inj hnames
    obtain ⟨link, rest, rfl, rfl, rfl⟩ := eq_cons_of_namesOf hnames
    obtain ⟨below, rfl, hlife⟩ := hbelow.of_isGrate hnext
    exact .grate hallowed hfails hnext hlife

/-- How many children a grate wants: the cage, and the next grate if there is one. -/
def wanted : List ChainLink → Nat
  | [] => 1
  | _ :: _ => 2

theorem wanted_eq : min (cage :: namesOf links).length 2 = wanted links := by
  cases links with
  | nil => rfl
  | cons => exact Nat.min_eq_right (by simp [namesOf_cons])

/-- The next grate, if there is one, is not too deep. -/
def Fitting (self : Surroundings) (links : List ChainLink) : Prop :=
  ∀ fresh, ∃ config,
    RuntimeConfig.fromLookup fresh (fun name => self.vars.lookup name) = .ok config ∧
      (links = [] ∨ self.depth < config.maxChainDepth)

/-- The names of links are pairs. -/
theorem fits_namesOf {settings : Settings} {depth : UInt32}
    (h : links = [] ∨ depth < settings.config.maxChainDepth) :
    Fits settings depth (cage :: namesOf links) := by
  refine ⟨?_, h.imp_left fun hnil => ?_⟩
  · show (namesOf links).length % 2 = 0
    rw [length_namesOf]
    exact Nat.mul_mod_right 2 _
  · subst hnil
    rfl

theorem Fitting.suits (h : Fitting self links) : self.Suits (cage :: namesOf links) := by
  intro fresh
  obtain ⟨config, hconfig, hdepth⟩ := h fresh
  exact ⟨config, hconfig, fits_namesOf hdepth⟩

/-- Whom a grate may have started by the settings it finds. -/
def MayHaveStarted (machine : Machine) (self : Surroundings) (names : List String)
    (started : List Child) : Prop :=
  started = [] ∨ ∃ config, self.Allows config ∧
    Level machine (demo config) (.ofPid self.pid) self.depth names started

/-- **The life of a grate** is at one of the stages, and if it has come to its end, its status is
    zero exactly when all it wants has been started and has ended with zero. -/
theorem Lives.stage (hplain : ∀ name ∈ cage :: namesOf links, IsPlain name) (hchain : self.InChain)
    (h : Lives machine self (Programs.grate (cage :: namesOf links)) ended entries) :
    ∃ fate started, Stage machine self fate cage links started entries ∧
      ∀ code, ended = some (.exited code) → Concluded fate (wanted links) started code ∧
        (machine.mayFail = false → Fitting self links → started.length = wanted links) := by
  cases h with
  | @intro _ _ _ fate now _ _ hreaches hends hbelow =>
  have hmeets : (Programs.grate (cage :: namesOf links)).Meets (host machine self fate)
      (.alone fun now => MayHaveStarted machine self (cage :: namesOf links) now.started) _ .none :=
    meets_grate hplain hchain fun config hallowed started hlevel => .inr ⟨config, hallowed, hlevel⟩
  -- whom it has started holds wherever it stands; the status only where it has come to its end
  obtain ⟨hlevel, hrest⟩ := hmeets.reaches (.inl rfl) hreaches
  refine ⟨fate, now.started, ?_, ?_⟩
  · obtain hnone | ⟨config, hallowed, hlevel⟩ := hlevel
    · rw [hnone] at hbelow ⊢
      rw [hbelow.eq_nil]
      exact .nobody
    · exact hlevel.stage hallowed hbelow
  · rintro code rfl
    subst hends
    obtain ⟨hconcluded, hall⟩ := hrest
    rw [wanted_eq] at hconcluded hall
    exact ⟨hconcluded, fun hsure hfits => hall hsure hfits.suits⟩

/-! ## The outermost level -/

/-- Whom the outermost level has started, and everybody below it. -/
inductive OutermostStage (machine : Machine) (self : Surroundings) (settings : Settings)
    (fate : Pid → Option Termination) : List ChainLink → List Child → List Entry → Prop where
  | nobody {links : List ChainLink} : OutermostStage machine self settings fate links [] []
  | grate {link : ChainLink} {links : List ChainLink} {child : Child} {below : List Entry}
      (h : IsGrate settings 1 link.grate (link.cage :: namesOf links) child)
      (life : Lives machine (self.ofChild child) (Programs.grate (link.cage :: namesOf links))
        (fate child.pid) below) :
      OutermostStage machine self settings fate (link :: links) [child]
        (⟨child, fate child.pid⟩ :: below)

theorem Outermost.stage {settings : Settings} (h : Outermost settings links started)
    (hbelow : Below machine self fate started entries) :
    OutermostStage machine self settings fate links started entries := by
  cases h with
  | nobody =>
    rw [hbelow.eq_nil]
    exact .nobody
  | grate hgrate =>
    obtain ⟨below, rfl, hlife⟩ := hbelow.of_isGrate hgrate
    exact .grate hgrate hlife

/-- No error of a process counts as zero. -/
theorem clamped_process_ne_zero (cause : ProcessError) :
    Programs.clamped (RuntimeError.process cause).exitCode ≠ 0 := by
  show Programs.clamped (if cause.isLeaf = true then 127 else 1) ≠ 0
  cases cause.isLeaf <;> decide

/-- **The status of the outermost level**, of a plan that has a grate. -/
theorem meets_statusOf_launch {settings : Settings} {plan : ChainPlan} {inv : List Child → Prop}
    (hinv : ∀ started, Outermost settings plan.links started → inv started) :
    (Programs.statusOf ChainReport.exitCode (launch settings plan)).Meets (host machine self fate)
      (.alone fun now => inv now.started) (fun code after => plan.links ≠ [] →
        Concluded fate 1 after.started code ∧ (machine.mayFail = false →
          plan.depth ≤ settings.config.maxChainDepth.toNat → after.started.length = 1)) .none := by
  refine Meets.bind (meets_launch hinv) ?_
  rintro ⟨result, e⟩ final hfinal
  have hone (hsome : plan.links ≠ []) : min plan.links.length 1 = 1 :=
    Nat.min_eq_right (List.length_pos_iff.mpr hsome)
  cases result with
  | error cause =>
    intro hsome
    rw [hone hsome] at hfinal
    exact hfinal.failed_concluded Nat.one_ne_zero (clamped_process_ne_zero cause)
  | ok report =>
    intro hsome
    rw [hone hsome] at hfinal
    exact hfinal.answered_concluded Nat.one_ne_zero

end Interposition.Chain
