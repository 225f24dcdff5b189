/-
  A machine on which everything goes well.

  Every file can be opened, every child can be started, and a child that is waited for has ended.
  Such a machine is one that chains may run on (`obliging_within`), so what is computed on it is the
  life of a chain (`Lives.of_play`).  A chain of two grates, each with a cage, is one that can be
  computed.
-/
import Interposition.Proofs.Chain.Levels
import Interposition.Proofs.Host.Playing

namespace Interposition.Chain

variable {machine : Machine} {self : Surroundings} {fate : Pid → Option Termination}

/-- A child that has yet to become its image, and whose writes are taken whole. -/
def obligingBoot (pid : Pid) : Respondent JournalContents where
  answer
    | written, .identity => some (⟨0, 0, pid⟩, written)
    | written, .write _ bytes => some (.ok bytes.length, written.extended bytes)
    | _, _ => none
  start _ _ _ _ := none

theorem obligingBoot_within {parent pid : Pid} :
    (obligingBoot pid).system.Within (boot machine parent pid) where
  answers {written r answer next} h := by
    cases r
    case identity =>
      cases h
      exact ⟨rfl, rfl⟩
    case write file bytes =>
      cases h
      exact fun _ => .inl ⟨bytes.length, Nat.le_refl _, rfl, by rw [List.take_length]⟩
    all_goals cases h
  spawns h := nomatch h

/-- A process on the machine.  Its children get the given numbers and have written the given
    records, one after the other; each is waited for once it has ended. -/
def obliging (machine : Machine) (self : Surroundings) (fate : Pid → Option Termination)
    (births : List (Pid × List JournalRecord)) : Respondent Doings where
  answer
    | now, .identity => some (⟨0, 0, self.pid⟩, now)
    | now, .environment => some (self.vars, now)
    | now, .freshName => some ("", now)
    | now, .makeDirectory _ => some (.ok (), now)
    | now, .createFile _ => some (.ok ⟨0⟩, now)
    | now, .openAppending _ => some (.ok (machine.journal self.pid), now)
    | now, .close _ => some ((), now)
    | now, .wait pid _ =>
      match fate pid with
      | some (.exited code) =>
        if pid ∈ now.alive then some (.ok (.exited code), now.told pid) else none
      | _ => none
    | _, _ => none
  start now launch hooked setup :=
    match births[now.started.length]? with
    | none => none
    | some (pid, written) =>
      if 0 < pid ∧ pid ∉ now.alive ∧
          (setup.play (obligingBoot pid) 4 (some [])).any (fun outcome =>
            outcome.1 = none ∧ outcome.2 = some (written.flatMap JournalRecord.encode)) then
        some (.ok pid, now.starts ⟨pid, launch, hooked, written⟩)
      else none

/-- **It is such a machine.** -/
theorem obliging_within {births : List (Pid × List JournalRecord)} :
    (obliging machine self fate births).system.Within (host machine self fate) where
  answers {now r answer next} h := by
    cases r
    case identity =>
      cases h
      exact ⟨rfl, rfl⟩
    case environment =>
      cases h
      exact ⟨fun _ => rfl, rfl⟩
    case freshName | makeDirectory | close =>
      cases h
      exact rfl
    case createFile =>
      cases h
      exact ⟨nofun, rfl⟩
    case openAppending =>
      cases h
      exact ⟨nofun, fun _ h _ => (Except.ok.inj h).symm, rfl⟩
    case wait pid block =>
      simp only [Respondent.system, obliging] at h
      split at h
      · next code hfate =>
        split at h
        · next halive =>
          cases h
          exact ⟨halive, hfate, rfl⟩
        · contradiction
      · contradiction
    all_goals cases h
  spawns {now launch hooked setup answer next} h := by
    simp only [Respondent.system, obliging] at h
    split at h
    · contradiction
    · next pid written _ =>
      split at h
      · next hchild =>
        obtain ⟨hpos, hfresh, hboots⟩ := hchild
        cases h
        obtain ⟨⟨result, contents⟩, hplay, hend⟩ := (Option.any_eq_true _ _).mp hboots
        obtain ⟨rfl, rfl⟩ : result = none ∧ contents = _ := of_decide_eq_true hend
        exact ⟨_, ⟨rfl, rfl, hpos, hfresh,
          (Program.runs_of_play hplay).within obligingBoot_within⟩, rfl, rfl⟩
      · contradiction

/-- One grate, and nobody beside it. -/
theorem Below.of_grate {child : Child} {below : List Entry} (unhooked : child.hooked = false)
    (life : Lives machine (self.ofChild child) (Programs.grate child.launch.args) (fate child.pid)
      below) : Below machine self fate [child] (⟨child, fate child.pid⟩ :: below) := by
  have hbelow := Below.grate unhooked life .nobody
  rw [List.append_nil] at hbelow
  exact hbelow

/-- **A life** that is computed: a process comes to a status, having started some children, and they
    live on. -/
theorem Lives.of_play (fate : Pid → Option Termination) (births : List (Pid × List JournalRecord))
    (rounds : Nat) (started : List Child) {program : Program Int32} {code : Int32}
    {entries : List Entry}
    (h : (program.play (obliging machine self fate births) rounds .none).any (fun outcome =>
      outcome.1 = code ∧ outcome.2.started = started) = true)
    (hbelow : Below machine self fate started entries) :
    Lives machine self program (some (.exited code)) entries := by
  obtain ⟨⟨_, now⟩, hplay, hend⟩ := (Option.any_eq_true _ _).mp h
  obtain ⟨rfl, rfl⟩ := of_decide_eq_true hend
  exact .intro ((Program.runs_of_play hplay).within obliging_within).reaches rfl hbelow

/-! ## A chain of two grates -/

/-- Settings that can be handed down, with a limit to how many grates may be nested. -/
def settingsUpTo (limit : UInt32) : RuntimeConfig :=
  ⟨.ofText "/state", .milliseconds 5000, .milliseconds 30000, limit⟩

/-- A process that finds such settings, for eight grates. -/
def starter : Surroundings := ⟨1, [(RuntimeConfig.stateDirVariable, "/state")]⟩

/-- A machine on which nothing fails. -/
def sureMachine : Machine := ⟨(settingsUpTo 8).journalPath, fun _ => ⟨3⟩, false⟩

/-- A grate that a chain has started. -/
def grateOf (depth : UInt32) (pid : Pid) (link : ChainLink) (links : List ChainLink) : Child :=
  ⟨pid, ⟨.ofText link.grate, link.cage :: namesOf links,
    childVariables (demo (settingsUpTo 8)) depth⟩, false, []⟩

/-- A cage that a chain has started. -/
def cageOf (depth : UInt32) (pid grate : Pid) (link : ChainLink) : Child :=
  ⟨pid, ⟨.ofText link.cage, [], childVariables (demo (settingsUpTo 8)) depth⟩, true,
    (demo (settingsUpTo 8)).registrations (.ofPid pid) (.ofPid grate)⟩

/-- The outer of two links. -/
def outerLink : ChainLink := ⟨"outer", "first"⟩

/-- The inner of two links. -/
def innerLink : ChainLink := ⟨"inner", "second"⟩

/-- The grates and cages of the two links, in order. -/
def twoLinksStarted : List Child :=
  [grateOf 1 2 outerLink [innerLink], cageOf 1 3 2 outerLink, grateOf 2 4 innerLink [],
    cageOf 2 5 4 innerLink]

/-- All of these ended with zero. -/
def succeeding (children : List Child) : List Entry :=
  children.map fun child => ⟨child, some (.exited 0)⟩

/-- The outer grate can come to its end with everybody below it. -/
theorem lives_outerGrate : Lives sureMachine (starter.ofChild (grateOf 1 2 outerLink [innerLink]))
    (Programs.grate (outerLink.cage :: namesOf [innerLink])) (some (.exited 0))
    (succeeding twoLinksStarted.tail) := by
  have hinner : Lives sureMachine
      ((starter.ofChild (grateOf 1 2 outerLink [innerLink])).ofChild (grateOf 2 4 innerLink []))
      (Programs.grate (innerLink.cage :: namesOf [])) (some (.exited 0))
      (succeeding [cageOf 2 5 4 innerLink]) :=
    .of_play (fun _ => some (.exited 0)) [(5, (cageOf 2 5 4 innerLink).written)] 4
      [cageOf 2 5 4 innerLink] (by decide +kernel) (.cage rfl .nobody)
  exact .of_play (fun _ => some (.exited 0)) [(3, (cageOf 1 3 2 outerLink).written), (4, [])] 4
    [cageOf 1 3 2 outerLink, grateOf 2 4 innerLink []] (by decide +kernel)
    (.cage rfl (.of_grate rfl hinner))

end Interposition.Chain
