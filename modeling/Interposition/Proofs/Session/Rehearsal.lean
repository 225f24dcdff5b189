/-
  A session that is played by a script.

  A session leaves much open: who takes the next turn, and what comes of a request.  A script says
  who takes the next turn, and here every request succeeds, so what a script leads to can be
  computed.

  1. **Duties** (`duty`): for every process an operating system that leaves no choice.  It does
     nothing but what a session allows (`answers_of_duty`, `spawns_of_duty`).

  2. **Scripts** (`follow`): a turn is a step (`step_of_turn`), so a script leads to what the session
     may come to (`reaches_of_follow`).

  3. **A session of two threads** (`twoThreads`): a script that plays it to its end.
-/
import Interposition.Proofs.Host.Playing
import Interposition.Proofs.Session.Protocol

namespace Interposition.Session

variable {setting : Setting} {s next : Snapshot} {world between : World} {party : Party}

instance : Decidable (world.Alive party) :=
  decidable_of_iff (party = .loader ∨ ∃ child ∈ world.children party, child.ended = false) Iff.rfl

instance {pid : Pid} : Decidable (setting.Ended pid world) :=
  decidable_of_iff (∀ party ∈ [Party.loader, .cage, .grate], ∀ child ∈ world.children party,
    setting.pid party = pid → child.ended = true)
    ⟨fun h party => h party (by cases party <;> decide), fun h party _ => h party⟩

/-! ## Duties -/

/-- An open file that a process has not yet. -/
def World.unopened? (world : World) (party : Party) : Option FileHandle :=
  [⟨3⟩, ⟨4⟩, ⟨5⟩].find? fun handle => (world.files.opened party handle).isNone

theorem World.opened_of_unopened? {handle : FileHandle} (h : world.unopened? party = some handle) :
    world.files.opened party handle = none := by
  have hnone := List.find?_some h
  exact Option.isNone_iff_eq_none.mp hnone

/-- A child that has just become its image. -/
def Child.newborn (launch : Launch) : Child := ⟨launch, fun _ => .default, fun _ => false, false⟩

theorem Child.starts_newborn (launch : Launch) : (newborn launch).Starts launch :=
  ⟨rfl, fun _ => nofun, fun _ => rfl, rfl⟩

namespace Setting

variable (setting) in
/-- An operating system that does what it is asked to.  Writes are taken whole, no time passes, and
    who asks after a child is told at once whether it has ended.  Who waits for a signal has no answer
    until the signal is there. -/
def duty (party : Party) : Respondent World where
  answer
    | world, .now => some (0, world)
    | world, .choose _ => some (0, world)
    | world, .freshName => some ("", world)
    | world, .makeDirectory _ => some (.ok (), world)
    | world, .identity => some (⟨0, 0, setting.pid party⟩, world)
    | world, .environment => some (((world.children party).map (·.launch.vars)).getD [], world)
    | world, .pathExists path => some ((world.files.names path).isSome, world)
    | world, .readFile path => some (world.files.reading path, world)
    | world, .createFile path => (world.unopened? party).map fun handle =>
      (.ok handle, { world with files := world.files.create party path handle })
    | world, .openAppending path => (world.unopened? party).map fun handle =>
      (.ok handle, { world with files := world.files.openToAppend party path handle })
    | world, .write handle bytes =>
      if (world.files.opened party handle).isSome then
        some (.ok bytes.length, { world with files := world.files.write party handle bytes })
      else none
    | world, .close handle =>
      some ((), { world with files := world.files.close party handle })
    | world, .rename source target =>
      if (world.files.names source).isSome then
        some (.ok (), { world with files := world.files.rename source target })
      else none
    | world, .kill pid signal => some (.ok (), setting.signalled pid signal world)
    | world, .wait pid _ =>
      some (.ok (if setting.Ended pid world then .exited 0 else .alive), world)
    | world, .dispose signal disposition =>
      some ((), world.change party fun child => child.dispose signal disposition)
    | world, .awaitSignal signal _ =>
      if (world.children party).any fun child => child.kept signal then
        some (true, world.change party fun child => child.take signal)
      else none
    | _, _ => none
  start world launch _ _ :=
    match world.next? with
    | none => none
    | some party =>
      if setting.Ended (setting.pid party) world then
        some (.ok (setting.pid party),
          { world with children := Function.update world.children party (some (.newborn launch)) })
      else none

/-- **Every answer** is one a session allows. -/
theorem answers_of_duty {r : Request} {answer : r.Answer}
    (h : (setting.duty party).answer world r = some (answer, between)) :
    setting.answers party world r answer between := by
  cases r
  case now | choose | freshName | makeDirectory =>
    cases h
    exact rfl
  case identity =>
    cases h
    exact ⟨rfl, rfl⟩
  case environment =>
    cases h
    refine ⟨fun child hchild name value hvalue => ?_, rfl⟩
    rw [hchild]
    exact hvalue
  case pathExists =>
    cases h
    exact ⟨id, rfl⟩
  case readFile =>
    cases h
    exact ⟨.inl rfl, rfl⟩
  case createFile | openAppending =>
    obtain ⟨handle, hhandle, heq⟩ := Option.map_eq_some_iff.mp h
    cases heq
    exact .inr ⟨handle, rfl, World.opened_of_unopened? hhandle, rfl⟩
  case write handle bytes =>
    obtain ⟨hopened, heq⟩ := Option.ite_none_right_eq_some.mp h
    cases heq
    exact .inr ⟨bytes.length, rfl, Nat.le_refl _, hopened, by rw [List.take_length]⟩
  case close =>
    cases h
    exact rfl
  case rename =>
    obtain ⟨hsource, heq⟩ := Option.ite_none_right_eq_some.mp h
    cases heq
    exact .inr ⟨rfl, hsource, rfl⟩
  case kill =>
    cases h
    exact .inr ⟨rfl, rfl⟩
  case wait pid block =>
    cases h
    by_cases hended : setting.Ended pid world
    · exact ⟨fun _ => hended, rfl⟩
    · rw [if_neg hended]
      exact ⟨nofun, rfl⟩
  case dispose =>
    cases h
    exact rfl
  case awaitSignal =>
    obtain ⟨hkept, heq⟩ := Option.ite_none_right_eq_some.mp h
    cases heq
    exact .inr ⟨rfl, (Option.any_eq_true _ _).mp hkept, rfl⟩
  all_goals cases h

/-- **Every start** is one a session allows. -/
theorem spawns_of_duty {launch : Launch} {hooked : Bool} {setup : Program (Option Errno)}
    {answer : Except IoError Pid}
    (h : (setting.duty party).start world launch hooked setup = some (answer, between)) :
    setting.spawns world launch answer between := by
  simp only [duty] at h
  split at h
  · contradiction
  · next started hnext =>
    obtain ⟨hended, heq⟩ := Option.ite_none_right_eq_some.mp h
    cases heq
    exact .inr ⟨started, _, hnext, Child.starts_newborn launch, hended, rfl, rfl⟩

end Setting

/-! ## Scripts -/

/-- What a script says: a process takes a turn, or a child ends. -/
inductive Direction where
  | turn (party : Party)
  | ends (party : Party)

namespace Setting

variable (setting)

/-- What a process does in its turn, if it can take one, and what comes of it. -/
def turn (party : Party) (s : Snapshot) : Option (Deed × Snapshot) :=
  if s.world.Alive party then
    if party = .loader then
      (s.loader.forward (setting.duty .loader) s.world).map fun (deed, rest, world) =>
        (deed, ⟨world, rest, s.started world⟩)
    else
      ((s.children party).forward (setting.duty party) s.world).map fun (deed, rest, world) =>
        (deed, ⟨world, s.loader, Function.update s.children party rest⟩)
  else none

/-- What comes of a direction. -/
def act (s : Snapshot) : Direction → Option Snapshot
  | .turn party => (setting.turn party s).map Prod.snd
  | .ends party => some { s with world := s.world.endOf party }

/-- What a script leads to. -/
def follow (script : List Direction) (s : Snapshot) : Option Snapshot := script.foldlM setting.act s

/-- Whether a script can be played, and what it leads to passes a check. -/
def leads (script : List Direction) (s : Snapshot) (check : Snapshot → Bool) : Bool :=
  (setting.follow script s).any check

/-- Whether a process does this in its turn. -/
def does (party : Party) (deed : Deed) (s : Snapshot) : Bool :=
  (setting.turn party s).any fun turn => turn.1 = deed

variable {setting}

/-- **A turn** is a step. -/
theorem step_of_turn {deed : Deed} (h : setting.turn party s = some (deed, next)) :
    setting.Step s (.does party deed) next := by
  obtain ⟨halive, hturn⟩ := Option.ite_none_right_eq_some.mp h
  have hanswers {r : Request} {answer : r.Answer} {between : World}
      (hr : (setting.duty party).answer s.world r = some (answer, between)) :
      (setting.os party).answers s.world r answer between := ⟨halive, answers_of_duty hr⟩
  have hspawns {launch : Launch} {hooked : Bool} {setup : Program (Option Errno)}
      {answer : Except IoError Pid} {between : World}
      (hr : (setting.duty party).start s.world launch hooked setup = some (answer, between)) :
      (setting.os party).spawns s.world launch hooked setup answer between :=
    ⟨halive, spawns_of_duty hr⟩
  split at hturn
  · next hparty =>
    subst hparty
    obtain ⟨⟨deed, rest, world⟩, hforward, heq⟩ := Option.map_eq_some_iff.mp hturn
    cases heq
    exact .loader (Program.step_of_forward hanswers hspawns hforward)
  · next hparty =>
    obtain ⟨⟨deed, rest, world⟩, hforward, heq⟩ := Option.map_eq_some_iff.mp hturn
    cases heq
    exact .child hparty halive (Program.step_of_forward hanswers hspawns hforward)

theorem step_of_does {deed : Deed} (h : setting.does party deed s = true) :
    ∃ next, setting.Step s (.does party deed) next := by
  obtain ⟨⟨_, next⟩, hturn, hdeed⟩ := (Option.any_eq_true _ _).mp h
  obtain rfl := of_decide_eq_true hdeed
  exact ⟨next, step_of_turn hturn⟩

theorem step_of_act {direction : Direction} (h : setting.act s direction = some next) :
    ∃ event, setting.Step s event next := by
  cases direction with
  | turn party =>
    obtain ⟨⟨deed, _⟩, hturn, rfl⟩ := Option.map_eq_some_iff.mp h
    exact ⟨_, step_of_turn hturn⟩
  | ends party =>
    cases h
    exact ⟨_, .ends⟩

/-- **What a script leads to** is what the session may come to. -/
theorem reaches_of_follow {script : List Direction} (h : setting.follow script s = some next) :
    setting.Reaches s next := by
  induction script generalizing s with
  | nil =>
    cases h
    exact .refl
  | cons direction script ih =>
    obtain ⟨between, hact, hrest⟩ := Option.bind_eq_some_iff.mp h
    exact .head (step_of_act hact) (ih hrest)

theorem exists_of_leads {script : List Direction} {check : Snapshot → Bool}
    (h : setting.leads script s check = true) :
    ∃ next, setting.Reaches s next ∧ check next = true := by
  obtain ⟨next, hfollow, hcheck⟩ := (Option.any_eq_true _ _).mp h
  exact ⟨next, reaches_of_follow hfollow, hcheck⟩

end Setting

/-- What the loader reports that the cage has seen, once it has reported it. -/
def Snapshot.outcome? (s : Snapshot) : Option CageOutcome :=
  match s.loader with
  | .pure (.ok report, _) => report.outcome
  | _ => none

theorem Snapshot.exists_report {outcome : CageOutcome} (h : s.outcome? = some outcome) :
    ∃ report executor, s.loader = .pure (.ok report, executor) ∧ report.outcome = some outcome := by
  unfold outcome? at h
  split at h
  · next report executor hloader => exact ⟨report, executor, hloader, h⟩
  · contradiction

/-! ## A session of two threads -/

namespace Setting

/-- A cage with two threads, and a grate. -/
def twoThreads : Setting where
  config := ⟨.ofText "/run/lind", .milliseconds 5000, .milliseconds 5000, 8⟩
  cage := ⟨.ofText "/bin/cage", ["--threads=2"]⟩
  grate := ⟨.ofText "/bin/grate", []⟩
  pid party := if party = .cage then 7 else 8
  cageArguments := ⟨⟨none, none, none, none⟩, 2, [gatedToken]⟩
  grateArguments := ⟨⟨none, none, none, none⟩, []⟩
  pid_pos party := by cases party <;> decide
  ofWords_cage := rfl
  ofWords_grate := rfl
  gated := rfl

/-- The session before anything has happened, with no file at all. -/
def beforehand : Snapshot where
  world := ⟨⟨fun _ => none, fun _ => [], 0, fun _ _ => none⟩, fun _ => none⟩
  loader := twoThreads.loader default
  children _ := default

theorem starts_beforehand : twoThreads.Starts beforehand :=
  ⟨⟨default, rfl⟩, fun _ => rfl, ⟨nofun, nofun⟩, rfl, rfl, rfl⟩

/-- So many turns of one process. -/
def turns (party : Party) (count : Nat) : List Direction := List.replicate count (.turn party)

/-- The cage arms itself, the grate registers, and the loader comes to the release. -/
def untilRelease : List Direction :=
  turns .loader 8 ++ turns .cage 10 ++ turns .loader 4 ++ turns .grate 16 ++ turns .loader 1

/-- The loader releases the cage, and the cage comes to its threads. -/
def untilChoice : List Direction := turns .loader 2 ++ turns .cage 3

/-- One of the threads comes to the journal. -/
def untilLook : List Direction := turns .cage 1

/-- The cage comes to its end, the grate is told to, and the loader reports. -/
def untilReport : List Direction :=
  turns .cage 26 ++ [.ends .cage] ++ turns .loader 3 ++ turns .grate 1 ++ [.ends .grate] ++
    turns .loader 8

/-- The script can be played, and these are the deeds and the files it comes to. -/
theorem plays : twoThreads.leads untilRelease beforehand (fun releasing =>
    twoThreads.does .loader (.asks (.kill (twoThreads.pid .cage) .release)) releasing &&
    twoThreads.leads untilChoice releasing fun choosing =>
      twoThreads.does .cage (.asks (.choose 2)) choosing &&
      twoThreads.leads untilLook choosing fun looking =>
        twoThreads.does .cage (.asks (.readFile twoThreads.journal)) looking &&
        twoThreads.leads untilReport looking fun reported =>
          (reported.world.files.file? twoThreads.outcome).isSome && reported.outcome?.isSome) =
    true := by
  decide +kernel

/-- **A session that is played to its end**: it comes to the release, to a choice among the threads,
    to a look at the journal, and to a report with what the cage has seen. -/
theorem exists_played : ∃ releasing choosing looking reported : Snapshot,
    (twoThreads.Reaches beforehand releasing ∧ ∃ next, twoThreads.Step releasing
      (.does .loader (.asks (.kill (twoThreads.pid .cage) .release))) next) ∧
    (twoThreads.Reaches beforehand choosing ∧ ∃ next, twoThreads.Step choosing
      (.does .cage (.asks (.choose 2))) next) ∧
    (twoThreads.Reaches beforehand looking ∧ ∃ next, twoThreads.Step looking
      (.does .cage (.asks (.readFile twoThreads.journal))) next) ∧
    twoThreads.Reaches beforehand reported ∧
    (∃ bytes, reported.world.files.file? twoThreads.outcome = some bytes) ∧
    ∃ report executor outcome, reported.loader = .pure (.ok report, executor) ∧
      report.outcome = some outcome := by
  obtain ⟨releasing, hreleasing, h⟩ := exists_of_leads plays
  obtain ⟨hrelease, h⟩ := Bool.and_eq_true_iff.mp h
  obtain ⟨choosing, hchoosing, h⟩ := exists_of_leads h
  obtain ⟨hchoice, h⟩ := Bool.and_eq_true_iff.mp h
  obtain ⟨looking, hlooking, h⟩ := exists_of_leads h
  obtain ⟨hlook, h⟩ := Bool.and_eq_true_iff.mp h
  obtain ⟨reported, hreported, h⟩ := exists_of_leads h
  obtain ⟨hfile, hseen⟩ := Bool.and_eq_true_iff.mp h
  obtain ⟨outcome, houtcome⟩ := Option.isSome_iff_exists.mp hseen
  obtain ⟨report, executor, hloader, hreport⟩ := Snapshot.exists_report houtcome
  have hchoosing := hreleasing.trans hchoosing
  have hlooking := hchoosing.trans hlooking
  exact ⟨releasing, choosing, looking, reported, ⟨hreleasing, step_of_does hrelease⟩,
    ⟨hchoosing, step_of_does hchoice⟩, ⟨hlooking, step_of_does hlook⟩, hlooking.trans hreported,
    Option.isSome_iff_exists.mp hfile, report, executor, outcome, hloader, hreport⟩

end Setting

end Interposition.Session
