/-
  A session is safe, however its processes take turns and whenever they end.

  1. **The invariant** (`Sound`): the protocol holds of the world, and whoever can still take a step
     meets its contract from there on.

  2. **One step** (`Sound.step`): what a process does is allowed, so everybody else may rely on it;
     a child that is started by it begins as its program expects.

  3. **A whole run** (`Sound.reaches`) keeps the invariant, and what is claimed of sessions is read
     off it (`gated_session_is_safe`).
-/
import Interposition.Proofs.Session.Cage
import Interposition.Proofs.Session.Grate
import Interposition.Proofs.Session.Loader
import Interposition.Proofs.Session.Rehearsal

namespace Interposition.Session.Setting

open Program

variable {setting : Setting} {s next : Snapshot} {party : Party}

/-! ## The invariant -/

/-- The protocol holds, and everybody goes on as the others expect. -/
structure Sound (setting : Setting) (s : Snapshot) : Prop where
  protocol : setting.Protocol s.world
  loader : s.loader.Meets (setting.os .loader) (setting.contract .loader) (fun outcome now =>
    ∀ report, outcome.1 = .ok report → setting.Concluded report now) s.world
  children : ∀ party, party ≠ .loader → s.world.Alive party →
    (s.children party).Meets (setting.os party) (setting.contract party) (fun _ _ => True) s.world

theorem Starts.sound (h : setting.Starts s) : setting.Sound s := by
  have hnothing {name : Path} (hname : s.world.files.names name = none) :
      s.world.files.file? name = none := by
    unfold SharedFiles.file?
    rw [hname]
    rfl
  refine ⟨⟨h.apart, ?_, ?_, ?_, ?_, ?_, ?_⟩, ?_, ?_⟩
  · intro party child hchild
    rw [h.children party] at hchild
    contradiction
  · rw [hnothing h.armed]
    exact nofun
  · rw [hnothing h.ready]
    exact nofun
  · unfold Published
    rw [hnothing h.ready]
    exact nofun
  · rw [hnothing h.outcome]
    exact nofun
  · intro child hchild
    rw [h.children .cage] at hchild
    contradiction
  · obtain ⟨e, hloader⟩ := h.loader
    rw [hloader]
    exact Meets.mono (manages_loader h.children) fun _ _ hnow => hnow.2
  · intro party hparty halive
    exact absurd halive (not_alive_of_none (h.children party) hparty)

/-! ## One step -/

theorem stable_reported (outcome : Except ProcessError SessionReport × Executor) :
    (setting.contract .loader).Stable fun now =>
      ∀ report, outcome.1 = .ok report → setting.Concluded report now :=
  fun hnow hrely hp report hreport => stable_concluded report (hnow report hreport) hrely hp

/-- What the loader has still to do, when somebody else has done something. -/
theorem Sound.loader_of_relies (h : setting.Sound s) {world : World}
    (hrely : setting.Relies .loader s.world world) (hp : setting.Protocol world) :
    s.loader.Meets (setting.os .loader) (setting.contract .loader) (fun outcome now =>
      ∀ report, outcome.1 = .ok report → setting.Concluded report now) world :=
  h.loader.rely stable_reported hrely hp

/-- What a child has still to do, when somebody else has done something. -/
theorem Sound.child_of_relies (h : setting.Sound s) {world : World} (hparty : party ≠ .loader)
    (halive : s.world.Alive party) (hrely : setting.Relies party s.world world)
    (hp : setting.Protocol world) :
    (s.children party).Meets (setting.os party) (setting.contract party) (fun _ _ => True) world :=
  (h.children party hparty halive).rely (fun _ => stable_true) hrely hp

/-- **A child that has been started** begins as its program expects. -/
theorem meets_image {world : World} {child : Child} (hp : setting.Protocol world)
    (hchild : world.children party = some child)
    (hgrate : party = .grate → world.files.file? setting.journal = some [] ∧
      world.files.file? setting.ready = none) :
    (image party child.launch).Meets (setting.os party) (setting.contract party) (fun _ _ => True)
      world := by
  have hlaunches := hp.launched hchild
  cases party with
  | loader => exact hlaunches.elim
  | cage => exact meets_cage hlaunches world
  | grate => exact meets_grate hlaunches (hgrate rfl).1 (hgrate rfl).2

/-- Going on in a loop is allowed as well. -/
theorem allows_of_step {world now : World} {deed : Deed} (hp : setting.Protocol now)
    (h : deed = .goesOn ∧ world = now ∨ (setting.contract party).Allows now deed world) :
    (setting.contract party).Allows now deed world := by
  obtain ⟨rfl, rfl⟩ | hallows := h
  · exact allows_self hp trivial
  · exact hallows

/-- What the loader does is allowed. -/
theorem Sound.loader_step (h : setting.Sound s) {deed : Deed}
    {program : Program (Except ProcessError SessionReport × Executor)} {world : World}
    (hstep : Program.Step (setting.os .loader) s.loader s.world deed program world) :
    (setting.contract .loader).Allows s.world deed world ∧
      program.Meets (setting.os .loader) (setting.contract .loader) (fun outcome now =>
        ∀ report, outcome.1 = .ok report → setting.Concluded report now) world := by
  obtain ⟨hdeed, hrest⟩ := h.loader.step (relies_self (.inl rfl)) h.protocol hstep
  exact ⟨allows_of_step h.protocol hdeed, hrest⟩

/-- What a child does is allowed. -/
theorem Sound.child_step (h : setting.Sound s) (hparty : party ≠ .loader)
    (halive : s.world.Alive party) {deed : Deed} {program : Program Int32} {world : World}
    (hstep : Program.Step (setting.os party) (s.children party) s.world deed program world) :
    (setting.contract party).Allows s.world deed world ∧
      program.Meets (setting.os party) (setting.contract party) (fun _ _ => True) world := by
  obtain ⟨hdeed, hrest⟩ :=
    (h.children party hparty halive).step (relies_self halive) h.protocol hstep
  exact ⟨allows_of_step h.protocol hdeed, hrest⟩

/-- **One step** keeps the session sound. -/
theorem Sound.step (h : setting.Sound s) {event : Event} (hstep : setting.Step s event next) :
    setting.Sound next := by
  cases hstep with
  | @loader deed program world hstep =>
    obtain ⟨⟨hp, hothers, -, hbegins⟩, hrest⟩ := h.loader_step hstep
    refine ⟨hp, hrest, fun other hother halive => ?_⟩
    have hrely := hothers other hother halive
    rcases hrely.lived with hlived | hnone
    · -- the child has been there before
      have hsame : s.started world other = s.children other := by
        obtain hloader | ⟨child, hchild, -⟩ := hlived
        · exact absurd hloader hother
        · unfold Snapshot.started
          rw [hchild]
      show (s.started world other).Meets _ _ _ _
      rw [hsame]
      exact h.child_of_relies hother hlived hrely hp
    · -- the child has been started by this step
      obtain hloader | ⟨child, hchild, -⟩ := id halive
      · exact absurd hloader hother
      · have hfirst : s.started world other = image other child.launch := by
          unfold Snapshot.started
          rw [hnone, hchild]
        show (s.started world other).Meets _ _ _ _
        rw [hfirst]
        refine meets_image hp hchild ?_
        rintro rfl
        exact hbegins hnone halive
  | @child party deed program world hparty halive hstep =>
    obtain ⟨⟨hp, hothers, -, -⟩, hrest⟩ := h.child_step hparty halive hstep
    have hloader := hothers .loader hparty.symm (.inl rfl)
    refine ⟨hp, h.loader_of_relies hloader hp, fun other hother halive => ?_⟩
    by_cases hsame : other = party
    · subst hsame
      show (Function.update s.children other program other).Meets _ _ _ _
      rw [Function.update_self]
      exact hrest
    · show (Function.update s.children party program other).Meets _ _ _ _
      rw [Function.update_of_ne hsame]
      have hrely := hothers other hsame halive
      rcases hrely.lived with hlived | hnone
      · exact h.child_of_relies hother hlived hrely hp
      · -- only the loader starts children
        have hstill := ((hloader.watches rfl).started other).mpr hnone
        exact absurd halive (not_alive_of_none hstill hother)
  | @ends party =>
    have hallows : (setting.contract .loader).Allows s.world .goesOn (s.world.endOf party) :=
      allows_change (fun _ => Child.evolves_ended) h.protocol trivial fun _ => id
    refine ⟨hallows.1, h.loader_of_relies ?_ hallows.1, fun other hother halive => ?_⟩
    · exact relies_change (fun _ => Child.evolves_ended) (.inl rfl)
    · have hlived := World.alive_of_mapChildren
        (evolves_change (fun _ => Child.evolves_ended) party) halive
      exact h.child_of_relies hother hlived (hallows.2.1 other hother halive) hallows.1

/-! ## A whole run -/

/-- **A whole run** keeps the session sound. -/
theorem Sound.reaches (h : setting.Sound s) (hreaches : setting.Reaches s next) :
    setting.Sound next := by
  induction hreaches with
  | refl => exact h
  | tail _ hstep ih =>
    obtain ⟨event, hstep⟩ := hstep
    exact ih.step hstep

/-- What is done in a step of a sound session is proper. -/
theorem Sound.proper (h : setting.Sound s) {deed : Deed}
    (hstep : setting.Step s (.does party deed) next) : setting.Proper party s.world deed := by
  cases hstep with
  | loader hstep => exact (h.loader_step hstep).1.2.2.1
  | child hparty halive hstep => exact (h.child_step hparty halive hstep).1.2.2.1

/-- **The loader has reported**: the registrations are those of the grate, and they are void for
    whoever replays the journal. -/
theorem Concluded.lookup_replay {report : SessionReport} {world : World}
    (h : setting.Concluded report world) : ∃ bytes records,
      world.files.file? setting.journal = some bytes ∧
      JournalRecord.readFrom bytes 0 = .ok records ∧
      ∀ table syscall, (JournalRecord.replay records table).lookup setting.cageId syscall = none := by
  refine ⟨_, setting.concluded, h.journal, ?_, fun table syscall => ?_⟩
  · have hreadable := JournalRecord.readable_flatMap_encode setting.concluded
    rw [hreadable.readFrom 0, JournalRecord.recordsOf_flatMap_encode]
    rfl
  · have hlast : setting.concluded =
        (setting.records ++ [.grateExit setting.grateId]) ++ [.cageExit setting.cageId] := by
      unfold concluded
      rw [List.append_assoc]
      rfl
    rw [hlast, JournalRecord.replay_append]
    show ((JournalRecord.replay _ table).cageExited setting.cageId).2.lookup _ _ = none
    rw [InterceptionTable.lookup_cageExited, if_pos rfl]

/-- **Gated sessions are safe.**  A loader, a gated cage and a grate take turns in any order; any
    request may fail, any wait may time out, and any child may end at any point.

    * The release signal is sent to the cage and to nobody else, by the loader, and only when the
      cage keeps it, both registrations are in the journal, and the grate has said that it is ready.
    * A thread of the cage goes on, and the cage reads the journal, only when the registrations are
      there and the grate has said so; which thread goes on is chosen anew for every step.
    * What the cage says it saw is, for either call, the user id of the grate's handlers once for
      each thread.
    * If the session is reported, the registrations in the report are the two of the grate, and after
      replaying the journal into any table no call of the cage is bound. -/
theorem gated_session_is_safe {start : Snapshot} (hstarts : setting.Starts start)
    (hreaches : setting.Reaches start s) :
    (∀ party pid next, setting.Step s (.does party (.asks (.kill pid .release))) next →
      party = .loader ∧ pid = setting.pid .cage ∧ s.world.Keeps ∧ setting.Recorded s.world ∧
        setting.Published s.world) ∧
    (∀ ways next, setting.Step s (.does .cage (.asks (.choose ways))) next →
      setting.Recorded s.world ∧ setting.Published s.world) ∧
    (∀ next, setting.Step s (.does .cage (.asks (.readFile setting.journal))) next →
      setting.Recorded s.world ∧ setting.Published s.world) ∧
    (∀ bytes, s.world.files.file? setting.outcome = some bytes →
      ∃ outcome, decodeBytes CageOutcome bytes = .ok outcome ∧ setting.Served outcome) ∧
    (∀ report executor, s.loader = .pure (.ok report, executor) →
      report.registrations = setting.registrations ∧
      (∀ outcome, report.outcome = some outcome → setting.Served outcome) ∧
      ∃ bytes records, s.world.files.file? setting.journal = some bytes ∧
        JournalRecord.readFrom bytes 0 = .ok records ∧
        ∀ table syscall,
          (JournalRecord.replay records table).lookup setting.cageId syscall = none) := by
  have hsound : setting.Sound s := hstarts.sound.reaches hreaches
  refine ⟨?_, ?_, ?_, ?_, ?_⟩
  · intro party pid next hstep
    obtain ⟨hparty, hgrounds⟩ := hsound.proper hstep
    exact ⟨hparty, hgrounds rfl⟩
  · exact fun _ _ hstep => hsound.proper hstep rfl
  · exact fun _ hstep => hsound.proper hstep rfl rfl
  · exact fun _ hbytes => decode_outcome hsound.protocol hbytes
  · intro report executor hloader
    have hconcluded : setting.Concluded report s.world := by
      have hmeets := hsound.loader
      rw [hloader] at hmeets
      exact hmeets report rfl
    exact ⟨hconcluded.registrations, hconcluded.outcome, hconcluded.lookup_replay⟩

/-- A session of a cage with two threads, played to its end: it comes to the release, to a choice
    among the threads, to a look at the journal, and to a report with what the cage has seen. -/
theorem gated_session_is_safe_to_the_end : ∃ releasing choosing looking reported : Snapshot,
    twoThreads.threads = 2 ∧ twoThreads.Starts beforehand ∧
    (twoThreads.Reaches beforehand releasing ∧
      (∃ next, twoThreads.Step releasing
        (.does .loader (.asks (.kill (twoThreads.pid .cage) .release))) next) ∧
      releasing.world.Keeps ∧ twoThreads.Recorded releasing.world ∧
      twoThreads.Published releasing.world) ∧
    (twoThreads.Reaches beforehand choosing ∧
      (∃ next, twoThreads.Step choosing (.does .cage (.asks (.choose 2))) next) ∧
      twoThreads.Recorded choosing.world ∧ twoThreads.Published choosing.world) ∧
    (twoThreads.Reaches beforehand looking ∧
      (∃ next, twoThreads.Step looking (.does .cage (.asks (.readFile twoThreads.journal))) next) ∧
      twoThreads.Recorded looking.world ∧ twoThreads.Published looking.world) ∧
    twoThreads.Reaches beforehand reported ∧
    (∃ bytes outcome, reported.world.files.file? twoThreads.outcome = some bytes ∧
      decodeBytes CageOutcome bytes = .ok outcome ∧ twoThreads.Served outcome) ∧
    ∃ report executor outcome, reported.loader = .pure (.ok report, executor) ∧
      report.registrations = twoThreads.registrations ∧
      report.outcome = some outcome ∧ twoThreads.Served outcome ∧
      ∃ bytes records, reported.world.files.file? twoThreads.journal = some bytes ∧
        JournalRecord.readFrom bytes 0 = .ok records ∧
        ∀ table syscall,
          (JournalRecord.replay records table).lookup twoThreads.cageId syscall = none := by
  obtain ⟨releasing, choosing, looking, reported, hreleasing, hchoosing, hlooking, hreported⟩ :=
    exists_played
  obtain ⟨hreleasing, release, hrelease⟩ := hreleasing
  obtain ⟨hchoosing, choice, hchoice⟩ := hchoosing
  obtain ⟨hlooking, look, hlook⟩ := hlooking
  obtain ⟨hreported, ⟨bytes, hbytes⟩, report, executor, outcome, hreport, houtcome⟩ := hreported
  obtain ⟨-, -, hgrounds⟩ :=
    (gated_session_is_safe starts_beforehand hreleasing).1 _ _ _ hrelease
  have hchosen := (gated_session_is_safe starts_beforehand hchoosing).2.1 _ _ hchoice
  have hlooked := (gated_session_is_safe starts_beforehand hlooking).2.2.1 _ hlook
  obtain ⟨-, -, -, hfile, hover⟩ := gated_session_is_safe starts_beforehand hreported
  obtain ⟨seen, hdecode, hserved⟩ := hfile bytes hbytes
  obtain ⟨hregistrations, hreportServed, hvoid⟩ := hover report executor hreport
  exact ⟨releasing, choosing, looking, reported, rfl, starts_beforehand,
    ⟨hreleasing, ⟨release, hrelease⟩, hgrounds⟩, ⟨hchoosing, ⟨choice, hchoice⟩, hchosen⟩,
    ⟨hlooking, ⟨look, hlook⟩, hlooked⟩, hreported, ⟨bytes, seen, hbytes, hdecode, hserved⟩,
    report, executor, outcome, hreport, hregistrations, houtcome, hreportServed outcome houtcome,
    hvoid⟩

end Interposition.Session.Setting
