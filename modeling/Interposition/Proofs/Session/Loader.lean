/-
  The loader keeps the protocol, and what it reports is so.

  The stages of a session follow one another: the journal is made, the cage is started, the cage is
  armed, the grate is started, the grate is ready, the cage has ended, the grate has ended.  What
  the loader knows after each is a predicate that the other two do not make false, and it is enough
  for what the loader does next: the grate is started when the journal is empty (`Prepared`), the
  release signal is sent when the cage is armed and the grate has registered (`Agreed`), and the two
  exits are recorded when nobody is left who reads the journal (`Over`).
-/
import Interposition.Proofs.Session.Calls
import Interposition.Proofs.Session.Supervision

namespace Interposition.Session.Setting

open Program

variable {setting : Setting} {world now next : World} {e : Executor} {party : Party}
  {handle : FileHandle}

/-! ## What the loader knows -/

/-- The loader has the journal open to append. -/
def Holding (setting : Setting) (handle : FileHandle) (world : World) : Prop :=
  ∃ file, world.files.opened .loader handle = some file ∧
    world.files.names setting.journal = some file.node ∧ file.appending = true

/-- Nobody has been started. -/
def Bare (world : World) : Prop := ∀ party, world.children party = none

/-- There is no grate, and nothing in the journal. -/
structure Prepared (setting : Setting) (handle : FileHandle) (world : World) : Prop where
  holding : setting.Holding handle world
  grate : world.children .grate = none
  journal : world.files.file? setting.journal = some []

/-- The cage is armed, and the grate, which has been started, registers before it says that it is
    ready. -/
structure Underway (setting : Setting) (handle : FileHandle) (world : World) : Prop where
  holding : setting.Holding handle world
  keeps : world.Keeps
  registers : setting.Published world → setting.Recorded world

/-- The cage is armed, and the grate has registered and said so. -/
structure Agreed (setting : Setting) (handle : FileHandle) (world : World) : Prop where
  holding : setting.Holding handle world
  keeps : world.Keeps
  published : setting.Published world
  recorded : setting.Recorded world

/-- Both have ended, and the loader goes on writing the journal. -/
structure Over (setting : Setting) (handle : FileHandle) (content : List UInt8) (world : World) :
    Prop where
  cage : setting.Ended (setting.pid .cage) world
  grate : setting.Ended (setting.pid .grate) world
  journal : world.files.AtEnd .loader handle setting.journal content

/-! ### What stays known -/

theorem not_alive_of_ended (h : setting.Ended (setting.pid party) world)
    (hparty : party ≠ .loader) : ¬ world.Alive party := by
  rintro (hloader | ⟨child, hchild, hlives⟩)
  · exact hparty hloader
  · rw [h party child hchild rfl] at hlives
    contradiction

theorem not_alive_of_none (h : world.children party = none) (hparty : party ≠ .loader) :
    ¬ world.Alive party := by
  rintro (hloader | ⟨child, hchild, -⟩)
  · exact hparty hloader
  · rw [h] at hchild
    contradiction

theorem Holding.of_relies (h : setting.Holding handle world)
    (hrely : setting.Relies .loader world next) : setting.Holding handle next := by
  obtain ⟨file, hopened, hname, happending⟩ := h
  refine ⟨file, ?_, (hrely.watches rfl).names hname, happending⟩
  rw [hrely.opened]
  exact hopened

theorem stable_bare : (setting.contract .loader).Stable Bare := by
  intro now next hnow hrely _ party
  have hrely : setting.Relies .loader now next := hrely
  exact ((hrely.watches rfl).started party).mpr (hnow party)

theorem stable_prepared : (setting.contract .loader).Stable (setting.Prepared handle) := by
  intro now next hnow hrely _
  have hrely : setting.Relies .loader now next := hrely
  have hsame := (hrely.watches rfl).journal (not_alive_of_none hnow.grate nofun)
  exact ⟨hnow.holding.of_relies hrely, ((hrely.watches rfl).started .grate).mpr hnow.grate,
    hsame.file?.trans hnow.journal⟩

theorem stable_underway : (setting.contract .loader).Stable (setting.Underway handle) := by
  intro now next hnow hrely _
  have hrely : setting.Relies .loader now next := hrely
  exact ⟨hnow.holding.of_relies hrely, hrely.keeps hnow.keeps,
    (hrely.watches rfl).recorded hnow.registers⟩

theorem stable_agreed : (setting.contract .loader).Stable (setting.Agreed handle) := by
  intro now next hnow hrely _
  have hrely : setting.Relies .loader now next := hrely
  have hpublished := hrely.published hnow.published
  exact ⟨hnow.holding.of_relies hrely, hrely.keeps hnow.keeps, hpublished,
    (hrely.watches rfl).recorded (fun _ => hnow.recorded) hpublished⟩

theorem stable_over (content : List UInt8) :
    (setting.contract .loader).Stable (setting.Over handle content) := by
  intro now next hnow hrely _
  have hrely : setting.Relies .loader now next := hrely
  have hsame := (hrely.watches rfl).journal (not_alive_of_ended hnow.grate nofun)
  exact ⟨(hrely.watches rfl).ended hnow.cage, (hrely.watches rfl).ended hnow.grate,
    hnow.journal.of_sameAt hrely.opened hsame⟩

theorem noted_of_bare (h : Bare world) : setting.Noted e world := by
  intro pid t _ party child hchild
  rw [h party] at hchild
  contradiction

theorem Holding.atEnd {content : List UInt8} (h : setting.Holding handle world)
    (hjournal : world.files.file? setting.journal = some content) :
    world.files.AtEnd .loader handle setting.journal content := by
  obtain ⟨file, hopened, hname, happending⟩ := h
  exact ⟨file, hopened, hname, hjournal, .inl happending⟩

/-! ## The journal is made -/

/-- While nobody has been started the loader may do to the journal what it likes. -/
theorem allows_preparing {deed : Deed} (h : setting.Touches .loader [.journal] world next)
    (hbare : Bare world) (hp : setting.Protocol world)
    (hproper : setting.Proper .loader world deed) :
    (setting.contract .loader).Allows world deed next :=
  allows_journal h hp hproper (not_alive_of_none (hbare .grate) nofun)
    fun hpublished => absurd hpublished (hp.unpublished (hbare .grate))

theorem Bare.of_touches {names : List Name} (h : Bare world)
    (htouches : setting.Touches party names world next) : Bare next := by
  unfold Bare
  rw [htouches.children]
  exact h

/-- Nobody has been started, and there is nothing in the journal. -/
def Emptied (setting : Setting) (world : World) : Prop :=
  Bare world ∧ world.files.file? setting.journal = some []

theorem stable_emptied : (setting.contract .loader).Stable setting.Emptied := by
  intro now next hnow hrely hp
  have hnext := stable_bare hnow.1 hrely hp
  have hrely : setting.Relies .loader now next := hrely
  have hsame := (hrely.watches rfl).journal (not_alive_of_none (hnow.1 .grate) nofun)
  exact ⟨hnext, hsame.file?.trans hnow.2⟩

theorem meets_createEmpty (hworld : Bare world) :
    (request (.createFile setting.journal)).Meets (setting.os .loader) (setting.contract .loader)
      (fun result now => Bare now ∧ ∀ handle, result = .ok handle → setting.Emptied now) world := by
  refine meets_request fun now hrely hp answer between hanswer => ?_
  have hnow := stable_bare hworld hrely hp
  obtain ⟨-, ⟨⟨e, rfl⟩, rfl⟩ | ⟨handle, rfl, -, rfl⟩⟩ := hanswer
  · exact ⟨allows_self hp trivial, hnow, nofun⟩
  · have htouches := touches_create setting hp.apart .loader .journal handle
    have hnext := hnow.of_touches htouches
    exact ⟨allows_preparing htouches hnow hp trivial, hnext,
      fun _ _ => ⟨hnext, SharedFiles.file?_create ..⟩⟩

theorem meets_closeEmptied (handle : FileHandle) (hworld : setting.Emptied world) :
    (request (.close handle)).Meets (setting.os .loader) (setting.contract .loader)
      (fun _ now => setting.Emptied now) world := by
  refine meets_request fun now hrely hp answer between hanswer => ?_
  have hnow := stable_emptied hworld hrely hp
  obtain ⟨-, rfl⟩ := hanswer
  have htouches := touches_close setting hp.apart .loader handle
  exact ⟨allows_preparing (htouches.mono (by simp)) hnow.1 hp trivial,
    hnow.1.of_touches htouches, (htouches.same .journal (by simp)).file?.trans hnow.2⟩

theorem meets_openEmptied (hworld : setting.Emptied world) :
    (request (.openAppending setting.journal)).Meets (setting.os .loader)
      (setting.contract .loader) (fun result now => Bare now ∧ ∀ handle, result = .ok handle →
        setting.Prepared handle now) world := by
  refine meets_request fun now hrely hp answer between hanswer => ?_
  have hnow := stable_emptied hworld hrely hp
  obtain ⟨-, ⟨⟨e, rfl⟩, rfl⟩ | ⟨handle, rfl, -, rfl⟩⟩ := hanswer
  · exact ⟨allows_self hp trivial, hnow.1, nofun⟩
  · have htouches := touches_openToAppend setting hp.apart .loader .journal handle
    have hnext := hnow.1.of_touches htouches
    refine ⟨allows_preparing htouches hnow.1 hp trivial, hnext, ?_⟩
    rintro _ ⟨⟩
    refine ⟨⟨_, SharedFiles.opened_openToAppend .., SharedFiles.names_openToAppend .., rfl⟩,
      hnext .grate, (SharedFiles.file?_openToAppend ..).trans ?_⟩
    rw [hnow.2]
    rfl

/-- The journal is emptied and opened while nobody has been started. -/
theorem meets_truncate (hworld : Bare world) :
    (Journal.truncate setting.journal).Meets (setting.os .loader) (setting.contract .loader)
      (fun result now => Bare now ∧ ∀ writer, result = .ok writer →
        setting.Prepared writer.file now) world := by
  refine (meets_createEmpty hworld).bind fun created now hnow => ?_
  cases created with
  | error cause => exact ⟨hnow.1, nofun⟩
  | ok handle =>
    refine (meets_closeEmptied handle (hnow.2 handle rfl)).bind fun _ now hnow => ?_
    refine (meets_openEmptied hnow).bind fun opened now hnow => ?_
    cases opened with
    | error cause => exact ⟨hnow.1, nofun⟩
    | ok handle =>
      refine ⟨hnow.1, ?_⟩
      rintro _ ⟨⟩
      exact hnow.2 handle rfl

theorem meets_createJournal (hworld : Bare world) :
    (Journal.create setting.journal).Meets (setting.os .loader) (setting.contract .loader)
      (fun result now => Bare now ∧ ∀ writer, result = .ok writer →
        setting.Prepared writer.file now) world := by
  unfold Journal.create
  cases setting.journal.parent? with
  | none => exact meets_truncate hworld
  | some above =>
    refine (meets_makeDirectories stable_bare above.lineage hworld).bind fun result now hnow => ?_
    cases result with
    | error cause => exact ⟨hnow, nofun⟩
    | ok => exact meets_truncate hnow

theorem manages_createJournal (hbare : Bare world) :
    setting.Manages (Supervised.ofJournal (Journal.create setting.journal)) e
      (fun writer now => Bare now ∧ setting.Prepared writer.file now) world :=
  manages_ofJournal ((meets_createJournal hbare).mono fun _ _ hnow =>
    ⟨noted_of_bare hnow.1, fun writer hwriter => ⟨hnow.1, hnow.2 writer hwriter⟩⟩)

/-! ## The children are started -/

/-- A program that is started becomes the child whose turn it is, or there is an error and what was
    noted still stands. -/
theorem meets_start (party : Party) {assertion : World → Prop} {launch : Launch}
    (hstable : (setting.contract .loader).Stable assertion)
    (hgrate : ∀ now, assertion now → now.children .grate = none)
    (hnext : ∀ now, assertion now → now.next? = some party ∧ now.children party = none)
    (hlaunches : setting.Launches launch party)
    (hjournal : ∀ now, assertion now → party = .grate →
      now.files.file? setting.journal = some [])
    (hnoted : setting.Noted e world) (hworld : assertion world) :
    (Program.start launch).Meets (setting.os .loader) (setting.contract .loader)
      (fun result now =>
        (∀ cause, result = .error cause → setting.Noted e now) ∧
        ∀ pid, result = .ok pid → pid = setting.pid party ∧ ∃ before child,
          assertion before ∧ setting.Noted e before ∧ setting.Protocol before ∧
            now = before.start party child) world := by
  intro now hrely hp answer between hanswer
  obtain ⟨hnow, hnoted⟩ := stable_and hstable (stable_noted e) ⟨hworld, hnoted⟩ hrely hp
  obtain ⟨-, ⟨⟨cause, rfl⟩, rfl⟩ | ⟨other, child, hother, hstarts, -, rfl, rfl⟩⟩ := hanswer
  · exact ⟨allows_self hp trivial, fun _ _ => hnoted, nofun⟩
  · obtain ⟨hturn, hnone⟩ := hnext now hnow
    obtain rfl : other = party := Option.some.inj (hother.symm.trans hturn)
    refine ⟨allows_start hp (hgrate now hnow) hnone hstarts hlaunches (hjournal now hnow), nofun,
      ?_⟩
    rintro _ ⟨⟩
    exact ⟨rfl, now, child, hnow, hnoted, hp, rfl⟩

/-- **Starting a child**: it is the one whose turn it is, or there is an error. -/
theorem manages_spawn (party : Party) {assertion : World → Prop} {role : Role} (image : ImageSpec)
    {vars : List (String × String)} (hstable : (setting.contract .loader).Stable assertion)
    (hgrate : ∀ now, assertion now → now.children .grate = none)
    (hnext : ∀ now, assertion now → now.next? = some party ∧ now.children party = none)
    (hlaunches : setting.Launches ⟨image.program, image.args, vars⟩ party)
    (hjournal : ∀ now, assertion now → party = .grate →
      now.files.file? setting.journal = some [])
    (hnoted : setting.Noted e world) (hworld : assertion world) :
    setting.Manages (Executor.spawn role image vars none) e (fun pid now =>
      pid = setting.pid party ∧ ∃ before child, assertion before ∧ setting.Protocol before ∧
        now = before.start party child) world := by
  have hstart := meets_start party hstable hgrate hnext hlaunches hjournal hnoted hworld
  refine Meets.bind hstart fun result now hresult => ?_
  cases result with
  | error cause => exact ⟨hresult.1 cause rfl, nofun⟩
  | ok pid =>
    obtain ⟨rfl, before, child, hbefore, hnoted, hp, rfl⟩ := hresult.2 pid rfl
    refine ⟨fun other t ht found foundChild hfound hpid => ?_, ?_⟩
    · -- the new child has no end on record, and the others have ended as before
      obtain ⟨hother, hrecord⟩ := Executor.termination?_add ht
      by_cases hparty : found = party
      · exact absurd (hpid.symm.trans (congrArg setting.pid hparty)) hother
      · rw [World.children_start_of_ne hparty] at hfound
        exact hnoted other t hrecord found foundChild hfound hpid
    · rintro _ ⟨⟩
      exact ⟨rfl, before, child, hbefore, hp, rfl⟩

/-- **The cage** is started when nobody has been. -/
theorem manages_spawnCage (hnoted : setting.Noted e world) (hbare : Bare world)
    (hprepared : setting.Prepared handle world) :
    setting.Manages (spawnCage setting.config setting.cage) e (fun pid now =>
      pid = setting.pid .cage ∧ setting.Prepared handle now) world := by
  refine manages_decided hnoted fun settings hsettings => ?_
  have hnext (now : World) (hnow : Bare now ∧ setting.Prepared handle now) :
      now.next? = some .cage ∧ now.children .cage = none := by
    refine ⟨?_, hnow.1 .cage⟩
    unfold World.next?
    rw [hnow.1 .cage]
    rfl
  have hlaunches : setting.Launches ⟨setting.cage.program, gatedToken :: setting.cage.args,
      setting.config.childEnvironment ++ [settings]⟩ .cage := ⟨settings, hsettings, rfl⟩
  refine (manages_spawn .cage (setting.cage.withLeadingArg gatedToken)
    (stable_and stable_bare stable_prepared) (fun _ hnow => hnow.2.grate) hnext hlaunches
    (fun _ _ => nofun) hnoted ⟨hbare, hprepared⟩).mono ?_
  rintro pid now ⟨rfl, before, child, ⟨-, hbefore⟩, -, rfl⟩
  refine ⟨rfl, hbefore.holding, ?_, hbefore.journal⟩
  rw [World.children_start_of_ne (by decide)]
  exact hbefore.grate

/-- **The grate** is started when the cage is armed and the journal is empty. -/
theorem manages_spawnGrate (hnoted : setting.Noted e world) (hkeeps : world.Keeps)
    (hprepared : setting.Prepared handle world) :
    setting.Manages (spawnGrate setting.config setting.grate setting.cageId) e (fun pid now =>
      pid = setting.pid .grate ∧ setting.Underway handle now) world := by
  refine manages_decided hnoted fun settings hsettings => ?_
  have hnext (now : World) (hnow : now.Keeps ∧ setting.Prepared handle now) :
      now.next? = some .grate ∧ now.children .grate = none := by
    refine ⟨?_, hnow.2.grate⟩
    obtain ⟨child, hchild, -⟩ := hnow.1
    unfold World.next?
    rw [hchild, hnow.2.grate]
    rfl
  refine (manages_spawn .grate setting.grate (stable_and stable_keeps stable_prepared)
    (fun _ hnow => hnow.2.grate) hnext ⟨settings, hsettings, rfl⟩ (fun _ hnow _ => hnow.2.journal)
    hnoted ⟨hkeeps, hprepared⟩).mono ?_
  rintro pid now ⟨rfl, before, child, ⟨hkeeps, hbefore⟩, hp, rfl⟩
  refine ⟨rfl, hbefore.holding, hkeeps.start hbefore.grate, fun hpublished => ?_⟩
  have hpublished : setting.Published before := hpublished
  exact absurd hpublished (hp.unpublished hbefore.grate)

/-! ## The children are waited for -/

/-- **The cage is armed** when it says so. -/
theorem meets_isArmed {assertion : World → Prop}
    (hstable : (setting.contract .loader).Stable assertion) {world : World}
    (hworld : assertion world) :
    (do return .ok (if ← setting.rendezvous.isArmed setting.cageId then some () else none) :
      Program (Except GateError (Option Unit))).Meets (setting.os .loader)
      (setting.contract .loader) (fun result now =>
        assertion now ∧ ∀ found, result = .ok (some found) → now.Keeps) world := by
  refine (meets_quiet (r := .pathExists setting.armed) (fun _ _ _ h => h.2) hstable
    (fun _ _ _ _ => trivial) hworld).bind ?_
  rintro found now ⟨hnow, hp, -, hfound, -⟩
  refine ⟨hnow, fun _ hsome => ?_⟩
  cases found with
  | false => exact absurd (Except.ok.inj hsome) nofun
  | true =>
    refine hp.armed ?_
    unfold SharedFiles.file?
    rw [Option.isSome_map]
    exact hfound rfl

/-- **Reading a marker**: what it says, if whatever is under its name says something. -/
theorem meets_readMarker {α : Type} [Decode α] (path : Path) {good : α → World → Prop}
    (hdecodes : ∀ now bytes, setting.Protocol now → now.files.file? path = some bytes →
      ∃ a, decodeBytes α bytes = .ok a ∧ good a now)
    {assertion : World → Prop} (hstable : (setting.contract .loader).Stable assertion)
    {world : World} (hworld : assertion world) :
    (Rendezvous.readMarker α path).Meets (setting.os .loader) (setting.contract .loader)
      (fun result now => assertion now ∧ ∀ found, result = .ok (some found) → good found now)
      world := by
  refine (meets_quiet (r := .readFile path) (fun _ _ _ h => h.2) hstable (fun _ _ _ _ => nofun)
    hworld).bind ?_
  rintro answer now ⟨hnow, hp, -, hanswer, -⟩
  cases answer with
  | error cause =>
    refine ⟨hnow, fun found hfound => ?_⟩
    have hfound : (if cause.isNotFound then .ok none else .error (.io path cause) :
        Except GateError (Option α)) = .ok (some found) := hfound
    split at hfound <;> simp at hfound
  | ok bytes =>
    obtain hreading | ⟨-, _, hfailed⟩ := hanswer
    · obtain ⟨a, ha, hgood⟩ := hdecodes now bytes hp (SharedFiles.reading_eq_ok_iff.mp hreading.symm)
      simp only [ha]
      refine ⟨hnow, ?_⟩
      rintro _ ⟨⟩
      exact hgood
    · contradiction

theorem decode_ready {bytes : List UInt8} (hp : setting.Protocol now)
    (h : now.files.file? setting.ready = some bytes) :
    ∃ marker, decodeBytes ReadyMarker bytes = .ok marker ∧ marker = setting.marker ∧
      setting.Published now := by
  obtain rfl := hp.ready h
  exact ⟨_, decodeBytes_indented (standsFor_readyMarker 124 setting.marker), rfl, h⟩

theorem decode_outcome {bytes : List UInt8} (hp : setting.Protocol now)
    (h : now.files.file? setting.outcome = some bytes) :
    ∃ outcome, decodeBytes CageOutcome bytes = .ok outcome ∧ setting.Served outcome := by
  obtain ⟨outcome, rfl, hserved⟩ := hp.outcome h
  exact ⟨outcome, decodeBytes_indented (standsFor_cageOutcome 124 outcome), hserved⟩

/-- **The cage arms**, or the loader gives up. -/
theorem manages_waitArmed (hnoted : setting.Noted e world)
    (hprepared : setting.Prepared handle world) :
    setting.Manages (asking (setting.rendezvous.waitArmed setting.cageId setting.config.armTimeout
      (Executor.isAlive (setting.pid .cage)))) e
      (fun _ now => now.Keeps ∧ setting.Prepared handle now) world := by
  refine manages_asking ((meets_wait meets_isArmed stable_prepared hnoted hprepared).mono ?_)
  exact fun outcome now hnow => ⟨hnow.1, fun _ hfound => ⟨hnow.2.2 _ hfound, hnow.2.1⟩⟩

/-- **The grate becomes ready**, or the loader gives up. -/
theorem manages_awaitReady (hnoted : setting.Noted e world)
    (hunderway : setting.Underway handle world) :
    setting.Manages (asking ((Probe.marker setting.rendezvous).awaitReady setting.grateId
      setting.config.readyTimeout (Executor.isAlive (setting.pid .grate)))) e
      (fun marker now => marker = setting.marker ∧ setting.Agreed handle now) world := by
  have hlook {assertion : World → Prop} (hstable : (setting.contract .loader).Stable assertion)
      {world : World} (hworld : assertion world) :=
    meets_readMarker setting.ready (fun _ _ hp h => decode_ready hp h) hstable hworld
  refine manages_asking ((meets_wait hlook stable_underway hnoted hunderway).mono ?_)
  refine fun outcome now hnow => ⟨hnow.1, fun marker hfound => ?_⟩
  obtain ⟨hmarker, hpublished⟩ := hnow.2.2 marker hfound
  have hunderway := hnow.2.1
  exact ⟨hmarker, hunderway.holding, hunderway.keeps, hpublished, hunderway.registers hpublished⟩

/-! ## The children end -/

/-- **The release signal** is sent when the cage is armed and the grate has registered. -/
theorem manages_release (hnoted : setting.Noted e world) (hagreed : setting.Agreed handle world) :
    setting.Manages (Executor.signal (setting.pid .cage) .release) e
      (fun _ now => setting.Agreed handle now) world :=
  manages_signal stable_agreed
    (fun _ => ⟨rfl, fun _ hnow => ⟨hnow.keeps, hnow.recorded, hnow.published⟩⟩) hnoted hagreed

/-- **The stop signal** is sent when the cage has ended. -/
theorem manages_stop (hnoted : setting.Noted e world) (hagreed : setting.Agreed handle world)
    (hcage : setting.Ended (setting.pid .cage) world) :
    setting.Manages (Executor.signal (setting.pid .grate) .stopping) e
      (fun _ now => setting.Agreed handle now ∧ setting.Ended (setting.pid .cage) now) world := by
  have hsignal : Signal.stopping ≠ .release := nofun
  exact manages_signal (stable_and stable_agreed (stable_ended _)) (fun h => absurd h hsignal)
    hnoted ⟨hagreed, hcage⟩

/-! ## The exits are recorded -/

/-- **An exit** goes behind what is in the journal. -/
theorem manages_append (writer : JournalWriter) (r : JournalRecord) {content : List UInt8}
    (hnoted : setting.Noted e world) (hover : setting.Over writer.file content world) :
    setting.Manages (Supervised.ofJournal (writer.append r)) e
      (fun _ now => setting.Over writer.file (content ++ r.encode) now) world := by
  have hwrite : (writer.appendRaw r).Meets (setting.os .loader) (setting.contract .loader)
      (fun result now => ((setting.Ended (setting.pid .cage) now ∧
        setting.Ended (setting.pid .grate) now) ∧ setting.Noted e now) ∧
        (result = .ok () → now.files.AtEnd .loader writer.file setting.journal
          (content ++ r.encode))) world := by
    refine meets_writeAll .journal _ (fun content now next hnow hrely hp => ?_) ?_
      ⟨⟨hover.cage, hover.grate⟩, hnoted⟩ hover.journal
    · have hnext := stable_over content ⟨hnow.1.1.1, hnow.1.1.2, hnow.2⟩ hrely hp
      exact ⟨⟨⟨hnext.cage, hnext.grate⟩, stable_noted e hnow.1.2 hrely hp⟩, hnext.journal⟩
    · intro now rest written part hnow hp _ hend
      obtain ⟨file, hopened, hname, -⟩ := hend
      refine ⟨allows_journal (touches_write hp.apart hopened hname part) hp trivial
        (not_alive_of_ended hnow.1.2 nofun) fun _ => not_alive_of_ended hnow.1.1 nofun, hnow⟩
  refine manages_ofJournal (hwrite.bind fun result now hnow => ?_)
  cases result with
  | error cause => exact ⟨hnow.1.2, nofun⟩
  | ok => exact ⟨hnow.1.2, fun _ _ => ⟨hnow.1.1.1, hnow.1.1.2, hnow.2 rfl⟩⟩

/-! ## The whole session -/

/-- The records of the journal at the end of a session. -/
def concluded (setting : Setting) : List JournalRecord :=
  setting.records ++ [.grateExit setting.grateId, .cageExit setting.cageId]

/-- What is so when a session has been reported. -/
structure Concluded (setting : Setting) (report : SessionReport) (world : World) : Prop where
  registrations : report.registrations = setting.registrations
  outcome : ∀ outcome, report.outcome = some outcome → setting.Served outcome
  grate : setting.Ended (setting.pid .grate) world
  journal : world.files.file? setting.journal =
    some (setting.concluded.flatMap JournalRecord.encode)

theorem stable_concluded (report : SessionReport) :
    (setting.contract .loader).Stable (setting.Concluded report) := by
  intro now next hnow hrely _
  have hrely : setting.Relies .loader now next := hrely
  have hsame := (hrely.watches rfl).journal (not_alive_of_ended hnow.grate nofun)
  exact ⟨hnow.registrations, hnow.outcome, (hrely.watches rfl).ended hnow.grate,
    hsame.file?.trans hnow.journal⟩

theorem manages_recordOf {assertion : World → Prop} (pid : Pid) (role : Role) (image : ImageSpec)
    (hnoted : setting.Noted e world) (hworld : assertion world) :
    setting.Manages (recordOf pid role image) e (fun _ now => assertion now) world :=
  ⟨hnoted, fun _ _ => hworld⟩

theorem manages_readOutcome {content : List UInt8} (hnoted : setting.Noted e world)
    (hover : setting.Over handle content world) :
    setting.Manages (Supervised.run (setting.rendezvous.readOutcome setting.cageId)) e
      (fun result now => setting.Over handle content now ∧
        ∀ outcome, result = .ok (some outcome) → setting.Served outcome) world := by
  refine manages_run ((meets_readMarker setting.outcome
    (fun _ _ hp h => decode_outcome hp h) (stable_and (stable_over content) (stable_noted e))
    ⟨hover, hnoted⟩).mono ?_)
  rintro result now ⟨⟨hnow, hnoted⟩, hserved⟩
  exact ⟨hnoted, hnow, hserved⟩

/-- **The loader keeps the protocol**, and when it reports a session the two registrations were made
    and the exits are in the journal. -/
theorem manages_loader (hbare : Bare world) :
    setting.Manages setting.loader e setting.Concluded world := by
  refine (manages_ofGate ((meets_ensure stable_bare _ hbare).mono fun _ now hnow =>
    ⟨noted_of_bare hnow, fun _ _ => hnow⟩)).bind fun _ e now hnoted hbare => ?_
  refine (manages_createJournal hbare).bind ?_
  rintro writer e now hnoted ⟨hbare, hprepared⟩
  -- the cage arms
  refine (manages_spawnCage hnoted hbare hprepared).bind ?_
  rintro _ e now hnoted ⟨rfl, hprepared⟩
  refine (manages_orAbort _ (manages_waitArmed hnoted hprepared)).bind ?_
  rintro _ e now hnoted ⟨hkeeps, hprepared⟩
  refine manages_decided hnoted fun waiting _ => ?_
  -- the grate becomes ready
  refine (manages_orAbort _ (manages_spawnGrate hnoted hkeeps hprepared)).bind ?_
  rintro _ e now hnoted ⟨rfl, hunderway⟩
  refine (manages_orAbort _ (manages_awaitReady hnoted hunderway)).bind ?_
  rintro _ e now hnoted ⟨rfl, hagreed⟩
  -- the cage runs
  refine (manages_release hnoted hagreed).bind fun _ e now hnoted hagreed => ?_
  refine manages_decided hnoted fun running _ => ?_
  refine (manages_reap stable_agreed hnoted hagreed).bind ?_
  rintro _ e now hnoted ⟨hagreed, hcage⟩
  refine manages_decided hnoted fun exited _ => ?_
  -- the grate stops
  refine (manages_stop hnoted hagreed hcage).bind fun _ e now hnoted hnow => ?_
  refine (manages_reap (stable_and stable_agreed (stable_ended (setting.pid .cage))) hnoted
    hnow).bind ?_
  rintro _ e now hnoted ⟨⟨hagreed, hcage⟩, hgrate⟩
  have hover : setting.Over writer.file setting.recorded now :=
    ⟨hcage, hgrate, hagreed.holding.atEnd hagreed.recorded⟩
  refine (manages_append writer _ hnoted hover).bind fun _ e now hnoted hover => ?_
  refine (manages_append writer _ hnoted hover).bind fun _ e now hnoted hover => ?_
  refine (manages_readOutcome hnoted hover).bind ?_
  rintro result e now hnoted ⟨hover, hserved⟩
  refine (manages_recordOf _ _ _ hnoted hover).bind fun cage e now hnoted hover => ?_
  refine (manages_recordOf _ _ _ hnoted hover).bind fun grate e now hnoted hover => ?_
  refine manages_pure hnoted ⟨rfl, ?_, hover.grate, ?_⟩
  · intro outcome houtcome
    cases result with
    | error cause => exact absurd houtcome nofun
    | ok found => exact hserved outcome (congrArg Except.ok houtcome)
  · have hfile := hover.journal.file?
    rw [recorded_eq, List.append_assoc] at hfile
    rw [hfile]
    unfold concluded
    rw [List.flatMap_append]
    rfl

end Interposition.Session.Setting
