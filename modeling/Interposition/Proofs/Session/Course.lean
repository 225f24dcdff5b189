/-
  The courses a session can take.

  A session may end early in many places, and in each of them other children have been started.
  Here the ways through it are told apart once, over any operating system.

  1. **Stages** (`run_eq`): a session prepares its files, has the cage arm, has the grate become
     ready, and then brings both to their ends.  The states of the cage's life that it goes through
     are the same in every session, since none of the steps between them can fail.

  2. **Courses** (`Course`, `course_of_run`): one for each stage that can fail, with what has been
     killed for it, and one for sessions that come to their last stage.

  3. **Probes** (`Probe.Confined`): a probe has no hand in the records of those it asks about; it can
     change them only by asking.  A wait is the same (`Poll.wait_keeps`), and so are both probes of
     the library (`Probe.confined_marker`, `Probe.confined_operator`).
-/
import Interposition.Process.Session
import Interposition.Proofs.Process.Supervision

namespace Interposition

/-! ## Probes -/

/-- A probe makes only some kinds of requests, and beside them it asks for the grate.  What neither
    changes, it does not change. -/
def Probe.Confined (allowed : Deed → Prop) (probe : Probe) : Prop :=
  ∀ {World σ : Type} {os : OperatingSystem World} (holds : σ → World → Prop)
    {alive : σ → Program (Bool × σ)} {grate : GrateId} {timeout : Duration} {s s' : σ}
    {world final : World} {result : Except GateError ReadyMarker},
    (∀ s, os.Keeps allowed (holds s)) →
    (∀ {s s' world next living}, holds s world → (alive s).Runs os world (living, s') next →
      holds s' next) →
    (probe.awaitReady grate timeout alive s).Runs os world (result, s') final →
    holds s world → holds s' final

namespace Probe

variable {allowed allowed' : Deed → Prop} {probe : Probe}

theorem Confined.mono (h : probe.Confined allowed) (hweaker : ∀ deed, allowed deed → allowed' deed) :
    probe.Confined allowed' :=
  fun holds _ _ _ _ _ _ _ _ hos => h holds fun s => (hos s).mono hweaker

end Probe

namespace Rendezvous

/-- Reading a marker is looking. -/
theorem confined_readMarker (α : Type) [Decode α] (path : Path) :
    (readMarker α path).Confined Deed.IsLook := by
  refine (Program.confined_request trivial).bind fun answer => ?_
  cases answer with
  | error cause => exact trivial
  | ok bytes =>
    dsimp only
    split <;> exact trivial

end Rendezvous

namespace Probe

variable {rendezvous : Rendezvous}

theorem confined_marker : (marker rendezvous).Confined Deed.IsLook :=
  fun holds _ _ _ _ _ _ _ _ hos =>
    Poll.wait_keeps holds hos (Rendezvous.confined_readMarker _ _)

theorem confined_operator {channel : Nat} : (operator rendezvous channel).Confined Deed.IsLook := by
  intro World σ os holds alive grate timeout s s' world final result hos halive hrun hworld
  obtain ⟨started, first, hnow, hrun⟩ := Program.runs_request_bind.mp hrun
  have hfirst := (hos s).answers (r := .now) hworld trivial hnow
  obtain ⟨⟨_ | marker, later⟩, between, hwait, hrun⟩ := Program.runs_bind.mp hrun
  · obtain ⟨heq, rfl⟩ := hrun
    cases heq
    exact confined_marker holds hos halive hwait hfirst
  · have hbetween := confined_marker holds hos halive hwait hfirst
    obtain ⟨now, ready, hnow, hrun⟩ := Program.runs_request_bind.mp hrun
    have hready := (hos later).answers (r := .now) hbetween trivial hnow
    obtain ⟨line, heard, hline, hrun⟩ := Program.runs_request_bind.mp hrun
    have hheard := (hos later).answers (r := .receiveLine channel _) hready trivial hline
    cases line <;> obtain ⟨heq, rfl⟩ := hrun <;> cases heq <;> exact hheard

end Probe

namespace Session

variable {World α : Type} {os : OperatingSystem World} {world final : World} {e e' : Executor}
  {config : RuntimeConfig} {probe : Probe} {cage grate : ImageSpec} {cagePid gratePid pid : Pid}
  {journal : JournalWriter}

/-! ## Stages -/

/-- The directory of the markers and an empty journal. -/
def prepare (config : RuntimeConfig) : Supervised JournalWriter := do
  Supervised.ofGate (Rendezvous.ensure ⟨config.rendezvousDir⟩)
  Supervised.ofJournal (Journal.create config.journalPath)

/-- The cage arms. -/
def awaitArmed (config : RuntimeConfig) (cagePid : Pid) : Supervised Unit :=
  asking (Rendezvous.waitArmed ⟨config.rendezvousDir⟩ (.ofPid cagePid) config.armTimeout
    (Executor.isAlive cagePid))

/-- The grate becomes ready. -/
def awaitReady (config : RuntimeConfig) (probe : Probe) (gratePid : Pid) :
    Supervised ReadyMarker :=
  asking (probe.awaitReady (.ofPid gratePid) config.readyTimeout (Executor.isAlive gratePid))

/-- The cage runs and ends, and then the grate is stopped. -/
def settle (cagePid gratePid : Pid) : Supervised Unit := do
  let _ ← Executor.signal cagePid .release
  let _ ← Executor.reap cagePid
  let _ ← Executor.signal gratePid .stopping
  let _ ← Executor.reap gratePid

/-- Both exits go to the journal. -/
def recordExits (journal : JournalWriter) (cagePid gratePid : Pid) : Supervised Unit := do
  Supervised.ofJournal (journal.append (.grateExit (.ofPid gratePid)))
  Supervised.ofJournal (journal.append (.cageExit (.ofPid cagePid)))

/-- The settings of a session in a directory of its own, for examples. -/
def plainConfig : RuntimeConfig := .defaults (.ofText "/tmp/session")

/-- Every state of the cage's life, in a session that is reported. -/
def cageStates : List CageState := [.created, .waitingForSignal, .running, .exited]

/-- What is reported of a session. -/
def report (config : RuntimeConfig) (cage grate : ImageSpec) (cagePid gratePid : Pid)
    (marker : ReadyMarker) : Supervised SessionReport := do
  let outcome ← Supervised.run (Rendezvous.readOutcome ⟨config.rendezvousDir⟩ (.ofPid cagePid))
  return {
    cage := ← recordOf cagePid .cage cage
    grate := ← recordOf gratePid .grate grate
    cageStates
    registrations := marker.registrations
    outcome := match outcome with
      | .ok found => found
      | .error _ => none }

/-- No step of the cage's life that a session takes can fail. -/
theorem advance_waiting : advance [.created] .waitingForSignal = .ok [.created, .waitingForSignal] :=
  rfl

theorem advance_running : advance [.created, .waitingForSignal] .running =
    .ok [.created, .waitingForSignal, .running] := rfl

theorem advance_exited : advance [.created, .waitingForSignal, .running] .exited = .ok cageStates :=
  rfl

/-- **A session is its stages.** -/
theorem run_eq : run config probe cage grate = (do
    let journal ← prepare config
    let cagePid ← spawnCage config cage
    orAbort [cagePid] (awaitArmed config cagePid)
    let gratePid ← orAbort [cagePid] (spawnGrate config grate (.ofPid cagePid))
    let marker ← orAbort [cagePid, gratePid] (awaitReady config probe gratePid)
    settle cagePid gratePid
    recordExits journal cagePid gratePid
    report config cage grate cagePid gratePid marker) := by
  unfold run prepare awaitArmed awaitReady settle recordExits
  simp only [bind_assoc, pure_bind, advance_waiting, advance_running, advance_exited,
    Supervised.decided_bind]
  rfl

/-! ## Runs of the stages -/

theorem runs_asking {wait : Executor → Program (Except GateError α × Executor)}
    {result : Except ProcessError α} :
    (asking wait e).Runs os world (result, e') final ↔
      ∃ answer, (wait e).Runs os world (answer, e') final ∧ result = answer.mapError .gate := by
  refine Program.runs_bind.trans ?_
  constructor
  · rintro ⟨⟨_ | a, after⟩, between, hwait, heq, rfl⟩ <;> cases heq <;> exact ⟨_, hwait, rfl⟩
  · rintro ⟨_ | a, hwait, rfl⟩ <;> exact ⟨_, final, hwait, rfl, rfl⟩

/-- **Waiting for the cage** keeps what looking keeps, if asking for the cage keeps it too. -/
theorem keeps_awaitArmed (holds : Executor → World → Prop) {result : Except ProcessError Unit}
    (hos : ∀ e, os.Keeps Deed.IsLook (holds e))
    (halive : ∀ {e e' world next living}, holds e world →
      (Executor.isAlive cagePid e).Runs os world (living, e') next → holds e' next)
    (hrun : (awaitArmed config cagePid e).Runs os world (result, e') final) (h : holds e world) :
    holds e' final := by
  obtain ⟨answer, hwait, -⟩ := runs_asking.mp hrun
  refine Poll.wait_keeps holds hos ?_ halive hwait h
  exact (Program.confined_request trivial).bind fun there => by cases there <;> exact trivial

/-- So it is with the wait for the grate, if the probe does the same. -/
theorem keeps_awaitReady {allowed : Deed → Prop} (hprobe : probe.Confined allowed)
    (holds : Executor → World → Prop) {result : Except ProcessError ReadyMarker}
    (hos : ∀ e, os.Keeps allowed (holds e))
    (halive : ∀ {e e' world next living}, holds e world →
      (Executor.isAlive gratePid e).Runs os world (living, e') next → holds e' next)
    (hrun : (awaitReady config probe gratePid e).Runs os world (result, e') final)
    (h : holds e world) : holds e' final := by
  obtain ⟨answer, hasked, -⟩ := runs_asking.mp hrun
  exact hprobe holds hos halive hasked h

theorem runs_abort_nil {result : Except ProcessError Unit} :
    (abort [] e).Runs os world (result, e') final ↔ result = .ok () ∧ e' = e ∧ final = world :=
  Supervised.runs_pure

/-- **Killing** one after another, whatever comes of it. -/
theorem runs_abort_cons {pids : List Pid} {result : Except ProcessError Unit} :
    (abort (pid :: pids) e).Runs os world (result, e') final ↔ ∃ killed middle between,
      (Executor.kill pid e).Runs os world (killed, middle) between ∧
        (abort pids middle).Runs os between (result, e') final := by
  have hone : abort (pid :: pids) = (do
      let _ ← Supervised.attempt (Executor.kill pid)
      abort pids) := bind_assoc _ _ _
  rw [hone, Supervised.runs_attempt_bind]

theorem ok_of_runs_abort {pids : List Pid} {result : Except ProcessError Unit}
    (h : (abort pids e).Runs os world (result, e') final) : result = .ok () := by
  induction pids generalizing e world with
  | nil => exact (runs_abort_nil.mp h).1
  | cons pid pids ih =>
    obtain ⟨killed, middle, between, -, hrest⟩ := runs_abort_cons.mp h
    exact ih hrest

theorem confined_abort {allowed : Deed → Prop} {pids : List Pid}
    (hkill : ∀ pid, allowed (.asks (.kill pid .kill)))
    (hwait : ∀ pid, allowed (.asks (.wait pid true))) : (abort pids e).Confined allowed := by
  induction pids generalizing e with
  | nil => exact trivial
  | cons pid pids ih =>
    refine Supervised.confined_bind (Supervised.confined_bind (Supervised.confined_attempt ?_)
      fun _ _ => trivial) fun _ _ => ih
    exact Executor.confined_kill (hkill pid) (hwait pid)

/-- What fails, fails after everybody has been killed. -/
theorem runs_orAbort {pids : List Pid} {program : Supervised α} {result : Except ProcessError α}
    (h : (orAbort pids program e).Runs os world (result, e') final) :
    (∃ a, (program e).Runs os world (.ok a, e') final ∧ result = .ok a) ∨
      ∃ cause middle between, (program e).Runs os world (.error cause, middle) between ∧
        (abort pids middle).Runs os between (.ok (), e') final ∧ result = .error cause := by
  obtain ⟨attempted, middle, between, hprogram, h⟩ := Supervised.runs_attempt_bind.mp h
  cases attempted with
  | ok a =>
    obtain ⟨rfl, rfl, rfl⟩ := Supervised.runs_pure.mp h
    exact .inl ⟨a, hprogram, rfl⟩
  | error cause =>
    obtain ⟨_, after, later, habort, h⟩ := Supervised.runs_bind_of_ok h fun habort =>
      ⟨(), ok_of_runs_abort habort⟩
    obtain ⟨rfl, rfl, rfl⟩ := Supervised.runs_throw.mp h
    exact .inr ⟨cause, middle, between, hprogram, habort, rfl⟩

/-- The cage and the grate are signalled and waited for. -/
theorem confined_settle {allowed : Deed → Prop}
    (hkill : ∀ pid signal, allowed (.asks (.kill pid signal)))
    (hwait : ∀ pid, allowed (.asks (.wait pid true))) :
    (settle cagePid gratePid e).Confined allowed := by
  refine Supervised.confined_bind (Executor.confined_signal (hkill _ _)) fun _ _ => ?_
  refine Supervised.confined_bind (Executor.confined_reap (hwait _)) fun _ _ => ?_
  refine Supervised.confined_bind (Executor.confined_signal (hkill _ _)) fun _ _ => ?_
  exact Supervised.confined_bind (Executor.confined_reap (hwait _)) fun _ _ => trivial

theorem runs_recordExits {result : Except ProcessError Unit}
    (h : (recordExits journal cagePid gratePid e).Runs os world (result, e') final) :
    e' = e ∧ ∀ cause, result = .error cause → ∃ failure, cause = .journal failure := by
  have happend {writer : JournalWriter} {r : JournalRecord} {e e' : Executor} {world final : World}
      {result : Except ProcessError Unit}
      (h : (Supervised.ofJournal (writer.append r) e).Runs os world (result, e') final) :
      e' = e ∧ ∀ cause, result = .error cause → ∃ failure, cause = .journal failure := by
    obtain ⟨rfl, _ | _, -, rfl⟩ := Supervised.runs_ofJournal.mp h
    · refine ⟨rfl, ?_⟩
      rintro _ ⟨⟩
      exact ⟨_, rfl⟩
    · exact ⟨rfl, nofun⟩
  obtain ⟨_, middle, between, hfirst, hsecond⟩ | ⟨cause, hfirst, rfl⟩ := Supervised.runs_bind.mp h
  · obtain ⟨rfl, hresult⟩ := happend hsecond
    exact ⟨(happend hfirst).1, hresult⟩
  · obtain ⟨rfl, hresult⟩ := happend hfirst
    refine ⟨rfl, ?_⟩
    rintro _ ⟨⟩
    exact hresult cause rfl

theorem confined_recordExits_of {allowed : Deed → Prop}
    (hwrite : ∀ bytes, allowed (.asks (.write journal.file bytes))) :
    (recordExits journal cagePid gratePid e).Confined allowed :=
  Supervised.confined_bind
    (Supervised.confined_ofJournal (JournalWriter.confined_append hwrite _))
    fun _ _ => Supervised.confined_ofJournal (JournalWriter.confined_append hwrite _)

theorem confined_recordExits :
    (recordExits journal cagePid gratePid e).Confined Deed.SparesProcesses :=
  confined_recordExits_of fun _ => trivial

theorem pid_recordOf (e : Executor) (pid : Pid) (role : Role) (image : ImageSpec) :
    ((e.record? pid).getD (.new role image.name (Executor.key pid))).pid = Executor.key pid := by
  cases hrecord : e.record? pid with
  | none => rfl
  | some r => exact Executor.pid_of_record? hrecord

/-- **Reporting** never fails. -/
theorem runs_report {marker : ReadyMarker} {result : Except ProcessError SessionReport}
    (h : (report config cage grate cagePid gratePid marker e).Runs os world (result, e') final) :
    e' = e ∧ ∃ reported, result = .ok reported ∧ reported.cageStates = cageStates ∧
      reported.cage.pid = Executor.key cagePid ∧ reported.grate.pid = Executor.key gratePid := by
  obtain ⟨outcome, middle, between, hread, hrest⟩ | ⟨_, hread, -⟩ := Supervised.runs_bind.mp h
  · obtain ⟨rfl, -⟩ := Supervised.runs_run.mp hread
    obtain ⟨rfl, rfl, rfl⟩ := Supervised.runs_pure.mp hrest
    exact ⟨rfl, _, rfl, rfl, pid_recordOf _ _ _ _, pid_recordOf _ _ _ _⟩
  · obtain ⟨-, _, -, heq⟩ := Supervised.runs_run.mp hread
    cases heq

/-- What is reported that the cage saw was read from its marker. -/
theorem readOutcome_of_runs_report {marker : ReadyMarker} {reported : SessionReport}
    {outcome : CageOutcome}
    (h : (report config cage grate cagePid gratePid marker e).Runs os world (.ok reported, e') final)
    (houtcome : reported.outcome = some outcome) :
    (Rendezvous.readOutcome ⟨config.rendezvousDir⟩ (.ofPid cagePid)).Runs os world
      (.ok (some outcome)) final := by
  obtain ⟨said, middle, between, hread, hrest⟩ | ⟨_, -, heq⟩ := Supervised.runs_bind.mp h
  · obtain ⟨-, answer, hread, heq⟩ := Supervised.runs_run.mp hread
    cases heq
    obtain ⟨heq, -, rfl⟩ := Supervised.runs_pure.mp hrest
    cases heq
    cases said with
    | error cause => cases houtcome
    | ok found =>
      cases houtcome
      exact hread
  · cases heq

theorem confined_report {marker : ReadyMarker} :
    (report config cage grate cagePid gratePid marker e).Confined Deed.IsLook :=
  Supervised.confined_bind ((Rendezvous.confined_readMarker _ _).bind fun _ => trivial)
    fun _ _ => trivial

/-! ## Courses -/

/-- **Starting a child** of a session: its settings cannot be written down, or the operating system
    refuses, or the child is there. -/
inductive Starts (os : OperatingSystem World) (role : Role) (e : Executor) (world : World) :
    Except ProcessError Pid → Executor → World → Prop where
  | undecided (setting : String) (cause : Failure) :
      Starts os role e world (.error (.badLaunchConfig setting cause)) e world
  | refused {launch : Launch} {cause : IoError} {final : World} (image : String)
      (h : os.spawns world launch false (pure none) (.error cause) final) :
      Starts os role e world (.error (Executor.spawnError image cause false)) e final
  | started {launch : Launch} {pid : Pid} {final : World} (image : String)
      (h : os.spawns world launch false (pure none) (.ok pid) final) :
      Starts os role e world (.ok pid) (e.add (.new role image (Executor.key pid))) final

/-- The two children of a session are started alike. -/
theorem starts_of_runs {role : Role} {image : ImageSpec} {vars : List (String × String)}
    {settings : α} {L : LaunchSettings α} {result : Except ProcessError Pid}
    (h : ((do
      let setting ← ExceptT.mk (pure (LaunchSettings.toEnvironment settings))
      Executor.spawn role image (vars ++ [setting]) none : Supervised Pid) e).Runs os world
        (result, e') final) : Starts os role e world result e' final := by
  unfold LaunchSettings.toEnvironment at h
  cases hdocument : LaunchSettings.document settings with
  | error cause =>
    simp only [hdocument] at h
    obtain ⟨_, _, _, hdecided, -⟩ | ⟨_, hdecided, rfl⟩ := Supervised.runs_bind.mp h <;>
      obtain ⟨heq, rfl, rfl⟩ := Supervised.runs_decided.mp hdecided <;> cases heq
    exact .undecided _ cause
  | ok json =>
    simp only [hdocument, Supervised.decided_bind] at h
    obtain ⟨_ | pid, hspawns, hanswer⟩ := Executor.runs_spawn h <;>
      obtain ⟨rfl, rfl⟩ := hanswer
    · exact .refused image.name hspawns
    · exact .started image.name hspawns

theorem starts_cage {result : Except ProcessError Pid}
    (h : (spawnCage config cage e).Runs os world (result, e') final) :
    Starts os .cage e world result e' final := starts_of_runs h

theorem starts_grate {target : CageId} {result : Except ProcessError Pid}
    (h : (spawnGrate config grate target e).Runs os world (result, e') final) :
    Starts os .grate e world result e' final := starts_of_runs h

theorem Starts.keeps {allowed : Deed → Prop} {holds : World → Prop} {role : Role}
    {result : Except ProcessError Pid} (hos : os.Keeps allowed holds)
    (hallowed : ∀ launch, allowed (.starts launch))
    (h : Starts os role e world result e' final) (hworld : holds world) : holds final := by
  cases h with
  | undecided => exact hworld
  | refused image hspawns => exact hos.spawns hworld (hallowed _) hspawns
  | started image hspawns => exact hos.spawns hworld (hallowed _) hspawns

/-- The journal is emptied, and then opened for appending. -/
theorem opens_of_runs_truncate {path : Path}
    (h : (Journal.truncate path).Runs os world (.ok journal) final) :
    ∃ before made closed handle, os.answers before (.createFile path) (.ok handle) made ∧
      os.answers made (.close handle) () closed ∧
      os.answers closed (.openAppending path) (.ok journal.file) final := by
  obtain ⟨_ | handle, made, hmade, h⟩ := Program.runs_request_bind.mp h
  · exact nomatch h.1
  · obtain ⟨_, closed, hclosed, h⟩ := Program.runs_request_bind.mp h
    obtain ⟨_ | file, opened, hopened, h⟩ := Program.runs_request_bind.mp h
    · exact nomatch h.1
    · obtain ⟨heq, rfl⟩ := h
      cases heq
      exact ⟨_, made, closed, handle, hmade, hclosed, hopened⟩

/-- So it is when a session prepares. -/
theorem opens_of_runs_prepare
    (h : (prepare config e).Runs os world (.ok journal, e') final) :
    ∃ before made closed handle, os.answers before (.createFile config.journalPath) (.ok handle) made ∧
      os.answers made (.close handle) () closed ∧
      os.answers closed (.openAppending config.journalPath) (.ok journal.file) final := by
  obtain ⟨_, middle, between, -, hcreate⟩ | ⟨_, -, heq⟩ := Supervised.runs_bind.mp h
  · obtain ⟨-, answer, hcreate, hanswer⟩ := Supervised.runs_ofJournal.mp hcreate
    cases answer with
    | error => cases hanswer
    | ok =>
      cases hanswer
      unfold Journal.create at hcreate
      split at hcreate
      · exact opens_of_runs_truncate hcreate
      · obtain ⟨_ | _, made, -, hcreate⟩ := Program.runs_bind.mp hcreate
        · exact nomatch hcreate.1
        · exact opens_of_runs_truncate hcreate
  · cases heq

/-- Preparing makes directories, and the file of the journal. -/
theorem confined_prepare_of {allowed : Deed → Prop}
    (hmake : ∀ path, allowed (.asks (.makeDirectory path)))
    (hask : ∀ path, allowed (.asks (.isDirectory path)))
    (hcreate : allowed (.asks (.createFile config.journalPath)))
    (hclose : ∀ file, allowed (.asks (.close file)))
    (hopen : allowed (.asks (.openAppending config.journalPath))) :
    (prepare config e).Confined allowed := by
  refine Supervised.confined_bind (Supervised.confined_ofGate ?_) fun _ _ =>
    Supervised.confined_ofJournal (Journal.confined_create hmake hask hcreate hclose hopen)
  exact (Program.confined_makeDirectories hmake hask _).bind fun made => by
    cases made <;> exact trivial

/-- Preparing makes files, and starts nobody. -/
theorem confined_prepare : (prepare config e).Confined Deed.IsPreparation :=
  confined_prepare_of (fun _ => trivial) (fun _ => trivial) trivial (fun _ => trivial) trivial

/-- The cage has been started, and it has armed. -/
inductive Armed (os : OperatingSystem World) (config : RuntimeConfig) (cage : ImageSpec)
    (e : Executor) (world : World) (journal : JournalWriter) (cagePid : Pid) :
    Executor → World → Prop where
  | intro {prepared started armed : World} {spawned waited : Executor}
      (prepare : (prepare config e).Runs os world (.ok journal, e) prepared)
      (spawn : (spawnCage config cage e).Runs os prepared (.ok cagePid, spawned) started)
      (arms : (awaitArmed config cagePid spawned).Runs os started (.ok (), waited) armed) :
      Armed os config cage e world journal cagePid waited armed

/-- **What a session can come to**, by the stage that failed if one did. -/
inductive Course (os : OperatingSystem World) (config : RuntimeConfig) (probe : Probe)
    (cage grate : ImageSpec) (e : Executor) (world : World) :
    Except ProcessError SessionReport → Executor → World → Prop where
  | unprepared {cause : ProcessError} {final : World}
      (prepare : (prepare config e).Runs os world (.error cause, e) final) :
      Course os config probe cage grate e world (.error cause) e final
  | noCage {journal : JournalWriter} {cause : ProcessError} {e' : Executor} {prepared final : World}
      (prepare : (prepare config e).Runs os world (.ok journal, e) prepared)
      (spawn : (spawnCage config cage e).Runs os prepared (.error cause, e') final) :
      Course os config probe cage grate e world (.error cause) e' final
  | unarmed {journal : JournalWriter} {cagePid : Pid} {cause : ProcessError}
      {spawned waited e' : Executor} {prepared started unarmed final : World}
      (prepare : (prepare config e).Runs os world (.ok journal, e) prepared)
      (spawn : (spawnCage config cage e).Runs os prepared (.ok cagePid, spawned) started)
      (arms : (awaitArmed config cagePid spawned).Runs os started (.error cause, waited) unarmed)
      (killed : (abort [cagePid] waited).Runs os unarmed (.ok (), e') final) :
      Course os config probe cage grate e world (.error cause) e' final
  | noGrate {journal : JournalWriter} {cagePid : Pid} {cause : ProcessError}
      {waited spawned e' : Executor} {armed unstarted final : World}
      (arms : Armed os config cage e world journal cagePid waited armed)
      (spawn : (spawnGrate config grate (.ofPid cagePid) waited).Runs os armed
        (.error cause, spawned) unstarted)
      (killed : (abort [cagePid] spawned).Runs os unstarted (.ok (), e') final) :
      Course os config probe cage grate e world (.error cause) e' final
  | unready {journal : JournalWriter} {cagePid gratePid : Pid} {cause : ProcessError}
      {waited spawned asked e' : Executor} {armed started unready final : World}
      (arms : Armed os config cage e world journal cagePid waited armed)
      (spawn : (spawnGrate config grate (.ofPid cagePid) waited).Runs os armed
        (.ok gratePid, spawned) started)
      (probes : (awaitReady config probe gratePid spawned).Runs os started
        (.error cause, asked) unready)
      (killed : (abort [cagePid, gratePid] asked).Runs os unready (.ok (), e') final) :
      Course os config probe cage grate e world (.error cause) e' final
  | released {journal : JournalWriter} {cagePid gratePid : Pid} {marker : ReadyMarker}
      {result : Except ProcessError SessionReport} {waited spawned asked e' : Executor}
      {armed started ready final : World}
      (arms : Armed os config cage e world journal cagePid waited armed)
      (spawn : (spawnGrate config grate (.ofPid cagePid) waited).Runs os armed
        (.ok gratePid, spawned) started)
      (probes : (awaitReady config probe gratePid spawned).Runs os started
        (.ok marker, asked) ready)
      (ends : ((do
        settle cagePid gratePid
        recordExits journal cagePid gratePid
        report config cage grate cagePid gratePid marker) asked).Runs os ready (result, e') final) :
      Course os config probe cage grate e world result e' final

/-- Preparing starts nobody. -/
theorem executor_of_runs_prepare {result : Except ProcessError JournalWriter}
    (h : (prepare config e).Runs os world (result, e') final) : e' = e := by
  obtain ⟨_, middle, between, hensure, hcreate⟩ | ⟨_, hensure, -⟩ := Supervised.runs_bind.mp h
  · rw [(Supervised.runs_ofJournal.mp hcreate).1, (Supervised.runs_ofGate.mp hensure).1]
  · exact (Supervised.runs_ofGate.mp hensure).1

/-- **Every session takes one of the courses.** -/
theorem course_of_run {result : Except ProcessError SessionReport}
    (h : (run config probe cage grate e).Runs os world (result, e') final) :
    Course os config probe cage grate e world result e' final := by
  rw [run_eq] at h
  obtain ⟨journal, middle, prepared, hprepare, hrest⟩ | ⟨cause, hprepare, rfl⟩ :=
    Supervised.runs_bind.mp h
  rotate_left
  · obtain rfl := executor_of_runs_prepare hprepare
    exact .unprepared hprepare
  obtain rfl := executor_of_runs_prepare hprepare
  obtain ⟨cagePid, spawned, started, hspawn, hrest⟩ | ⟨cause, hspawn, rfl⟩ :=
    Supervised.runs_bind.mp hrest
  rotate_left
  · exact .noCage hprepare hspawn
  -- the cage arms
  obtain ⟨⟨⟩, waited, armed, harms, hrest⟩ | ⟨cause, harms, rfl⟩ := Supervised.runs_bind.mp hrest
  rotate_left
  · obtain ⟨_, -, heq⟩ | ⟨_, waited, unarmed, harms, hkilled, heq⟩ := runs_orAbort harms
    · cases heq
    · cases heq
      exact .unarmed hprepare hspawn harms hkilled
  obtain ⟨_, harms, -⟩ | ⟨_, _, _, -, -, heq⟩ := runs_orAbort harms
  rotate_left
  · cases heq
  have harmed : Armed os config cage _ world journal cagePid waited armed :=
    .intro hprepare hspawn harms
  -- the grate becomes ready
  obtain ⟨gratePid, spawned, started, hspawn, hrest⟩ | ⟨cause, hspawn, rfl⟩ :=
    Supervised.runs_bind.mp hrest
  rotate_left
  · obtain ⟨_, -, heq⟩ | ⟨_, spawned, unstarted, hspawn, hkilled, heq⟩ := runs_orAbort hspawn
    · cases heq
    · cases heq
      exact .noGrate harmed hspawn hkilled
  obtain ⟨_, hspawn, heq⟩ | ⟨_, _, _, -, -, heq⟩ := runs_orAbort hspawn <;> cases heq
  obtain ⟨marker, asked, ready, hready, hrest⟩ | ⟨cause, hready, rfl⟩ :=
    Supervised.runs_bind.mp hrest
  rotate_left
  · obtain ⟨_, -, heq⟩ | ⟨_, asked, unready, hready, hkilled, heq⟩ := runs_orAbort hready
    · cases heq
    · cases heq
      exact .unready harmed hspawn hready hkilled
  obtain ⟨_, hready, heq⟩ | ⟨_, _, _, -, -, heq⟩ := runs_orAbort hready <;> cases heq
  exact .released harmed hspawn hready hrest

end Session

end Interposition
