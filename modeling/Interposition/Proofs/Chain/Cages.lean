/-
  The way of a chained cage, from the fork to its calls.

  A level forks a child, which registers itself and only then becomes the cage.  What the child puts
  in the journal, what the level is told, and what the cage is answered later are told by different
  operating systems; here they are put together.

  1. **Spawning** (`runs_spawn_registering`): whoever has forked the child is told of a refusal.

  2. **The whole way** (`chained_cages_run_registered`).
-/
import Interposition.Proofs.Chain.Grates
import Interposition.Proofs.Chain.Obliging
import Interposition.Proofs.Chain.Site
import Interposition.Proofs.Chain.Trials

namespace Interposition.Chain

open Demo

variable {machine : Machine}

/-! ## Spawning -/

/-- **A spawn** with a setup that registers the child. -/
theorem runs_spawn_registering {settings : Settings} {grate : GrateId} {self : Pid} {role : Role}
    {image : ImageSpec} {vars : List (String × String)} {e e' : Executor}
    {result : Except ProcessError Pid} {tried next : List Attempt}
    (h : (Executor.spawn role image vars
      (some (setup settings ⟨machine.journal self, machine.journalPath⟩ grate)) e).Runs
      (trying machine self) tried (result, e') next) :
    ∃ trial : Trial, next = tried ++ [⟨⟨image.program, image.args, vars⟩, true, trial⟩] ∧
      trial.Tells settings grate ∧
      (∀ started, result = .ok started → ∃ written, trial = .executed started written) ∧
      ∀ child errno written, trial = .stopped child errno written →
        result = .error (.childSetupFailed image.name (.os errno)) := by
  obtain ⟨_, ⟨trial, htrial, rfl, rfl⟩, hresult⟩ := Executor.runs_spawn h
  refine ⟨trial, rfl, htrial.tells, ?_, ?_⟩
  · rintro started rfl
    cases trial with
    | executed pid written =>
      obtain ⟨heq, -⟩ := hresult
      exact ⟨written, by rw [Except.ok.inj heq]⟩
    | _ => cases hresult.1
  · rintro child errno written rfl
    rw [← htrial.tells.spawnError_eq]
    exact hresult.1

/-! ## The whole way -/

/-- **A chained cage runs only once it is registered.**

    * A child whose setup is at its end has put in the journal, whatever was there before, the
      records of the registrations that were accepted, in order, and of the one that was not less
      than a whole record.
    * Whoever starts it is told of a child only if it is executed, with all its records in the
      journal, and of one that was stopped that its setup has failed, which is a failure of a leaf.
    * A level asks for its cage first, and no other child of it has a setup.  If the cage was
      stopped, the level asks for its next grate all the same and reports the failure, unless that
      grate cannot be started either, and then it fails.
    * In every interleaving of the cages that levels of the demonstration have forked, each cage has
      a record in the journal.  If it reads the journal of the chain, which it does if the settings
      survive being handed down, every call for the effective user id has returned the grate's. -/
theorem chained_cages_run_registered (settings : Settings) (grate : GrateId)
    (handles : Pid → FileHandle) :
    let machine : Machine := ⟨settings.config.journalPath, handles, true⟩
    (∀ parent pid before outcome after,
      (setup settings ⟨machine.journal parent, machine.journalPath⟩ grate).Runs
          (boot machine parent pid) (some before) outcome after →
        ∃ records part, Leaves settings (.ofPid pid) grate outcome records part ∧
          after = some (before ++ (records.flatMap JournalRecord.encode ++ part)) ∧
          (JournalRecord.byteLength ∣ before.length →
            JournalRecord.recordsOf after.bytes = JournalRecord.recordsOf before ++ records)) ∧
    (∀ self role image vars e result e' tried,
      (Executor.spawn role image vars
          (some (setup settings ⟨machine.journal self, machine.journalPath⟩ grate)) e).Runs
          (trying machine self) [] (result, e') tried →
        ∃ trial : Trial, tried = [⟨⟨image.program, image.args, vars⟩, true, trial⟩] ∧
          trial.Tells settings grate ∧
          (∀ pid, result = .ok pid → ∃ written, trial = .executed pid written) ∧
          ∀ pid errno written, trial = .stopped pid errno written → ∃ cause : ProcessError,
            cause = .childSetupFailed image.name (.os errno) ∧ cause.isLeaf = true ∧
              result = .error cause) ∧
    (∀ self depth names e result e' tried,
      (advance settings grate depth names e).Runs (trying machine self) [] (result, e') tried →
        tried = [] ∨ ∃ cage rest trial later, names = cage :: rest ∧
          tried = ⟨⟨.ofText cage, [], childVariables settings depth⟩, true, trial⟩ :: later ∧
          trial.Tells settings grate ∧ (∀ attempt ∈ later, attempt.hooked = false) ∧
          ∀ pid errno written, trial = .stopped pid errno written →
            NextTried settings depth rest later ∧
            (∀ report?, result = .ok report? → ∃ report, report? = some report ∧
              report.exitCode = some 1 ∧ Diagnostic.message
                (ProcessError.childSetupFailed (ImageSpec.name ⟨.ofText cage, []⟩) (.os errno)) ∈
                  report.failures) ∧
            ∀ error, result = .error error → FailsNext names error) ∧
    ∀ site, Site.Reached machine settings.config site →
      ∀ pid config workers runtime, site.members pid = some (.cage config workers runtime) →
        Registered pid site.journal ∧ (settings.config.Survives → config = settings.config) ∧
          (config.journalPath = machine.journalPath → ∀ worker ∈ workers, ∀ call ∈ worker.calls,
            call.syscall = Syscall.geteuid → call.ret = userId) := by
  intro machine
  refine ⟨?_, ?_, ?_, ?_⟩
  · intro parent pid before outcome after hrun
    obtain ⟨records, part, hleaves, rfl⟩ := leaves_of_boots hrun
    exact ⟨records, part, hleaves, rfl, hleaves.recordsOf_eq⟩
  · intro self role image vars e result e' tried hrun
    obtain ⟨trial, htried, htells, hexecuted, hstopped⟩ := runs_spawn_registering hrun
    exact ⟨trial, htried, htells, hexecuted, fun pid errno written htrial =>
      ⟨_, rfl, rfl, hstopped pid errno written htrial⟩⟩
  · intro self depth names e result e' tried hrun
    obtain hnobody | ⟨cage, rest, told, trial, later, rfl, rfl, hlevel⟩ :=
      tried_of_runs_advance rfl hrun
    · exact .inl hnobody
    · have htells := hlevel.of.tells
      refine .inr ⟨cage, rest, trial, later, rfl, hlevel.tried_eq, htells, hlevel.unhooked, ?_⟩
      rintro pid errno written rfl
      have herror := htells.spawnError_eq (ImageSpec.name ⟨.ofText cage, []⟩)
      obtain ⟨hnext, hlisted, hfails⟩ := hlevel.failed _ rfl (herror ▸ rfl)
      refine ⟨hnext, ?_, ?_⟩
      · intro report? hanswer
        cases told with
        | error => contradiction
        | ok report =>
          have hmem := herror ▸ hlisted report rfl
          exact ⟨report, (Except.ok.inj hanswer).symm,
            ChainReport.exitCode_of_failures (List.ne_nil_of_mem hmem), hmem⟩
      · rintro error herror
        cases told with
        | ok => contradiction
        | error =>
          cases herror
          exact hfails _ rfl
  · intro site hreached pid config workers runtime hcage
    obtain ⟨hregistered, hsettings, hworking⟩ :=
      (Site.Sound.reached hreached).members pid _ hcage
    exact ⟨hregistered, hsettings, fun hpath worker hworker =>
      ((hworking hpath).serves worker hworker).answered⟩

/-! ### One cage -/

/-- A machine with a journal that every process gets the same handle for. -/
def plainMachine : Machine := ⟨(settingsUpTo 8).journalPath, fun _ => ⟨3⟩, true⟩

/-- Settings by which every cage is to register itself for the reserved number as well. -/
def greedy : Settings :=
  ⟨settingsUpTo 8, [(Syscall.geteuid, geteuidHandler), (Syscall.registerHandler, addHandler)]⟩

/-- Whoever starts a child has it stopped by its setup. -/
def stopping (machine : Machine) (self : Pid) : Respondent (List Attempt) where
  answer
    | tried, .openAppending _ => some (.ok (machine.journal self), tried)
    | _, _ => none
  start tried launch hooked setup :=
    match setup.play (obligingBoot 5) 4 (some []) with
    | some (some errno, some written) =>
      some (.error (.os errno), tried ++ [⟨launch, hooked, .stopped 5 errno written⟩])
    | _ => none

theorem stopping_within {self : Pid} :
    (stopping machine self).system.Within (trying machine self) where
  answers {tried r answer next} h := by
    cases r
    case openAppending =>
      cases h
      exact ⟨fun handle h _ => (Except.ok.inj h).symm, rfl⟩
    all_goals cases h
  spawns {tried launch hooked setup answer next} h := by
    simp only [Respondent.system, stopping] at h
    split at h
    · next errno written hplay =>
      cases h
      exact ⟨.stopped 5 errno written, (Program.runs_of_play hplay).within obligingBoot_within, rfl,
        rfl⟩
    · cases h

/-- A child that nobody interferes with, and whose writes are taken whole. -/
def undisturbed (machine : Machine) (self : Pid) (journal : Option FileHandle) :
    Respondent JournalContents where
  answer
    | file, .identity => some (⟨0, 0, self⟩, file)
    | file, .choose _ => some ((0 : Nat), file)
    | file, .readFile path =>
      if path = machine.journalPath then file.map fun bytes => (.ok bytes, file) else none
    | file, .write handle bytes =>
      if journal = some handle ∧ JournalRecord.byteLength ∣ (file.extended bytes).bytes.length then
        some (.ok bytes.length, file.extended bytes)
      else none
    | _, _ => none
  start _ _ _ _ := none

theorem undisturbed_within {self : Pid} {journal : Option FileHandle} :
    (undisturbed machine self journal).system.Within (sharing machine self journal) where
  answers {file r answer next} h := by
    cases r
    case identity =>
      cases h
      exact ⟨rfl, rfl⟩
    case choose =>
      cases h
      exact rfl
    case readFile path =>
      simp only [Respondent.system, undisturbed] at h
      split at h
      · cases file with
        | none => cases h
        | some bytes =>
          cases h
          exact ⟨rfl, fun _ => rfl⟩
      · cases h
    case write handle bytes =>
      simp only [Respondent.system, undisturbed] at h
      split at h
      · next hopen =>
        cases h
        exact .inr ⟨bytes.length, Nat.le_refl _, hopen.1, rfl, by rw [List.take_length], hopen.2⟩
      · cases h
    all_goals cases h
  spawns h := nomatch h

/-- A cage that is to register itself for the reserved number as well is stopped. -/
theorem runs_greedy : ∃ result e written,
    (advance greedy (.ofPid 2) 1 ["first"] default).Runs (trying plainMachine 2) [] (result, e)
      [⟨⟨.ofText "first", [], childVariables greedy 1⟩, true, .stopped 5 .einval written⟩] := by
  have hplay : ((advance greedy (.ofPid 2) 1 ["first"] default).play (stopping plainMachine 2) 4
      []).any (fun outcome => outcome.2 = [⟨⟨.ofText "first", [], childVariables greedy 1⟩, true,
        .stopped 5 .einval (JournalRecord.register (own 5 2)).encode⟩]) = true := by
    decide +kernel
  obtain ⟨⟨⟨result, e⟩, tried⟩, hplay, htried⟩ := (Option.any_eq_true _ _).mp hplay
  obtain rfl := of_decide_eq_true htried
  exact ⟨result, e, _, (Program.runs_of_play hplay).within stopping_within⟩

/-- A cage that registers itself as cages of the demonstration do can make its calls. -/
theorem reached_served : ∃ site workers runtime,
    Site.Reached plainMachine (settingsUpTo 8) site ∧
    site.members 5 = some (.cage (settingsUpTo 8) workers runtime) ∧
    ∃ worker ∈ workers, ∃ call ∈ worker.calls, call.syscall = Syscall.geteuid := by
  let config := settingsUpTo 8
  let registered : JournalContents := some (JournalRecord.register (own 5 2)).encode
  let program := setup (demo config) ⟨⟨3⟩, plainMachine.journalPath⟩ (.ofPid 2)
  let workers := (List.range (max (UInt64.toNat 1) 1)).map Worker.fresh
  let runtime : LoopbackRuntime :=
    .new config.journalPath (catalog config.stateDir) (.host ⟨0, 0, 5⟩)
  let forked := Site.empty.put (some []) 5 (some (.booting 2 program))
  let booted := forked.put registered 5 (some (.booting 2 (pure none)))
  let called := booted.put registered 5 (some (.cage config workers runtime))
  -- the setup ends well
  have hsetup : program.play (undisturbed plainMachine 5 (some ⟨3⟩)) 4 (some []) =
      some (none, registered) := by
    decide +kernel
  have hboots : Relation.ReflTransGen (Site.Step plainMachine config) forked booted :=
    Site.steps_of_reaches ((Program.runs_of_play hsetup).within undisturbed_within).reaches
      (Site.members_put ..)
  -- the child finds what it was given
  have hvars : ∀ entry ∈ childVariables (demo config) 1,
      (childVariables (demo config) 1).lookup entry.1 = some entry.2 :=
    fun _ hentry => Fields.lookup_of_mem nodup_childVariables hentry
  have hreads : RuntimeConfig.fromLookup default
      (fun name => (childVariables (demo config) 1).lookup name) = .ok config :=
    RuntimeConfig.survives (by decide) _ _
      fun entry hentry => hvars entry (List.mem_append_left _ hentry)
  have hbecomes : Site.Step plainMachine config booted called :=
    .becomes (Site.members_put ..) hvars hreads
  -- its one thread makes both of its calls
  have hcalls : ((runWorkers (.ofPid 5) workers runtime).play (undisturbed plainMachine 5 none) 5
      registered).any (fun outcome => outcome.1.any fun worker =>
        worker.calls.any fun call => call.syscall = Syscall.geteuid) = true := by
    decide +kernel
  obtain ⟨⟨last, journal⟩, hplay, hlast⟩ := (Option.any_eq_true _ _).mp hcalls
  obtain ⟨between, runtime', hplays⟩ : ∃ between runtime',
      Relation.ReflTransGen (Site.Step plainMachine config) called
        (called.put between 5 (some (.cage config last runtime'))) :=
    Site.steps_of_runWorkers ((Program.runs_of_play hplay).within undisturbed_within)
      (Site.members_put ..)
  have hforks : Site.Step plainMachine config .empty forked :=
    .forks (by decide) (by decide) rfl
  refine ⟨called.put between 5 (some (.cage config last runtime')), last, runtime',
    .head hforks (hboots.trans (.head hbecomes hplays)), Site.members_put .., ?_⟩
  simpa using hlast

/-- A cage that would register itself for the reserved number is stopped, and one that does as cages
    of the demonstration do has been answered by the grate. -/
theorem chained_cages_run_registered_of_first :
    (∃ result e written,
      (advance greedy (.ofPid 2) 1 ["first"] default).Runs (trying plainMachine 2) [] (result, e)
        [⟨⟨.ofText "first", [], childVariables greedy 1⟩, true, .stopped 5 .einval written⟩] ∧
      Wrote greedy (.ofPid 5) (.ofPid 2) (some .einval) written ∧
      ∀ report?, result = .ok report? →
        ∃ report, report? = some report ∧ report.exitCode = some 1) ∧
    ∃ site workers runtime, Site.Reached plainMachine (settingsUpTo 8) site ∧
      site.members 5 = some (.cage (settingsUpTo 8) workers runtime) ∧
      Registered 5 site.journal ∧
      ∃ worker ∈ workers, ∃ call ∈ worker.calls,
        call.syscall = Syscall.geteuid ∧ call.ret = userId := by
  obtain ⟨-, -, hlevel, hsite⟩ := chained_cages_run_registered greedy (.ofPid 2) fun _ => ⟨3⟩
  constructor
  · obtain ⟨result, e, written, hrun⟩ := runs_greedy
    obtain hnobody | ⟨_, _, _, _, -, heq, htells, -, hstopped⟩ := hlevel 2 1 _ _ _ _ _ hrun
    · cases hnobody
    · obtain ⟨hattempt, -⟩ := List.cons.inj heq
      obtain rfl := congrArg Attempt.trial hattempt
      refine ⟨result, e, written, hrun, htells, fun report? hanswer => ?_⟩
      obtain ⟨report, hreport, hcode, -⟩ := (hstopped _ _ _ rfl).2.1 report? hanswer
      exact ⟨report, hreport, hcode⟩
  · obtain ⟨site, workers, runtime, hreached, hcage, worker, hworker, call, hcall, hsyscall⟩ :=
      reached_served
    obtain ⟨hregistered, -, hanswered⟩ := hsite site hreached 5 _ _ _ hcage
    exact ⟨site, workers, runtime, hreached, hcage, hregistered, worker, hworker, call, hcall,
      hsyscall, hanswered rfl worker hworker call hcall hsyscall⟩

end Interposition.Chain
