/-
  A level, and what comes of the children it tries to start.

  A level asks for a child and is told a process number or an error.  In between the child runs its
  setup, and only if that ends well does it become the image.  Here the operating system keeps a
  list of the children that a level has asked for, with what has come of each (`Trial`), and of
  those with a setup what they have put in the journal themselves.

  1. **Trials** (`Trial.Of`, `trying`): there is no child, its setup fails, it cannot become the
     image, or it has become the image.

  2. **Starting** (`runs_startChild`): one attempt more, and an answer that tells of it.

  3. **Levels** (`tried_of_runs_advance`): the cage is tried first and then, if there is one and
     whatever has come of the cage, the next grate.  Collecting them does not fail.
-/
import Interposition.Proofs.Chain.Refusals
import Interposition.Proofs.Chain.Stranding

namespace Interposition.Chain

open Executor (spawnError spawnError_eq_of_not_isLeaf)

/-! ## Trials -/

/-- What has come of a child that was asked for, and what it has put in the journal. -/
inductive Trial where
  /-- There has been no child. -/
  | unborn (cause : IoError)
  /-- Its setup has failed. -/
  | stopped (pid : Pid) (errno : Errno) (written : List UInt8)
  /-- Its setup has ended well, but it could not become the image. -/
  | unexecuted (pid : Pid) (cause : IoError) (written : List UInt8)
  | executed (pid : Pid) (written : List UInt8)
deriving DecidableEq

/-- What is answered to whoever has asked for the child. -/
def Trial.answer : Trial → Except IoError Pid
  | .unborn cause => .error cause
  | .stopped _ errno _ => .error (.os errno)
  | .unexecuted _ cause _ => .error cause
  | .executed pid _ => .ok pid

/-- A child that was asked for. -/
structure Attempt where
  launch : Launch
  /-- Whether it had a setup to run. -/
  hooked : Bool
  trial : Trial
deriving DecidableEq

/-- What can come of a child with a setup. -/
def Trial.Of (machine : Machine) (parent : Pid) (setup : Program (Option Errno)) : Trial → Prop
  | .unborn _ => True
  | .stopped pid errno written =>
    setup.Runs (boot machine parent pid) (some []) (some errno) (some written)
  | .unexecuted pid _ written => setup.Runs (boot machine parent pid) (some []) none (some written)
  | .executed pid written => setup.Runs (boot machine parent pid) (some []) none (some written)

/-- What has come of a child whose setup registers it: it is executed only with all its records in
    the journal. -/
def Trial.Tells (settings : Settings) (grate : GrateId) : Trial → Prop
  | .unborn _ => True
  | .stopped pid errno written => Wrote settings (.ofPid pid) grate (some errno) written
  | .unexecuted pid _ written => Wrote settings (.ofPid pid) grate none written
  | .executed pid written => Wrote settings (.ofPid pid) grate none written

/-- What the operating system does for a level, which may ask for anything and be answered in any
    way, but cannot wait in vain for those it has started. -/
def trying (machine : Machine) (self : Pid) : OperatingSystem (List Attempt) where
  answers
    | tried, .openAppending path, opened, next =>
      (∀ handle, opened = .ok handle → path = machine.journalPath → handle = machine.journal self) ∧
        next = tried
    | tried, .wait _ _, answer, next =>
      (∀ cause, answer = .error cause → cause = .eintr ∨ cause = .echild) ∧ next = tried
    | tried, _, _, next => next = tried
  spawns tried launch hooked setup answer next :=
    ∃ trial : Trial, trial.Of machine self setup ∧ answer = trial.answer ∧
      next = tried ++ [⟨launch, hooked, trial⟩]

variable {machine : Machine} {self : Pid} {settings : Settings} {grate : GrateId} {depth : UInt32}
  {e e' : Executor} {tried next : List Attempt}

/-- **A setup** that registers the child. -/
theorem Trial.Of.tells {trial : Trial}
    (h : trial.Of machine self (setup settings ⟨machine.journal self, machine.journalPath⟩ grate)) :
    trial.Tells settings grate := by
  cases trial with
  | unborn => exact trivial
  | stopped => exact wrote_of_boots h
  | unexecuted => exact wrote_of_boots h
  | executed => exact wrote_of_boots h

/-! ## Starting -/

/-- **Starting** a child. -/
theorem runs_startChild {role : Role} {image : ImageSpec} {vars : List (String × String)}
    {setup : Option (Program (Option Errno))} {result : Except ProcessError (List String)}
    (h : (startChild role image vars setup e).Runs (trying machine self) tried (result, e') next) :
    ∃ trial : Trial, trial.Of machine self (setup.getD (pure none)) ∧
      next = tried ++ [⟨⟨image.program, image.args, vars⟩, setup.isSome, trial⟩] ∧
      match trial.answer with
      | .ok _ => result = .ok []
      | .error cause =>
        result = if (spawnError image.name cause setup.isSome).isLeaf
          then .ok [Diagnostic.message (spawnError image.name cause setup.isSome)]
          else .error (spawnError image.name cause setup.isSome) := by
  obtain ⟨attempted, middle, between, hspawn, hrest⟩ := Supervised.runs_attempt_bind.mp h
  obtain ⟨_, ⟨trial, htrial, rfl, rfl⟩, hanswer⟩ := Executor.runs_spawn hspawn
  cases hcase : trial.answer with
  | ok pid =>
    simp only [hcase] at hanswer
    obtain ⟨rfl, rfl⟩ := hanswer
    obtain ⟨rfl, rfl, rfl⟩ := Supervised.runs_pure.mp hrest
    exact ⟨trial, htrial, rfl, by simp only [hcase]⟩
  | error cause =>
    simp only [hcase] at hanswer
    obtain ⟨rfl, rfl⟩ := hanswer
    replace hrest : ((if _ then _ else _ : Supervised _) _).Runs _ _ _ _ := hrest
    split at hrest
    · next hleaf =>
      obtain ⟨rfl, rfl, rfl⟩ := Supervised.runs_pure.mp hrest
      exact ⟨trial, htrial, rfl, by simp only [hcase, if_pos hleaf]⟩
    · next hleaf =>
      obtain ⟨rfl, rfl, rfl⟩ := Supervised.runs_throw.mp hrest
      exact ⟨trial, htrial, rfl, by simp only [hcase, if_neg hleaf]⟩

/-- A child whose registration was refused is reported as one whose setup has failed. -/
theorem Trial.Tells.spawnError_eq {pid : Pid} {errno : Errno} {written : List UInt8}
    (h : (Trial.stopped pid errno written).Tells settings grate) (image : String) :
    spawnError image (.os errno) true = .childSetupFailed image (.os errno) := by
  obtain ⟨_, _, hleaves, -⟩ := h
  cases hleaves with
  | stopped hstopped =>
    obtain ⟨-, -, hrefusal, -⟩ := hstopped
    cases hrefusal <;> rfl

/-! ## Collecting -/

/-- Whoever is waited for is on record, and nobody is asked for in the meantime. -/
def Recorded (tried : List Attempt) (waiting : List Pid) (_finished : List ProcessRecord)
    (e : Executor) (now : List Attempt) : Prop :=
  now = tried ∧ ∀ pid ∈ waiting, (e.record? pid).isSome

theorem recorded_outstanding (tried : List Attempt) (e : Executor) :
    Recorded tried e.outstanding [] e tried := by
  refine ⟨rfl, fun pid hpid => ?_⟩
  obtain ⟨r, hr, rfl⟩ := List.mem_map.mp hpid
  refine List.find?_isSome.mpr ⟨r, (List.mem_filter.mp hr).1, ?_⟩
  rw [Executor.key_toInt32]
  exact decide_eq_true rfl

variable (machine self) in
/-- **A look** never fails. -/
theorem collecting_trying (tried : List Attempt) :
    Executor.Collecting (trying machine self) (fun _ => True) (Recorded tried)
      fun _ _ _ => False where
  perm hperm h := ⟨h.1, fun pid hpid => h.2 pid (hperm.mem_iff.mpr hpid)⟩
  pause _ h hnext := by
    obtain rfl := hnext
    exact ⟨trivial, h⟩
  look {pid rest finished e now} h := by
    obtain ⟨rfl, hrecorded⟩ := h
    -- the record of the child is there, with or without an end noted in it
    have htold (t : Termination) : ∃ r, (e.noteEnd pid t).record? pid = some r ∧
        Recorded now rest (finished ++ [r]) (e.noteEnd pid t) now := by
      obtain ⟨r, hr⟩ := Option.isSome_iff_exists.mp
        ((Executor.isSome_record?_noteEnd t).trans (hrecorded pid List.mem_cons_self))
      refine ⟨r, hr, rfl, fun other hother => ?_⟩
      rw [Executor.isSome_record?_noteEnd]
      exact hrecorded other (List.mem_cons_of_mem _ hother)
    unfold Executor.tryReap
    cases hknown : e.termination? pid with
    | some t =>
      obtain ⟨r, hr⟩ := Option.isSome_iff_exists.mp (hrecorded pid List.mem_cons_self)
      exact ⟨r, hr, rfl, fun other hother => hrecorded other (List.mem_cons_of_mem _ hother)⟩
    | none =>
      refine Program.meets_request_bind fun _ answer between hanswer => ⟨trivial, ?_⟩
      obtain ⟨hcause, rfl⟩ := hanswer
      cases answer with
      | ok status =>
        cases hstatus : Termination.ofWaitStatus? status with
        | none =>
          simp only [hstatus]
          exact ⟨rfl, hrecorded⟩
        | some t =>
          simp only [hstatus]
          exact htold t
      | error cause =>
        obtain rfl | rfl := hcause cause rfl
        · exact ⟨rfl, hrecorded⟩
        · exact htold .vanished

/-- **Collecting** those who have been started does not fail. -/
theorem ok_of_runs_reapAll {result : Except ProcessError (List ProcessRecord)}
    (h : (Executor.reapAll e).Runs (trying machine self) tried (result, e') next) :
    next = tried ∧ ∃ records, result = .ok records := by
  have hmeets := Executor.meets_reapThese (collecting_trying machine self tried)
    (recorded_outstanding tried e)
  have hend := hmeets.ends trivial h.reaches
  cases result with
  | ok records => exact ⟨hend.1, records, rfl⟩
  | error cause => exact hend.elim

/-! ## Levels -/

/-- A level has asked for its next grate, if there is one. -/
inductive NextTried (settings : Settings) (depth : UInt32) : List String → List Attempt → Prop where
  | nobody : NextTried settings depth [] []
  | grate {next : String} {names : List String} {trial : Trial} :
      NextTried settings depth (next :: names)
        [⟨⟨.ofText next, names, childVariables settings (depth + 1)⟩, false, trial⟩]

theorem runs_startNext {rest : List String} {result : Except ProcessError (List String)}
    (h : (startNext settings depth rest e).Runs (trying machine self) tried (result, e') next) :
    ∃ later, NextTried settings depth rest later ∧ next = tried ++ later ∧
      ∀ cause cage, result = .error cause → FailsNext (cage :: rest) cause := by
  cases rest with
  | nil =>
    obtain ⟨rfl, rfl, rfl⟩ := Supervised.runs_pure.mp h
    exact ⟨[], .nobody, (List.append_nil _).symm, nofun⟩
  | cons name names =>
    obtain ⟨trial, -, rfl, hanswer⟩ := runs_startChild h
    refine ⟨_, .grate, rfl, ?_⟩
    rintro cause cage rfl
    cases hcase : trial.answer with
    | ok => simp [hcase] at hanswer
    | error reason =>
      simp only [hcase] at hanswer
      split at hanswer
      · cases hanswer
      · next hfatal =>
        cases hanswer
        exact ⟨cage, name, names, reason, rfl,
          spawnError_eq_of_not_isLeaf (Bool.not_eq_true _ ▸ hfatal)⟩

/-- Whom a level has asked for that has got as far as its cage, and what it comes to if the cage
    alone is at fault. -/
structure LevelTried (machine : Machine) (pid : Pid) (settings : Settings) (grate : GrateId)
    (depth : UInt32) (cage : String) (rest : List String)
    (result : Except ProcessError ChainReport) (tried : List Attempt) (trial : Trial)
    (later : List Attempt) : Prop where
  tried_eq : tried = ⟨⟨.ofText cage, [], childVariables settings depth⟩, true, trial⟩ :: later
  of : trial.Of machine pid (setup settings ⟨machine.journal pid, machine.journalPath⟩ grate)
  unhooked : ∀ attempt ∈ later, attempt.hooked = false
  failed : ∀ cause, trial.answer = .error cause →
    (spawnError (ImageSpec.name ⟨.ofText cage, []⟩) cause true).isLeaf = true →
      NextTried settings depth rest later ∧
        (∀ report, result = .ok report → Diagnostic.message
          (spawnError (ImageSpec.name ⟨.ofText cage, []⟩) cause true) ∈ report.failures) ∧
        ∀ error, result = .error error → FailsNext (cage :: rest) error

theorem NextTried.unhooked {names : List String} {later : List Attempt}
    (h : NextTried settings depth names later) : ∀ attempt ∈ later, attempt.hooked = false := by
  cases h with
  | nobody => exact fun _ => nofun
  | grate => exact List.forall_mem_singleton.mpr rfl

/-- **Opening** the journal asks for nobody. -/
theorem runs_openWriter {path : Path} {result : Except ProcessError JournalWriter}
    (h : (Supervised.ofJournal (Journal.openWriter path) e).Runs (trying machine self) tried
      (result, e') next) :
    e' = e ∧ next = tried ∧ ∀ writer, result = .ok writer → path = machine.journalPath →
      writer = ⟨machine.journal self, machine.journalPath⟩ := by
  obtain ⟨rfl, answer, hopen, rfl⟩ := Supervised.runs_ofJournal.mp h
  obtain ⟨opened, between, ⟨hhandle, rfl⟩, hrest⟩ := hopen
  cases opened with
  | error cause =>
    obtain ⟨rfl, rfl⟩ := hrest
    exact ⟨rfl, rfl, nofun⟩
  | ok handle =>
    obtain ⟨rfl, rfl⟩ := hrest
    refine ⟨rfl, rfl, ?_⟩
    rintro _ ⟨⟩ rfl
    rw [hhandle handle rfl rfl]

/-- **The next grate** is asked for, and then everybody is collected.  This fails only if the grate
    cannot be started, and the failures there were before are still listed. -/
theorem runs_rest {rest : List String} {failures : List String}
    {result : Except ProcessError ChainReport}
    (h : ((do
      let grateFailures ← startNext settings depth rest
      return { depth, records := ← Executor.reapAll, failures := failures ++ grateFailures } :
        Supervised ChainReport) e).Runs (trying machine self) tried (result, e') next) :
    ∃ later, NextTried settings depth rest later ∧ next = tried ++ later ∧
      (∀ report, result = .ok report → failures ⊆ report.failures) ∧
      ∀ error cage, result = .error error → FailsNext (cage :: rest) error := by
  obtain ⟨others, middle, between, hnext, h⟩ | ⟨error, hnext, rfl⟩ := Supervised.runs_bind.mp h
  · obtain ⟨later, hlater, rfl, -⟩ := runs_startNext hnext
    obtain ⟨records, last, final, hreap, h⟩ := Supervised.runs_bind_of_ok h fun hreap =>
      (ok_of_runs_reapAll hreap).2
    obtain ⟨rfl, -⟩ := ok_of_runs_reapAll hreap
    obtain ⟨rfl, rfl, rfl⟩ := Supervised.runs_pure.mp h
    refine ⟨later, hlater, rfl, ?_, nofun⟩
    rintro _ ⟨⟩
    exact List.subset_append_left failures others
  · obtain ⟨later, hlater, rfl, hfails⟩ := runs_startNext hnext
    refine ⟨later, hlater, rfl, nofun, ?_⟩
    rintro _ cage ⟨⟩
    exact hfails error cage rfl

/-- Once the names fit. -/
theorem tried_of_runs_work (hpath : settings.config.journalPath = machine.journalPath)
    {cage : String} {rest : List String} {result : Except ProcessError ChainReport}
    (h : (work settings grate depth cage rest e).Runs (trying machine self) [] (result, e') tried) :
    tried = [] ∨ ∃ trial later,
      LevelTried machine self settings grate depth cage rest result tried trial later := by
  unfold work at h
  obtain ⟨writer, first, between, hopen, h⟩ | ⟨error, hopen, -⟩ := Supervised.runs_bind.mp h
  · obtain ⟨rfl, rfl, hwriter⟩ := runs_openWriter hopen
    obtain rfl := hwriter writer rfl hpath
    refine .inr ?_
    obtain ⟨failures, second, later, hcage, h⟩ | ⟨error, hcage, rfl⟩ := Supervised.runs_bind.mp h
    · obtain ⟨trial, hof, rfl, hanswer⟩ := runs_startChild hcage
      obtain ⟨later, hlater, rfl, hlisted, hfails⟩ := runs_rest h
      refine ⟨trial, later, rfl, hof, hlater.unhooked, fun cause hcause hleaf => ⟨hlater, ?_, ?_⟩⟩
      · -- the failure of the cage was listed before the next grate was asked for
        rintro report rfl
        simp only [hcause] at hanswer
        cases hanswer.trans (if_pos hleaf)
        exact hlisted report rfl List.mem_cons_self
      · exact fun error herror => hfails error cage herror
    · obtain ⟨trial, hof, rfl, hanswer⟩ := runs_startChild hcage
      refine ⟨trial, [], rfl, hof, fun _ => nofun, fun cause hcause hleaf => ?_⟩
      simp only [hcause] at hanswer
      cases hanswer.trans (if_pos hleaf)
  · exact .inl (runs_openWriter hopen).2.1

/-- **A level** that has asked for anybody has asked for its cage first. -/
theorem tried_of_runs_advance (hpath : settings.config.journalPath = machine.journalPath)
    {names : List String} {result : Except ProcessError (Option ChainReport)}
    (h : (advance settings grate depth names e).Runs (trying machine self) [] (result, e') tried) :
    tried = [] ∨ ∃ cage rest told trial later, names = cage :: rest ∧ result = told.map some ∧
      LevelTried machine self settings grate depth cage rest told tried trial later := by
  obtain ⟨-, hnobody⟩ | ⟨cage, rest, told, rfl, hwork, hresult⟩ := runs_advance h
  · exact .inl hnobody
  · obtain hnobody | ⟨trial, later, htried⟩ := tried_of_runs_work hpath hwork
    · exact .inl hnobody
    · exact .inr ⟨cage, rest, told, trial, later, rfl, hresult, htried⟩

end Interposition.Chain
