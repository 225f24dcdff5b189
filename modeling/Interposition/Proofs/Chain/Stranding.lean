/-
  Calls that fail once they have started children.

  A list of programs and a level of a chain both start their children one by one before they wait
  for any of them.  When a start fails for good, the call fails at once: nobody is waited for, and
  nobody is killed, although a session that fails does both.

  1. **Levels** (`joined_startChild`, `joined_advance_failed`): a level that fails has started its
     cage at most, and then it is the next grate that could not be started.

  2. **Who stays** (`fatal_start_strands_children`): whoever a failed call has started is still to
     be collected, so that as many run as before exactly if it has started nobody.
-/
import Interposition.Proofs.Chain.Levels
import Interposition.Proofs.Process.Starting

namespace Interposition.Chain

open Executor (Joined Ledger Works joined_spawn joined_of_spared joined_of_batch_failed
  ok_of_runs_reapAll spawnError spawnError_eq_of_not_isLeaf)
open ProcessTable (system)

variable {e e' : Executor} {t t' : ProcessTable} {settings : Settings} {grate : GrateId}
  {depth : UInt32} {cause : ProcessError}

/-! ## Levels -/

/-- **Starting a child of a level.** -/
theorem joined_startChild {role : Role} {image : ImageSpec} {vars : List (String × String)}
    {setup : Option (Program (Option Errno))} {result : Except ProcessError (List String)}
    (hledger : Ledger e t.history) (hsound : t.Sound)
    (hrun : (startChild role image vars setup e).Runs system t (result, e') t') :
    ∃ started, Joined e t started e' t' ∧ (started = [] ∨ started.length = 1) ∧
      ∀ cause, result = .error cause → started = [] ∧
        ∃ reason, cause = .creationFailed image.name reason := by
  obtain ⟨attempted, middle, between, hspawn, hrun⟩ := Supervised.runs_attempt_bind.mp hrun
  obtain ⟨pid, who, rfl, hjoined⟩ | ⟨reason, rfl, hjoined⟩ := joined_spawn hledger hsound hspawn
  · obtain ⟨rfl, rfl, rfl⟩ := Supervised.runs_pure.mp hrun
    exact ⟨[who], hjoined, .inr rfl, nofun⟩
  · cases hleaf : (spawnError image.name reason setup.isSome).isLeaf with
    | true =>
      simp only [hleaf, if_true] at hrun
      obtain ⟨rfl, rfl, rfl⟩ := Supervised.runs_pure.mp hrun
      exact ⟨[], hjoined, .inl rfl, nofun⟩
    | false =>
      simp only [hleaf, Bool.false_eq_true, if_false] at hrun
      obtain ⟨rfl, rfl, rfl⟩ := Supervised.runs_throw.mp hrun
      refine ⟨[], hjoined, .inl rfl, ?_⟩
      rintro _ ⟨⟩
      exact ⟨rfl, reason, spawnError_eq_of_not_isLeaf hleaf⟩

/-- A failure of the next grate. -/
def FailsNext (names : List String) (cause : ProcessError) : Prop :=
  ∃ cage next rest reason, names = cage :: next :: rest ∧
    cause = .creationFailed (ImageSpec.name ⟨.ofText next, rest⟩) reason

/-- **Starting the next grate**, if there is one. -/
theorem joined_startNext {rest : List String} {result : Except ProcessError (List String)}
    (hledger : Ledger e t.history) (hsound : t.Sound)
    (hrun : (startNext settings depth rest e).Runs system t (result, e') t') :
    ∃ started, Joined e t started e' t' ∧
      ∀ cause cage, result = .error cause → started = [] ∧ FailsNext (cage :: rest) cause := by
  cases rest with
  | nil =>
    obtain ⟨rfl, rfl, rfl⟩ := Supervised.runs_pure.mp hrun
    exact ⟨[], .nobody hsound hledger rfl, nofun⟩
  | cons next rest =>
    obtain ⟨started, hjoined, -, hfailed⟩ := joined_startChild hledger hsound hrun
    refine ⟨started, hjoined, fun cause cage hcause => ?_⟩
    obtain ⟨hnobody, reason, hreason⟩ := hfailed cause hcause
    exact ⟨hnobody, cage, next, rest, reason, rfl, hreason⟩

/-- Once the names fit. -/
theorem joined_work_failed {cage : String} {rest : List String} (hledger : Ledger e t.history)
    (hsound : t.Sound)
    (hrun : (work settings grate depth cage rest e).Runs system t (.error cause, e') t') :
    ∃ started, Joined e t started e' t' ∧
      (started = [] ∨ started.length = 1 ∧ FailsNext (cage :: rest) cause) := by
  have hopening : (Journal.openWriter settings.config.journalPath).Confined Deed.SparesProcesses :=
    (Program.confined_request trivial).bind fun opened => by cases opened <;> exact trivial
  unfold work at hrun
  obtain ⟨writer, first, between, hopen, hrest⟩ | ⟨error, hopen, -⟩ := Supervised.runs_bind.mp hrun
  · obtain ⟨rfl, _, hopen, -⟩ := Supervised.runs_ofJournal.mp hopen
    have hopened := joined_of_spared hledger hsound hopening hopen
    obtain ⟨_, second, later, hcage, hrest⟩ | ⟨error, hcage, -⟩ := Supervised.runs_bind.mp hrest
    · obtain ⟨started, hstarted, hone, -⟩ := joined_startChild hopened.ledger hopened.sound hcage
      have hstarted := hopened.trans hstarted
      rw [List.nil_append] at hstarted
      obtain ⟨_, third, last, hnext, hrest⟩ | ⟨error, hnext, heq⟩ := Supervised.runs_bind.mp hrest
      · -- both have been seen to, and collecting them does not fail
        obtain ⟨_, hnext, -⟩ := joined_startNext hstarted.ledger hstarted.sound hnext
        obtain ⟨_, _, _, -, hend⟩ :=
          Supervised.runs_bind_of_ok hrest (ok_of_runs_reapAll ⟨id, id⟩ hnext.ledger hnext.sound)
        cases (Supervised.runs_pure.mp hend).1
      · cases heq
        obtain ⟨_, hnext, hfailed⟩ := joined_startNext hstarted.ledger hstarted.sound hnext
        obtain ⟨rfl, hfails⟩ := hfailed cause cage rfl
        refine ⟨started, ?_, hone.imp_right fun hone => ⟨hone, hfails⟩⟩
        have hall := hstarted.trans hnext
        rwa [List.append_nil] at hall
    · obtain ⟨_, hstarted, -, hfailed⟩ := joined_startChild hopened.ledger hopened.sound hcage
      obtain ⟨rfl, -⟩ := hfailed error rfl
      exact ⟨[], hopened.trans hstarted, .inl rfl⟩
  · obtain ⟨rfl, _, hopen, -⟩ := Supervised.runs_ofJournal.mp hopen
    exact ⟨[], joined_of_spared hledger hsound hopening hopen, .inl rfl⟩

/-- **A level** that fails has started its cage at most, and only if it is the next grate that could
    not be started. -/
theorem joined_advance_failed {names : List String} (hledger : Ledger e t.history)
    (hsound : t.Sound)
    (hrun : (advance settings grate depth names e).Runs system t (.error cause, e') t') :
    ∃ started, Joined e t started e' t' ∧
      (started = [] ∨ started.length = 1 ∧ FailsNext names cause) := by
  obtain ⟨rfl, rfl⟩ | ⟨cage, rest, told, rfl, hwork, hresult⟩ := runs_advance hrun
  · exact ⟨[], .nobody hsound hledger rfl, .inl rfl⟩
  · cases told with
    | ok => contradiction
    | error cause' =>
      cases hresult
      exact joined_work_failed hledger hsound hwork

/-! ## Who stays -/

/-- **A failed start strands the children before it.**  When a list of programs fails, it is because
    one of them could not be started, and when a level of a chain fails that has started its cage,
    it is because its next grate could not be.  Whoever the call has started is still to be
    collected: as many run as before, and all of those. -/
theorem fatal_start_strands_children {start : ProcessTable} (hfresh : start.Fresh)
    (hworks : Works .anybody default start e t) :
    (∀ config images cause e' t',
      (Batch.run config images e).Runs system t (.error cause, e') t' →
        ∃ before image after reason started, images = before ++ image :: after ∧
          cause = .creationFailed image.name reason ∧ started.length ≤ before.length ∧
          Joined e t started e' t' ∧ e'.running = e.running + started.length) ∧
      ∀ settings grate depth names cause e' t',
        (advance settings grate depth names e).Runs system t (.error cause, e') t' →
          ∃ started, Joined e t started e' t' ∧ e'.running = e.running + started.length ∧
            (started = [] ∨ started.length = 1 ∧ FailsNext names cause) := by
  obtain ⟨hinv, hledger⟩ := hworks.keeps_of_fresh hfresh
  constructor
  · intro config images cause e' t' hrun
    obtain ⟨before, image, after, reason, started, himages, hcause, hlength, hjoined⟩ :=
      joined_of_batch_failed hledger hinv.sound hrun
    exact ⟨before, image, after, reason, started, himages, hcause, hlength, hjoined,
      hjoined.running⟩
  · intro settings grate depth names cause e' t' hrun
    obtain ⟨started, hjoined, hstarted⟩ := joined_advance_failed hledger hinv.sound hrun
    exact ⟨started, hjoined, hjoined.running, hstarted⟩

/-! ### Two programs -/

/-- Two programs of which the second cannot be started, for want of processes. -/
def twoPrograms : Supervised (List ProcessRecord) :=
  Batch.run (.defaults (.ofText "/state")) [Executor.plainImage, Executor.plainImage]

/-- The records with the first of them. -/
def firstStarted : Executor :=
  (default : Executor).add (.new .program Executor.plainImage.name (Executor.key 5))

/-- The first of them is there. -/
def firstThere : ProcessTable := (ProcessTable.empty.enter 5 true).note (.spawned ⟨5, 0⟩)

theorem runs_twoPrograms : (twoPrograms default).Runs system .empty
    (.error (.creationFailed Executor.plainImage.name (.os .eagain)), firstStarted) firstThere := by
  let vars := (RuntimeConfig.defaults (.ofText "/state")).childEnvironment
  have hfirst : (Executor.spawn .program Executor.plainImage vars none default).Runs system .empty
      (.ok 5, firstStarted) firstThere := by
    rw [Executor.spawn_eq]
    exact ⟨.ok 5, _, ⟨.empty, .refl, by decide, rfl, rfl⟩, rfl, rfl⟩
  have hsecond : (Executor.spawn .program Executor.plainImage vars none firstStarted).Runs system
      firstThere (.error (.creationFailed Executor.plainImage.name (.os .eagain)), firstStarted)
      firstThere := by
    rw [Executor.spawn_eq]
    exact ⟨.error (.os .eagain), _, ⟨_, .refl, rfl⟩, rfl, rfl⟩
  refine Supervised.runs_bind.mpr (.inr ⟨_, ?_, rfl⟩)
  refine Supervised.runs_attempt_bind.mpr ⟨_, _, _, hfirst, ?_⟩
  refine Supervised.runs_attempt_bind.mpr ⟨_, _, _, hsecond, ?_⟩
  exact ⟨rfl, rfl⟩

/-- One program is left running, although none was before. -/
theorem first_program_is_stranded : ∃ e' t',
    (twoPrograms default).Runs system .empty
      (.error (.creationFailed Executor.plainImage.name (.os .eagain)), e') t' ∧
    e'.running ≠ (default : Executor).running :=
  ⟨firstStarted, firstThere, runs_twoPrograms, by decide⟩

/-- The first of the two programs stays. -/
theorem fatal_start_strands_children_of_two :
    (twoPrograms default).Runs system .empty
        (.error (.creationFailed Executor.plainImage.name (.os .eagain)), firstStarted) firstThere ∧
      ∃ who, Joined default .empty [who] firstStarted firstThere := by
  refine ⟨runs_twoPrograms, ?_⟩
  obtain ⟨hbatch, -⟩ := fatal_start_strands_children ProcessTable.fresh_empty .start
  obtain ⟨_, _, _, _, started, -, -, -, hjoined, hrunning⟩ := hbatch _ _ _ _ _ runs_twoPrograms
  have hlength : started.length = 1 := Nat.add_left_cancel hrunning.symm
  obtain ⟨who, rfl⟩ := List.length_eq_one_iff.mp hlength
  exact ⟨who, hjoined⟩

end Interposition.Chain
