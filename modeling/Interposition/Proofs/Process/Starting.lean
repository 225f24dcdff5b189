/-
  Children that have been started when a start fails.

  Programs are started one after the other.  A start that fails for a reason of its own is reported
  and the others go on; one that fails for a reason that concerns everybody ends the call there and
  then, and whoever has been started by that time stays.

  1. **Newcomers** (`Joined`): some children have been spawned, nobody has been collected, and the
     records say so.  It composes, and one start adds one child or none (`joined_spawn`).

  2. **Batches** (`joined_start`, `joined_of_batch_failed`): by induction on the images still to be
     started, this is so after any number of starts, and when the batch fails.
-/
import Interposition.Proofs.Host.Confinement
import Interposition.Proofs.Process.Sweeps
import Interposition.Process.Batch

namespace Interposition.Executor

open ProcessTable (Sound system)

variable {e e' e'' : Executor} {t t' t'' : ProcessTable} {started later : List Incarnation}

/-! ## Newcomers -/

/-- Children have been spawned, and nobody has been collected. -/
structure Joined (e : Executor) (t : ProcessTable) (started : List Incarnation) (e' : Executor)
    (t' : ProcessTable) : Prop where
  sound : t'.Sound
  ledger : Ledger e' t'.history
  history : t'.history = t.history ++ started.map .spawned
  outstanding : e'.outstanding = e.outstanding ++ started.map Incarnation.pid

namespace Joined

theorem nobody (hsound : t'.Sound) (hledger : Ledger e t.history) (h : t'.history = t.history) :
    Joined e t [] e t' where
  sound := hsound
  ledger := h ▸ hledger
  history := by rw [h, List.map_nil, List.append_nil]
  outstanding := by rw [List.map_nil, List.append_nil]

theorem trans (h : Joined e t started e' t') (h' : Joined e' t' later e'' t'') :
    Joined e t (started ++ later) e'' t'' where
  sound := h'.sound
  ledger := h'.ledger
  history := by rw [h'.history, h.history, List.map_append, List.append_assoc]
  outstanding := by rw [h'.outstanding, h.outstanding, List.map_append, List.append_assoc]

/-- As many run as ran before, and the newcomers. -/
theorem running (h : Joined e t started e' t') : e'.running = e.running + started.length := by
  rw [running_eq_length_outstanding, running_eq_length_outstanding, h.outstanding,
    List.length_append, List.length_map]

end Joined

/-- **A start** adds a child, or fails and adds nobody. -/
theorem joined_spawn {role : Role} {image : ImageSpec} {vars : List (String × String)}
    {setup : Option (Program (Option Errno))} {result : Except ProcessError Pid}
    (hledger : Ledger e t.history) (hsound : t.Sound)
    (hrun : (spawn role image vars setup e).Runs system t (result, e') t') :
    (∃ pid who, result = .ok pid ∧ Joined e t [who] e' t') ∨
      ∃ cause, result = .error (spawnError image.name cause setup.isSome) ∧
        Joined e t [] e' t' := by
  obtain ⟨answer, hanswer, hresult⟩ := runs_spawn hrun
  obtain ⟨hsound', hhistory⟩ := hsound.spawn hanswer
  cases answer with
  | error cause =>
    obtain ⟨rfl, rfl⟩ := hresult
    exact .inr ⟨cause, rfl, .nobody hsound' hledger hhistory⟩
  | ok pid =>
    obtain ⟨rfl, rfl⟩ := hresult
    obtain ⟨serial, hhistory, hfree, hnew⟩ := hhistory
    have hledger' : Ledger (e.add (.new role image.name (key pid))) _ := hledger.spawn hfree hnew
    rw [← hhistory] at hledger'
    refine .inl ⟨pid, ⟨pid, serial⟩, rfl, hsound', hledger', hhistory, ?_⟩
    rw [hledger'.outstanding, hhistory, uncollected_spawned hnew, hledger.outstanding,
      List.map_append]

/-- What files and the clock are asked for is of no concern to the children. -/
theorem keeps_spared : system.Keeps Deed.SparesProcesses
    fun now => now.Sound ∧ now.history = t.history where
  answers {world next r answer} hworld hspared hanswer := by
    obtain ⟨now, hmoves, hnext⟩ := hanswer
    obtain ⟨hsound, hhistory⟩ := hworld.1.moves hmoves
    cases r with
    | kill => exact hspared.elim
    | wait => exact hspared.elim
    | _ =>
      obtain rfl := hnext
      exact ⟨hsound, hhistory.trans hworld.2⟩
  spawns _ hspared := hspared.elim

theorem joined_of_spared {α : Type} {program : Program α} {a : α} (hledger : Ledger e t.history)
    (hsound : t.Sound) (hspared : program.Confined Deed.SparesProcesses)
    (hrun : program.Runs system t a t') : Joined e t [] e t' := by
  obtain ⟨hsound', hhistory⟩ := hspared.keeps keeps_spared hrun ⟨hsound, rfl⟩
  exact .nobody hsound' hledger hhistory

/-! ## Batches -/

/-- A failure to start a child that does not concern the child alone: there is no child, and neither
    the image nor the setup is at fault. -/
theorem spawnError_eq_of_not_isLeaf {image : String} {reason : IoError} {hooked : Bool}
    (h : (spawnError image reason hooked).isLeaf = false) :
    spawnError image reason hooked = .creationFailed image reason := by
  have hkinds : spawnError image reason hooked = .imageReplacementFailed image reason ∨
      spawnError image reason hooked = .childSetupFailed image reason ∨
      spawnError image reason hooked = .creationFailed image reason := by
    unfold spawnError
    split
    · split_ifs <;> simp
    · simp
  obtain heq | heq | heq := hkinds
  · rw [heq] at h
    cases h
  · rw [heq] at h
    cases h
  · exact heq

/-- **Starting images** in order.  A failure that ends it is that of one of the images, and whoever
    has been started was started before that image. -/
theorem joined_start {vars : List (String × String)} {images : List ImageSpec}
    {result : Except ProcessError (List ProcessRecord)} (hledger : Ledger e t.history)
    (hsound : t.Sound) (hrun : (Batch.start vars images e).Runs system t (result, e') t') :
    ∃ started, Joined e t started e' t' ∧
      (∀ refused, result = .ok refused → started.length + refused.length = images.length) ∧
      ∀ cause, result = .error cause → ∃ before image after reason,
        images = before ++ image :: after ∧ started.length ≤ before.length ∧
          cause = .creationFailed image.name reason := by
  induction images generalizing e t result with
  | nil =>
    obtain ⟨rfl, rfl, rfl⟩ := Supervised.runs_pure.mp hrun
    refine ⟨[], .nobody hsound hledger rfl, ?_, nofun⟩
    rintro _ ⟨⟩
    rfl
  | cons image images ih =>
    obtain ⟨attempted, middle, between, hspawn, hrun⟩ := Supervised.runs_attempt_bind.mp hrun
    obtain ⟨pid, who, rfl, hjoined⟩ | ⟨reason, rfl, hjoined⟩ := joined_spawn hledger hsound hspawn
    · -- one more child, and the others after it
      obtain ⟨started, hlater, hall, hfailed⟩ := ih hjoined.ledger hjoined.sound hrun
      refine ⟨who :: started, hjoined.trans hlater, fun refused hrefused => ?_,
        fun cause hcause => ?_⟩
      · rw [List.length_cons, List.length_cons, ← hall refused hrefused, Nat.add_right_comm]
      · obtain ⟨before, culprit, after, reason, rfl, hlength, rfl⟩ := hfailed cause hcause
        exact ⟨image :: before, culprit, after, reason, rfl, Nat.succ_le_succ hlength, rfl⟩
    · cases hleaf : (spawnError image.name reason false).isLeaf with
      | true =>
        -- the image is passed over
        simp only [Option.isSome_none, hleaf, if_true] at hrun
        obtain ⟨refused, last, final, hothers, hend⟩ | ⟨cause, hothers, rfl⟩ :=
          Supervised.runs_bind.mp hrun
        · obtain ⟨rfl, rfl, rfl⟩ := Supervised.runs_pure.mp hend
          obtain ⟨started, hlater, hall, -⟩ := ih hjoined.ledger hjoined.sound hothers
          refine ⟨started, hjoined.trans hlater, ?_, nofun⟩
          rintro _ ⟨⟩
          rw [List.length_cons, List.length_cons, ← hall refused rfl, Nat.add_assoc]
        · obtain ⟨started, hlater, -, hfailed⟩ := ih hjoined.ledger hjoined.sound hothers
          refine ⟨started, hjoined.trans hlater, nofun, ?_⟩
          rintro _ ⟨⟩
          obtain ⟨before, culprit, after, reason, rfl, hlength, rfl⟩ := hfailed cause rfl
          exact ⟨image :: before, culprit, after, reason, rfl, Nat.le_succ_of_le hlength, rfl⟩
      | false =>
        simp only [Option.isSome_none, hleaf, Bool.false_eq_true, if_false] at hrun
        obtain ⟨rfl, rfl, rfl⟩ := Supervised.runs_throw.mp hrun
        refine ⟨[], hjoined, nofun, ?_⟩
        rintro _ ⟨⟩
        exact ⟨[], image, images, reason, rfl, le_rfl, spawnError_eq_of_not_isLeaf hleaf⟩

/-- **A batch** that fails does so while its images are started. -/
theorem joined_of_batch_failed {config : RuntimeConfig} {images : List ImageSpec}
    {cause : ProcessError} (hledger : Ledger e t.history) (hsound : t.Sound)
    (hrun : (Batch.run config images e).Runs system t (.error cause, e') t') :
    ∃ before image after reason started, images = before ++ image :: after ∧
      cause = .creationFailed image.name reason ∧ started.length ≤ before.length ∧
      Joined e t started e' t' := by
  obtain ⟨refused, middle, between, hstart, hrun⟩ | ⟨cause', hstart, heq⟩ :=
    Supervised.runs_bind.mp hrun
  · -- all have been started or passed over, and collecting them does not fail
    obtain ⟨started, hjoined, -⟩ := joined_start hledger hsound hstart
    obtain ⟨_, _, _, -, hend⟩ :=
      Supervised.runs_bind_of_ok hrun (ok_of_runs_reapAll ⟨id, id⟩ hjoined.ledger hjoined.sound)
    cases (Supervised.runs_pure.mp hend).1
  · cases heq
    obtain ⟨started, hjoined, -, hfailed⟩ := joined_start hledger hsound hstart
    obtain ⟨before, image, after, reason, himages, hlength, hcause⟩ := hfailed _ rfl
    exact ⟨before, image, after, reason, started, himages, hcause, hlength, hjoined⟩

end Interposition.Executor
