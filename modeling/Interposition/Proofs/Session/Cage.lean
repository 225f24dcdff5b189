/-
  The cage keeps the protocol.

  The cage reads its settings, keeps the release signal, says that it is armed, and waits.  When it
  has been released the grate has said that it is ready, and that stays so; from there on whatever
  the cage reads of the journal is what the grate has registered (`Protocol.published`), so the
  threads work as they should (`Working`), and the outcome says so.
-/
import Interposition.Proofs.Session.Calls
import Interposition.Proofs.Session.Requests

namespace Interposition.Session.Setting

open Demo Program

variable {setting : Setting} {world : World} {native : Native} {runtime : LoopbackRuntime}

/-! ## Settings -/

theorem meets_cageConfig (settings : CommandLine.Settings) (world : World) :
    (Programs.cageConfig settings).Meets (setting.os .cage) (setting.contract .cage)
      (fun config _ => config = some setting.config) world := by
  refine (meets_environment (⟨true, setting.config⟩ : CageLaunch) (standsFor_cageLaunch 124)
    ?_ ?_ ?_ stable_true trivial).bind ?_
  · have hnames : LaunchSettings.setting CageLaunch ∉ [RuntimeConfig.stateDirVariable,
        RuntimeConfig.readyTimeoutVariable, RuntimeConfig.armTimeoutVariable,
        RuntimeConfig.maxChainDepthVariable] := by decide
    exact hnames
  · rintro launch ⟨entry, hentry, rfl⟩
    exact ⟨entry, hentry, rfl⟩
  · exact nofun
  · rintro vars now ⟨hsettings, -⟩
    simp only [hsettings]
    rfl

/-! ## The gate -/

theorem meets_keepRelease (world : World) :
    (request (.dispose .release .keep)).Meets (setting.os .cage) (setting.contract .cage)
      (fun _ now => now.Keeps) world := by
  refine meets_request fun now _ hp _ between hanswer => ?_
  obtain ⟨hloader | ⟨child, hchild, -⟩, rfl⟩ := hanswer
  · contradiction
  · refine ⟨allows_change (fun _ => Child.evolves_dispose fun _ => rfl) hp trivial
      fun _ => Child.kept_dispose, _, World.children_change hchild, ?_⟩
    exact child.disposition_dispose .release .keep

/-- **The cage is armed** only after it keeps the release signal. -/
theorem meets_arm (world : World) :
    (Gate.arm setting.rendezvous setting.cageId).Meets (setting.os .cage) (setting.contract .cage)
      (fun _ _ => True) world := by
  refine (meets_keepRelease world).bind fun _ now hkeeps => ?_
  refine meets_publish setting .armed stable_keeps ?_ ?_ hkeeps
  · intro now next hnow htouches
    unfold World.Keeps
    rw [htouches.children]
    exact hnow
  · intro now hnow hp halive hdraft
    exact (touches_rename hp.apart .cage (.draft .armed) (.marker .armed)).allows_own hp trivial
      (fun _ => Name.ownedBy_author) (by decide) (by decide) (fun _ => hnow) (by simp)

/-- **The cage is released** only after the grate has said that it is ready. -/
theorem meets_awaitRelease (timeout : Duration) (world : World) :
    (Gate.awaitRelease setting.cageId timeout).Meets (setting.os .cage) (setting.contract .cage)
      (fun result now => result = .ok () → setting.Published now) world := by
  have hwait : (request (.awaitSignal .release (some timeout.nanoseconds))).Meets
      (setting.os .cage) (setting.contract .cage)
      (fun found now => found = true → setting.Published now) world := by
    refine meets_request fun now _ hp _ between hanswer => ?_
    obtain ⟨-, ⟨rfl, rfl⟩ | ⟨rfl, ⟨child, hchild, hkept⟩, rfl⟩⟩ := hanswer
    · exact ⟨allows_self hp trivial, nofun⟩
    · exact ⟨allows_change (fun _ => Child.evolves_take) hp trivial fun _ => Child.kept_take,
        fun _ => hp.released hchild hkept⟩
  refine hwait.bind fun found now hfound => ?_
  cases found with
  | true => exact fun _ => hfound rfl
  | false => exact nofun

theorem meets_waitForRelease (world : World) :
    (waitForRelease setting.cageId setting.config).Meets (setting.os .cage)
      (setting.contract .cage) (fun result now => result = .ok () → setting.Published now)
      world := by
  refine (meets_ensure stable_true _ trivial).bind fun result now _ => ?_
  cases result with
  | error e => exact nofun
  | ok =>
    have hpass : (Gate.pass setting.rendezvous setting.cageId setting.config.armTimeout).Meets
        (setting.os .cage) (setting.contract .cage)
        (fun result now => result = .ok () → setting.Published now) now := by
      refine (meets_arm now).bind fun result now _ => ?_
      cases result with
      | error e => exact nofun
      | ok => exact meets_awaitRelease _ now
    refine hpass.bind fun result now hresult => ?_
    cases result with
    | error e => exact nofun
    | ok => exact fun _ => hresult rfl

/-! ## The calls -/

/-- **A sync** reads what the grate has registered. -/
theorem meets_sync (hfollows : setting.Follows native runtime) (hworld : setting.Published world) :
    runtime.sync.Meets (setting.os .cage) (setting.contract .cage) (fun outcome now =>
      setting.Follows native outcome.2 ∧ outcome.2.applied = setting.records.length ∧
        setting.Published now) world := by
  have hread : (Journal.readFrom runtime.journal runtime.applied).Meets (setting.os .cage)
      (setting.contract .cage) (fun result now =>
        result = .ok (setting.records.drop runtime.applied) ∧ setting.Published now) world := by
    rw [hfollows.journal]
    refine (meets_quiet (r := .readFile setting.journal) (fun _ _ _ h => h.2) stable_published
      (fun now hnow hp halive _ _ => ⟨(hp.published hnow).2 (.inl halive), hnow⟩) hworld).bind ?_
    rintro answer now ⟨hnow, hp, halive, hanswer | ⟨hother, -⟩, -⟩
    · have hrecorded := (hp.published hnow).2 (.inl halive)
      have hbytes : answer = .ok setting.recorded :=
        hanswer.trans (SharedFiles.reading_eq_ok_iff.mpr hrecorded)
      have hrecords := setting.readable_recorded.readFrom runtime.applied
      rw [recordsOf_recorded] at hrecords
      subst hbytes
      simp only [hrecords]
      exact ⟨rfl, hnow⟩
    · exact absurd rfl hother
  refine hread.bind ?_
  rintro _ now ⟨rfl, hnow⟩
  exact ⟨hfollows.absorb.1, hfollows.absorb.2, hnow⟩

/-- **A step of a thread**: it syncs, or it has synced and is answered with the user id. -/
theorem meets_step (hfollows : setting.Follows native runtime) {worker : Worker}
    (hworker : setting.Serves runtime worker) (hworld : setting.Published world) :
    (worker.step setting.cageId runtime).Meets (setting.os .cage) (setting.contract .cage)
      (fun outcome now => setting.Follows native outcome.2 ∧
        (runtime.applied = setting.records.length →
          outcome.2.applied = setting.records.length) ∧
        setting.Serves outcome.2 outcome.1 ∧ setting.Published now) world := by
  unfold Worker.step
  cases hremaining : worker.remaining with
  | nil => exact ⟨hfollows, id, hworker, hworld⟩
  | cons syscall rest =>
    have hscript : worker.calls.map CallRecord.syscall ++ syscall :: rest = Worker.script :=
      hremaining ▸ hworker.script
    by_cases hsynced : worker.synced = true
    · simp only [if_pos hsynced]
      have hmem : syscall ∈ Worker.script := by
        rw [← hscript]
        exact List.mem_append_right _ (List.mem_cons_self ..)
      have happlied := hworker.synced hsynced
      obtain ⟨hreply, hnext, hcount⟩ := hfollows.respondSynced happlied hmem
        (.ofOwner setting.cageId (Vector.replicate 6 unusedWord))
      have hcall : runtime.callSynced setting.cageId syscall
          (.ofOwner setting.cageId (Vector.replicate 6 unusedWord)) =
          pure (userId, (runtime.respondSynced setting.cageId syscall
            (.ofOwner setting.cageId (Vector.replicate 6 unusedWord))).2) := by
        unfold LoopbackRuntime.callSynced
        rw [← Prod.eta (runtime.respondSynced ..), hreply]
        rfl
      rw [hcall]
      refine ⟨hnext, fun _ => hcount.trans happlied, ⟨?_, ?_, nofun⟩, hworld⟩
      · show (worker.calls ++ [_]).map CallRecord.syscall ++ rest = _
        rw [List.map_append, List.append_assoc]
        exact hscript
      · intro call hcall
        rcases List.mem_append.mp hcall with hearlier | hlast
        · exact hworker.answered call hearlier
        · rw [List.mem_singleton.mp hlast]
    · simp only [if_neg hsynced]
      refine (meets_sync hfollows hworld).bind ?_
      rintro ⟨result, next⟩ now ⟨hnext, hcount, hnow⟩
      exact ⟨hnext, fun _ => hcount, ⟨hscript, hworker.answered, fun _ => hcount⟩, hnow⟩

/-- **The threads** in whatever order they go on. -/
theorem meets_runWorkers {workers : List Worker}
    (hworking : setting.Working native workers runtime) (hworld : setting.Published world) :
    (runWorkers setting.cageId workers runtime).Meets (setting.os .cage) (setting.contract .cage)
      (fun workers _ => setting.Served ⟨setting.cageId, workers.flatMap Worker.calls⟩) world := by
  refine meets_iterate (fun state now => setting.Working native state.1 state.2 ∧
    setting.Published now) ?_ ⟨hworking, hworld⟩ ?_
  · intro state now next hnow hrely hp
    exact ⟨hnow.1, stable_published hnow.2 hrely hp⟩
  · rintro ⟨workers, runtime⟩ now hp ⟨hworking, hnow⟩
    dsimp only
    cases hunfinished : unfinished workers with
    | nil => exact hworking.served hunfinished
    | cons first others =>
      refine (meets_quiet (r := .choose (others.length + 1)) (fun _ _ _ h => h) stable_published
        (fun now hnow hp halive _ => ⟨(hp.published hnow).2 (.inl halive), hnow⟩) hnow).bind ?_
      rintro choice now ⟨hnow, -, -, -⟩
      have hmem : ((first :: others)[choice]?).getD first ∈ unfinished workers := by
        rw [hunfinished]
        cases hchoice : (first :: others)[choice]? with
        | none => exact List.mem_cons_self ..
        | some position => exact List.mem_of_getElem? hchoice
      obtain ⟨worker, hworker⟩ := getElem?_of_mem_unfinished hmem
      simp only [hworker]
      refine (meets_step hworking.follows (hworking.serves worker (List.mem_of_getElem? hworker))
        hnow).bind ?_
      rintro ⟨worker', runtime'⟩ now ⟨hfollows, hcount, hserves, hnow⟩
      exact ⟨hworking.set hfollows hcount hserves _, hnow⟩

/-! ## The outcome -/

/-- **An outcome** is written only if it has the user id throughout. -/
theorem meets_writeOutcome {outcome : CageOutcome} (h : setting.Served outcome) (world : World) :
    (setting.rendezvous.writeOutcome outcome).Meets (setting.os .cage) (setting.contract .cage)
      (fun _ _ => True) world := by
  have hpath : setting.rendezvous.outcomePath outcome.cage = setting.path (.marker .outcome) := by
    rw [h.cage]
    rfl
  unfold Rendezvous.writeOutcome
  rw [hpath]
  refine meets_publish setting .outcome stable_true (fun _ _ => trivial) ?_
    trivial
  intro now _ hp halive hdraft
  refine (touches_rename hp.apart .cage (.draft .outcome) (.marker .outcome)).allows_own hp trivial
    (fun _ => Name.ownedBy_author) (by decide) (by decide) (by simp) fun _ bytes hbytes => ?_
  have hnamed := file?_named hdraft
  exact ⟨outcome, Option.some.inj (hbytes.symm.trans hnamed), h⟩

theorem meets_makeCalls (world : World) (hworld : setting.Published world) :
    (makeCalls setting.cageId setting.cageArguments.threads setting.config).Meets
      (setting.os .cage) (setting.contract .cage) (fun _ _ => True) world := by
  refine (meets_identity stable_published hworld).bind fun self now hself => ?_
  refine (meets_runWorkers (.start setting (.host self)) hself.2).bind fun workers now hserved => ?_
  refine (meets_ensure stable_true _ trivial).bind fun result now _ => ?_
  cases result with
  | error e => trivial
  | ok =>
    refine (meets_writeOutcome hserved now).bind fun result now _ => ?_
    cases result <;> trivial

/-- **The cage keeps the protocol.** -/
theorem meets_cage {launch : Launch} (hlaunch : setting.Launches launch .cage) (world : World) :
    (image .cage launch).Meets (setting.os .cage) (setting.contract .cage) (fun _ _ => True)
      world := by
  obtain ⟨entry, -, rfl⟩ := hlaunch
  show (Programs.cage (gatedToken :: setting.cage.args)).Meets _ _ _ _
  unfold Programs.cage
  simp only [setting.ofWords_cage]
  refine (meets_cageConfig _ world).bind ?_
  rintro _ now rfl
  have hcage : (runCage ⟨setting.cageArguments.isGated, setting.cageArguments.threads⟩
      setting.config).Meets (setting.os .cage) (setting.contract .cage) (fun _ _ => True) now := by
    refine (meets_identity stable_true trivial).bind fun self now hself => ?_
    rw [hself.1, setting.gated]
    refine (meets_waitForRelease now).bind fun result now hresult => ?_
    cases result with
    | error e => trivial
    | ok => exact meets_makeCalls now (hresult rfl)
  refine hcage.bind fun result now _ => ?_
  cases result <;> trivial

end Interposition.Session.Setting
