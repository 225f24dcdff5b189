/-
  What the loader does to its children.

  The loader keeps records of its children, and the one thing that is needed of them is that a child
  whose end is on record has ended (`Noted`).  A program of the loader may fail at any point, and of
  a failure nothing else has to be known (`Manages`); so a stage of a session is verified by what it
  comes to when it succeeds, and stages are put together by `Manages.bind`.

  The deeds here leave the world as it is or send a signal, and the loader can rely on a signal of
  its own as if somebody else had sent it.  So what is stable stays known (`meets_kill`,
  `manages_reap`, `meets_wait`).
-/
import Interposition.Proofs.Process.Records
import Interposition.Proofs.Session.Requests

namespace Interposition

namespace Session.Setting

open Program

variable {setting : Setting} {assertion : World → Prop} {world now : World} {e : Executor}
  {pid : Pid} {α β : Type}

/-- Every child whose end is on record has ended. -/
def Noted (setting : Setting) (e : Executor) (world : World) : Prop :=
  ∀ pid t, e.termination? pid = some t → setting.Ended pid world

theorem stable_ended (pid : Pid) : (setting.contract .loader).Stable (setting.Ended pid) := by
  intro now next hnow hrely _
  have hrely : setting.Relies .loader now next := hrely
  exact (hrely.watches rfl).ended hnow

theorem stable_noted (e : Executor) : (setting.contract .loader).Stable (setting.Noted e) :=
  fun hnow hrely hp pid t ht => stable_ended pid (hnow pid t ht) hrely hp

theorem Noted.noteEnd (h : setting.Noted e world) (hended : setting.Ended pid world)
    (t : Termination) : setting.Noted (e.noteEnd pid t) world := by
  intro other t' ht
  rcases Executor.termination?_noteEnd ht with rfl | hbefore
  · exact hended
  · exact h other t' hbefore

/-! ## Programs that may fail -/

/-- A program of the loader meets its contract; the records are true when it ends, and if it
    succeeds `post` holds. -/
def Manages (setting : Setting) (program : Supervised α) (e : Executor) (post : α → World → Prop)
    (world : World) : Prop :=
  (program e).Meets (setting.os .loader) (setting.contract .loader) (fun outcome now =>
    setting.Noted outcome.2 now ∧ ∀ a, outcome.1 = .ok a → post a now) world

theorem manages_pure {a : α} {post : α → World → Prop} (hnoted : setting.Noted e world)
    (h : post a world) : setting.Manages (Pure.pure a) e post world := by
  refine ⟨hnoted, ?_⟩
  rintro _ ⟨⟩
  exact h

theorem manages_throw {cause : ProcessError} {post : α → World → Prop}
    (hnoted : setting.Noted e world) :
    setting.Manages (throw cause : Supervised α) e post world := ⟨hnoted, nofun⟩

theorem Manages.mono {program : Supervised α} {post post' : α → World → Prop}
    (h : setting.Manages program e post world) (hpost : ∀ a now, post a now → post' a now) :
    setting.Manages program e post' world :=
  Meets.mono h fun _ now hnow => ⟨hnow.1, fun a ha => hpost a now (hnow.2 a ha)⟩

/-- **Stages**: one program after another, if the first succeeds. -/
theorem Manages.bind {program : Supervised α} {next : α → Supervised β}
    {mid : α → World → Prop} {post : β → World → Prop}
    (h : setting.Manages program e mid world)
    (hnext : ∀ a e now, setting.Noted e now → mid a now → setting.Manages (next a) e post now) :
    setting.Manages (program >>= next) e post world := by
  refine Meets.bind h ?_
  rintro ⟨result, e⟩ now ⟨hnoted, hmid⟩
  cases result with
  | ok a => exact hnext a e now hnoted (hmid a rfl)
  | error cause => exact ⟨hnoted, nofun⟩

/-- A stage behind something that is decided without asking. -/
theorem manages_decided {result : Except ProcessError α} {next : α → Supervised β}
    {post : β → World → Prop} (hnoted : setting.Noted e world)
    (h : ∀ a, result = .ok a → setting.Manages (next a) e post world) :
    setting.Manages (ExceptT.mk (Pure.pure result) >>= next) e post world := by
  cases result with
  | ok a => exact h a rfl
  | error cause => exact ⟨hnoted, nofun⟩

theorem manages_ofGate {program : Program (Except GateError α)} {post : α → World → Prop}
    (h : program.Meets (setting.os .loader) (setting.contract .loader) (fun result now =>
      setting.Noted e now ∧ ∀ a, result = .ok a → post a now) world) :
    setting.Manages (Supervised.ofGate program) e post world := by
  refine Meets.bind h fun result now hresult => ?_
  cases result with
  | error cause => exact ⟨hresult.1, nofun⟩
  | ok a =>
    refine ⟨hresult.1, ?_⟩
    rintro _ ⟨⟩
    exact hresult.2 a rfl

theorem manages_ofJournal {program : Program (Except JournalError α)} {post : α → World → Prop}
    (h : program.Meets (setting.os .loader) (setting.contract .loader) (fun result now =>
      setting.Noted e now ∧ ∀ a, result = .ok a → post a now) world) :
    setting.Manages (Supervised.ofJournal program) e post world := by
  refine Meets.bind h fun result now hresult => ?_
  cases result with
  | error cause => exact ⟨hresult.1, nofun⟩
  | ok a =>
    refine ⟨hresult.1, ?_⟩
    rintro _ ⟨⟩
    exact hresult.2 a rfl

theorem manages_run {program : Program α} {post : α → World → Prop}
    (h : program.Meets (setting.os .loader) (setting.contract .loader) (fun a now =>
      setting.Noted e now ∧ post a now) world) :
    setting.Manages (Supervised.run program) e post world := by
  refine Meets.bind h fun a now ha => ⟨ha.1, ?_⟩
  rintro _ ⟨⟩
  exact ha.2

/-! ## Signals -/

/-- **A signal** changes nothing that the loader knows; the release signal needs its grounds. -/
theorem meets_kill {signal : Signal} (hstable : (setting.contract .loader).Stable assertion)
    (hgrounds : signal = .release → pid = setting.pid .cage ∧ ∀ now, assertion now →
      now.Keeps ∧ setting.Recorded now ∧ setting.Published now)
    (hworld : assertion world) :
    (request (.kill pid signal)).Meets (setting.os .loader) (setting.contract .loader)
      (fun _ now => assertion now) world := by
  refine meets_request fun now hrely hp answer between hanswer => ?_
  have hnow := hstable hworld hrely hp
  have hproper : setting.Proper .loader now (.asks (.kill pid signal)) :=
    ⟨rfl, fun hsignal => ⟨(hgrounds hsignal).1, (hgrounds hsignal).2 now hnow⟩⟩
  obtain ⟨-, ⟨-, rfl⟩ | ⟨-, rfl⟩⟩ := hanswer
  · exact ⟨allows_self hp hproper, hnow⟩
  · have hevolves (party : Party) (child : Child) :
        child.Evolves (if setting.pid party = pid then child.reached signal else child) := by
      split
      · exact Child.evolves_reached
      · exact Child.evolves_self
    have hallows : (setting.contract .loader).Allows now (.asks (.kill pid signal))
        (setting.signalled pid signal now) := by
      refine allows_mapChildren hevolves hp hproper fun child _ hkept => ?_
      split at hkept
      · refine (Child.kept_reached hkept).imp_right fun hsignal => ?_
        exact ((hgrounds hsignal.symm).2 now hnow).2.2
      · exact .inl hkept
    exact ⟨hallows, hstable hnow (relies_mapChildren hevolves (.inl rfl)) hallows.1⟩

theorem manages_signal {signal : Signal} (hstable : (setting.contract .loader).Stable assertion)
    (hgrounds : signal = .release → pid = setting.pid .cage ∧ ∀ now, assertion now →
      now.Keeps ∧ setting.Recorded now ∧ setting.Published now)
    (hnoted : setting.Noted e world) (hworld : assertion world) :
    setting.Manages (Executor.signal pid signal) e (fun _ now => assertion now) world := by
  have hsent := meets_kill (stable_and hstable (stable_noted e))
    (fun hsignal => ⟨(hgrounds hsignal).1, fun now hnow => (hgrounds hsignal).2 now hnow.1⟩)
    ⟨hworld, hnoted⟩
  unfold Manages Executor.signal
  by_cases hknown : (e.termination? pid).isSome = true
  · simp only [hknown, if_true]
    exact ⟨hnoted, fun _ _ => hworld⟩
  · simp only [hknown]
    refine hsent.bind fun result now hnow => ?_
    cases result with
    | ok => exact ⟨hnow.2, fun _ _ => hnow.1⟩
    | error cause =>
      by_cases hgone : cause = .esrch
      · simp only [hgone, if_true]
        exact ⟨hnow.2, fun _ _ => hnow.1⟩
      · simp only [hgone, if_false]
        exact ⟨hnow.2, nofun⟩

/-! ## Collecting -/

/-- **A blocking wait** ends when the child has ended. -/
theorem meets_collect (hstable : (setting.contract .loader).Stable assertion)
    (hworld : assertion world) :
    (iterate () fun () => Executor.collectOnce pid).Meets (setting.os .loader)
      (setting.contract .loader) (fun result now =>
        assertion now ∧ ∀ t, result = .ok t → setting.Ended pid now) world := by
  refine meets_iterate (fun _ now => assertion now) (fun _ => hstable) hworld ?_
  intro _ now hp hnow
  refine (meets_quiet (r := .wait pid true) (fun _ _ _ h => h.2) hstable (fun _ _ _ _ => trivial)
    hnow).bind ?_
  rintro answer now ⟨hnow, -, -, hanswer, -⟩
  cases answer with
  | ok status =>
    cases hstatus : Termination.ofWaitStatus? status with
    | none =>
      simp only [hstatus]
      exact hnow
    | some t =>
      simp only [hstatus]
      exact ⟨hnow, fun _ _ => hanswer (by rw [hstatus]; rfl)⟩
  | error cause =>
    by_cases hinterrupted : cause = .eintr
    · simp only [hinterrupted, if_true]
      exact hnow
    · by_cases hgone : cause = .echild
      · subst hgone
        exact ⟨hnow, fun _ _ => hanswer rfl⟩
      · simp only [hinterrupted, hgone, if_false]
        exact ⟨hnow, nofun⟩

theorem manages_reap (hstable : (setting.contract .loader).Stable assertion)
    (hnoted : setting.Noted e world) (hworld : assertion world) :
    setting.Manages (Executor.reap pid) e (fun _ now => assertion now ∧ setting.Ended pid now)
      world := by
  unfold Manages Executor.reap
  cases hknown : e.termination? pid with
  | some t => exact ⟨hnoted, fun _ _ => ⟨hworld, hnoted pid t hknown⟩⟩
  | none =>
    refine (meets_collect (stable_and hstable (stable_noted e)) ⟨hworld, hnoted⟩).bind ?_
    rintro result now ⟨⟨hnow, hnoted⟩, hended⟩
    cases result with
    | ok t => exact ⟨hnoted.noteEnd (hended t rfl) t, fun _ _ => ⟨hnow, hended t rfl⟩⟩
    | error cause => exact ⟨hnoted, nofun⟩

/-- **Asking for a child** keeps the records true. -/
theorem meets_isAlive (hstable : (setting.contract .loader).Stable assertion)
    (hnoted : setting.Noted e world) (hworld : assertion world) :
    (Executor.isAlive pid e).Meets (setting.os .loader) (setting.contract .loader)
      (fun outcome now => setting.Noted outcome.2 now ∧ assertion now) world := by
  have htry : (Executor.tryReap pid e).Meets (setting.os .loader) (setting.contract .loader)
      (fun outcome now => setting.Noted outcome.2 now ∧ assertion now) world := by
    unfold Executor.tryReap
    cases hknown : e.termination? pid with
    | some t => exact ⟨hnoted, hworld⟩
    | none =>
      refine (meets_quiet (r := .wait pid false) (fun _ _ _ h => h.2)
        (stable_and hstable (stable_noted e)) (fun _ _ _ _ => trivial) ⟨hworld, hnoted⟩).bind ?_
      rintro answer now ⟨⟨hnow, hnoted⟩, -, -, hanswer, -⟩
      cases answer with
      | ok status =>
        cases hstatus : Termination.ofWaitStatus? status with
        | none =>
          simp only [hstatus]
          exact ⟨hnoted, hnow⟩
        | some t =>
          simp only [hstatus]
          exact ⟨hnoted.noteEnd (hanswer (by rw [hstatus]; rfl)) t, hnow⟩
      | error cause =>
        by_cases hgone : cause = .echild
        · simp only [hgone, if_true]
          exact ⟨hnoted.noteEnd (hanswer hgone) _, hnow⟩
        · by_cases hinterrupted : cause = .eintr
          · subst hinterrupted
            exact ⟨hnoted, hnow⟩
          · simp only [hgone, hinterrupted, if_false]
            exact ⟨hnoted, hnow⟩
  refine htry.bind ?_
  rintro ⟨result, e⟩ now hnow
  rcases result with _ | _ | _ <;> exact hnow

/-! ## Waiting -/

/-- **One round** of a wait: it goes on with the same assertion, or what its look found is so. -/
theorem meets_round {what peer : String} {timeout : Duration} {started pause : Nat}
    {check : Program (Except GateError (Option β))} {good : β → World → Prop}
    (hcheck : ∀ {assertion : World → Prop}, (setting.contract .loader).Stable assertion →
      ∀ {world}, assertion world → check.Meets (setting.os .loader) (setting.contract .loader)
        (fun result now => assertion now ∧ ∀ found, result = .ok (some found) → good found now)
        world)
    (hstable : (setting.contract .loader).Stable assertion) (hnoted : setting.Noted e world)
    (hworld : assertion world) :
    (Poll.round what peer timeout started (Executor.isAlive pid) check pause e).Meets
      (setting.os .loader) (setting.contract .loader) (fun outcome now =>
        match outcome with
        | .inl state => assertion now ∧ setting.Noted state.2 now
        | .inr result => setting.Noted result.2 now ∧
            assertion now ∧ ∀ found, result.1 = .ok found → good found now) world := by
  have hquiet (e : Executor) : (setting.contract .loader).Stable fun now =>
    assertion now ∧ setting.Noted e now := stable_and hstable (stable_noted e)
  refine (hcheck (hquiet e) ⟨hworld, hnoted⟩).bind ?_
  rintro result now ⟨hnow, hfound⟩
  rcases result with cause | _ | found
  · exact ⟨hnow.2, hnow.1, nofun⟩
  · refine (meets_isAlive hstable hnow.2 hnow.1).bind ?_
    rintro ⟨living, e⟩ now ⟨hnoted, hnow⟩
    cases living with
    | true =>
      refine (meets_quiet (r := .now) (fun _ _ _ h => h) (hquiet e) (fun _ _ _ _ => trivial)
        ⟨hnow, hnoted⟩).bind ?_
      rintro later now ⟨hnow, -, -, -⟩
      by_cases htimeout : later - started ≥ timeout.nanoseconds
      · simp only [htimeout, if_true]
        exact ⟨hnow.2, hnow.1, nofun⟩
      · simp only [htimeout, if_false]
        refine (meets_quiet (r := .sleep pause) (fun _ _ _ h => h) (hquiet e)
          (fun _ _ _ _ => trivial) hnow).bind ?_
        rintro _ now ⟨hnow, -, -, -⟩
        exact hnow
    | false =>
      -- the peer is gone: one last look
      refine (hcheck (hquiet e) ⟨hnow, hnoted⟩).bind ?_
      rintro result now ⟨hnow, hfound⟩
      rcases result with cause | _ | found
      · exact ⟨hnow.2, hnow.1, nofun⟩
      · exact ⟨hnow.2, hnow.1, nofun⟩
      · refine ⟨hnow.2, hnow.1, ?_⟩
        rintro _ ⟨⟩
        exact hfound found rfl
  · refine ⟨hnow.2, hnow.1, ?_⟩
    rintro _ ⟨⟩
    exact hfound found rfl

/-- **Waiting** until a look finds something: what a look has found is so when the wait ends. -/
theorem meets_wait {what peer : String} {timeout : Duration}
    {check : Program (Except GateError (Option β))} {good : β → World → Prop}
    (hcheck : ∀ {assertion : World → Prop}, (setting.contract .loader).Stable assertion →
      ∀ {world}, assertion world → check.Meets (setting.os .loader) (setting.contract .loader)
        (fun result now => assertion now ∧ ∀ found, result = .ok (some found) → good found now)
        world)
    (hstable : (setting.contract .loader).Stable assertion) (hnoted : setting.Noted e world)
    (hworld : assertion world) :
    (Poll.wait what peer timeout (Executor.isAlive pid) check e).Meets (setting.os .loader)
      (setting.contract .loader) (fun outcome now => setting.Noted outcome.2 now ∧
        assertion now ∧ ∀ found, outcome.1 = .ok found → good found now) world := by
  have hquiet (e : Executor) : (setting.contract .loader).Stable fun now =>
    assertion now ∧ setting.Noted e now := stable_and hstable (stable_noted e)
  refine (meets_quiet (r := .now) (fun _ _ _ h => h) (hquiet e) (fun _ _ _ _ => trivial)
    ⟨hworld, hnoted⟩).bind ?_
  rintro started now ⟨hnow, -, -, -⟩
  refine meets_iterate (fun state now => assertion now ∧ setting.Noted state.2 now)
    (fun state => hquiet state.2) hnow ?_
  rintro ⟨pause, e⟩ now - ⟨hnow, hnoted⟩
  refine (meets_round hcheck hstable hnoted hnow).mono fun outcome between houtcome => ?_
  cases outcome with
  | inl state => exact houtcome
  | inr result => exact houtcome

theorem manages_asking {wait : Executor → Program (Except GateError α × Executor)}
    {post : α → World → Prop}
    (h : (wait e).Meets (setting.os .loader) (setting.contract .loader) (fun outcome now =>
      setting.Noted outcome.2 now ∧ ∀ a, outcome.1 = .ok a → post a now) world) :
    setting.Manages (asking wait) e post world := by
  refine Meets.bind h ?_
  rintro ⟨result, e⟩ now ⟨hnoted, hresult⟩
  cases result with
  | error cause => exact ⟨hnoted, nofun⟩
  | ok a =>
    refine ⟨hnoted, ?_⟩
    rintro _ ⟨⟩
    exact hresult a rfl

/-! ## When the two do not come together -/

theorem manages_attempt {program : Supervised α} {post : α → World → Prop}
    (h : setting.Manages program e post world) :
    setting.Manages (Supervised.attempt program) e
      (fun result now => ∀ a, result = .ok a → post a now) world := by
  refine Meets.bind h ?_
  rintro ⟨result, e⟩ now ⟨hnoted, hresult⟩
  refine ⟨hnoted, ?_⟩
  rintro _ ⟨⟩
  exact hresult

/-- Killing needs no grounds. -/
theorem manages_kill (pid : Pid) (hnoted : setting.Noted e world) :
    setting.Manages (Executor.kill pid) e (fun _ _ => True) world := by
  have hgrounds : Signal.kill ≠ .release := nofun
  refine (manages_signal stable_true (fun h => absurd h hgrounds) hnoted trivial).bind ?_
  intro _ e now hnoted _
  exact (manages_reap stable_true hnoted trivial).mono fun _ _ _ => trivial

theorem manages_abort (pids : List Pid) (hnoted : setting.Noted e world) :
    setting.Manages (abort pids) e (fun _ _ => True) world := by
  induction pids generalizing e world with
  | nil => exact ⟨hnoted, fun _ _ => trivial⟩
  | cons pid pids ih =>
    have hone : setting.Manages (do let _ ← Supervised.attempt (Executor.kill pid)) e
        (fun _ _ => True) world :=
      (manages_attempt (manages_kill pid hnoted)).bind fun _ e now hnoted _ =>
        manages_pure hnoted trivial
    exact hone.bind fun _ e now hnoted _ => ih hnoted

/-- **What fails** fails after what has been started has been killed. -/
theorem manages_orAbort {program : Supervised α} (pids : List Pid) {post : α → World → Prop}
    (h : setting.Manages program e post world) :
    setting.Manages (orAbort pids program) e post world := by
  refine (manages_attempt h).bind fun result e now hnoted hresult => ?_
  cases result with
  | ok a => exact manages_pure hnoted (hresult a rfl)
  | error cause => exact (manages_abort pids hnoted).bind fun _ e now hnoted _ =>
      manages_throw hnoted

end Session.Setting

end Interposition
