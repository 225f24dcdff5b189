/-
  A session leaves nobody behind, and releases nobody early.

  The operating system may refuse any start, children may end at any time and in any way, and a wait
  for one of them may already have collected it.  Still a session that returns, whatever it returns,
  has the end of every child it started on record (`run_leaves_nobody`).

  1. **Before the probe** (`Opening`): the records agree with the history, so a child is awaited
     exactly while it lives, and nobody has been released.  Every stage up to the start of the grate
     keeps this.

  2. **While the probe is asked** (`Probing`): it can have a child's end put on record, and only when
     it has been told of that end.

  3. **After the probe** (`Collected`, `Killed`): reaping takes a child off those awaited, and a
     child that is awaited when it is killed is sent the signal first.
-/
import Interposition.Proofs.Host.Playing
import Interposition.Proofs.Session.Course

namespace Interposition

/-- An operating system that says of a signal only that it was delivered or that nobody was there,
    and of a child that it cannot be waited for only that the wait was interrupted or that there is
    no such child. -/
structure OperatingSystem.TellsOfChildren {World : Type} (kernel : OperatingSystem World) : Prop where
  kill : ∀ {world next pid signal answer}, kernel.answers world (.kill pid signal) answer next →
    answer = .ok () ∨ answer = .error .esrch
  wait : ∀ {world next pid block cause}, kernel.answers world (.wait pid block) (.error cause) next →
    cause = .eintr ∨ cause = .echild

namespace Session

variable {World : Type} {kernel : OperatingSystem World} {config : RuntimeConfig} {probe : Probe}
  {cage grate : ImageSpec} {e e' former : Executor} {now next : World × List Event}
  {history opening probing closing more : List Event} {pids : List Pid} {pid : Pid}
  {event : Event} {t : Termination}

/-! ## Before the probe -/

/-- The records agree with the history, and nobody has been released. -/
structure Opening (pids : List Pid) (e : Executor) (history : List Event) : Prop where
  keyed : e.Keyed
  started : ∀ pid ∈ startedIn history, pid ∈ pids
  recorded : ∀ pid ∈ startedIn history, (e.record? pid).isSome
  awaits : ∀ pid, e.Awaits pid ↔ livingAfter history pid = true
  gated : ∀ pid, ¬Signalled pid .release history

namespace Opening

theorem default : Opening [] default [] where
  keyed := Executor.keyed_default
  started _ h := h
  recorded _ h := nomatch h
  awaits pid := iff_of_false (Executor.not_awaits_default pid) Bool.false_ne_true
  gated _ := not_signalled_nil

/-- What is neither a start nor an end, and signals nobody. -/
theorem quiet (h : Opening pids e history) (hquiet : event.IsQuiet) (hsent : event.sent? = none) :
    Opening pids e (history ++ [event]) := by
  have hstarted : startedIn (history ++ [event]) = startedIn history := by
    rw [startedIn_append]
    simp [startedIn, hquiet.1]
  have hliving (pid : Pid) : livingAfter (history ++ [event]) pid = livingAfter history pid := by
    rw [livingAfter_append_singleton]
    simp [Event.turns, hquiet.1, hquiet.2]
  refine ⟨h.keyed, ?_, ?_, fun pid => ?_, fun pid => ?_⟩
  · rw [hstarted]
    exact h.started
  · rw [hstarted]
    exact h.recorded
  · rw [hliving]
    exact h.awaits pid
  · rw [signalled_append, signalled_singleton, hsent]
    exact not_or_intro (h.gated pid) nofun

/-- A start. -/
theorem start {launch : Launch} {role : Role} {image : String} (h : Opening pids e history) :
    Opening (pids ++ [pid]) (e.add (.new role image (Executor.key pid)))
      (history ++ [.started launch (.ok pid)]) := by
  have hstarted : startedIn (history ++ [.started launch (.ok pid)]) = startedIn history ++ [pid] :=
    startedIn_append
  refine ⟨h.keyed.add _, fun other hother => ?_, fun other hother => ?_, fun other => ?_,
    fun other => ?_⟩
  · rw [hstarted] at hother
    exact List.mem_append.mpr ((List.mem_append.mp hother).imp_left (h.started other))
  · rw [hstarted] at hother
    rw [Executor.record?_add]
    split
    · rfl
    · next hne =>
      obtain hother | hother := List.mem_append.mp hother
      · exact h.recorded other hother
      · exact absurd (congrArg Executor.key (List.mem_singleton.mp hother).symm) hne
  · rw [Executor.awaits_add, livingAfter_append_singleton, h.awaits other]
    unfold Event.turns
    by_cases hother : other = pid
    · simp [Event.started?, hother]
    · simp [Event.started?, Event.ended?, hother, Ne.symm hother]
  · rw [signalled_append, signalled_singleton]
    exact not_or_intro (h.gated other) nofun

/-- A wait that tells of an end. -/
theorem told {block : Bool} {answer : Except Errno WaitStatus} (h : Opening pids e history)
    (htold : Termination.told? answer = some t) :
    Opening pids (e.noteEnd pid t) (history ++ [.asked (.wait pid block) answer]) := by
  have hstarted : startedIn (history ++ [.asked (.wait pid block) answer]) = startedIn history := by
    rw [startedIn_append]
    exact List.append_nil _
  refine ⟨h.keyed.noteEnd pid t, ?_, fun other hother => ?_, fun other => ?_, fun other => ?_⟩
  · rw [hstarted]
    exact h.started
  · rw [hstarted] at hother
    rw [Executor.isSome_record?_noteEnd]
    exact h.recorded other hother
  · rw [Executor.awaits_noteEnd, livingAfter_append_singleton, h.awaits other]
    unfold Event.turns
    by_cases hother : other = pid
    · simp [Event.started?, Event.ended?, htold, hother]
    · simp [Event.started?, Event.ended?, htold, hother, Ne.symm hother]
  · rw [signalled_append, signalled_singleton]
    exact not_or_intro (h.gated other) nofun

/-- A wait that tells nothing. -/
theorem untold {block : Bool} {answer : Except Errno WaitStatus} (h : Opening pids e history)
    (htold : Termination.told? answer = none) :
    Opening pids e (history ++ [.asked (.wait pid block) answer]) :=
  h.quiet ⟨rfl, by simp [Event.ended?, htold]⟩ rfl

/-- What leaves processes as they are. -/
theorem keeps (pids : List Pid) (e : Executor) :
    kernel.recorded.Keeps Deed.SparesProcesses fun now => Opening pids e now.2 :=
  OperatingSystem.keeps_recorded (Opening pids e)
    (fun answer h hspares => h.quiet (Event.isQuiet_of_sparesProcesses answer hspares)
      (Event.sent?_of_sparesProcesses answer hspares))
    (fun _ _ hspares => hspares.elim)

/-- **Asking for a child.** -/
theorem isAlive {living : Bool} (h : Opening pids e now.2)
    (hrun : (Executor.isAlive pid e).Runs kernel.recorded now (living, e') next) :
    Opening pids e' next.2 := by
  obtain ⟨result, htry, -⟩ := Executor.runs_isAlive hrun
  obtain ⟨_, -, -, rfl, rfl⟩ | ⟨-, answer, hanswer, hend⟩ := Executor.runs_tryReap htry
  · exact h
  · rw [hanswer.2]
    cases htold : Termination.told? answer <;> rw [htold] at hend
    · rw [hend.1]
      exact h.untold htold
    · rw [hend.2]
      exact h.told htold

/-- **A child is started.** -/
theorem starts {role : Role} (h : Opening pids e now.2)
    (hstarts : Starts kernel.recorded role e now (.ok pid) e' next) :
    ∃ launch, next.2 = now.2 ++ [.started launch (.ok pid)] ∧ Opening (pids ++ [pid]) e' next.2 := by
  cases hstarts with
  | started image hspawns =>
    rw [hspawns.2]
    exact ⟨_, rfl, h.start⟩

/-- A child is not started. -/
theorem starts_error {role : Role} {cause : ProcessError} (h : Opening pids e now.2)
    (hstarts : Starts kernel.recorded role e now (.error cause) e' next) :
    Opening pids e' next.2 := by
  cases hstarts with
  | undecided => exact h
  | refused image hspawns =>
    rw [hspawns.2]
    exact h.quiet ⟨rfl, rfl⟩ rfl

theorem prepare {result : Except ProcessError JournalWriter} (h : Opening pids e now.2)
    (hrun : (prepare config e).Runs kernel.recorded now (result, e') next) :
    Opening pids e' next.2 := by
  rw [executor_of_runs_prepare hrun]
  have hconfined : (Session.prepare config e).Confined Deed.SparesProcesses :=
    confined_prepare.mono fun _ => Deed.IsPreparation.sparesProcesses
  have hkept := hconfined.keeps (keeps pids e) hrun h
  exact hkept

theorem awaitArmed {result : Except ProcessError Unit} (h : Opening pids e now.2)
    (hrun : (awaitArmed config pid e).Runs kernel.recorded now (result, e') next) :
    Opening pids e' next.2 :=
  keeps_awaitArmed (fun e now => Opening pids e now.2)
    (fun e => (keeps pids e).mono fun _ => Deed.IsLook.sparesProcesses)
    (fun h hrun => h.isAlive hrun) hrun h

/-- **The cage arms.** -/
theorem armed {journal : JournalWriter} {cagePid : Pid} (h : Opening [] e now.2)
    (harmed : Armed kernel.recorded config cage e now journal cagePid e' next) :
    Opening [cagePid] e' next.2 := by
  obtain ⟨hprepare, hspawn, harms⟩ := harmed
  obtain ⟨_, -, hstarted⟩ := (h.prepare hprepare).starts (starts_cage hspawn)
  exact hstarted.awaitArmed harms

end Opening

/-! ## While the probe is asked -/

/-- The probe has had ends put on record only when they were told. -/
structure Probing (former : Executor) (probing : List Event) (e : Executor) : Prop where
  keyed : e.Keyed
  recorded : ∀ pid, (e.record? pid).isSome = (former.record? pid).isSome
  awaits : ∀ pid, e.Awaits pid → former.Awaits pid
  untold : ∀ pid, former.Awaits pid → (∀ event ∈ probing, event.ended? ≠ some pid) → e.Awaits pid

namespace Probing

theorem default (h : e.Keyed) : Probing e [] e :=
  ⟨h, fun _ => rfl, fun _ hawaits => hawaits, fun _ hawaits _ => hawaits⟩

/-- Any event. -/
theorem append (h : Probing former probing e) (event : Event) :
    Probing former (probing ++ [event]) e :=
  ⟨h.keyed, h.recorded, h.awaits, fun pid hawaits hevents =>
    h.untold pid hawaits fun event hevent => hevents event (List.mem_append_left _ hevent)⟩

/-- An end that was told. -/
theorem told {event : Event} (h : Probing former probing e) (hended : event.ended? = some pid)
    (t : Termination) : Probing former (probing ++ [event]) (e.noteEnd pid t) where
  keyed := h.keyed.noteEnd pid t
  recorded other := by rw [Executor.isSome_record?_noteEnd, h.recorded other]
  awaits other hawaits := h.awaits other (Executor.awaits_noteEnd.mp hawaits).2
  untold other hawaits hevents := by
    refine Executor.awaits_noteEnd.mpr ⟨?_, h.untold other hawaits fun event hevent =>
      hevents event (List.mem_append_left _ hevent)⟩
    rintro rfl
    exact hevents event (List.mem_append_right _ (List.mem_singleton_self _)) hended

/-- **Any probe**, whatever it asks. -/
theorem awaitReady {result : Except ProcessError ReadyMarker} (hprobe : probe.Confined fun _ => True)
    (hkeyed : e.Keyed) (hrun : (awaitReady config probe pid e).Runs kernel.recorded now
      (result, e') next) : ∃ probing, next.2 = now.2 ++ probing ∧ Probing e probing e' ∧
      ∃ answer, result = answer.mapError .gate ∧
        (probe.awaitReady (.ofPid pid) config.readyTimeout (Executor.isAlive pid) e).Runs
          kernel.recorded now (answer, e') next := by
  obtain ⟨answer, hasked, hresult⟩ := runs_asking.mp hrun
  have hprobing : ∃ probing, next.2 = now.2 ++ probing ∧ Probing e probing e' := by
    refine hprobe (fun e' later => ∃ probing, later.2 = now.2 ++ probing ∧
      Probing e probing e') (fun e' => ?_) ?_ hasked ⟨[], (List.append_nil _).symm, default hkeyed⟩
    · refine OperatingSystem.keeps_recorded (fun history => ∃ probing,
        history = now.2 ++ probing ∧ Probing e probing e') ?_ ?_
      · rintro _ request answer ⟨probing, rfl, h⟩ -
        exact ⟨_, List.append_assoc _ _ _, h.append _⟩
      · rintro _ launch answer ⟨probing, rfl, h⟩ -
        exact ⟨_, List.append_assoc _ _ _, h.append _⟩
    · rintro before after world later living ⟨probing, hworld, h⟩ hrun
      obtain ⟨_, htry, -⟩ := Executor.runs_isAlive hrun
      obtain ⟨_, -, -, rfl, rfl⟩ | ⟨-, answer, hanswer, hend⟩ := Executor.runs_tryReap htry
      · exact ⟨probing, hworld, h⟩
      · refine ⟨probing ++ [.asked (.wait pid false) answer], ?_, ?_⟩
        · rw [hanswer.2, hworld, List.append_assoc]
        · cases htold : Termination.told? answer <;> rw [htold] at hend
          · rw [hend.1]
            exact h.append _
          · rw [hend.2]
            exact h.told (by simp [Event.ended?, htold]) _
  obtain ⟨probing, hnext, h⟩ := hprobing
  exact ⟨probing, hnext, h, answer, hresult, hasked⟩

end Probing

/-! ## After the probe -/

/-- Children have been collected, and nobody has been started. -/
structure Collected (pids : List Pid) (former e : Executor) (closing : List Event) : Prop where
  keyed : former.Keyed → e.Keyed
  recorded : ∀ pid, (e.record? pid).isSome = (former.record? pid).isSome
  awaits : ∀ pid, e.Awaits pid ↔ pid ∉ pids ∧ former.Awaits pid
  starts : startedIn closing = []

/-- Nothing has been collected. -/
theorem Collected.nothing (h : startedIn closing = []) : Collected [] e e closing :=
  ⟨id, fun _ => rfl, fun _ => by simp, h⟩

theorem Collected.trans {others : List Pid} {middle : Executor}
    (h : Collected pids former middle closing) (h' : Collected others middle e more) :
    Collected (pids ++ others) former e (closing ++ more) where
  keyed hkeyed := h'.keyed (h.keyed hkeyed)
  recorded pid := (h'.recorded pid).trans (h.recorded pid)
  awaits pid := by
    rw [h'.awaits, h.awaits, List.mem_append, not_or, ← and_assoc, and_comm (a := pid ∉ others)]
  starts := by rw [startedIn_append, h.starts, h'.starts, List.append_nil]

/-- **Signalling** never fails, and it signals a child that is awaited. -/
theorem collected_signal (hkernel : kernel.TellsOfChildren) {signal : Signal}
    {result : Except ProcessError Bool}
    (hrun : (Executor.signal pid signal e).Runs kernel.recorded now (result, e') next) :
    (∃ delivered, result = .ok delivered) ∧ e' = e ∧ ∃ closing, next.2 = now.2 ++ closing ∧
      startedIn closing = [] ∧
      (∀ other sent, Signalled other sent closing → other = pid ∧ sent = signal) ∧
      (e.Awaits pid → Signalled pid signal closing) := by
  obtain ⟨rfl, ⟨⟨t, ht⟩, rfl, rfl⟩ | ⟨-, answer, hanswer, hresult⟩⟩ := Executor.runs_signal hrun
  · refine ⟨⟨_, rfl⟩, rfl, [], (List.append_nil _).symm, rfl, fun other sent h => ?_, fun h => ?_⟩
    · exact absurd h not_signalled_nil
    · exact absurd h (Executor.not_awaits_of_termination? ht)
  · refine ⟨?_, rfl, _, hanswer.2, rfl, fun other sent h => ?_, fun _ => ?_⟩
    · obtain rfl | rfl := hkernel.kill hanswer.1
      · exact ⟨_, hresult⟩
      · exact ⟨_, hresult⟩
    · cases signalled_singleton.mp h
      exact ⟨rfl, rfl⟩
    · exact signalled_singleton.mpr rfl

/-- Since then there have only been waits: nobody was started, and nobody was signalled. -/
def WaitedSince (now later : World × List Event) : Prop :=
  ∃ waits, later.2 = now.2 ++ waits ∧ startedIn waits = [] ∧
    ∀ other sent, ¬Signalled other sent waits

theorem WaitedSince.refl (now : World × List Event) : WaitedSince now now :=
  ⟨[], (List.append_nil _).symm, rfl, fun _ _ => not_signalled_nil⟩

/-- One more wait. -/
theorem WaitedSince.wait {world later : World × List Event} {answer : Except Errno WaitStatus}
    (h : WaitedSince now world)
    (hanswer : kernel.recorded.answers world (.wait pid true) answer later) :
    WaitedSince now later := by
  obtain ⟨waits, hworld, hstarts, hsignals⟩ := h
  refine ⟨waits ++ [.asked (.wait pid true) answer], ?_, ?_, fun other sent => ?_⟩
  · rw [hanswer.2, hworld, List.append_assoc]
  · rw [startedIn_append, hstarts]
    rfl
  · rw [signalled_append, signalled_singleton]
    exact not_or_intro (hsignals other sent) nofun

/-- **Reaping** never fails, and signals nobody. -/
theorem collected_reap (hkernel : kernel.TellsOfChildren) {result : Except ProcessError Termination}
    (hrun : (Executor.reap pid e).Runs kernel.recorded now (result, e') next) :
    (∃ t, result = .ok t) ∧ ∃ closing, next.2 = now.2 ++ closing ∧ Collected [pid] e e' closing ∧
      ∀ other sent, ¬Signalled other sent closing := by
  obtain ⟨t, ht, rfl, rfl, rfl⟩ | ⟨-, between, collected, hbetween, hcollects, hresult⟩ :=
    Executor.runs_reap (WaitedSince now) (fun h hanswer _ => h.wait hanswer) hrun
      (WaitedSince.refl now)
  · refine ⟨⟨t, rfl⟩, [], (List.append_nil _).symm, ⟨id, fun _ => rfl, fun other => ?_, rfl⟩,
      fun _ _ => not_signalled_nil⟩
    refine ⟨fun h => ⟨?_, h⟩, And.right⟩
    rw [List.mem_singleton]
    rintro rfl
    exact Executor.not_awaits_of_termination? ht h
  · obtain ⟨answer, hanswer, ⟨t, -, rfl⟩ | ⟨cause, rfl, hinterrupted, hgone, rfl⟩⟩ := hcollects
    · obtain ⟨rfl, rfl⟩ := hresult
      obtain ⟨waits, hnext, hstarts, hsignals⟩ := hbetween.wait hanswer
      refine ⟨⟨t, rfl⟩, waits, hnext, ⟨fun h => h.noteEnd pid t,
        fun other => Executor.isSome_record?_noteEnd t, fun other => ?_, hstarts⟩, hsignals⟩
      rw [Executor.awaits_noteEnd, List.mem_singleton]
    · obtain rfl | rfl := hkernel.wait hanswer.1
      · exact absurd rfl hinterrupted
      · exact absurd rfl hgone

/-- Children have been killed: each one that was awaited was sent the signal, and nobody was
    released. -/
structure Killed (pids : List Pid) (former e : Executor) (closing : List Event) : Prop extends
    Collected pids former e closing where
  gated : ∀ pid, ¬Signalled pid .release closing
  signals : ∀ pid ∈ pids, former.Awaits pid → Signalled pid .kill closing

/-- **Killing** one child. -/
theorem killed_kill (hkernel : kernel.TellsOfChildren) {result : Except ProcessError Termination}
    (hrun : (Executor.kill pid e).Runs kernel.recorded now (result, e') next) :
    ∃ closing, next.2 = now.2 ++ closing ∧ Killed [pid] e e' closing := by
  obtain ⟨delivered, middle, between, hsignal, hreap⟩ | ⟨cause, hsignal, -⟩ :=
    Executor.runs_kill hrun
  · obtain ⟨-, rfl, signals, hbetween, hstarts, hsent, hawaits⟩ := collected_signal hkernel hsignal
    obtain ⟨-, waits, hnext, hcollected, hsilent⟩ := collected_reap hkernel hreap
    refine ⟨signals ++ waits, by rw [hnext, hbetween, List.append_assoc],
      (Collected.nothing hstarts).trans hcollected, fun other => ?_, fun other hother h => ?_⟩
    · rw [signalled_append]
      refine not_or_intro (fun h => ?_) (hsilent other _)
      exact absurd (hsent other _ h).2 nofun
    · obtain rfl := List.mem_singleton.mp hother
      exact signalled_append.mpr (.inl (hawaits h))
  · obtain ⟨⟨_, h⟩, -⟩ := collected_signal hkernel hsignal
    cases h

/-- **Killing all of them.** -/
theorem killed_abort (hkernel : kernel.TellsOfChildren) {result : Except ProcessError Unit}
    (hrun : (abort pids e).Runs kernel.recorded now (result, e') next) :
    ∃ closing, next.2 = now.2 ++ closing ∧ Killed pids e e' closing := by
  induction pids generalizing e now with
  | nil =>
    obtain ⟨-, rfl, rfl⟩ := runs_abort_nil.mp hrun
    exact ⟨[], (List.append_nil _).symm, .nothing rfl, fun _ => not_signalled_nil, nofun⟩
  | cons pid pids ih =>
    obtain ⟨_, middle, between, hkill, hrest⟩ := runs_abort_cons.mp hrun
    obtain ⟨first, hbetween, hfirst⟩ := killed_kill hkernel hkill
    obtain ⟨rest, hnext, hrest⟩ := ih hrest
    refine ⟨first ++ rest, by rw [hnext, hbetween, List.append_assoc],
      hfirst.toCollected.trans hrest.toCollected, fun other => ?_, fun other hother h => ?_⟩
    · rw [signalled_append]
      exact not_or_intro (hfirst.gated other) (hrest.gated other)
    · rw [signalled_append]
      -- whoever is not the first is still awaited once the first has been killed
      by_cases hfirstOne : other = pid
      · subst hfirstOne
        exact .inl (hfirst.signals other (List.mem_singleton_self _) h)
      · have hmiddle : middle.Awaits other :=
          (hfirst.awaits other).mpr ⟨fun h => hfirstOne (List.mem_singleton.mp h), h⟩
        exact .inr (hrest.signals other ((List.mem_cons.mp hother).resolve_left hfirstOne) hmiddle)

/-- **The cage and the grate end**, one after the other. -/
theorem collected_settle (hkernel : kernel.TellsOfChildren) {cagePid gratePid : Pid}
    {result : Except ProcessError Unit}
    (hrun : (settle cagePid gratePid e).Runs kernel.recorded now (result, e') next) :
    (∃ done, result = .ok done) ∧
      ∃ closing, next.2 = now.2 ++ closing ∧ Collected [cagePid, gratePid] e e' closing := by
  obtain ⟨_, _, released, hrelease, hrun⟩ :=
    Supervised.runs_bind_of_ok hrun fun h => (collected_signal hkernel h).1
  obtain ⟨_, cageEnded, ended, hcage, hrun⟩ :=
    Supervised.runs_bind_of_ok hrun fun h => (collected_reap hkernel h).1
  obtain ⟨_, _, stopped, hstop, hrun⟩ :=
    Supervised.runs_bind_of_ok hrun fun h => (collected_signal hkernel h).1
  obtain ⟨_, grateEnded, settled, hgrate, hrun⟩ :=
    Supervised.runs_bind_of_ok hrun fun h => (collected_reap hkernel h).1
  obtain ⟨rfl, rfl, rfl⟩ := Supervised.runs_pure.mp hrun
  obtain ⟨-, rfl, releases, hreleased, hnobody, -⟩ := collected_signal hkernel hrelease
  obtain ⟨-, cageWaits, hended, hcageEnded, -⟩ := collected_reap hkernel hcage
  obtain ⟨-, rfl, stops, hstopped, hnobody', -⟩ := collected_signal hkernel hstop
  obtain ⟨-, grateWaits, hsettled, hgrateEnded, -⟩ := collected_reap hkernel hgrate
  refine ⟨⟨_, rfl⟩, (releases ++ cageWaits) ++ (stops ++ grateWaits), ?_, ?_⟩
  · rw [hsettled, hstopped, hended, hreleased]
    simp only [List.append_assoc]
  · exact ((Collected.nothing hnobody).trans hcageEnded).trans
      ((Collected.nothing hnobody').trans hgrateEnded)

/-- What leaves processes as they are adds no start. -/
theorem starts_of_confined {α : Type} {program : Program α} {a : α}
    (hconfined : program.Confined Deed.SparesProcesses)
    (hrun : program.Runs kernel.recorded now a next) :
    ∃ closing, next.2 = now.2 ++ closing ∧ startedIn closing = [] := by
  have hkeeps : kernel.recorded.Keeps Deed.SparesProcesses fun later =>
      ∃ closing, later.2 = now.2 ++ closing ∧ startedIn closing = [] := by
    refine OperatingSystem.keeps_recorded (fun history =>
      ∃ closing, history = now.2 ++ closing ∧ startedIn closing = []) ?_ fun _ _ h => h.elim
    rintro _ request answer ⟨closing, rfl, hstarts⟩ hspares
    refine ⟨_, List.append_assoc _ _ _, ?_⟩
    rw [startedIn_append, hstarts]
    simp [startedIn, (Event.isQuiet_of_sparesProcesses answer hspares).1]
  have hstart : ∃ closing, now.2 = now.2 ++ closing ∧ startedIn closing = [] :=
    ⟨[], (List.append_nil _).symm, rfl⟩
  have hkept := hconfined.keeps hkeeps hrun hstart
  exact hkept

/-- **The end of a session**, once the probe has found the grate ready. -/
theorem collected_ends (hkernel : kernel.TellsOfChildren) {journal : JournalWriter}
    {cagePid gratePid : Pid} {marker : ReadyMarker} {result : Except ProcessError SessionReport}
    (hrun : ((do
      settle cagePid gratePid
      recordExits journal cagePid gratePid
      report config cage grate cagePid gratePid marker) e).Runs kernel.recorded now
        (result, e') next) :
    (∃ closing, next.2 = now.2 ++ closing ∧ Collected [cagePid, gratePid] e e' closing) ∧
      ((∃ reported, result = .ok reported ∧ reported.cageStates = cageStates) ∨
        ∃ failure, result = .error (.journal failure)) := by
  obtain ⟨_, settled, quiet, hsettle, hrun⟩ :=
    Supervised.runs_bind_of_ok hrun fun h => (collected_settle hkernel h).1
  obtain ⟨-, closing, hquiet, hcollected⟩ := collected_settle hkernel hsettle
  have hconfined : ((do
      recordExits journal cagePid gratePid
      report config cage grate cagePid gratePid marker) settled).Confined Deed.SparesProcesses :=
    Supervised.confined_bind confined_recordExits fun _ _ =>
      confined_report.mono fun _ => Deed.IsLook.sparesProcesses
  obtain ⟨more, hnext, hstarts⟩ := starts_of_confined hconfined hrun
  have hrest : e' = settled ∧
      ((∃ reported, result = .ok reported ∧ reported.cageStates = cageStates) ∨
        ∃ failure, result = .error (.journal failure)) := by
    obtain ⟨_, middle, between, hrecord, hreport⟩ | ⟨cause, hrecord, rfl⟩ :=
      Supervised.runs_bind.mp hrun
    · obtain ⟨hmiddle, -⟩ := runs_recordExits hrecord
      obtain ⟨hlast, reported, rfl, hstates, -⟩ := runs_report hreport
      exact ⟨hlast.trans hmiddle, .inl ⟨reported, rfl, hstates⟩⟩
    · obtain ⟨hlast, hcause⟩ := runs_recordExits hrecord
      obtain ⟨failure, rfl⟩ := hcause cause rfl
      exact ⟨hlast, .inr ⟨failure, rfl⟩⟩
  obtain ⟨rfl, hresult⟩ := hrest
  refine ⟨⟨closing ++ more, by rw [hnext, hquiet, List.append_assoc], ?_⟩, hresult⟩
  have hall := hcollected.trans (Collected.nothing hstarts)
  rwa [List.append_nil] at hall

/-! ## The whole session -/

/-- The probe was asked for a grate that had just been started, and answered. -/
def Asked (kernel : OperatingSystem World) (config : RuntimeConfig) (probe : Probe)
    (opening probing : List Event) (answer : Except GateError ReadyMarker) : Prop :=
  ∃ earlier launch gratePid e e' world between,
    opening = earlier ++ [.started launch (.ok gratePid)] ∧ e.termination? gratePid = none ∧
    (probe.awaitReady (.ofPid gratePid) config.readyTimeout (Executor.isAlive gratePid) e).Runs
      kernel.recorded (world, opening) (answer, e') (between, opening ++ probing)

/-- What a session has done by the time it returns, in three parts: up to the start of the grate,
    while the probe is asked, and from then on. -/
structure Accounts (kernel : OperatingSystem World) (config : RuntimeConfig) (probe : Probe)
    (result : Except ProcessError SessionReport) (e : Executor)
    (opening probing closing : List Event) : Prop where
  /-- Whoever was started has an end on record. -/
  ended : ∀ pid ∈ startedIn opening, (e.termination? pid).isSome
  starts : startedIn closing = []
  gated : ∀ pid, ¬Signalled pid .release opening
  /-- The probe found the grate ready; or nobody was released, and who lived was killed. -/
  handshake : (∃ marker, Asked kernel config probe opening probing (.ok marker)) ∨
    (∃ cause, result = .error cause) ∧
    (probing = [] ∨ ∃ cause, Asked kernel config probe opening probing (.error cause)) ∧
    (∀ pid, ¬Signalled pid .release closing) ∧
    ∀ pid, livingAfter opening pid = true → (∀ event ∈ probing, event.ended? ≠ some pid) →
      Signalled pid .kill closing

/-- Once everybody that was started has been collected, nobody runs. -/
theorem Collected.nobody (h : Collected pids e e' closing) (hopening : Opening pids former opening)
    (hprobing : Probing former probing e) :
    e'.running = 0 ∧ ∀ pid ∈ startedIn opening, (e'.termination? pid).isSome := by
  have hnobody (pid : Pid) : ¬e'.Awaits pid := by
    intro hlate
    obtain ⟨hnot, hawaits⟩ := (h.awaits pid).mp hlate
    have hliving := (hopening.awaits pid).mp (hprobing.awaits pid hawaits)
    exact hnot (hopening.started pid (mem_startedIn_of_livingAfter hliving))
  refine ⟨(Executor.running_eq_zero_iff (h.keyed hprobing.keyed)).mpr hnobody, fun pid hpid => ?_⟩
  refine Executor.isSome_termination?_of_not_awaits ?_ (hnobody pid)
  rw [h.recorded, hprobing.recorded]
  exact hopening.recorded pid hpid

/-- **When the two do not come together**, whoever lives is killed. -/
theorem Opening.accounts_of_abort (h : Opening pids former opening)
    (hprobing : Probing former probing e) (hkernel : kernel.TellsOfChildren)
    (hasked : probing = [] ∨ ∃ cause, Asked kernel config probe opening probing (.error cause))
    {done : Except ProcessError Unit}
    (hrun : (abort pids e).Runs kernel.recorded now (done, e') next)
    (hnow : now.2 = opening ++ probing) (cause : ProcessError) :
    e'.running = 0 ∧ ∃ closing, next.2 = opening ++ probing ++ closing ∧
      Accounts kernel config probe (.error cause) e' opening probing closing := by
  obtain ⟨closing, hnext, hkilled⟩ := killed_abort hkernel hrun
  obtain ⟨hrunning, hended⟩ := hkilled.nobody h hprobing
  rw [hnow] at hnext
  refine ⟨hrunning, closing, hnext, hended, hkilled.starts, h.gated,
    .inr ⟨⟨cause, rfl⟩, hasked, hkilled.gated, fun pid hliving huntold => ?_⟩⟩
  have hawaits := (h.awaits pid).mpr hliving
  exact hkilled.signals pid (h.started pid (mem_startedIn_of_livingAfter hliving))
    (hprobing.untold pid hawaits huntold)

/-- The same when the probe was never asked. -/
theorem Opening.accounts_unasked (h : Opening pids e now.2) (hkernel : kernel.TellsOfChildren)
    {done : Except ProcessError Unit}
    (hrun : (abort pids e).Runs kernel.recorded now (done, e') next) (cause : ProcessError) :
    e'.running = 0 ∧ ∃ opening probing closing, next.2 = opening ++ probing ++ closing ∧
      Accounts kernel config probe (.error cause) e' opening probing closing := by
  obtain ⟨hrunning, closing, hnext, haccounts⟩ := h.accounts_of_abort (.default h.keyed) hkernel
    (.inl rfl) hrun (List.append_nil _).symm cause
  exact ⟨hrunning, _, _, closing, hnext, haccounts⟩

/-- **The probe is asked** for the grate that has just been started. -/
theorem Opening.asked {gratePid : Pid} {asked : Executor} {later : World × List Event}
    {result : Except ProcessError ReadyMarker} (hprobe : probe.Confined fun _ => True)
    (h : Opening pids e now.2)
    (hstarts : Starts kernel.recorded .grate e now (.ok gratePid) e' next)
    (hready : (awaitReady config probe gratePid e').Runs kernel.recorded next (result, asked) later) :
    Opening (pids ++ [gratePid]) e' next.2 ∧ ∃ probing, later.2 = next.2 ++ probing ∧
      Probing e' probing asked ∧ ∃ answer, result = answer.mapError .gate ∧
        Asked kernel config probe next.2 probing answer := by
  obtain ⟨launch, hnext, hopening⟩ := h.starts hstarts
  obtain ⟨probing, hlater, hprobing, answer, hresult, hasked⟩ :=
    Probing.awaitReady hprobe hopening.keyed hready
  have hnew : e'.termination? gratePid = none := by
    cases hstarts with
    | started => exact (Executor.awaits_add.mpr (.inl rfl)).termination?
  refine ⟨hopening, probing, hlater, hprobing, answer, hresult, now.2, launch, gratePid, e', asked,
    next.1, later.1, hnext, hnew, ?_⟩
  rw [← hlater]
  exact hasked

/-- **Every course** of a session leaves nobody. -/
theorem Course.accounts (hkernel : kernel.TellsOfChildren) (hprobe : probe.Confined fun _ => True)
    {result : Except ProcessError SessionReport} (hnow : now.2 = [])
    (h : Course kernel.recorded config probe cage grate default now result e next) :
    e.running = 0 ∧ ∃ opening probing closing, next.2 = opening ++ probing ++ closing ∧
      Accounts kernel config probe result e opening probing closing := by
  have hfresh : Opening [] default now.2 := by
    rw [hnow]
    exact Opening.default
  cases h with
  | unprepared hprepare =>
    exact (hfresh.prepare hprepare).accounts_unasked hkernel (runs_abort_nil.mpr ⟨rfl, rfl, rfl⟩) _
  | noCage hprepare hspawn =>
    exact ((hfresh.prepare hprepare).starts_error (starts_cage hspawn)).accounts_unasked hkernel
      (runs_abort_nil.mpr ⟨rfl, rfl, rfl⟩) _
  | unarmed hprepare hspawn harms hkilled =>
    obtain ⟨_, -, hstarted⟩ := (hfresh.prepare hprepare).starts (starts_cage hspawn)
    exact (hstarted.awaitArmed harms).accounts_unasked hkernel hkilled _
  | noGrate harmed hspawn hkilled =>
    exact ((hfresh.armed harmed).starts_error (starts_grate hspawn)).accounts_unasked hkernel
      hkilled _
  | unready harmed hspawn hready hkilled =>
    obtain ⟨hopening, probing, hunready, hprobing, answer, hanswer, hasked⟩ :=
      (hfresh.armed harmed).asked hprobe (starts_grate hspawn) hready
    cases answer with
    | ok marker => cases hanswer
    | error cause =>
      obtain ⟨hrunning, closing, hnext, haccounts⟩ := hopening.accounts_of_abort hprobing hkernel
        (.inr ⟨cause, hasked⟩) hkilled hunready _
      exact ⟨hrunning, _, probing, closing, hnext, haccounts⟩
  | released harmed hspawn hready hends =>
    obtain ⟨hopening, probing, hfound, hprobing, answer, hanswer, hasked⟩ :=
      (hfresh.armed harmed).asked hprobe (starts_grate hspawn) hready
    cases answer with
    | error cause => cases hanswer
    | ok marker =>
      obtain ⟨⟨closing, hnext, hcollected⟩, -⟩ := collected_ends hkernel hends
      obtain ⟨hrunning, hended⟩ := hcollected.nobody hopening hprobing
      rw [hfound] at hnext
      exact ⟨hrunning, _, probing, closing, hnext, hended, hcollected.starts, hopening.gated,
        .inl ⟨marker, hasked⟩⟩

/-- The errors of starting a child say nothing of the states of a cage. -/
theorem Starts.ne_invalidState {os : OperatingSystem World} {role : Role} {world final : World}
    {cause : ProcessError} (h : Starts os role e world (.error cause) e' final)
    (before after : CageState) : cause ≠ .invalidState before after := by
  cases h with
  | undecided => exact nofun
  | refused image =>
    unfold Executor.spawnError
    split
    · split
      · exact nofun
      · split <;> exact nofun
    · exact nofun

/-- **No step of the cage's life fails**, and a session that is reported has gone through them all. -/
theorem Course.states (hkernel : kernel.TellsOfChildren)
    {result : Except ProcessError SessionReport}
    (h : Course kernel.recorded config probe cage grate former now result e next) :
    (∃ reported, result = .ok reported ∧ reported.cageStates = cageStates) ∨
      ∃ cause, result = .error cause ∧ ∀ before after, cause ≠ .invalidState before after := by
  have hasking {α : Type} {wait : Executor → Program (Except GateError α × Executor)}
      {cause : ProcessError} {e e' : Executor} {now next : World × List Event}
      (h : (asking wait e).Runs kernel.recorded now (.error cause, e') next)
      (before after : CageState) : cause ≠ .invalidState before after := by
    obtain ⟨_ | _, -, hcause⟩ := runs_asking.mp h <;> cases hcause
    exact nofun
  cases h with
  | unprepared hprepare =>
    refine .inr ⟨_, rfl, ?_⟩
    obtain ⟨_, _, _, -, hcreate⟩ | ⟨_, hensure, hcause⟩ := Supervised.runs_bind.mp hprepare
    · obtain ⟨-, _ | _, -, hcause⟩ := Supervised.runs_ofJournal.mp hcreate <;> cases hcause
      exact nofun
    · cases hcause
      obtain ⟨-, _ | _, -, hcause⟩ := Supervised.runs_ofGate.mp hensure <;> cases hcause
      exact nofun
  | noCage hprepare hspawn => exact .inr ⟨_, rfl, (starts_cage hspawn).ne_invalidState⟩
  | unarmed hprepare hspawn harms hkilled => exact .inr ⟨_, rfl, hasking harms⟩
  | noGrate harmed hspawn hkilled => exact .inr ⟨_, rfl, (starts_grate hspawn).ne_invalidState⟩
  | unready harmed hspawn hready hkilled => exact .inr ⟨_, rfl, hasking hready⟩
  | released harmed hspawn hready hends =>
    obtain ⟨-, hreported | ⟨failure, hfailure⟩⟩ := collected_ends hkernel hends
    · exact .inl hreported
    · exact .inr ⟨_, hfailure, nofun⟩

/-- **A session leaves nobody behind**, and releases nobody before the grate is ready. -/
theorem run_leaves_nobody (hkernel : kernel.TellsOfChildren) (hprobe : probe.Confined fun _ => True)
    {world final : World} {result : Except ProcessError SessionReport}
    (hrun : (run config probe cage grate default).Runs kernel.recorded (world, []) (result, e)
      (final, history)) :
    e.running = 0 ∧
      (∀ reported, result = .ok reported →
        reported.cageStates = [.created, .waitingForSignal, .running, .exited]) ∧
      (∀ before after, result ≠ .error (.invalidState before after)) ∧
      ∃ opening probing closing, history = opening ++ probing ++ closing ∧
        Accounts kernel config probe result e opening probing closing := by
  have hcourse := course_of_run hrun
  obtain ⟨hrunning, opening, probing, closing, hhistory, haccounts⟩ :=
    hcourse.accounts hkernel hprobe rfl
  refine ⟨hrunning, ?_, ?_, opening, probing, closing, hhistory, haccounts⟩
  · rintro reported rfl
    obtain ⟨_, heq, hstates⟩ | ⟨_, heq, -⟩ := hcourse.states hkernel <;> cases heq
    exact hstates
  · rintro before after rfl
    obtain ⟨_, heq, -⟩ | ⟨_, heq, hne⟩ := hcourse.states hkernel <;> cases heq
    exact hne before after rfl

/-! ### A grate that never becomes ready -/

/-- A system on which the cage arms, and no ready marker is ever found.  The world is the clock, and
    a child lives until it is waited for. -/
def silentGrate : Respondent Nat where
  answer clock
    | .now => some (clock, clock + 10000000000)
    | .sleep _ => some ((), clock)
    | .createFile _ => some (.ok ⟨3⟩, clock)
    | .openAppending _ => some (.ok ⟨3⟩, clock)
    | .close _ => some ((), clock)
    | .makeDirectory _ => some (.ok (), clock)
    | .pathExists _ => some (true, clock)
    | .readFile _ => some (.error (.os .enoent), clock)
    | .kill _ _ => some (.ok (), clock)
    | .wait _ block => some (.ok (if block then .signaled .kill false else .alive), clock)
    | _ => none
  start clock _ _ _ := some (.ok (Int32.ofNat (clock % 1000 + 7)), clock + 1)

theorem silentGrate_tellsOfChildren : silentGrate.system.TellsOfChildren where
  kill hanswer := by
    cases hanswer
    exact .inl rfl
  wait hanswer := nomatch hanswer

/-- A session that gives up on a grate has killed and collected both children. -/
theorem run_leaves_nobody_silent_grate :
    silentGrate.system.TellsOfChildren ∧
    (Probe.marker ⟨plainConfig.rendezvousDir⟩).Confined (fun _ => True) ∧
    ∃ result e final history,
      (run plainConfig (.marker ⟨plainConfig.rendezvousDir⟩) ⟨.ofText "cage", []⟩
        ⟨.ofText "grate", []⟩ default).Runs silentGrate.system.recorded (0, []) (result, e)
          (final, history) ∧
      e.running = 0 ∧
      (∀ reported, result = .ok reported →
        reported.cageStates = [.created, .waitingForSignal, .running, .exited]) ∧
      (∀ before after, result ≠ .error (.invalidState before after)) ∧
      ∃ opening probing closing, history = opening ++ probing ++ closing ∧
        Accounts silentGrate.system plainConfig (.marker ⟨plainConfig.rendezvousDir⟩) result e
          opening probing closing := by
  have hprobe : (Probe.marker ⟨plainConfig.rendezvousDir⟩).Confined fun _ => True :=
    Probe.confined_marker.mono fun _ _ => trivial
  have hplay : ((run plainConfig (.marker ⟨plainConfig.rendezvousDir⟩) ⟨.ofText "cage", []⟩
      ⟨.ofText "grate", []⟩ default).play silentGrate 4 0).isSome = true := by
    decide +kernel
  obtain ⟨⟨⟨result, e⟩, final⟩, hplay⟩ := Option.isSome_iff_exists.mp hplay
  obtain ⟨history, hrun⟩ := OperatingSystem.runs_recorded
    (Program.runs_of_play hplay) []
  exact ⟨silentGrate_tellsOfChildren, hprobe, result, e, final, history, hrun,
    run_leaves_nobody silentGrate_tellsOfChildren hprobe hrun⟩

end Session

end Interposition
