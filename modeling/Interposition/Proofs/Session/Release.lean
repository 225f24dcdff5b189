/-
  What a report says of the cage's release.

  A session that is reported says that its cage was released and ran.  The loader says so once it has
  tried to release the cage, whatever has come of that: the cage may have given up at its gate by
  then, or have ended, and an ended child that nobody has collected takes any signal.

  1. **What the loader keeps** (`keeps_of_move`): whatever moves keep and other signals keep, the
     loader keeps but for the release itself.

  2. **The stages of a session** (`came_of_run`): the cage is shut in until its release, whose end is
     then one of three (`Came`).

  3. **The report** (`reported_running_whatever_the_gate`): it names all the states of a cage's life.
     The gate opened only if the release came in time, and else the cage made no call.  So a cage is
     reported to have run that was never released (`running_does_not_mean_released`).
-/
import Interposition.Proofs.CommandLine.Places
import Interposition.Proofs.Host.Alone
import Interposition.Proofs.Host.Playing
import Interposition.Proofs.Process.Records
import Interposition.Proofs.Session.Course
import Interposition.Proofs.Session.Scenes

namespace Interposition

/-- A deed that is no release. -/
def Deed.ReleasesNobody : Deed → Prop
  | asks (.kill _ signal) => signal ≠ .release
  | _ => True

theorem Deed.IsLook.releasesNobody {deed : Deed} (h : deed.IsLook) : deed.ReleasesNobody := by
  cases deed with
  | asks request => cases request <;> first | exact trivial | exact h.elim
  | starts launch => exact h.elim
  | goesOn => exact h.elim

namespace Session

open CommandLine (CageArguments)
open Gate (Opened TurnedAway)
open Program (Follows)

variable {pid target : Pid} {s next : Scene} {e e' : Executor}

/-! ## The loader -/

theorem Moves.keeps {holds : Scene → Prop}
    (hmove : ∀ {s next}, Move s next → holds s → holds next) (h : Moves s next) (hs : holds s) :
    holds next := by
  induction h with
  | refl => exact hs
  | tail _ hlast ih => exact hmove hlast ih

/-- **What moves keep and signals keep** that are no release, the loader keeps while there is a cage,
    but for the release. -/
theorem keeps_of_move {holds : Scene → Prop} (hcage : ∀ {s}, holds s → s.cage.isSome)
    (hmove : ∀ {s next}, Move s next → holds s → holds next)
    (hsent : ∀ {s signal}, signal ≠ .release → holds s → ∀ taken, holds (s.sent signal taken)) :
    (releasing pid).Keeps Deed.ReleasesNobody holds where
  answers {s next r answer} h hdeed hanswer := by
    obtain ⟨between, hreplies, hmoves⟩ := hanswer
    refine hmoves.keeps hmove ?_
    cases r with
    | kill target signal =>
      obtain rfl : between = _ := hreplies
      split
      · exact hsent hdeed h _
      · exact h
    | wait target block =>
      obtain ⟨-, rfl⟩ := hreplies
      exact h
    | _ =>
      obtain rfl : between = s := hreplies
      exact h
  spawns {s next launch hooked setup answer} h _ hspawns := by
    obtain ⟨between, hbegins, hmoves⟩ := hspawns
    refine hmoves.keeps hmove ?_
    cases answer with
    | error cause =>
      obtain rfl : between = s := hbegins
      exact h
    | ok started =>
      obtain ⟨hnone, -⟩ | ⟨-, -, rfl⟩ := hbegins
      · have hsome := hcage h
        rw [hnone] at hsome
        contradiction
      · exact h

theorem keeps_came : (releasing pid).Keeps Deed.ReleasesNobody Came :=
  keeps_of_move (fun h => h.staged.isSome_cage) Came.move Came.sent

/-- The cage has not been released, and if its end is on record it has ended. -/
structure Watched (pid : Pid) (e : Executor) (s : Scene) : Prop where
  shut : Shut [] s
  told : ∀ t, e.termination? pid = some t → s.Over

namespace Watched

theorem move (hmove : Move s next) (h : Watched pid e s) : Watched pid e next :=
  ⟨h.shut.move hmove, fun t ht => hmove.stays_over (h.told t ht)⟩

theorem keeps (pid : Pid) (e : Executor) :
    (releasing pid).Keeps Deed.ReleasesNobody (Watched pid e) :=
  keeps_of_move (fun h => h.shut.staged.isSome_cage) move fun hsignal h taken =>
    ⟨h.shut.sent hsignal taken, fun t ht => (h.told t ht).sent _ taken⟩

theorem looks (pid : Pid) (e : Executor) : (releasing pid).Keeps Deed.IsLook (Watched pid e) :=
  (keeps pid e).mono fun _ => Deed.IsLook.releasesNobody

/-- Asking for a child, whoever it is, puts no other end on record. -/
theorem isAlive {living : Bool} (h : Watched pid e s)
    (hrun : (Executor.isAlive target e).Runs (releasing pid) s (living, e') next) :
    Watched pid e' next := by
  obtain ⟨_, htry, -⟩ := Executor.runs_isAlive hrun
  obtain ⟨_, -, -, rfl, rfl⟩ | ⟨-, answer, hanswer, hend⟩ := Executor.runs_tryReap htry
  · exact h
  · have hnext : Watched pid e next := (keeps pid e).answers (r := .wait target false) h trivial hanswer
    cases htold : Termination.told? answer with
    | none =>
      rw [htold] at hend
      rw [hend.1]
      exact hnext
    | some t =>
      rw [htold] at hend
      rw [hend.2]
      refine ⟨hnext.shut, fun t' ht' => ?_⟩
      rcases Executor.termination?_noteEnd ht' with rfl | hbefore
      · obtain ⟨between, ⟨hover, rfl⟩, hmoves⟩ := hanswer
        exact hmoves.keeps Move.stays_over (hover rfl (by rw [htold]; rfl))
      · exact hnext.told t' hbefore

end Watched

variable {config : RuntimeConfig} {probe : Probe} {cage grate : ImageSpec} {cagePid gratePid : Pid}
  {journal : JournalWriter} {marker : ReadyMarker}

/-- Before there is a cage nothing happens to it. -/
theorem keeps_nobody : (releasing pid).Keeps Deed.IsPreparation (· = ⟨none, []⟩) where
  answers {s next r answer} h hdeed hanswer := by
    have hmove {s next : Scene} (hmove : Move s next) (h : s = ⟨none, []⟩) : next = ⟨none, []⟩ := by
      obtain rfl := h
      cases hmove with
      | acts hcage => cases hcage
      | ends hcage => cases hcage
    obtain ⟨between, hreplies, hmoves⟩ := hanswer
    have hbetween : between = ⟨none, []⟩ := by
      cases r <;> first | exact hdeed.elim | exact Eq.trans hreplies h
    have hnext := hmoves.keeps hmove hbetween
    exact hnext
  spawns _ hdeed := hdeed.elim

/-- **The cage is started**, and waits to be released. -/
theorem watched_of_runs_spawnCage
    (hrun : (spawnCage config cage e).Runs (releasing pid) ⟨none, []⟩ (.ok cagePid, e') next) :
    cagePid = pid ∧ Watched pid e' next := by
  unfold spawnCage LaunchSettings.toEnvironment at hrun
  cases hdocument : LaunchSettings.document (CageLaunch.mk true config) with
  | error cause =>
    simp only [hdocument] at hrun
    obtain ⟨_, _, _, hdecided, -⟩ | ⟨_, -, heq⟩ := Supervised.runs_bind.mp hrun
    · cases (Supervised.runs_decided.mp hdecided).1
    · cases heq
  | ok json =>
    simp only [hdocument, Supervised.decided_bind] at hrun
    obtain ⟨_ | started, ⟨between, hbegins, hmoves⟩, hanswer⟩ := Executor.runs_spawn hrun
    · cases hanswer.1
    · obtain ⟨heq, rfl⟩ := hanswer
      cases heq
      obtain ⟨-, rfl, child, hstarts, rfl⟩ | ⟨hsome, -⟩ := hbegins
      · refine ⟨rfl, hmoves.keeps Watched.move ⟨⟨?_, ?_, nofun, rfl⟩, fun t ht => ?_⟩⟩
        · refine ⟨child, _, rfl, ?_, .nothing⟩
          rw [hstarts.launch_eq]
          exact Gate.gated_cage fun _ => CageArguments.isGated_of_ofWords
        · rintro _ ⟨⟩
          exact hstarts.kept _
        · exact absurd rfl (Executor.termination?_add ht).1
      · cases hsome

/-- The grate is started. -/
theorem Watched.starts {role : Role} {started : Pid} (h : Watched pid e s)
    (hstarts : Starts (releasing pid) role e s (.ok started) e' next) : Watched pid e' next := by
  cases hstarts with
  | started image hspawns =>
    have hnext := (keeps pid e).spawns h trivial hspawns
    exact ⟨hnext.shut, fun t ht => hnext.told t (Executor.termination?_add ht).2⟩

/-- **The loader releases the cage**, if it has not been told of its end. -/
theorem came_of_runs_signal {result : Except ProcessError Bool} (h : Watched pid e s)
    (hrun : (Executor.signal pid .release e).Runs (releasing pid) s (result, e') next) :
    Came next := by
  obtain ⟨-, ⟨⟨t, ht⟩, -, rfl⟩ | ⟨-, answer, ⟨between, hreplies, hmoves⟩, -⟩⟩ :=
    Executor.runs_signal hrun
  · exact .unsent h.shut (h.told t ht)
  · obtain rfl : between = s.sent .release answer.toBool := Eq.trans hreplies (if_pos rfl)
    exact hmoves.keeps Came.move (h.shut.came _)

/-- The rest of both lives releases nobody. -/
theorem came_of_runs_settle {result : Except ProcessError Unit} (h : Watched pid e s)
    (hrun : (settle pid gratePid e).Runs (releasing pid) s (result, e') next) : Came next := by
  obtain ⟨_, middle, between, hsignal, hrest⟩ | ⟨_, hsignal, -⟩ := Supervised.runs_bind.mp hrun
  · have hconfined : ((do
        let _ ← Executor.reap pid
        let _ ← Executor.signal gratePid .stopping
        let _ ← Executor.reap gratePid : Supervised Unit) middle).Confined Deed.ReleasesNobody := by
      refine Supervised.confined_bind (Executor.confined_reap trivial) fun _ _ => ?_
      refine Supervised.confined_bind (Executor.confined_signal nofun) fun _ _ => ?_
      exact Supervised.confined_bind (Executor.confined_reap trivial) fun _ _ => trivial
    have hnext := hconfined.keeps keeps_came hrest (came_of_runs_signal h hsignal)
    exact hnext
  · exact came_of_runs_signal h hsignal

/-- **A session that is reported** says that the cage ran, and here is what came of its release. -/
theorem came_of_run (hprobe : probe.Confined Deed.IsLook) {reported : SessionReport} {final : Scene}
    (hrun : (run config probe cage grate e).Runs (releasing pid) ⟨none, []⟩ (.ok reported, e')
      final) : reported.cageStates = cageStates ∧ Came final := by
  cases course_of_run hrun with
  | released harmed hspawn hready hends =>
    obtain ⟨hprepare, hcage, harms⟩ := harmed
    obtain rfl := confined_prepare.keeps keeps_nobody hprepare rfl
    obtain ⟨rfl, hwatched⟩ := watched_of_runs_spawnCage hcage
    have harmed := keeps_awaitArmed (Watched _) (Watched.looks _) Watched.isAlive harms hwatched
    have hstarted := harmed.starts (starts_grate hspawn)
    have hfound := keeps_awaitReady hprobe (Watched _) (Watched.looks _) Watched.isAlive hready
      hstarted
    obtain ⟨_, _, settled, hsettle, hrest⟩ | ⟨_, -, heq⟩ := Supervised.runs_bind.mp hends
    · have hcame := came_of_runs_settle hfound hsettle
      obtain ⟨_, later, recorded, hrecord, hreport⟩ | ⟨_, -, heq⟩ := Supervised.runs_bind.mp hrest
      · have hrecorded := (confined_recordExits_of fun _ => trivial).keeps keeps_came hrecord hcame
        have hreported := (confined_report.mono fun _ => Deed.IsLook.releasesNobody).keeps
          keeps_came hreport hrecorded
        obtain ⟨-, _, heq, hstates, -⟩ := runs_report hreport
        cases heq
        exact ⟨hstates, hreported⟩
      · cases heq
    · cases heq

/-- The gate opened only if the release came in time. -/
theorem Came.opened (h : Came s) (hopened : Opened (doneIn s.past)) :
    ∃ before after, s.past = before ++ .released true :: after ∧ ¬Opened (doneIn before) ∧
      ¬TurnedAway (doneIn before) := by
  cases h with
  | unsent shut => exact absurd hopened shut.closed
  | missed shut => exact absurd hopened shut.closed
  | reached _ past _ closed late => exact ⟨_, _, past, closed, fun haway => late haway hopened⟩

/-- At most one release is sent, and none only if the cage has ended. -/
theorem Came.releases (h : Came s) :
    releasesIn s.past = [] ∧ s.Over ∨ ∃ reached, releasesIn s.past = [reached] := by
  cases h with
  | unsent shut ended => exact .inl ⟨shut.releases, ended⟩
  | missed shut => exact .inr ⟨_, shut.releases⟩
  | reached _ _ once => exact .inr ⟨_, once⟩

/-! ## The report -/

/-- **Every report says that the cage ran**, whatever its gate has done.  The release is sent once, or
    the cage has ended before; the gate has opened only if the release reached the cage before it was
    turned away; and a cage whose gate has not opened has made no call, and nothing else that a
    released cage may do. -/
theorem reported_running_whatever_the_gate (hprobe : probe.Confined Deed.IsLook)
    {reported : SessionReport} {final : Scene}
    (hrun : (run config probe cage grate e).Runs (releasing pid) ⟨none, []⟩ (.ok reported, e')
      final) :
    reported.cageStates = [.created, .waitingForSignal, .running, .exited] ∧
    (releasesIn final.past = [] ∧ final.Over ∨ ∃ reached, releasesIn final.past = [reached]) ∧
    (Opened (doneIn final.past) →
      ∃ before after, final.past = before ++ .released true :: after ∧ ¬Opened (doneIn before) ∧
        ¬TurnedAway (doneIn before)) ∧
    (¬Opened (doneIn final.past) →
      ∀ event ∈ doneIn final.past, event.deed.IsHeld ∨ event.gate? = some false) := by
  obtain ⟨hstates, hcame⟩ := came_of_run hprobe hrun
  refine ⟨hstates, hcame.releases, hcame.opened, fun hclosed => ?_⟩
  obtain ⟨child, rest, -, hcage, htrace⟩ := hcame.staged
  exact (hcage.stage htrace).held_of_not_opened hclosed

/-! ### A cage that gives up -/

/-- A cage by itself, as far as its gate goes. -/
def cageSystem : OperatingSystem Scene where
  answers s request answer next := ∃ child changed, s.cage = some child ∧ child.ended = false ∧
    After (.asked request answer) child changed ∧
      next = ⟨some changed, s.past ++ [.cage (.asked request answer)]⟩
  spawns s launch _ _ answer next := ∃ child changed, s.cage = some child ∧ child.ended = false ∧
    After (.started launch answer) child changed ∧
      next = ⟨some changed, s.past ++ [.cage (.started launch answer)]⟩

/-- What it does by itself are moves. -/
theorem moves_of_reaches {args : List String} {rest rest' : Program Int32}
    (h : rest.Reaches cageSystem s rest' next)
    (hcage : ∀ child, s.cage = some child → child.launch.args = args)
    (htrace : (Programs.cage args).Follows (doneIn s.past) rest) : Moves s next := by
  induction h with
  | here => exact .refl
  | step hstep _ ih =>
    cases hstep with
    | round => exact ih hcage htrace.round
    | ask hanswer =>
      obtain ⟨child, changed, hchild, hlives, hafter, rfl⟩ := hanswer
      obtain rfl := hcage child hchild
      refine .head (.acts hchild hlives htrace (.asked _) hafter) (ih ?_ ?_)
      · rintro _ ⟨⟩
        rw [hafter.launch]
      · rw [doneIn_snoc]
        exact htrace.does (.asked _)
    | spawn hanswer =>
      obtain ⟨child, changed, hchild, hlives, hafter, rfl⟩ := hanswer
      obtain rfl := hcage child hchild
      refine .head (.acts hchild hlives htrace (.started _) hafter) (ih ?_ ?_)
      · rintro _ ⟨⟩
        rw [hafter.launch]
      · rw [doneIn_snoc]
        exact htrace.does (.started _)

/-- What a cage is answered that gets all it asks for but its release. -/
def unreleasedAnswer : (request : Request) → Option request.Answer
  | .identity => some ⟨0, 0, 7⟩
  | .environment => some []
  | .freshName => some "0"
  | .createFile _ => some (.ok ⟨3⟩)
  | .write _ bytes => some (.ok bytes.length)
  | .close _ => some ()
  | .rename _ _ => some (.ok ())
  | .makeDirectory _ => some (.ok ())
  | .dispose _ _ => some ()
  | .awaitSignal _ _ => some false
  | _ => none

/-- The cage after such an answer. -/
def unreleasedAfter (request : Request) (child : Child) : Child :=
  match request with
  | .dispose signal disposition => child.dispose signal disposition
  | _ => child

/-- A cage that gets no release, by itself. -/
def unreleased : Respondent Scene where
  answer s request := do
    let child ← s.cage
    if child.ended then none
    else
      let answer ← unreleasedAnswer request
      return (answer, ⟨some (unreleasedAfter request child), s.past ++ [.cage (.asked request answer)]⟩)
  start _ _ _ _ := none

theorem unreleased_within : unreleased.system.Within cageSystem where
  answers {s request answer next} hanswer := by
    obtain ⟨child, hcage, hanswer⟩ := Option.bind_eq_some_iff.mp hanswer
    split at hanswer
    · contradiction
    · next hlives =>
      obtain ⟨given, hgiven, hanswer⟩ := Option.bind_eq_some_iff.mp hanswer
      cases hanswer
      refine ⟨child, _, hcage, by simpa using hlives, ?_, rfl⟩
      cases request <;> cases hgiven <;> rfl
  spawns hstart := nomatch hstart

/-- The scene once the cage has lived without a release, if it has done nothing so far. -/
def livedOut (s : Scene) : Scene :=
  match s.cage with
  | none => s
  | some child =>
    if s.past.isEmpty then
      match (Programs.cage child.launch.args).play unreleased 4 s with
      | some (_, last) => ⟨last.cage.map fun child => { child with ended := true }, last.past⟩
      | none => s
    else s

theorem moves_livedOut (s : Scene) : Moves s (livedOut s) := by
  unfold livedOut
  split
  · exact .refl
  · next child hcage =>
    split
    · next hempty =>
      split
      · next status last hplay =>
        have hreaches := ((Program.runs_of_play hplay).within unreleased_within).reaches
        have hpast : s.past = [] := List.isEmpty_iff.mp hempty
        have hlived : Moves s last := by
          have hsame (other : Child) (hother : s.cage = some other) :
              other.launch.args = child.launch.args := by
            cases hcage.symm.trans hother
            rfl
          refine moves_of_reaches hreaches hsame ?_
          rw [hpast]
          exact .nothing
        cases hlast : last.cage with
        | none =>
          obtain ⟨cage, past⟩ := last
          obtain rfl : cage = none := hlast
          exact hlived
        | some child => exact hlived.tail (.ends hlast)
      · exact .refl
    · exact .refl

/-- The marker of a grate 8 that serves cage 7, and has registered nothing. -/
def readyBytes : List UInt8 :=
  Utf8.ofText (toJson (ReadyMarker.mk (.ofPid 8) (.ofPid 7) [])).compact

/-- A system on which process 7 is a cage that arms, gives up and ends before anybody looks at it, and
    process 8 a grate that is ready. -/
def tooLate : Respondent Scene where
  answer s
    | .now => some (0, s)
    | .createFile _ => some (.ok ⟨3⟩, s)
    | .openAppending _ => some (.ok ⟨3⟩, s)
    | .write _ bytes => some (.ok bytes.length, s)
    | .close _ => some ((), s)
    | .makeDirectory _ => some (.ok (), s)
    | .pathExists _ => some (true, livedOut s)
    | .readFile path => some (
        if path = (Rendezvous.mk plainConfig.rendezvousDir).outcomePath (.ofPid 7)
        then .error (.os .enoent) else .ok readyBytes, s)
    | .kill target signal => some (.ok (), if target = 7 then s.sent signal true else s)
    | .wait _ _ => some (if s.cage.any Child.ended then .ok (.exited 1) else .error .eintr, s)
    | _ => none
  start s launch _ _ := some (match s.cage with
    | none => (.ok 7, ⟨some ⟨launch, fun _ => .default, fun _ => false, false⟩, s.past⟩)
    | some _ => (.ok 8, s))

theorem tooLate_within : tooLate.system.Within (releasing 7) where
  answers {s request answer next} hanswer := by
    cases request
    case kill target signal =>
      cases hanswer
      exact ⟨_, rfl, .refl⟩
    case pathExists path =>
      cases hanswer
      exact ⟨s, rfl, moves_livedOut s⟩
    case wait target block =>
      cases hanswer
      refine ⟨s, ⟨fun _ htold => ?_, rfl⟩, .refl⟩
      split at htold
      · next hended => exact (Option.any_eq_true _ _).mp hended
      · contradiction
    all_goals cases hanswer
    all_goals exact ⟨s, rfl, .refl⟩
  spawns {s next launch hooked setup answer} hstart := by
    simp only [Respondent.system, tooLate, Option.some.injEq] at hstart
    split at hstart <;> cases hstart
    · next hnone =>
      exact ⟨_, .inl ⟨hnone, rfl, _, ⟨rfl, fun _ => Disposition.noConfusion, fun _ => rfl, rfl⟩, rfl⟩,
        .refl⟩
    · next hsome =>
      exact ⟨s, .inr ⟨by rw [hsome]; rfl, fun h => absurd h (by decide), rfl⟩, .refl⟩

/-- A session of the two. -/
def belated : Supervised SessionReport :=
  run plainConfig (.marker ⟨plainConfig.rendezvousDir⟩) ⟨.ofText "cage", []⟩ ⟨.ofText "grate", []⟩

/-- Its release finds the cage ended, and turned away before; the session is reported all the same. -/
theorem runs_belated : ∃ reported e final,
    (belated default).Runs (releasing 7) ⟨none, []⟩ (.ok reported, e) final ∧
      .running ∈ reported.cageStates ∧ releasesIn final.past = [false] ∧
        TurnedAway (doneIn final.past) ∧ ¬Opened (doneIn final.past) := by
  have hplay : ((belated default).play tooLate 4 ⟨none, []⟩).any (fun outcome =>
      match outcome.1.1 with
      | .ok reported => .running ∈ reported.cageStates && releasesIn outcome.2.past = [false] &&
          (∃ event ∈ doneIn outcome.2.past, event.gate? = some false) &&
            ∀ event ∈ doneIn outcome.2.past, event.gate? ≠ some true
      | .error _ => false) = true := by
    decide +kernel
  obtain ⟨⟨⟨result, e⟩, final⟩, hplay, hok⟩ := (Option.any_eq_true _ _).mp hplay
  cases result with
  | error cause => contradiction
  | ok reported =>
    simp only [Bool.and_eq_true, decide_eq_true_eq] at hok
    obtain ⟨⟨⟨hrunning, hreleases⟩, haway⟩, hclosed⟩ := hok
    refine ⟨reported, e, final, (Program.runs_of_play hplay).within tooLate_within, hrunning,
      hreleases, haway, ?_⟩
    rintro ⟨event, hevent, hgate⟩
    exact hclosed event hevent hgate

/-- The report of such a session, and what came of its release. -/
theorem reported_running_of_cage_turned_away :
    (Probe.marker ⟨plainConfig.rendezvousDir⟩).Confined Deed.IsLook ∧ ∃ reported e final,
    (run plainConfig (.marker ⟨plainConfig.rendezvousDir⟩) ⟨.ofText "cage", []⟩
      ⟨.ofText "grate", []⟩ default).Runs (releasing 7) ⟨none, []⟩ (.ok reported, e) final ∧
    reported.cageStates = [.created, .waitingForSignal, .running, .exited] ∧
    (∃ reached, releasesIn final.past = [reached]) ∧
    ∀ event ∈ doneIn final.past, event.deed.IsHeld ∨ event.gate? = some false := by
  obtain ⟨reported, e, final, hrun, -, hreleases, -, hclosed⟩ := runs_belated
  obtain ⟨hstates, -, -, hheld⟩ := reported_running_whatever_the_gate Probe.confined_marker hrun
  exact ⟨Probe.confined_marker, reported, e, final, hrun, hstates, ⟨false, hreleases⟩, hheld hclosed⟩

/-- **Running does not mean released**: the gate of a cage that is reported to have run may have stayed
    shut. -/
theorem running_does_not_mean_released : ¬∀ reported e final,
    (run plainConfig (.marker ⟨plainConfig.rendezvousDir⟩) ⟨.ofText "cage", []⟩
      ⟨.ofText "grate", []⟩ default).Runs (releasing 7) ⟨none, []⟩ (.ok reported, e) final →
    .running ∈ reported.cageStates → Opened (doneIn final.past) := by
  intro h
  obtain ⟨reported, e, final, hrun, hrunning, -, -, hclosed⟩ := runs_belated
  exact hclosed (h reported e final hrun hrunning)

end Session

end Interposition
