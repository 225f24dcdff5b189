/-
  Runs of programs that manage processes.

  Such a program may fail, and it keeps records; both are parts of the value it comes to.  With one
  lemma for each way to put programs together, and one for each operation of the executor, no later
  proof has to open either.

  1. **Putting together** (`Supervised.runs_bind` and the lemmas after it): a run of two programs is
     a run of the first that fails, or one that succeeds and then a run of the second.

  2. **Operations** (`runs_spawn`, `runs_signal`, `runs_tryReap`, `runs_reap`): what each asks, and
     what it makes of the answer.  One that finds the end of its child on record asks nothing.
-/
import Interposition.Proofs.Process.History
import Interposition.Proofs.Process.Records

namespace Interposition

variable {World : Type} {os : OperatingSystem World} {world final : World} {e e' : Executor}
  {α β : Type}

/-! ## Putting together -/

namespace Supervised

/-- **Sequencing**: the first program fails, or it succeeds and the second goes on. -/
theorem runs_bind {program : Supervised α} {next : α → Supervised β}
    {result : Except ProcessError β} :
    ((program >>= next) e).Runs os world (result, e') final ↔
      (∃ a middle between, (program e).Runs os world (.ok a, middle) between ∧
        (next a middle).Runs os between (result, e') final) ∨
      ∃ cause, (program e).Runs os world (.error cause, e') final ∧ result = .error cause := by
  refine Program.runs_bind.trans ?_
  constructor
  · rintro ⟨⟨_ | a, middle⟩, between, hfirst, hrest⟩
    · obtain ⟨heq, rfl⟩ := hrest
      cases heq
      exact .inr ⟨_, hfirst, rfl⟩
    · exact .inl ⟨a, middle, between, hfirst, hrest⟩
  · rintro (⟨a, middle, between, hfirst, hrest⟩ | ⟨cause, hfirst, rfl⟩)
    · exact ⟨_, between, hfirst, hrest⟩
    · exact ⟨_, final, hfirst, rfl, rfl⟩

/-- One program after another that never fails. -/
theorem runs_bind_of_ok {program : Supervised α} {next : α → Supervised β}
    {result : Except ProcessError β}
    (h : ((program >>= next) e).Runs os world (result, e') final)
    (hok : ∀ {result e' between}, (program e).Runs os world (result, e') between →
      ∃ a, result = .ok a) :
    ∃ a middle between, (program e).Runs os world (.ok a, middle) between ∧
      (next a middle).Runs os between (result, e') final := by
  obtain hfirst | ⟨cause, hfirst, -⟩ := runs_bind.mp h
  · exact hfirst
  · obtain ⟨a, ha⟩ := hok hfirst
    cases ha

theorem runs_pure {a : α} {result : Except ProcessError α} :
    ((pure a : Supervised α) e).Runs os world (result, e') final ↔
      result = .ok a ∧ e' = e ∧ final = world := by
  refine Program.runs_pure.trans ?_
  rw [Prod.mk.injEq, and_assoc]

theorem runs_throw {cause : ProcessError} {result : Except ProcessError α} :
    ((throw cause : Supervised α) e).Runs os world (result, e') final ↔
      result = .error cause ∧ e' = e ∧ final = world := by
  refine Program.runs_pure.trans ?_
  rw [Prod.mk.injEq, and_assoc]

/-- A program that says the same in other words. -/
theorem runs_bind_pure {program : Supervised α} {f : α → β} {result : Except ProcessError β} :
    ((do return f (← program) : Supervised β) e).Runs os world (result, e') final ↔
      ∃ told, (program e).Runs os world (told, e') final ∧ result = told.map f := by
  rw [runs_bind]
  constructor
  · rintro (⟨a, middle, between, hrun, hpure⟩ | ⟨cause, hrun, rfl⟩)
    · obtain ⟨rfl, rfl, rfl⟩ := runs_pure.mp hpure
      exact ⟨.ok a, hrun, rfl⟩
    · exact ⟨.error cause, hrun, rfl⟩
  · rintro ⟨_ | a, hrun, rfl⟩
    · exact .inr ⟨_, hrun, rfl⟩
    · exact .inl ⟨a, e', final, hrun, runs_pure.mpr ⟨rfl, rfl, rfl⟩⟩

theorem runs_decided {decided result : Except ProcessError α} :
    ((ExceptT.mk (pure decided) : Supervised α) e).Runs os world (result, e') final ↔
      result = decided ∧ e' = e ∧ final = world := by
  refine Program.runs_pure.trans ?_
  rw [Prod.mk.injEq, and_assoc]

theorem decided_bind {a : α} {next : α → Supervised β} :
    (ExceptT.mk (pure (.ok a)) : Supervised α) >>= next = next a := rfl

theorem runs_attempt {program : Supervised α} {result : Except ProcessError α} :
    (attempt program e).Runs os world (.ok result, e') final ↔
      (program e).Runs os world (result, e') final := by
  refine Program.runs_bind.trans ?_
  constructor
  · rintro ⟨⟨outcome, after⟩, between, hrun, heq, rfl⟩
    cases heq
    exact hrun
  · intro hrun
    exact ⟨_, final, hrun, rfl, rfl⟩

/-- What comes after an attempt goes on whatever has come of it. -/
theorem runs_attempt_bind {program : Supervised α} {next : Except ProcessError α → Supervised β}
    {result : Except ProcessError β} :
    ((attempt program >>= next) e).Runs os world (result, e') final ↔
      ∃ outcome middle between, (program e).Runs os world (outcome, middle) between ∧
        (next outcome middle).Runs os between (result, e') final := by
  rw [runs_bind]
  constructor
  · rintro (⟨outcome, middle, between, hattempt, hrest⟩ | ⟨cause, hattempt, -⟩)
    · exact ⟨outcome, middle, between, runs_attempt.mp hattempt, hrest⟩
    · -- an attempt does not fail
      obtain ⟨_, _, -, heq, -⟩ := Program.runs_bind.mp hattempt
      cases heq
  · rintro ⟨outcome, middle, between, hrun, hrest⟩
    exact .inl ⟨outcome, middle, between, runs_attempt.mpr hrun, hrest⟩

theorem runs_ofGate {program : Program (Except GateError α)} {result : Except ProcessError α} :
    (ofGate program e).Runs os world (result, e') final ↔
      e' = e ∧ ∃ answer, program.Runs os world answer final ∧ result = answer.mapError .gate := by
  refine Program.runs_bind.trans ?_
  constructor
  · rintro ⟨_ | a, between, hrun, hrest⟩ <;> obtain ⟨heq, rfl⟩ := hrest <;> cases heq <;>
      exact ⟨rfl, _, hrun, rfl⟩
  · rintro ⟨rfl, _ | a, hrun, rfl⟩ <;> exact ⟨_, final, hrun, rfl, rfl⟩

theorem runs_ofJournal {program : Program (Except JournalError α)}
    {result : Except ProcessError α} :
    (ofJournal program e).Runs os world (result, e') final ↔
      e' = e ∧ ∃ answer, program.Runs os world answer final ∧ result = answer.mapError .journal := by
  refine Program.runs_bind.trans ?_
  constructor
  · rintro ⟨_ | a, between, hrun, hrest⟩ <;> obtain ⟨heq, rfl⟩ := hrest <;> cases heq <;>
      exact ⟨rfl, _, hrun, rfl⟩
  · rintro ⟨rfl, _ | a, hrun, rfl⟩ <;> exact ⟨_, final, hrun, rfl, rfl⟩

theorem runs_run {program : Program α} {result : Except ProcessError α} :
    (Supervised.run program e).Runs os world (result, e') final ↔
      e' = e ∧ ∃ a, program.Runs os world a final ∧ result = .ok a := by
  refine Program.runs_bind.trans ?_
  constructor
  · rintro ⟨a, between, hrun, heq, rfl⟩
    cases heq
    exact ⟨rfl, a, hrun, rfl⟩
  · rintro ⟨rfl, a, hrun, rfl⟩
    exact ⟨_, final, hrun, rfl, rfl⟩

/-! ### Kinds of deeds -/

variable {allowed : Deed → Prop}

theorem confined_bind {program : Supervised α} {next : α → Supervised β}
    (h : (program e).Confined allowed) (hnext : ∀ a e, (next a e).Confined allowed) :
    ((program >>= next) e).Confined allowed := by
  refine Program.Confined.bind h ?_
  rintro ⟨_ | a, e⟩
  · exact trivial
  · exact hnext a e

theorem confined_attempt {program : Supervised α} (h : (program e).Confined allowed) :
    (attempt program e).Confined allowed :=
  h.bind fun _ => trivial

theorem confined_ofGate {program : Program (Except GateError α)} (h : program.Confined allowed) :
    (ofGate program e).Confined allowed :=
  h.bind fun answer => by cases answer <;> exact trivial

theorem confined_ofJournal {program : Program (Except JournalError α)}
    (h : program.Confined allowed) : (ofJournal program e).Confined allowed :=
  h.bind fun answer => by cases answer <;> exact trivial

end Supervised

/-! ## Operations of the executor -/

namespace Executor

variable {pid : Pid}

/-- Starting a child is one request, and what is made of its answer. -/
theorem spawn_eq {role : Role} {image : ImageSpec} {vars : List (String × String)}
    {setup : Option (Program (Option Errno))} : spawn role image vars setup e =
      Program.spawn ⟨image.program, image.args, vars⟩ setup.isSome (setup.getD (pure none))
        fun answer => match answer with
          | .error cause => pure (.error (spawnError image.name cause setup.isSome), e)
          | .ok pid => pure (.ok pid, e.add (.new role image.name (key pid))) := by
  cases setup <;> rfl

/-- **Starting** a child. -/
theorem runs_spawn {role : Role} {image : ImageSpec} {vars : List (String × String)}
    {setup : Option (Program (Option Errno))} {result : Except ProcessError Pid}
    (h : (spawn role image vars setup e).Runs os world (result, e') final) :
    ∃ answer, os.spawns world ⟨image.program, image.args, vars⟩ setup.isSome
        (setup.getD (pure none)) answer final ∧
      match (answer : Except IoError Pid) with
      | .ok pid => result = .ok pid ∧ e' = e.add (.new role image.name (key pid))
      | .error cause => result = .error (spawnError image.name cause setup.isSome) ∧ e' = e := by
  rw [spawn_eq] at h
  obtain ⟨answer, between, hanswer, h⟩ := h
  refine ⟨answer, ?_⟩
  cases answer <;> obtain ⟨heq, rfl⟩ := h <;> cases heq <;> exact ⟨hanswer, rfl, rfl⟩

/-- **Signalling** a child. -/
theorem runs_signal {signal : Signal} {result : Except ProcessError Bool}
    (h : (Executor.signal pid signal e).Runs os world (result, e') final) :
    e' = e ∧ ((∃ t, e.termination? pid = some t) ∧ result = .ok false ∧ final = world ∨
      e.termination? pid = none ∧ ∃ answer, os.answers world (.kill pid signal) answer final ∧
        match answer with
        | .ok () => result = .ok true
        | .error cause => result =
            if cause = .esrch then .ok false else .error (.signalFailed (key pid) signal cause)) := by
  unfold Executor.signal at h
  cases hknown : e.termination? pid with
  | some t =>
    simp only [hknown, Option.isSome_some, if_true] at h
    obtain ⟨heq, rfl⟩ := Program.runs_pure.mp h
    cases heq
    exact ⟨rfl, .inl ⟨⟨t, rfl⟩, rfl, rfl⟩⟩
  | none =>
    simp only [hknown, Option.isSome_none, Bool.false_eq_true, if_false] at h
    obtain ⟨answer, between, hanswer, h⟩ := Program.runs_request_bind.mp h
    cases answer with
    | ok =>
      obtain ⟨heq, rfl⟩ := h
      cases heq
      exact ⟨rfl, .inr ⟨rfl, _, hanswer, rfl⟩⟩
    | error cause =>
      by_cases hgone : cause = .esrch <;> simp only [hgone, if_true, if_false] at h <;>
        obtain ⟨heq, rfl⟩ := Program.runs_pure.mp h <;> cases heq <;>
        exact ⟨rfl, .inr ⟨rfl, _, hanswer, by simp [hgone]⟩⟩

/-- **Looking** whether a child has ended. -/
theorem runs_tryReap {result : Except ProcessError (Option Termination)}
    (h : (tryReap pid e).Runs os world (result, e') final) :
    (∃ t, e.termination? pid = some t ∧ result = .ok (some t) ∧ e' = e ∧ final = world) ∨
      e.termination? pid = none ∧ ∃ answer, os.answers world (.wait pid false) answer final ∧
        match Termination.told? answer with
        | some t => result = .ok (some t) ∧ e' = e.noteEnd pid t
        | none => e' = e ∧ (result = .ok none ∨ ∃ cause, answer = .error cause ∧
            cause ≠ .eintr ∧ result = .error (.waitFailed (key pid) cause)) := by
  unfold tryReap at h
  cases hknown : e.termination? pid with
  | some t =>
    simp only [hknown] at h
    obtain ⟨heq, rfl⟩ := Program.runs_pure.mp h
    cases heq
    exact .inl ⟨t, rfl, rfl, rfl, rfl⟩
  | none =>
    simp only [hknown] at h
    obtain ⟨answer, between, hanswer, h⟩ := Program.runs_request_bind.mp h
    refine .inr ⟨rfl, answer, ?_⟩
    cases answer with
    | ok status =>
      cases hstatus : Termination.ofWaitStatus? status <;> simp only [hstatus] at h <;>
        obtain ⟨heq, rfl⟩ := Program.runs_pure.mp h <;> cases heq <;> refine ⟨hanswer, ?_⟩
      · rw [show Termination.told? (.ok status) = none from hstatus]
        exact ⟨rfl, .inl rfl⟩
      · rw [show Termination.told? (.ok status) = some _ from hstatus]
        exact ⟨rfl, rfl⟩
    | error cause =>
      by_cases hgone : cause = .echild
      · subst hgone
        obtain ⟨heq, rfl⟩ := Program.runs_pure.mp h
        cases heq
        exact ⟨hanswer, rfl, rfl⟩
      · have htold : Termination.told? (.error cause) = none := if_neg hgone
        by_cases hinterrupted : cause = .eintr <;>
          simp only [hgone, hinterrupted, if_true, if_false] at h <;>
          obtain ⟨heq, rfl⟩ := Program.runs_pure.mp h <;> cases heq <;>
          refine ⟨hanswer, ?_⟩ <;> rw [htold]
        · exact ⟨rfl, .inl rfl⟩
        · exact ⟨rfl, .inr ⟨cause, rfl, hinterrupted, rfl⟩⟩

/-- **Asking** whether a child lives is looking whether it has ended. -/
theorem runs_isAlive {living : Bool}
    (h : (isAlive pid e).Runs os world (living, e') final) :
    ∃ result, (tryReap pid e).Runs os world (result, e') final ∧
      (living = true ↔ result = .ok none) := by
  obtain ⟨⟨result, after⟩, between, htry, h⟩ := Program.runs_bind.mp h
  rcases result with _ | _ | _ <;> obtain ⟨heq, rfl⟩ := h <;> cases heq <;>
    exact ⟨_, htry, by simp⟩

/-- What the last of a row of blocking waits came to. -/
def Collects (os : OperatingSystem World) (pid : Pid) (result : Except Errno Termination)
    (world final : World) : Prop :=
  ∃ answer, os.answers world (.wait pid true) answer final ∧
    ((∃ t, Termination.told? answer = some t ∧ result = .ok t) ∨
      ∃ cause, answer = .error cause ∧ cause ≠ .eintr ∧ cause ≠ .echild ∧ result = .error cause)

/-- **Blocking waits** go on until one tells of the end, or fails.  What a wait that tells nothing
    keeps is so before the last. -/
theorem runs_collect (holds : World → Prop) {result : Except Errno Termination}
    (hwait : ∀ {world next answer}, holds world → os.answers world (.wait pid true) answer next →
      Termination.told? answer = none → holds next)
    (h : (Program.iterate () fun () => collectOnce pid).Runs os world result final)
    (hworld : holds world) : ∃ between, holds between ∧ Collects os pid result between final := by
  refine (Program.runs_iterate.mp h).keeps (fun _ => holds) (fun result final =>
    ∃ between, holds between ∧ Collects os pid result between final) ?_ hworld
  rintro ⟨⟩ world outcome next hworld hround
  obtain ⟨answer, between, hanswer, hround⟩ := Program.runs_request_bind.mp hround
  cases answer with
  | ok status =>
    cases hstatus : Termination.ofWaitStatus? status <;> simp only [hstatus] at hround <;>
      obtain ⟨rfl, rfl⟩ := Program.runs_pure.mp hround
    · exact hwait hworld hanswer hstatus
    · exact ⟨world, hworld, _, hanswer, .inl ⟨_, hstatus, rfl⟩⟩
  | error cause =>
    by_cases hinterrupted : cause = .eintr
    · subst hinterrupted
      obtain ⟨rfl, rfl⟩ := Program.runs_pure.mp hround
      exact hwait hworld hanswer rfl
    · by_cases hgone : cause = .echild
      · subst hgone
        obtain ⟨rfl, rfl⟩ := Program.runs_pure.mp hround
        exact ⟨world, hworld, _, hanswer, .inl ⟨_, rfl, rfl⟩⟩
      · simp only [hinterrupted, hgone, if_false] at hround
        obtain ⟨rfl, rfl⟩ := Program.runs_pure.mp hround
        exact ⟨world, hworld, _, hanswer, .inr ⟨cause, rfl, hinterrupted, hgone, rfl⟩⟩

/-- **Collecting** a child. -/
theorem runs_reap (holds : World → Prop) {result : Except ProcessError Termination}
    (hwait : ∀ {world next answer}, holds world → os.answers world (.wait pid true) answer next →
      Termination.told? answer = none → holds next)
    (h : (reap pid e).Runs os world (result, e') final) (hworld : holds world) :
    (∃ t, e.termination? pid = some t ∧ result = .ok t ∧ e' = e ∧ final = world) ∨
      e.termination? pid = none ∧ ∃ between collected, holds between ∧
        Collects os pid collected between final ∧
        match collected with
        | .ok t => result = .ok t ∧ e' = e.noteEnd pid t
        | .error cause => result = .error (.waitFailed (key pid) cause) ∧ e' = e := by
  unfold reap at h
  cases hknown : e.termination? pid with
  | some t =>
    simp only [hknown] at h
    obtain ⟨heq, rfl⟩ := Program.runs_pure.mp h
    cases heq
    exact .inl ⟨t, rfl, rfl, rfl, rfl⟩
  | none =>
    simp only [hknown] at h
    obtain ⟨collected, last, hloop, h⟩ := Program.runs_bind.mp h
    obtain ⟨between, hbetween, hcollects⟩ := runs_collect holds hwait hloop hworld
    refine .inr ⟨rfl, between, collected, hbetween, ?_⟩
    cases collected <;> obtain ⟨heq, rfl⟩ := h <;> cases heq <;> exact ⟨hcollects, rfl, rfl⟩

/-- **Killing** a child is signalling it, and then collecting it. -/
theorem runs_kill {result : Except ProcessError Termination}
    (h : (kill pid e).Runs os world (result, e') final) :
    (∃ delivered middle between,
      (Executor.signal pid .kill e).Runs os world (.ok delivered, middle) between ∧
        (reap pid middle).Runs os between (result, e') final) ∨
      ∃ cause, (Executor.signal pid .kill e).Runs os world (.error cause, e') final ∧
        result = .error cause :=
  Supervised.runs_bind.mp h

/-! ### Kinds of deeds -/

variable {allowed : Deed → Prop}

theorem confined_signal {signal : Signal} (h : allowed (.asks (.kill pid signal))) :
    (Executor.signal pid signal e).Confined allowed := by
  unfold Executor.signal
  split
  · exact trivial
  · refine (Program.confined_request h).bind fun answer => ?_
    cases answer with
    | ok => exact trivial
    | error cause =>
      show (if cause = .esrch then _ else _ : Program _).Confined allowed
      split <;> exact trivial

theorem confined_tryReap (h : allowed (.asks (.wait pid false))) :
    (tryReap pid e).Confined allowed := by
  unfold tryReap
  split
  · exact trivial
  · refine (Program.confined_request h).bind fun answer => ?_
    cases answer with
    | ok status =>
      show (match Termination.ofWaitStatus? status with
        | some t => _
        | none => _ : Program _).Confined allowed
      split <;> exact trivial
    | error cause =>
      show (if cause = .echild then _ else if cause = .eintr then _ else _ :
        Program _).Confined allowed
      split
      · exact trivial
      · split <;> exact trivial

theorem confined_isAlive (h : allowed (.asks (.wait pid false))) :
    (isAlive pid e).Confined allowed :=
  (confined_tryReap h).bind fun outcome => by rcases outcome with ⟨_ | _ | _, _⟩ <;> exact trivial

theorem confined_reap (h : allowed (.asks (.wait pid true))) : (reap pid e).Confined allowed := by
  unfold reap
  split
  · exact trivial
  · refine (Program.confined_iterate fun _ => ?_).bind fun collected => by
      cases collected <;> exact trivial
    refine (Program.confined_request h).bind fun answer => ?_
    cases answer with
    | ok status =>
      show (match Termination.ofWaitStatus? status with
        | some t => _
        | none => _ : Program _).Confined allowed
      split <;> exact trivial
    | error cause =>
      show (if cause = .eintr then _ else if cause = .echild then _ else _ :
        Program _).Confined allowed
      split
      · exact trivial
      · split <;> exact trivial

theorem confined_kill (hkill : allowed (.asks (.kill pid .kill)))
    (hwait : allowed (.asks (.wait pid true))) : (kill pid e).Confined allowed :=
  Supervised.confined_bind (confined_signal hkill) fun _ _ => confined_reap hwait

end Executor

end Interposition
