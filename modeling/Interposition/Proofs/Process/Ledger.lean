/-
  The executor's ledger, where process numbers are used again.

  The executor knows its children by their numbers.  A number means a child for as long as the
  child's status has not been collected, and then it may be anybody's.  So the records must say of
  every child that has been collected how it ended, before anything else is done.

  1. **The ledger** (`Ledger`): the children without an end on record are those not collected, and
     the end on record of any other is the one its status tells.  Spawning, collecting and signalling
     keep it so, as far as they are written down on both sides.

  2. **Scopes** (`Scope`): an operation is about a number that a child was spawned under, or about any
     process number.  With the first alone, every signal reaches a child (`Scope.Invariant`).

  3. **Operations** (`meets_spawn`, `meets_signal`, `meets_tryReap`, `meets_reap`, `meets_reapAll`):
     each keeps the ledger, whatever else happens in the system meanwhile.  What one request does to
     it is said once for signals (`Kept.kill`) and once for waits (`Kept.wait`).

  4. **Sequences** (`Works`): operations, with anything in between.  By induction the ledger is kept
     throughout (`Works.keeps`).

  A signal that reaches a process reaches one that was spawned and is not collected
  (`signals_reach_own_children`), and what is on record is exactly what was collected
  (`ledger_is_exact`).
-/
import Interposition.Proofs.Process.Collecting
import Interposition.Proofs.Process.ProcessTable
import Interposition.Proofs.Process.Supervision

namespace Interposition.Executor

open ProcessTable (Move Sound system)
open Program (Meets Reaches Runs meets_request_bind meets_rounds)

variable {e e' : Executor} {t t' : ProcessTable} {history before : List Happening} {pid : Pid}
  {who : Incarnation} {status : WaitStatus} {ending : Termination} {signal : Signal} {role : Role}
  {image : String}

/-! ## The ledger -/

/-- The records say what has happened. -/
structure Ledger (e : Executor) (history : List Happening) : Prop where
  keyed : e.Keyed
  outstanding : e.outstanding = (uncollected history).map Incarnation.pid
  known : ∀ who, latest? history who.pid = some who → ∃ r, e.record? who.pid = some r ∧
    r.termination = (collected? history who).bind Termination.ofWaitStatus?

theorem ledger_default : Ledger default [] := ⟨keyed_default, rfl, nofun⟩

namespace Ledger

/-- A child is spawned under a number that no child has that is still to be collected. -/
theorem spawn {serial : Nat} (h : Ledger e history)
    (hfree : ∀ who ∈ uncollected history, who.pid ≠ pid)
    (hnew : collected? history ⟨pid, serial⟩ = none) :
    Ledger (e.add (.new role image (key pid))) (history ++ [.spawned ⟨pid, serial⟩]) := by
  refine ⟨h.keyed.add _, ?_, fun who hwho => ?_⟩
  · have hothers : e.outstanding.filter (· ≠ pid) = e.outstanding := by
      rw [List.filter_eq_self, h.outstanding]
      intro number hnumber
      obtain ⟨who, hwho, rfl⟩ := List.mem_map.mp hnumber
      exact decide_eq_true (hfree who hwho)
    rw [outstanding_add, hothers, h.outstanding, uncollected_spawned hnew, List.map_append]
    rfl
  · rw [latest?_spawned] at hwho
    rw [record?_add, collected?_snoc_of_none rfl]
    by_cases hpid : pid = who.pid
    · rw [if_pos hpid] at hwho
      obtain rfl : ⟨pid, serial⟩ = who := Option.some.inj hwho
      rw [hnew]
      exact ⟨_, if_pos rfl, rfl⟩
    · rw [if_neg hpid] at hwho
      have hkey : (ProcessRecord.new role image (key pid)).pid ≠ key who.pid :=
        fun heq => hpid (key_injective heq)
      rw [if_neg hkey]
      exact h.known who hwho

/-- A child is collected, and its end is noted. -/
theorem collect (h : Ledger e history)
    (hlatest : ∀ other ∈ uncollected history, latest? history other.pid = some other)
    (hwho : who ∈ uncollected history) (hending : Termination.ofWaitStatus? status = some ending) :
    Ledger (e.noteEnd who.pid ending) (history ++ [.collected who status]) := by
  -- the latest child under a number is the only one that can still be uncollected
  have honly {other : Incarnation} (hother : latest? history other.pid = some other)
      (hpid : other.pid = who.pid) : other = who := by
    rw [hpid, hlatest who hwho] at hother
    exact (Option.some.inj hother).symm
  refine ⟨h.keyed.noteEnd _ _, ?_, fun other hother => ?_⟩
  · rw [outstanding_noteEnd, h.outstanding, uncollected_collected, List.filter_map]
    congr 1
    refine List.filter_congr fun other hother => ?_
    rw [Function.comp_apply, decide_eq_decide]
    exact not_congr ⟨honly (hlatest other hother), congrArg Incarnation.pid⟩
  · rw [latest?_snoc rfl] at hother
    obtain ⟨r, hr, hended⟩ := h.known other hother
    rw [record?_noteEnd, hr, Option.map_some, collected?_snoc]
    by_cases hpid : other.pid = who.pid
    · obtain rfl := honly hother hpid
      have hstatus : Happening.statusOf? other (.collected other status) = some status := if_pos rfl
      rw [if_pos rfl, (mem_uncollected.mp hwho).2, hstatus]
      exact ⟨_, rfl, hending.symm⟩
    · have hstatus : Happening.statusOf? other (.collected who status) = none :=
        if_neg fun heq => hpid (congrArg Incarnation.pid heq).symm
      rw [if_neg hpid, hstatus, Option.or_none]
      exact ⟨r, rfl, hended⟩

/-- A signal is of no concern to it. -/
theorem deliver (h : Ledger e history) : Ledger e (history ++ [.delivered signal who]) := by
  refine ⟨h.keyed, ?_, fun other hother => ?_⟩
  · rw [uncollected_delivered, h.outstanding]
  · rw [latest?_snoc rfl] at hother
    rw [collected?_snoc_of_none rfl]
    exact h.known other hother

/-- The end on record under a number is the one that was collected of the latest child. -/
theorem termination?_eq (h : Ledger e history) (hlatest : latest? history pid = some who) :
    e.termination? pid = (collected? history who).bind Termination.ofWaitStatus? := by
  obtain ⟨rfl, -⟩ := of_latest? hlatest
  obtain ⟨r, hr, hended⟩ := h.known who hlatest
  unfold termination?
  rw [hr, Option.bind_some, hended]

/-- Whoever has no end on record is still to be collected. -/
theorem mem_uncollected_of_termination? (h : Ledger e t.history) (hsound : t.Sound)
    (hlatest : latest? t.history pid = some who) (hnone : e.termination? pid = none) :
    who ∈ uncollected t.history := by
  refine mem_uncollected.mpr ⟨(of_latest? hlatest).2, ?_⟩
  cases hcollected : collected? t.history who with
  | none => rfl
  | some status =>
    -- a status that was collected tells of an end, and that would be on record
    have hends := hsound.ends _ _ (hsound.collected who status hcollected).2
    rw [h.termination?_eq hlatest, hcollected, Option.bind_some] at hnone
    rw [hnone] at hends
    cases hends

/-- Nobody has a record under a number without a child to collect and without an end on record. -/
theorem record?_eq_none (h : Ledger e history) (hnobody : ∀ who ∈ uncollected history, who.pid ≠ pid)
    (hnone : e.termination? pid = none) : e.record? pid = none := by
  cases hr : e.record? pid with
  | none => rfl
  | some r =>
    have hrunning : r.termination = none := by
      unfold termination? at hnone
      rwa [hr, Option.bind_some] at hnone
    have hpid : pid ∈ e.outstanding := h.keyed.mem_outstanding.mpr ⟨r, hr, hrunning⟩
    rw [h.outstanding] at hpid
    obtain ⟨who, hwho, hpid⟩ := List.mem_map.mp hpid
    exact absurd hpid (hnobody who hwho)

end Ledger

/-! ## Whom an operation may be about -/

/-- The executor has spawned a child under a number. -/
def Owns (history : List Happening) (pid : Pid) : Prop := ∃ who ∈ spawnedIn history, who.pid = pid

theorem Owns.latest? (h : Owns history pid) : ∃ who, latest? history pid = some who := by
  obtain ⟨who, hwho, hpid⟩ := h
  rw [← Option.isSome_iff_exists]
  unfold Interposition.latest?
  rw [List.find?_isSome]
  exact ⟨who, List.mem_reverse.mpr hwho, decide_eq_true hpid⟩

theorem Owns.of_prefix (h : Owns before pid) (hearlier : before <+: history) : Owns history pid := by
  obtain ⟨who, hwho, hpid⟩ := h
  obtain ⟨later, rfl⟩ := hearlier
  exact ⟨who, spawnedIn_append ▸ List.mem_append_left _ hwho, hpid⟩

/-- Whom the executor's operations are about. -/
inductive Scope where
  /-- Only numbers that children were spawned under. -/
  | children
  /-- Any process number; one that is not positive means a group and is no process's. -/
  | anybody

namespace Scope

variable {scope : Scope}

/-- A number that an operation may be about. -/
def Allows : Scope → List Happening → Pid → Prop
  | children, history, pid => Owns history pid
  | anybody, history, pid => Owns history pid ∨ 0 < pid

/-- What is so of the table throughout. -/
structure Invariant (scope : Scope) (t : ProcessTable) : Prop where
  sound : t.Sound
  rightful : scope = .children → Rightful t.history

theorem Allows.of_owns (h : Owns history pid) : scope.Allows history pid := by
  cases scope
  · exact h
  · exact .inl h

theorem Allows.positive (h : scope.Allows before pid) (hsound : t.Sound)
    (hearlier : before <+: t.history) : 0 < pid := by
  have hown (hown : Owns before pid) : 0 < pid := by
    obtain ⟨who, hwho, rfl⟩ := hown.of_prefix hearlier
    exact (hsound.spawned who hwho).1
  cases scope with
  | children => exact hown h
  | anybody => exact h.elim hown id

/-- Nothing but a signal matters to whom the signals have reached. -/
theorem Invariant.of_history (h : scope.Invariant t) (hsound : t'.Sound)
    (hhistory : t'.history = t.history ∨ ∃ event, t'.history = t.history ++ [event] ∧
      ∀ signal who, event ≠ .delivered signal who) : scope.Invariant t' := by
  refine ⟨hsound, fun hscope => ?_⟩
  obtain heq | ⟨event, heq, hevent⟩ := hhistory <;> rw [heq]
  · exact h.rightful hscope
  · exact (h.rightful hscope).snoc fun signal who hsignal => absurd hsignal (hevent signal who)

end Scope

/-! ## Operations -/

/-- The ledger is kept, and the history has gone on. -/
structure Kept (before : List Happening) (e : Executor) (t : ProcessTable) : Prop where
  ledger : Ledger e t.history
  earlier : before <+: t.history

namespace Kept

variable {scope : Scope}

theorem of_history_eq (h : Kept before e t) (heq : t'.history = t.history) : Kept before e t' := by
  refine ⟨?_, ?_⟩ <;> rw [heq]
  · exact h.ledger
  · exact h.earlier

theorem snoc {event : Happening} (h : Kept before e t) (heq : t'.history = t.history ++ [event])
    (hledger : Ledger e' (t.history ++ [event])) : Kept before e' t' := by
  refine ⟨?_, ?_⟩ <;> rw [heq]
  · exact hledger
  · exact h.earlier.trans (List.prefix_append _ _)

/-- **A signal** to a number without an end on record: if a child was spawned under it, that child
    is still to be collected, and nobody else can be reached. -/
theorem kill (h : Kept before e t) (hinv : scope.Invariant t) (hscope : scope.Allows before pid)
    (hnone : e.termination? pid = none) {answer : Except Errno Unit}
    (hanswer : system.answers t (.kill pid signal) answer t') :
    scope.Invariant t' ∧ Kept before e t' := by
  obtain ⟨hsound, heq | ⟨who, heq, honly⟩⟩ :=
    hinv.sound.kill (hscope.positive hinv.sound h.earlier) hanswer
  · exact ⟨hinv.of_history hsound (.inl heq), h.of_history_eq heq⟩
  · refine ⟨⟨hsound, ?_⟩, h.snoc heq h.ledger.deliver⟩
    -- the number is a child's, and without an end on record it is still the child's own
    rintro rfl
    obtain ⟨child, hchild⟩ := (Owns.of_prefix hscope h.earlier).latest?
    have hmem := h.ledger.mem_uncollected_of_termination? hinv.sound hchild hnone
    obtain rfl := honly child hmem (of_latest? hchild).1
    rw [heq]
    refine (hinv.rightful rfl).snoc fun _ _ hsignal => ?_
    cases hsignal
    exact hmem

/-- **A wait** for a number without an end on record: the end it tells is to be noted. -/
theorem wait (h : Kept before e t) (hinv : scope.Invariant t) (hscope : scope.Allows before pid)
    (hnone : e.termination? pid = none) {block : Bool} {answer : Except Errno WaitStatus}
    (hanswer : system.answers t (.wait pid block) answer t') :
    scope.Invariant t' ∧
      match answer with
      | .ok status =>
        match Termination.ofWaitStatus? status with
        | some ending => Kept before (e.noteEnd pid ending) t'
        | none => Kept before e t'
      | .error cause =>
        cause = .eintr ∧ Kept before e t' ∨
          cause = .echild ∧ Kept before (e.noteEnd pid .vanished) t' := by
  obtain ⟨hsound, hwaited⟩ := hinv.sound.wait (hscope.positive hinv.sound h.earlier) hanswer
  generalize hhistory : t'.history = now at hwaited
  cases hwaited with
  | collected hwho hpid hending =>
    subst hpid
    refine ⟨hinv.of_history hsound (.inr ⟨_, hhistory, nofun⟩), ?_⟩
    simp only [hending]
    exact h.snoc hhistory (h.ledger.collect hinv.sound.latest hwho hending)
  | untold hstatus =>
    simp only [hstatus]
    exact ⟨hinv.of_history hsound (.inl hhistory), h.of_history_eq hhistory⟩
  | interrupted =>
    exact ⟨hinv.of_history hsound (.inl hhistory), .inl ⟨rfl, h.of_history_eq hhistory⟩⟩
  | childless hnobody =>
    -- a stranger's number: nobody has a record under it, and so nothing is noted
    refine ⟨hinv.of_history hsound (.inl hhistory), .inr ⟨rfl, ?_⟩⟩
    rw [noteEnd_of_record?_eq_none (h.ledger.record?_eq_none hnobody hnone)]
    exact h.of_history_eq hhistory

end Kept

section

variable {scope : Scope}

/-- **Signalling** a process. -/
theorem meets_signal (h : Kept before e t) (hscope : scope.Allows before pid) :
    (Executor.signal pid signal e).Meets system (.alone scope.Invariant)
      (fun outcome now => Kept before outcome.2 now) t := by
  unfold Executor.signal
  cases hknown : e.termination? pid with
  | some ending => exact h
  | none =>
    refine meets_request_bind fun hinv answer between hanswer => ?_
    obtain ⟨hbetween, hkept⟩ := h.kill hinv hscope hknown hanswer
    refine ⟨hbetween, ?_⟩
    cases answer with
    | ok => exact hkept
    | error cause =>
      show (if cause = .esrch then _ else _ : Program _).Meets _ _ _ _
      split <;> exact hkept

/-- **Looking** whether a child has ended does not fail. -/
theorem meets_tryReap (h : Kept before e t) (hscope : scope.Allows before pid) :
    (tryReap pid e).Meets system (.alone scope.Invariant)
      (fun outcome now => Kept before outcome.2 now ∧ ∃ ending?, outcome.1 = .ok ending?) t := by
  unfold tryReap
  cases hknown : e.termination? pid with
  | some ending => exact ⟨h, _, rfl⟩
  | none =>
    refine meets_request_bind fun hinv answer between hanswer => ?_
    obtain ⟨hbetween, hkept⟩ := h.wait hinv hscope hknown hanswer
    refine ⟨hbetween, ?_⟩
    cases answer with
    | ok status =>
      cases hstatus : Termination.ofWaitStatus? status <;> simp only [hstatus] at hkept ⊢ <;>
        exact ⟨hkept, _, rfl⟩
    | error cause => obtain ⟨rfl, hkept⟩ | ⟨rfl, hkept⟩ := hkept <;> exact ⟨hkept, _, rfl⟩

/-- **Collecting** a child. -/
theorem meets_reap (h : Kept before e t) (hscope : scope.Allows before pid) :
    (reap pid e).Meets system (.alone scope.Invariant)
      (fun outcome now => Kept before outcome.2 now) t := by
  unfold reap
  cases hknown : e.termination? pid with
  | some ending => exact h
  | none =>
    -- until a wait tells of the end, the records stay as they are
    have hrounds : (Program.iterate () fun () => collectOnce pid).Meets system
        (.alone scope.Invariant)
        (fun result now => ∃ ending, result = .ok ending ∧ Kept before (e.noteEnd pid ending) now)
        t := by
      refine meets_rounds (fun _ now => Kept before e now) h fun _ world _ hworld => ?_
      refine meets_request_bind fun hinv answer between hanswer => ?_
      obtain ⟨hbetween, hkept⟩ := hworld.wait hinv hscope hknown hanswer
      refine ⟨hbetween, ?_⟩
      cases answer with
      | ok status =>
        cases hstatus : Termination.ofWaitStatus? status <;> simp only [hstatus] at hkept ⊢
        · exact hkept
        · exact ⟨_, rfl, hkept⟩
      | error cause =>
        obtain ⟨rfl, hkept⟩ | ⟨rfl, hkept⟩ := hkept
        · exact hkept
        · exact ⟨_, rfl, hkept⟩
    refine Meets.bind hrounds ?_
    rintro _ now ⟨ending, rfl, hkept⟩
    exact hkept

/-- **Killing** a child. -/
theorem meets_kill (h : Kept before e t) (hscope : scope.Allows before pid) :
    (kill pid e).Meets system (.alone scope.Invariant)
      (fun outcome now => Kept before outcome.2 now) t := by
  refine Supervised.meets_bind ((meets_signal h hscope).mono ?_)
  rintro ⟨_ | sent, after⟩ now hnow
  · -- the signal was refused, and nobody is waited for
    exact hnow
  · exact meets_reap hnow hscope

/-- **Asking** whether a child lives. -/
theorem meets_isAlive (h : Kept before e t) (hscope : scope.Allows before pid) :
    (isAlive pid e).Meets system (.alone scope.Invariant)
      (fun outcome now => Kept before outcome.2 now) t := by
  refine Meets.bind (meets_tryReap h hscope) ?_
  rintro ⟨_ | _ | _, after⟩ now ⟨hnow, -⟩ <;> exact hnow

/-- **A row** of children to collect: every look and every pause keeps the ledger. -/
theorem collecting_kept (before : List Happening) :
    Collecting system scope.Invariant
      (fun waiting _ e t => Kept before e t ∧ ∀ pid ∈ waiting, Owns before pid)
      fun _ _ _ => False where
  perm hperm hrow := ⟨hrow.1, fun pid hpid => hrow.2 pid (hperm.mem_iff.mpr hpid)⟩
  look {pid rest finished e t} hrow := by
    have hown : Owns before pid := hrow.2 pid List.mem_cons_self
    refine (meets_tryReap hrow.1 (.of_owns hown)).mono ?_
    rintro ⟨result, after⟩ now ⟨hkept, ending?, rfl⟩
    cases ending? with
    | none => exact ⟨hkept, hrow.2⟩
    | some ending =>
      -- the child has a record, and it is put with the others
      obtain ⟨who, hwho⟩ := (hown.of_prefix hkept.earlier).latest?
      obtain ⟨rfl, -⟩ := of_latest? hwho
      obtain ⟨r, hr, -⟩ := hkept.ledger.known who hwho
      exact ⟨r, hr, hkept, fun other hother => hrow.2 other (List.mem_cons_of_mem _ hother)⟩
  pause hinv hrow hanswer := by
    obtain ⟨now, hmoves, rfl⟩ := hanswer
    obtain ⟨hnow, hhistory⟩ := hinv.sound.moves hmoves
    exact ⟨hinv.of_history hnow (.inl hhistory), hrow.1.of_history_eq hhistory, hrow.2⟩

/-- **Collecting every child** that is outstanding. -/
theorem meets_reapAll (h : Ledger e t.history) :
    (reapAll e).Meets system (.alone scope.Invariant)
      (fun outcome now => Kept t.history outcome.2 now) t := by
  have hrow : Kept t.history e t ∧ ∀ pid ∈ e.outstanding, Owns t.history pid := by
    refine ⟨⟨h, List.prefix_rfl⟩, fun pid hpid => ?_⟩
    rw [h.outstanding] at hpid
    obtain ⟨who, hwho, rfl⟩ := List.mem_map.mp hpid
    exact ⟨who, (mem_uncollected.mp hwho).1, rfl⟩
  refine Meets.mono (meets_reapThese (collecting_kept t.history) hrow) ?_
  rintro ⟨_ | records, after⟩ now hnow
  · -- no look fails
    exact hnow.elim
  · exact hnow.1

/-- **Spawning** a child. -/
theorem meets_spawn {spec : ImageSpec} {vars : List (String × String)}
    {setup : Option (Program (Option Errno))} (h : Ledger e t.history) :
    (spawn role spec vars setup e).Meets system (.alone scope.Invariant)
      (fun outcome now => Kept t.history outcome.2 now) t := by
  have hkept : Kept t.history e t := ⟨h, List.prefix_rfl⟩
  rw [spawn_eq]
  rintro _ rfl hinv answer between hanswer
  obtain ⟨hsound, hhistory⟩ := hinv.sound.spawn hanswer
  cases answer with
  | error cause =>
    exact ⟨⟨hinv.of_history hsound (.inl hhistory), trivial⟩, hkept.of_history_eq hhistory⟩
  | ok pid =>
    obtain ⟨serial, hhistory, hfree, hnew⟩ := hhistory
    exact ⟨⟨hinv.of_history hsound (.inr ⟨_, hhistory, nofun⟩), trivial⟩,
      hkept.snoc hhistory (h.spawn hfree hnew)⟩

end

/-! ## Sequences of operations -/

/-- What the executor may be asked to do. -/
inductive Operation where
  | spawn (role : Role) (image : ImageSpec) (vars : List (String × String))
      (setup : Option (Program (Option Errno)))
  | signal (pid : Pid) (signal : Signal)
  | kill (pid : Pid)
  | tryReap (pid : Pid)
  | isAlive (pid : Pid)
  | reap (pid : Pid)
  | reapAll

namespace Operation

/-- The number it is about, if it is about one. -/
def target? : Operation → Option Pid
  | .signal pid _ | .kill pid | .tryReap pid | .isAlive pid | .reap pid => some pid
  | .spawn .. | .reapAll => none

/-- It is about nobody it may not be about. -/
def Within (op : Operation) (scope : Scope) (history : List Happening) : Prop :=
  ∀ pid, op.target? = some pid → scope.Allows history pid

/-- Does it, for the records it leaves. -/
def perform (e : Executor) : Operation → Program Executor
  | .spawn role image vars setup => do return (← Executor.spawn role image vars setup e).2
  | .signal pid signal => do return (← Executor.signal pid signal e).2
  | .kill pid => do return (← Executor.kill pid e).2
  | .tryReap pid => do return (← Executor.tryReap pid e).2
  | .isAlive pid => do return (← Executor.isAlive pid e).2
  | .reap pid => do return (← Executor.reap pid e).2
  | .reapAll => do return (← Executor.reapAll e).2

end Operation

variable {scope : Scope}

/-- The records a program leaves. -/
theorem meets_records {α : Type} {program : Program (α × Executor)}
    (h : program.Meets system (.alone scope.Invariant) (fun outcome now => Kept before outcome.2 now)
      t) :
    (do return (← program).2 : Program Executor).Meets system (.alone scope.Invariant)
      (Kept before) t :=
  Meets.bind h fun _ _ hnow => hnow

/-- **Any operation** keeps the ledger. -/
theorem meets_perform {op : Operation} (h : Ledger e t.history) (hop : op.Within scope t.history) :
    (op.perform e).Meets system (.alone scope.Invariant) (Kept t.history) t := by
  have hkept : Kept t.history e t := ⟨h, List.prefix_rfl⟩
  cases op with
  | spawn => exact meets_records (meets_spawn h)
  | signal pid => exact meets_records (meets_signal hkept (hop pid rfl))
  | kill pid => exact meets_records (meets_kill hkept (hop pid rfl))
  | tryReap pid =>
    exact meets_records ((meets_tryReap hkept (hop pid rfl)).mono fun _ _ hnow => hnow.1)
  | isAlive pid => exact meets_records (meets_isAlive hkept (hop pid rfl))
  | reap pid => exact meets_records (meets_reap hkept (hop pid rfl))
  | reapAll => exact meets_records (meets_reapAll h)

/-- The executor has done some operations, and other things have happened before and between them. -/
inductive Works (scope : Scope) (e : Executor) (t : ProcessTable) :
    Executor → ProcessTable → Prop where
  | start : Works scope e t e t
  | moved {e' : Executor} {t' next : ProcessTable} (earlier : Works scope e t e' t')
      (h : Move t' next) : Works scope e t e' next
  | performed {e' after : Executor} {t' next : ProcessTable} (earlier : Works scope e t e' t')
      (op : Operation) (hop : op.Within scope t'.history)
      (h : (op.perform e').Runs system t' after next) : Works scope e t after next

/-- **Throughout**, the ledger is kept. -/
theorem Works.keeps (h : Works scope e t e' t') (hinv : scope.Invariant t)
    (hledger : Ledger e t.history) : scope.Invariant t' ∧ Kept t.history e' t' := by
  induction h with
  | start => exact ⟨hinv, hledger, List.prefix_rfl⟩
  | moved _ hmove ih =>
    exact ⟨ih.1.of_history (ih.1.sound.move hmove) (.inl hmove.history_eq),
      ih.2.of_history_eq hmove.history_eq⟩
  | performed _ op hop hrun ih =>
    have hmeets := (meets_perform ih.2.ledger hop).reaches ih.1 hrun.reaches
    exact ⟨hmeets.1, hmeets.2.ledger, ih.2.earlier.trans hmeets.2.earlier⟩

/-- From the beginning on. -/
theorem Works.keeps_of_fresh {start : ProcessTable} (hfresh : start.Fresh)
    (h : Works scope default start e t) : scope.Invariant t ∧ Ledger e t.history := by
  have hinv : scope.Invariant start := ⟨hfresh.sound, fun _ => hfresh.history ▸ rightful_nil⟩
  obtain ⟨hinv, hkept⟩ := h.keeps hinv (hfresh.history ▸ ledger_default)
  exact ⟨hinv, hkept.ledger⟩

/-! ### A number that is used again -/

/-- An image without arguments. -/
def plainImage : ImageSpec := ⟨.ofText "sh", []⟩

/-- The records with a child under number 5. -/
def spawnedFive : Executor := (default : Executor).add (.new .grate plainImage.name (key 5))

/-- The records once the child has been terminated and collected. -/
def collectedFive : Executor := spawnedFive.noteEnd 5 (.signaled 15)

/-- The child was collected, and a stranger has its number. -/
def reusedFive : ProcessTable where
  occupant := Function.update (fun _ => none) 5 (some ⟨1, false⟩)
  ends := Function.update (fun _ => none) 0 (some (.signaled .term false))
  serials := 2
  history := [.spawned ⟨5, 0⟩, .delivered .term ⟨5, 0⟩, .collected ⟨5, 0⟩ (.signaled .term false)]

theorem works_reusedFive (scope : Scope) : Works scope default .empty collectedFive reusedFive := by
  let child : Incarnation := ⟨5, 0⟩
  let spawned : ProcessTable := (ProcessTable.empty.enter 5 true).note (.spawned child)
  let signalled : ProcessTable := spawned.note (.delivered .term child)
  let ended : ProcessTable :=
    { signalled with ends := Function.update signalled.ends 0 (some (.signaled .term false)) }
  let collected : ProcessTable := (ended.free 5).note (.collected child (.signaled .term false))
  have hpositive : (0 : Pid) < 5 := by decide
  have hown {history : List Happening} (h : .spawned child ∈ history) {pid : Pid}
      (hpid : some 5 = some pid) : scope.Allows history pid :=
    .of_owns ⟨child, mem_spawnedIn.mpr h, Option.some.inj hpid⟩
  have hspawn : Works scope default .empty spawnedFive spawned := by
    refine .performed .start (.spawn .grate plainImage [] none) nofun ?_
    refine Program.runs_bind.mpr ⟨(.ok 5, spawnedFive), spawned, ?_, rfl, rfl⟩
    rw [spawn_eq]
    exact ⟨.ok 5, spawned, ⟨.empty, .refl, hpositive, rfl, rfl⟩, rfl, rfl⟩
  have hsignal : Works scope default .empty spawnedFive signalled := by
    refine .performed hspawn (.signal 5 .term) (fun pid => hown (by decide)) ?_
    refine Program.runs_bind.mpr ⟨(.ok true, spawnedFive), signalled, ?_, rfl, rfl⟩
    have hkill : spawned.Kills 5 .term (.ok ()) signalled :=
      @ProcessTable.Kills.delivered spawned 5 .term ⟨0, true⟩ hpositive rfl
    exact ⟨.ok (), signalled, ⟨spawned, .refl, hkill⟩, rfl, rfl⟩
  have hended : Works scope default .empty spawnedFive ended :=
    .moved hsignal (@Move.ended _ 5 ⟨0, true⟩ _ rfl rfl rfl)
  have hcollected : Works scope default .empty collectedFive collected := by
    refine .performed hended (.reap 5) (fun pid => hown (by decide)) ?_
    refine Program.runs_bind.mpr ⟨(.ok (.signaled 15), collectedFive), collected, ?_, rfl, rfl⟩
    refine Program.runs_bind.mpr ⟨.ok (.signaled 15), collected, ?_, rfl, rfl⟩
    refine Program.runs_iterate.mpr (.stop ?_)
    have hwait : ended.Waits 5 true (.ok (.signaled .term false)) collected :=
      @ProcessTable.Waits.collected ended 5 true child _ (fun _ => rfl) rfl rfl
    exact ⟨.ok (.signaled .term false), collected, ⟨ended, .refl, hwait⟩, rfl, rfl⟩
  have hreused : collected.enter 5 false = reusedFive := by
    have hoccupant : (collected.enter 5 false).occupant = reusedFive.occupant := by
      simp [collected, ended, signalled, spawned, ProcessTable.enter, ProcessTable.free,
        ProcessTable.note, ProcessTable.empty, reusedFive]
    exact congrArg (fun occupant => { reusedFive with occupant := occupant }) hoccupant
  exact hreused ▸ .moved hcollected (.created hpositive rfl)

/-! ## Whom signals reach -/

/-- **No signal reaches a stranger.**  Whatever has been done to the executor's children, and whatever
    else has happened in the system, at every point that the next operation comes to, each signal has
    reached a process that had been spawned under the number it was sent to, and that had not been
    collected. -/
theorem signals_reach_own_children {start final : ProcessTable} {op : Operation}
    {rest : Program Executor} (hfresh : start.Fresh) (hworks : Works .children default start e t)
    (hop : op.Within .children t.history) (hreach : Reaches system (op.perform e) t rest final) :
    Rightful final.history := by
  obtain ⟨hinv, hledger⟩ := hworks.keeps_of_fresh hfresh
  exact ((meets_perform hledger hop).reaches hinv hreach).1.rightful rfl

/-- The stranger that has got the number of a child that was collected is not killed. -/
theorem signals_reach_own_children_of_reused_number :
    Works .children default .empty collectedFive reusedFive ∧
      reusedFive.occupant 5 = some ⟨1, false⟩ ∧
      (Operation.signal 5 .kill).perform collectedFive = pure collectedFive ∧
      Rightful reusedFive.history := by
  have hop : (Operation.signal 5 .kill).Within .children reusedFive.history := by
    intro pid hpid
    exact ⟨⟨5, 0⟩, by decide, Option.some.inj hpid⟩
  exact ⟨works_reusedFive .children, rfl, rfl,
    signals_reach_own_children ProcessTable.fresh_empty (works_reusedFive .children) hop .here⟩

/-! ## What is on record -/

/-- The end of a child is on record, and whoever asks is told it, with nothing asked of the system. -/
structure Settled (e : Executor) (pid : Pid) (ending : Termination) : Prop where
  record : ∃ r, e.record? pid = some r ∧ r.termination = some ending
  reap : Executor.reap pid e = pure (.ok ending, e)
  tryReap : Executor.tryReap pid e = pure (.ok (some ending), e)
  kill : Executor.kill pid e = pure (.ok ending, e)

theorem settled_of_termination? (h : e.termination? pid = some ending) : Settled e pid ending := by
  have hreap : Executor.reap pid e = pure (.ok ending, e) := by
    unfold Executor.reap
    rw [h]
  have hsignal : Executor.signal pid .kill e = pure (.ok false, e) := by
    unfold Executor.signal
    rw [h]
    rfl
  refine ⟨termination?_eq_some_iff.mp h, hreap, ?_, ?_⟩
  · unfold Executor.tryReap
    rw [h]
  · show (Executor.signal pid .kill e >>= _ : Program _) = _
    rw [hsignal, ← hreap]
    rfl

/-- What has been collected of a child stays on record until another child has its number. -/
theorem Ledger.termination?_append {later : List Happening} (h : Ledger e (history ++ later))
    (hlatest : latest? history pid = some who) (hcollected : collected? history who = some status)
    (hunspawned : ∀ other, .spawned other ∈ later → other.pid ≠ pid) :
    e.termination? pid = Termination.ofWaitStatus? status := by
  have hstill : latest? (history ++ later) pid = some who := by
    rw [latest?_append_of_unspawned fun other hother => hunspawned other (mem_spawnedIn.mp hother)]
    exact hlatest
  rw [h.termination?_eq hstill, collected?_append, hcollected]
  rfl

/-- **The ledger is exact, and written once.**  The latest child under a number has no end on record
    until its status is collected.  The status is how the child ended; from then on that end is on
    record, and told, until another child is spawned under the number.  As many run as were spawned
    and have not been collected. -/
theorem ledger_is_exact {start : ProcessTable} (hfresh : start.Fresh)
    (hworks : Works .anybody default start e t) :
    (∀ pid who, latest? t.history pid = some who →
      match collected? t.history who with
      | none => ∃ r, e.record? pid = some r ∧ r.termination = none
      | some status => t.ends who.serial = some status ∧
          ∃ ending, Termination.ofWaitStatus? status = some ending ∧ ending ≠ .vanished ∧
            ∀ e' t' later, Works .anybody e t e' t' → t'.history = t.history ++ later →
              (∀ other, .spawned other ∈ later → other.pid ≠ pid) → Settled e' pid ending) ∧
      e.running = (uncollected t.history).length := by
  obtain ⟨hinv, hledger⟩ := hworks.keeps_of_fresh hfresh
  refine ⟨fun pid who hlatest => ?_, ?_⟩
  · cases hcollected : collected? t.history who with
    | none =>
      obtain ⟨rfl, -⟩ := of_latest? hlatest
      obtain ⟨r, hr, hended⟩ := hledger.known who hlatest
      exact ⟨r, hr, by rw [hended, hcollected]; rfl⟩
    | some status =>
      have hends := (hinv.sound.collected who status hcollected).2
      obtain ⟨ending, hending⟩ := Option.isSome_iff_exists.mp (hinv.sound.ends _ _ hends)
      refine ⟨hends, ending, hending, Termination.ne_vanished_of_ofWaitStatus? hending, ?_⟩
      intro e' t' later hlater hhistory hunspawned
      have hledger' := (hlater.keeps hinv hledger).2.ledger
      rw [hhistory] at hledger'
      refine settled_of_termination? ?_
      rw [hledger'.termination?_append hlatest hcollected hunspawned, hending]
  · rw [running_eq_length_outstanding, hledger.outstanding, List.length_map]

/-- A child that was terminated is on record as such, although a stranger has its number. -/
theorem ledger_is_exact_of_reused_number :
    Works .anybody default .empty collectedFive reusedFive ∧
      reusedFive.occupant 5 = some ⟨1, false⟩ ∧ Settled collectedFive 5 (.signaled 15) ∧
      collectedFive.running = (uncollected reusedFive.history).length := by
  obtain ⟨hrecords, hrunning⟩ :=
    ledger_is_exact ProcessTable.fresh_empty (works_reusedFive .anybody)
  have hchild := hrecords 5 ⟨5, 0⟩ (by decide)
  have hstatus : collected? reusedFive.history ⟨5, 0⟩ = some (.signaled .term false) := by decide
  rw [hstatus] at hchild
  obtain ⟨-, ending, hending, -, hsettled⟩ := hchild
  cases hending
  exact ⟨works_reusedFive .anybody, rfl, hsettled _ _ [] .start (List.append_nil _).symm nofun,
    hrunning⟩

end Interposition.Executor
