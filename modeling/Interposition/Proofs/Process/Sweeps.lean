/-
  Collecting every child: who is collected, and in which order.

  The executor looks at its children over and over.  While it looks along the row, the last of the
  row takes the place of a child that has ended, so the row is not in the order it began in, and
  nobody may be passed over or looked at twice for it.

  1. **Ends last** (`ProcessTable.Lasts`): nothing in the system makes an end undone.  A wait that
     does not block is prompt (`ProcessTable.Prompt`) if it tells of a child that has ended.

  2. **Gathering** (`Gathered`): the children collected so far, in the order of their records, and
     those left.  Together they are who was to be collected at first.  One look keeps it, and says
     that a child has not ended, or moves it from one list to the other (`Gathered.look`).

  3. **One sweep** (`Gathered.sweep`): whoever has ended before it begins is collected by it.

  4. **Sweeps** (`Sweeps`): a run of `reapThese` is a number of sweeps, each with the table before
     and after it.  By induction on them everybody is collected, once and with the right end, and
     nobody before whom an earlier sweep has told apart (`Sweeps.gathers`).  `reapAll` waits for all
     who are outstanding (`collects_of_runs_reapAll`).
-/
import Mathlib.Data.List.Perm.Basic
import Interposition.Proofs.Process.Ledger

namespace Interposition

/-! ## Ends last -/

namespace ProcessTable

variable {os : OperatingSystem ProcessTable} {t t' t'' : ProcessTable}

/-- Whoever has ended in one table has ended in the other as well, and in the same way. -/
def Lasts (t t' : ProcessTable) : Prop :=
  ∀ serial status, t.ends serial = some status → t'.ends serial = some status

theorem Lasts.refl (t : ProcessTable) : Lasts t t := fun _ _ h => h

theorem Lasts.trans (h : Lasts t t') (h' : Lasts t' t'') : Lasts t t'' :=
  fun serial status hends => h' serial status (h serial status hends)

/-- Whoever has not ended later has not ended before. -/
theorem Lasts.eq_none (h : Lasts t t') {serial : Nat} (hends : t'.ends serial = none) :
    t.ends serial = none := by
  cases hstatus : t.ends serial with
  | none => rfl
  | some status =>
    rw [h serial status hstatus] at hends
    cases hends

theorem Move.lasts (h : Move t t') : Lasts t t' := by
  cases h with
  | created => exact .refl _
  | freed => exact .refl _
  | @ended _ occupant _ _ hruns =>
    intro serial status hends
    -- whoever ends now had not ended, and so is another
    have hne : serial ≠ occupant.serial := by
      rintro rfl
      rw [hruns] at hends
      cases hends
    exact (Function.update_of_ne hne _ _).trans hends

theorem lasts_moves (h : Relation.ReflTransGen Move t t') : Lasts t t' := by
  induction h with
  | refl => exact .refl _
  | tail _ hmove ih => exact ih.trans hmove.lasts

/-- Whatever is asked of the system. -/
theorem lasts_of_answers {request : Request} {answer : request.Answer}
    (h : system.answers t request answer t') : Lasts t t' := by
  obtain ⟨now, hmoves, h⟩ := h
  refine (lasts_moves hmoves).trans ?_
  cases request with
  | kill pid signal => cases h <;> exact .refl _
  | wait pid block => cases h <;> exact .refl _
  | _ =>
    obtain rfl := h
    exact .refl _

/-- A wait that does not block tells of the end of a child that has ended. -/
def Prompt (os : OperatingSystem ProcessTable) : Prop :=
  ∀ t next pid answer, os.answers t (.wait pid false) answer next →
    Termination.told? answer = none →
    ∀ who : Incarnation, who.pid = pid → t.HasChild who → t.ends who.serial = none

/-- A system with prompt waits. -/
def prompt : OperatingSystem ProcessTable where
  answers t request answer next := system.answers t request answer next ∧
    match request, answer with
    | .wait pid false, answer => Termination.told? answer = none →
      ∀ who : Incarnation, who.pid = pid → t.HasChild who → t.ends who.serial = none
    | _, _ => True
  spawns := system.spawns

/-- The table with one process more that has exited, with code 0. -/
def exited (t : ProcessTable) (serial : Nat) : ProcessTable :=
  { t with ends := Function.update t.ends serial (some (.exited 0)) }

theorem prompt_within : prompt.Within system := ⟨And.left, id⟩

theorem prompt_prompt : Prompt prompt := fun _ _ _ _ h => h.2

end ProcessTable

namespace Executor

open ProcessTable (Lasts Move Prompt Sound Waited system)

variable {os : OperatingSystem ProcessTable} {e e₀ e' : Executor} {t t' now : ProcessTable}
  {before : List Happening} {who : Incarnation} {status : WaitStatus} {ending : Termination}
  {row kept rest left left' : List Incarnation} {waiting : List Pid} {finished : List ProcessRecord}

/-! ## One step of a sweep -/

/-- A row that closes up: its last takes the place of whoever stood before it. -/
def closedUp {α : Type} (rest : List α) : List α :=
  match rest.getLast? with
  | none => []
  | some last => last :: rest.dropLast

theorem closedUp_perm {α : Type} (rest : List α) : (closedUp rest).Perm rest := by
  unfold closedUp
  cases hlast : rest.getLast? with
  | none => rw [List.getLast?_eq_none_iff.mp hlast]
  | some last =>
    calc (last :: rest.dropLast).Perm (rest.dropLast ++ [last]) :=
          (List.perm_append_singleton ..).symm
      _ = rest := List.dropLast_append_getLast? last hlast

theorem map_closedUp {α β : Type} (f : α → β) (rest : List α) :
    (closedUp rest).map f = closedUp (rest.map f) := by
  unfold closedUp
  rw [List.getLast?_map]
  cases rest.getLast? with
  | none => rfl
  | some last => simp [List.map_dropLast]

/-- A sweep along a row looks at the first child.  Of a child that has ended it takes up the record,
    and the row closes up. -/
theorem sweep_cons (count : Nat) (kept rest : List Pid) (pid : Pid)
    (finished : List ProcessRecord) :
    sweep (count + 1) kept (pid :: rest) finished = tryReap pid >>= fun ending =>
      ending.elim (sweep count (kept ++ [pid]) rest finished) fun _ e =>
        sweep count kept (closedUp rest) (finished ++ (e.record? pid).toList) e := by
  rw [sweep]
  congr 1
  funext ending
  cases ending with
  | none => rfl
  | some _ =>
    funext e
    unfold closedUp
    cases rest.getLast? with
    | none =>
      refine congrArg (sweep count kept [] · e) ?_
      cases e.record? pid <;> simp
    | some last =>
      refine congrArg (sweep count kept (last :: rest.dropLast) · e) ?_
      cases e.record? pid <;> simp

/-- **A step of a sweep** either keeps the first child, or takes up the child's record, or fails as
    the look at the child does. -/
theorem runs_sweep_cons {World : Type} {os : OperatingSystem World} {world final : World}
    {count : Nat} {kept rest : List Pid} {pid : Pid} {finished : List ProcessRecord}
    {result : Except ProcessError (List Pid × List ProcessRecord)} :
    (sweep (count + 1) kept (pid :: rest) finished e).Runs os world (result, e') final ↔
      (∃ middle between, (tryReap pid e).Runs os world (.ok none, middle) between ∧
        (sweep count (kept ++ [pid]) rest finished middle).Runs os between (result, e') final) ∨
      (∃ ending middle between, (tryReap pid e).Runs os world (.ok (some ending), middle) between ∧
        (sweep count kept (closedUp rest) (finished ++ (middle.record? pid).toList) middle).Runs os
          between (result, e') final) ∨
      ∃ cause, (tryReap pid e).Runs os world (.error cause, e') final ∧ result = .error cause := by
  rw [sweep_cons]
  refine Supervised.runs_bind.trans ⟨?_, ?_⟩
  · rintro (⟨_ | ending, middle, between, hlook, h⟩ | hfailed)
    · exact .inl ⟨middle, between, hlook, h⟩
    · exact .inr (.inl ⟨ending, middle, between, hlook, h⟩)
    · exact .inr (.inr hfailed)
  · rintro (⟨middle, between, hlook, h⟩ | ⟨ending, middle, between, hlook, h⟩ | hfailed)
    · exact .inl ⟨none, middle, between, hlook, h⟩
    · exact .inl ⟨some ending, middle, between, hlook, h⟩
    · exact .inr hfailed

/-! ## Gathering -/

/-- A record says how a child has ended, and of the child what was on record before. -/
def Tells (former : Executor) (t : ProcessTable) (who : Incarnation) (record : ProcessRecord) :
    Prop :=
  ∃ r status ending, former.record? who.pid = some r ∧ t.ends who.serial = some status ∧
    Termination.ofWaitStatus? status = some ending ∧ record = { r with termination := some ending }

theorem Tells.lasts {record : ProcessRecord} (h : Tells e₀ t who record) (hlasts : Lasts t t') :
    Tells e₀ t' who record := by
  obtain ⟨r, status, ending, hr, hends, hrest⟩ := h
  exact ⟨r, status, ending, hr, hlasts _ _ hends, hrest⟩

/-- Of those to be collected at first, `row` have been, and `finished` are their records; `left` are
    still to be collected, and nothing has been written down of them since. -/
structure Gathered (before : List Happening) (e₀ : Executor) (row left : List Incarnation)
    (finished : List ProcessRecord) (e : Executor) (t : ProcessTable) : Prop where
  sound : t.Sound
  ledger : Ledger e t.history
  everybody : (row ++ left).Perm (uncollected before)
  told : List.Forall₂ (Tells e₀ t) row finished
  once : left.Nodup
  uncollected : ∀ who ∈ left, who ∈ uncollected t.history
  untouched : ∀ who ∈ left, e.record? who.pid = e₀.record? who.pid

/-- Nobody is to be collected twice. -/
theorem Ledger.nodup_uncollected (h : Ledger e before) : (uncollected before).Nodup := by
  refine List.Nodup.of_map Incarnation.pid ?_
  rw [← h.outstanding]
  have hnumbers : (e.processes.map fun r => r.pid.toInt32).Nodup := by
    have hsame : (fun r : ProcessRecord => r.pid.toInt32) =
        UInt32.toInt32 ∘ ProcessRecord.pid := rfl
    rw [hsame, ← List.map_map]
    exact h.keyed.map (Function.LeftInverse.injective key_toInt32)
  exact hnumbers.sublist (List.filter_sublist.map _)

theorem gathered_start (h : Ledger e t.history) (hsound : t.Sound)
    (hleft : left.Perm (uncollected t.history)) : Gathered t.history e [] left [] e t where
  sound := hsound
  ledger := h
  everybody := hleft
  told := .nil
  once := hleft.nodup_iff.mpr h.nodup_uncollected
  uncollected _ hwho := hleft.mem_iff.mp hwho
  untouched _ _ := rfl

namespace Gathered

/-- Whoever has been collected has ended. -/
theorem ended (h : Gathered before e₀ row left finished e t) :
    ∀ who ∈ row, (t.ends who.serial).isSome := by
  have htold := h.told
  clear h
  induction htold with
  | nil => nofun
  | cons htells _ ih =>
    obtain ⟨_, _, _, -, hends, -⟩ := htells
    exact List.forall_mem_cons.mpr ⟨Option.isSome_iff_exists.mpr ⟨_, hends⟩, ih⟩

theorem reorder (h : Gathered before e₀ row left finished e t) (hperm : left.Perm left') :
    Gathered before e₀ row left' finished e t where
  sound := h.sound
  ledger := h.ledger
  everybody := (List.Perm.append_left row hperm.symm).trans h.everybody
  told := h.told
  once := hperm.nodup_iff.mp h.once
  uncollected who hwho := h.uncollected who (hperm.mem_iff.mpr hwho)
  untouched who hwho := h.untouched who (hperm.mem_iff.mpr hwho)

/-- Nothing has been collected. -/
theorem quiet (h : Gathered before e₀ row left finished e t) (hsound : t'.Sound)
    (hlasts : Lasts t t') (hhistory : t'.history = t.history) :
    Gathered before e₀ row left finished e t' := by
  refine ⟨hsound, ?_, h.everybody, h.told.imp fun _ _ htells => htells.lasts hlasts, h.once, ?_,
    h.untouched⟩ <;> rw [hhistory]
  · exact h.ledger
  · exact h.uncollected

theorem moves (h : Gathered before e₀ row left finished e t)
    (hmoves : Relation.ReflTransGen Move t t') : Gathered before e₀ row left finished e t' :=
  h.quiet (h.sound.moves hmoves).1 (ProcessTable.lasts_moves hmoves) (h.sound.moves hmoves).2

/-- One child has been collected. -/
theorem collect (h : Gathered before e₀ row (kept ++ who :: rest) finished e t)
    (hsound : t'.Sound) (hlasts : Lasts t t')
    (hhistory : t'.history = t.history ++ [.collected who status])
    (hending : Termination.ofWaitStatus? status = some ending) :
    ∃ r, (e.noteEnd who.pid ending).record? who.pid = some r ∧
      Gathered before e₀ (row ++ [who]) (kept ++ rest) (finished ++ [r]) (e.noteEnd who.pid ending)
        t' := by
  have hmem : who ∈ kept ++ who :: rest := List.mem_append_right _ List.mem_cons_self
  have hwho := h.uncollected who hmem
  obtain ⟨hnew, honce⟩ := List.nodup_middle.mp h.once |> List.nodup_cons.mp
  -- the others have other numbers
  have hothers : ∀ other ∈ kept ++ rest, other ∈ Interposition.uncollected t.history ∧
      other ≠ who ∧ other.pid ≠ who.pid := by
    intro other hother
    have hne : other ≠ who := fun heq => hnew (heq ▸ hother)
    have hin : other ∈ Interposition.uncollected t.history :=
      h.uncollected other (List.perm_middle.mem_iff.mpr (List.mem_cons_of_mem _ hother))
    refine ⟨hin, hne, fun hpid => hne ?_⟩
    have hlatest := h.sound.latest other hin
    rw [hpid, h.sound.latest who hwho] at hlatest
    exact (Option.some.inj hlatest).symm
  obtain ⟨r, hr, -⟩ := h.ledger.known who (h.sound.latest who hwho)
  have hends : t'.ends who.serial = some status := by
    refine (hsound.collected who status ?_).2
    have hstatus : Happening.statusOf? who (.collected who status) = some status := if_pos rfl
    rw [hhistory, collected?_snoc, (mem_uncollected.mp hwho).2, hstatus, Option.none_or]
  have hnoted : (e.noteEnd who.pid ending).record? who.pid =
      some { r with termination := some ending } := by
    rw [record?_noteEnd, hr, Option.map_some, if_pos rfl]
  refine ⟨_, hnoted, hsound, ?_, ?_, ?_, honce, fun other hother => ?_, fun other hother => ?_⟩
  · rw [hhistory]
    exact h.ledger.collect h.sound.latest hwho hending
  · calc row ++ [who] ++ (kept ++ rest)
        = row ++ (who :: (kept ++ rest)) := by rw [List.append_assoc, List.singleton_append]
      _ |>.Perm (row ++ (kept ++ who :: rest)) := List.Perm.append_left _ List.perm_middle.symm
      _ |>.Perm (Interposition.uncollected before) := h.everybody
  · refine List.rel_append (h.told.imp fun _ _ htells => htells.lasts hlasts) (.cons ?_ .nil)
    exact ⟨r, status, ending, (h.untouched who hmem).symm.trans hr, hends, hending, rfl⟩
  · rw [hhistory, uncollected_collected, List.mem_filter]
    exact ⟨(hothers other hother).1, decide_eq_true (hothers other hother).2.1⟩
  · rw [record?_noteEnd, ← h.untouched other (List.perm_middle.mem_iff.mpr
      (List.mem_cons_of_mem _ hother))]
    simp only [if_neg (hothers other hother).2.2, Option.map_id']

/-- **One look** at one of those left: it is not told that the child has ended, or the child is
    collected, and its record is put behind the others. -/
theorem look (h : Gathered before e₀ row (kept ++ who :: rest) finished e t)
    (hos : os.Within system) {result : Except ProcessError (Option Termination)}
    (hrun : (tryReap who.pid e).Runs os t (result, e') now) :
    Lasts t now ∧
      ((result = .ok none ∧ Gathered before e₀ row (kept ++ who :: rest) finished e' now ∧
          (Prompt os → t.ends who.serial = none)) ∨
        ∃ ending r, result = .ok (some ending) ∧ e'.record? who.pid = some r ∧
          Gathered before e₀ (row ++ [who]) (kept ++ rest) (finished ++ [r]) e' now) := by
  have hwho := h.uncollected who (List.mem_append_right _ List.mem_cons_self)
  have hpositive := (h.sound.spawned who (mem_uncollected.mp hwho).1).1
  have hunknown : e.termination? who.pid = none := by
    rw [h.ledger.termination?_eq (h.sound.latest who hwho), (mem_uncollected.mp hwho).2]
    rfl
  obtain ⟨ending, hknown, -⟩ | ⟨-, answer, hanswer, houtcome⟩ := runs_tryReap hrun
  · rw [hunknown] at hknown
    cases hknown
  have hlasts := ProcessTable.lasts_of_answers (hos.answers hanswer)
  have hquiet (hnone : Termination.told? answer = none) : Prompt os → t.ends who.serial = none :=
    fun hprompt => hprompt _ _ _ _ hanswer hnone who rfl ((h.sound.children who).mp hwho)
  refine ⟨hlasts, ?_⟩
  obtain ⟨hsound, hwaited⟩ := h.sound.wait hpositive (hos.answers hanswer)
  generalize hhistory : now.history = later at hwaited
  cases hwaited with
  | @collected other status ending hother hpid hending =>
    obtain rfl : other = who := by
      have hlatest := h.sound.latest other hother
      rw [hpid, h.sound.latest who hwho] at hlatest
      exact (Option.some.inj hlatest).symm
    have htold : Termination.told? (.ok status) = some ending := hending
    rw [htold] at houtcome
    obtain ⟨rfl, rfl⟩ := houtcome
    obtain ⟨r, hr, hgathered⟩ := h.collect hsound hlasts hhistory hending
    exact .inr ⟨ending, r, rfl, hr, hgathered⟩
  | @untold status hstatus =>
    have htold : Termination.told? (.ok status) = none := hstatus
    rw [htold] at houtcome
    obtain ⟨rfl, rfl | ⟨cause, hcause, -⟩⟩ := houtcome
    · exact .inl ⟨rfl, h.quiet hsound hlasts hhistory, hquiet htold⟩
    · cases hcause
  | interrupted =>
    have htold : Termination.told? (.error .eintr) = none := rfl
    rw [htold] at houtcome
    obtain ⟨rfl, rfl | ⟨cause, hcause, hne, -⟩⟩ := houtcome
    · exact .inl ⟨rfl, h.quiet hsound hlasts hhistory, hquiet htold⟩
    · cases hcause
      exact absurd rfl hne
  | childless hnobody => exact absurd rfl (hnobody who hwho)

/-! ## One sweep -/


/-- **One sweep** along the row.  Whoever it leaves had not ended when it began. -/
theorem sweep {begun past : ProcessTable} {count : Nat}
    (h : Gathered before e₀ row (kept ++ rest) finished e t) (hos : os.Within system)
    (hbegun : Lasts begun t) (hkept : Prompt os → ∀ who ∈ kept, begun.ends who.serial = none)
    (hcount : rest.length ≤ count) {result : Except ProcessError (List Pid × List ProcessRecord)}
    (hrun : (Executor.sweep count (kept.map Incarnation.pid) (rest.map Incarnation.pid)
      finished e).Runs os t (result, e') past) :
    ∃ more left met, result = .ok (left.map Incarnation.pid, met) ∧
      Gathered before e₀ (row ++ more) left met e' past ∧
      (Prompt os → ∀ who ∈ left, begun.ends who.serial = none) := by
  induction count generalizing kept rest row finished e t with
  | zero =>
    obtain rfl := List.length_eq_zero_iff.mp (Nat.le_zero.mp hcount)
    obtain ⟨rfl, rfl, rfl⟩ := Supervised.runs_pure.mp hrun
    rw [List.append_nil] at h
    exact ⟨[], kept, finished, by simp, by rwa [List.append_nil], hkept⟩
  | succ count ih =>
    cases rest with
    | nil =>
      obtain ⟨rfl, rfl, rfl⟩ := Supervised.runs_pure.mp hrun
      rw [List.append_nil] at h
      exact ⟨[], kept, finished, rfl, by rwa [List.append_nil], hkept⟩
    | cons who rest =>
      have hshorter : rest.length ≤ count := Nat.le_of_succ_le_succ hcount
      obtain ⟨middle, between, hlook, hrun⟩ | ⟨ending, middle, between, hlook, hrun⟩ |
        ⟨cause, hlook, -⟩ := runs_sweep_cons.mp hrun
      all_goals
        obtain ⟨hlasts, ⟨heq, hgathered, hquiet⟩ | ⟨ending, r, heq, hr, hgathered⟩⟩ :=
          h.look hos hlook <;> cases heq
      · -- the child goes on, and so does the sweep
        rw [List.append_cons] at hgathered
        refine ih hgathered (hbegun.trans hlasts) (fun hprompt other hother => ?_) hshorter
          (by rwa [List.map_append])
        obtain hother | hother := List.mem_append.mp hother
        · exact hkept hprompt other hother
        · rw [List.mem_singleton.mp hother]
          exact hbegun.eq_none (hquiet hprompt)
      · -- the row closes up where the child was that has been collected
        rw [hr, ← map_closedUp] at hrun
        obtain ⟨more, left, met, hresult, hgathered, hleft⟩ :=
          ih (hgathered.reorder (List.Perm.append_left kept (closedUp_perm rest).symm))
            (hbegun.trans hlasts) hkept (by rwa [(closedUp_perm rest).length_eq]) hrun
        refine ⟨who :: more, left, met, hresult, ?_, hleft⟩
        rwa [List.append_cons]

end Gathered

/-! ## Sweeps -/

/-- The table when a sweep began, and when it was over. -/
structure Span where
  begun : ProcessTable
  past : ProcessTable

/-- What has been done while children were waited for: sweeps, until nobody is left or one fails.
    Anything may go on before a sweep begins. -/
inductive Sweeps (os : OperatingSystem ProcessTable) :
    List Pid → List ProcessRecord → Executor → ProcessTable → List Span →
      Except ProcessError (List ProcessRecord) × Executor → ProcessTable → Prop where
  | nobody {finished : List ProcessRecord} {e : Executor} {t : ProcessTable} :
      Sweeps os [] finished e t [] (.ok finished, e) t
  | failed {waiting : List Pid} {finished : List ProcessRecord} {e e' : Executor}
      {t begun past : ProcessTable} {cause : ProcessError} (hwaiting : waiting ≠ [])
      (hmoves : Relation.ReflTransGen Move t begun)
      (hsweep : (sweep waiting.length [] waiting finished e).Runs os begun
        (.error cause, e') past) :
      Sweeps os waiting finished e t [⟨begun, past⟩] (.error cause, e') past
  | swept {waiting left : List Pid} {finished met : List ProcessRecord} {e e' : Executor}
      {t begun past final : ProcessTable} {spans : List Span}
      {outcome : Except ProcessError (List ProcessRecord) × Executor} (hwaiting : waiting ≠ [])
      (hmoves : Relation.ReflTransGen Move t begun)
      (hsweep : (sweep waiting.length [] waiting finished e).Runs os begun
        (.ok (left, met), e') past)
      (later : Sweeps os left met e' past spans outcome final) :
      Sweeps os waiting finished e t (⟨begun, past⟩ :: spans) outcome final

variable {spans : List Span} {outcome : Except ProcessError (List ProcessRecord) × Executor}
  {final : ProcessTable}

namespace Sweeps

/-- What goes on before the first sweep does so before it begins. -/
theorem after (h : Sweeps os waiting finished e t' spans outcome final) (hwaiting : waiting ≠ [])
    (hmoves : Relation.ReflTransGen Move t t') :
    ∃ spans, Sweeps os waiting finished e t spans outcome final := by
  cases h with
  | nobody => exact absurd rfl hwaiting
  | failed _ hmore hsweep => exact ⟨_, .failed hwaiting (hmoves.trans hmore) hsweep⟩
  | swept _ hmore hsweep later => exact ⟨_, .swept hwaiting (hmoves.trans hmore) hsweep later⟩

end Sweeps

/-- Where a collection of children stands: who is waited for, the records of those collected, the
    next pause, and the executor. -/
abbrev Stand := List Pid × List ProcessRecord × Nat × Executor

/-- One round: a sweep, and a pause if it has collected nobody. -/
def round : Stand → Program (Stand ⊕ (Except ProcessError (List ProcessRecord) × Executor))
  | (waiting, finished, pause, e) => do
    if waiting.isEmpty then return .inr (.ok finished, e)
    match ← sweep waiting.length [] waiting finished e with
    | (.error cause, e) => return .inr (.error cause, e)
    | (.ok (left, met), e) =>
      if left.length < waiting.length then return .inl (left, met, shortestPause, e)
      else
        Program.request (.sleep pause)
        return .inl (left, met, min (pause * 2) longestPause, e)

theorem reapThese_eq (pids : List Pid) (e : Executor) :
    reapThese pids e = Program.iterate (pids, [], shortestPause, e) round := rfl

/-- What a round comes to. -/
theorem runs_round {pause : Nat} (hos : os.Within system)
    {step : Stand ⊕ (Except ProcessError (List ProcessRecord) × Executor)}
    (h : (round (waiting, finished, pause, e)).Runs os t step t') :
    (waiting = [] ∧ step = .inr (.ok finished, e) ∧ t' = t) ∨
    waiting ≠ [] ∧ ∃ result after past,
      (sweep waiting.length [] waiting finished e).Runs os t (result, after) past ∧
        match (result : Except ProcessError (List Pid × List ProcessRecord)) with
        | .error cause => step = .inr (.error cause, after) ∧ t' = past
        | .ok (left, met) => ∃ pause, step = .inl (left, met, pause, after) ∧
            (t' = past ∨ left ≠ [] ∧ Relation.ReflTransGen Move past t') := by
  unfold round at h
  by_cases hwaiting : waiting = []
  · subst hwaiting
    obtain ⟨heq, rfl⟩ := Program.runs_pure.mp h
    exact .inl ⟨rfl, heq, rfl⟩
  · replace h : (if waiting.isEmpty = true then _ else _ : Program _).Runs _ _ _ _ := h
    rw [if_neg (mt List.isEmpty_iff.mp hwaiting)] at h
    obtain ⟨⟨result, after⟩, past, hsweep, hrest⟩ := Program.runs_bind.mp h
    refine .inr ⟨hwaiting, result, after, past, hsweep, ?_⟩
    obtain cause | ⟨left, met⟩ := result
    · exact hrest
    · replace hrest : (if left.length < waiting.length then _ else _ : Program _).Runs _ _ _ _ :=
        hrest
      split at hrest
      · exact ⟨_, hrest.1, .inl hrest.2⟩
      · next hnobody =>
        -- without a child collected there is somebody left to pause for
        obtain ⟨_, between, hsleep, hstep, rfl⟩ := hrest
        obtain ⟨_, hmoves, rfl⟩ := hos.answers hsleep
        refine ⟨_, hstep, .inr ⟨?_, hmoves⟩⟩
        rintro rfl
        exact hnobody (List.length_pos_iff.mpr hwaiting)

/-- **A run** is a number of sweeps; what goes on during a pause does so before the next of them. -/
theorem sweeps_of_runs (hos : os.Within system)
    (h : (reapThese waiting e).Runs os t outcome final) :
    ∃ spans, Sweeps os waiting [] e t spans outcome final := by
  suffices hrounds : ∀ {state : Stand} {t : ProcessTable},
      Program.Iterates (fun state => (round state).Runs os) state t outcome final →
        ∃ spans, Sweeps os state.1 state.2.1 state.2.2.2 t spans outcome final by
    rw [reapThese_eq] at h
    exact hrounds (Program.runs_iterate.mp h)
  clear h
  intro state t hiterates
  induction hiterates with
  | @stop state outcome t final hround =>
    obtain ⟨waiting, finished, pause, e⟩ := state
    obtain ⟨rfl, heq, rfl⟩ | ⟨hwaiting, result, after, past, hsweep, hstep⟩ := runs_round hos hround
    · cases heq
      exact ⟨_, .nobody⟩
    · obtain cause | ⟨left, met⟩ := result
      · obtain ⟨heq, rfl⟩ := hstep
        cases heq
        exact ⟨_, .failed hwaiting .refl hsweep⟩
      · obtain ⟨_, heq, -⟩ := hstep
        cases heq
  | @again state state' outcome t between final hround _ ih =>
    obtain ⟨waiting, finished, pause, e⟩ := state
    obtain ⟨rfl, heq, rfl⟩ | ⟨hwaiting, result, after, past, hsweep, hstep⟩ := runs_round hos hround
    · cases heq
    · obtain cause | ⟨left, met⟩ := result
      · cases hstep.1
      · obtain ⟨_, heq, hpause⟩ := hstep
        cases heq
        obtain ⟨spans, hlater⟩ := ih
        obtain rfl | ⟨hleft, hmoves⟩ := hpause
        · exact ⟨_, .swept hwaiting .refl hsweep hlater⟩
        · obtain ⟨spans, hlater⟩ := hlater.after hleft hmoves
          exact ⟨_, .swept hwaiting .refl hsweep hlater⟩

/-! ## Everybody, once, in order -/

/-- Whoever had ended when a sweep began stands before whoever had not when it was over. -/
def Ordered (spans : List Span) (row : List Incarnation) : Prop :=
  ∀ span ∈ spans, ∀ first ∈ row, ∀ second ∈ row, (span.begun.ends first.serial).isSome →
    span.past.ends second.serial = none → [first, second].Sublist row

namespace Sweeps

/-- **Everybody** is collected who was waited for, and no sweep fails. -/
theorem gathers (h : Sweeps os waiting finished e t spans outcome final) (hos : os.Within system)
    (hgathered : Gathered before e₀ row left finished e t)
    (hwaiting : waiting = left.map Incarnation.pid) :
    ∃ more records, outcome.1 = .ok records ∧
      Gathered before e₀ (row ++ more) [] records outcome.2 final ∧
      (Prompt os → Ordered spans (row ++ more)) := by
  induction h generalizing row left with
  | nobody =>
    obtain rfl : left = [] := by simpa using hwaiting.symm
    exact ⟨[], _, rfl, by rwa [List.append_nil], fun _ => nofun⟩
  | failed _ hmoves hsweep =>
    subst hwaiting
    have hbegun : Gathered before e₀ row ([] ++ left) _ _ _ := hgathered.moves hmoves
    obtain ⟨_, _, _, heq, -⟩ := hbegun.sweep hos (.refl _) (fun _ => nofun) (by simp) hsweep
    cases heq
  | @swept _ waiting finished met e e' t begun past final spans outcome _ hmoves hsweep _ ih =>
    subst hwaiting
    have hbegun : Gathered before e₀ row ([] ++ left) _ _ _ := hgathered.moves hmoves
    obtain ⟨more, left, _, heq, hover, hquiet⟩ :=
      hbegun.sweep hos (.refl _) (fun _ => nofun) (by simp) hsweep
    cases heq
    obtain ⟨later, records, hrecords, hfinal, hordered⟩ := ih hover rfl
    rw [List.append_assoc] at hfinal hordered
    refine ⟨more ++ later, records, hrecords, hfinal, fun hprompt span hspan => ?_⟩
    obtain rfl | hspan := List.mem_cons.mp hspan
    · intro first hfirst second hsecond hended hgoes
      have hperm : later.Perm left := by
        have heverybody := hfinal.everybody.trans hover.everybody.symm
        rwa [List.append_nil, ← List.append_assoc, List.perm_append_left_iff] at heverybody
      rw [← List.append_assoc, List.mem_append] at hfirst hsecond
      rw [← List.append_assoc, ← List.singleton_append]
      refine List.Sublist.append (List.singleton_sublist.mpr ?_) (List.singleton_sublist.mpr ?_)
      · -- the first had ended, and so the sweep has not left it
        refine hfirst.resolve_right fun hlater => ?_
        rw [hquiet hprompt first (hperm.mem_iff.mp hlater)] at hended
        cases hended
      · -- the second has not ended, and so it has not been collected
        refine hsecond.resolve_left fun hearlier => ?_
        have hends := hover.ended second hearlier
        rw [hgoes] at hends
        cases hends
    · exact hordered hprompt span hspan

end Sweeps

/-- **All** who are outstanding are collected, whatever order they are waited for in. -/
theorem Sweeps.collects (h : Sweeps os waiting [] e t spans outcome final) (hos : os.Within system)
    (hledger : Ledger e t.history) (hsound : t.Sound) (horder : waiting.Perm e.outstanding) :
    ∃ row records, outcome.1 = .ok records ∧ row.Perm (uncollected t.history) ∧
      List.Forall₂ (Tells e final) row records ∧ (Prompt os → Ordered spans row) := by
  -- those waited for are children, in the same order
  rw [hledger.outstanding] at horder
  obtain ⟨left, hwaiting, hleft⟩ :=
    (congrFun₂ (List.eq_map_comp_perm Incarnation.pid) _ _).mpr horder
  obtain ⟨row, records, hrecords, hgathered, hordered⟩ :=
    h.gathers hos (gathered_start hledger hsound hleft) hwaiting
  have heverybody := hgathered.everybody
  rw [List.append_nil] at heverybody
  exact ⟨row, records, hrecords, heverybody, hgathered.told, hordered⟩

/-- **Collecting every child** does not fail: whoever is to be collected is met, once and with the
    end it has come to, and in the order of the sweeps where waits are prompt. -/
theorem collects_of_runs_reapAll (hos : os.Within system) (hledger : Ledger e t.history)
    (hsound : t.Sound) (h : (reapAll e).Runs os t outcome final) :
    ∃ spans row records, Sweeps os e.outstanding [] e t spans outcome final ∧
      outcome.1 = .ok records ∧ row.Perm (uncollected t.history) ∧
      List.Forall₂ (Tells e final) row records ∧ (Prompt os → Ordered spans row) := by
  obtain ⟨spans, hsweeps⟩ := sweeps_of_runs hos h
  obtain ⟨row, records, hall⟩ := hsweeps.collects hos hledger hsound (List.Perm.refl _)
  exact ⟨spans, row, records, hsweeps, hall⟩

/-- Collecting every child does not fail. -/
theorem ok_of_runs_reapAll (hos : os.Within system) (hledger : Ledger e t.history)
    (hsound : t.Sound)
    (h : (reapAll e).Runs os t outcome final) : ∃ records, outcome.1 = .ok records := by
  obtain ⟨_, _, records, -, hrecords, -⟩ := collects_of_runs_reapAll hos hledger hsound h
  exact ⟨records, hrecords⟩

/-- **Nobody is lost, and nobody is collected twice.**  The children waited for are those
    outstanding, in any order.  A run of `reapThese` is a number of sweeps; it succeeds, and its
    records are those of the children that were to be collected, each once and with the end that
    child has come to.  If waits are prompt, a child that has ended before a sweep begins comes
    before one that has not ended when the sweep is over. -/
theorem reaps_everybody_once {start : ProcessTable} (hos : os.Within system) (hfresh : start.Fresh)
    (hworks : Works .anybody default start e t) (horder : waiting.Perm e.outstanding) :
    e.outstanding = (uncollected t.history).map Incarnation.pid ∧
      (∀ outcome final, (reapThese waiting e).Runs os t outcome final →
        ∃ spans, Sweeps os waiting [] e t spans outcome final) ∧
      ∀ spans outcome final, Sweeps os waiting [] e t spans outcome final →
        ∃ row records, outcome.1 = .ok records ∧ row.Perm (uncollected t.history) ∧
          List.Forall₂ (Tells e final) row records ∧ (Prompt os → Ordered spans row) := by
  obtain ⟨hinv, hledger⟩ := hworks.keeps_of_fresh hfresh
  refine ⟨hledger.outstanding, fun _ _ => sweeps_of_runs hos, fun spans outcome final hsweeps => ?_⟩
  exact hsweeps.collects hos hledger hinv.sound horder

/-! ### Two children -/

/-- The records with a child under number 5 and another under number 6. -/
def spawnedTwo : Executor := spawnedFive.add (.new .grate plainImage.name (key 6))

/-- Both children are there. -/
def twoThere : ProcessTable :=
  (((ProcessTable.empty.enter 5 true).note (.spawned ⟨5, 0⟩)).enter 6 true).note (.spawned ⟨6, 1⟩)

theorem works_twoThere (scope : Scope) : Works scope default .empty spawnedTwo twoThere := by
  have hfirst : Works scope default .empty spawnedFive
      ((ProcessTable.empty.enter 5 true).note (.spawned ⟨5, 0⟩)) := by
    refine .performed .start (.spawn .grate plainImage [] none) nofun ?_
    refine Program.runs_bind.mpr ⟨(.ok 5, spawnedFive), _, ?_, rfl, rfl⟩
    rw [spawn_eq]
    exact ⟨.ok 5, _, ⟨.empty, .refl, by decide, rfl, rfl⟩, rfl, rfl⟩
  refine .performed hfirst (.spawn .grate plainImage [] none) nofun ?_
  refine Program.runs_bind.mpr ⟨(.ok 6, spawnedTwo), _, ?_, rfl, rfl⟩
  rw [spawn_eq]
  exact ⟨.ok 6, _, ⟨_, .refl, by decide, rfl, rfl⟩, rfl, rfl⟩

/-- The child under number 6 has exited before the first sweep, and the other one after it. -/
def twoSpans : List Span :=
  let begun := twoThere.exited 1
  let past := (begun.free 6).note (.collected ⟨6, 1⟩ (.exited 0))
  [⟨begun, past⟩, ⟨past.exited 0, ((past.exited 0).free 5).note (.collected ⟨5, 0⟩ (.exited 0))⟩]

/-- The record of a child that has exited with code 0. -/
def exitedRecord (pid : Pid) : ProcessRecord :=
  { ProcessRecord.new .grate plainImage.name (key pid) with termination := some (.exited 0) }

theorem sweeps_two : ∃ e final, Sweeps ProcessTable.prompt [5, 6] [] spawnedTwo twoThere twoSpans
    (.ok [exitedRecord 6, exitedRecord 5], e) final := by
  -- a look at a child that goes on, and one at a child that has exited
  have halive (e : Executor) (t : ProcessTable) (who : Incarnation)
      (hunknown : e.termination? who.pid = none) (hchild : t.HasChild who)
      (hruns : t.ends who.serial = none) :
      (tryReap who.pid e).Runs ProcessTable.prompt t (.ok none, e) t := by
    unfold tryReap
    rw [hunknown]
    refine ⟨.ok .alive, t, ⟨⟨t, .refl, ?_⟩, fun _ other hpid hother => ?_⟩, rfl, rfl⟩
    · exact .untold rfl fun _ => ⟨rfl, who, fun _ => rfl, hchild, hruns⟩
    · rwa [hother.eq hchild hpid]
  have hexited (e : Executor) (t : ProcessTable) (who : Incarnation)
      (hunknown : e.termination? who.pid = none) (hchild : t.HasChild who)
      (hended : t.ends who.serial = some (.exited 0)) :
      (tryReap who.pid e).Runs ProcessTable.prompt t
        (.ok (some (.exited 0)), e.noteEnd who.pid (.exited 0))
        ((t.free who.pid).note (.collected who (.exited 0))) := by
    unfold tryReap
    rw [hunknown]
    exact ⟨.ok (.exited 0), _, ⟨⟨t, .refl, .collected (fun _ => rfl) hchild hended⟩, nofun⟩, rfl,
      rfl⟩
  let begun := twoThere.exited 1
  let past := (begun.free 6).note (.collected ⟨6, 1⟩ (.exited 0))
  have hfirst : (sweep 2 [] [5, 6] [] spawnedTwo).Runs ProcessTable.prompt begun
      (.ok ([5], [exitedRecord 6]), spawnedTwo.noteEnd 6 (.exited 0)) past := by
    have hfifth := halive spawnedTwo begun ⟨5, 0⟩ rfl rfl rfl
    have hsixth := hexited spawnedTwo begun ⟨6, 1⟩ rfl rfl rfl
    refine Supervised.runs_bind.mpr (.inl ⟨none, spawnedTwo, begun, hfifth, ?_⟩)
    refine Supervised.runs_bind.mpr (.inl ⟨some (.exited 0), _, past, hsixth, ?_⟩)
    exact ⟨rfl, rfl⟩
  have hsecond : (sweep 1 [] [5] [exitedRecord 6] (spawnedTwo.noteEnd 6 (.exited 0))).Runs
      ProcessTable.prompt (past.exited 0)
      (.ok ([], [exitedRecord 6, exitedRecord 5]), (spawnedTwo.noteEnd 6 (.exited 0)).noteEnd 5
        (.exited 0)) (((past.exited 0).free 5).note (.collected ⟨5, 0⟩ (.exited 0))) := by
    have hfifth := hexited (spawnedTwo.noteEnd 6 (.exited 0)) (past.exited 0) ⟨5, 0⟩ rfl rfl rfl
    refine Supervised.runs_bind.mpr (.inl ⟨some (.exited 0), _, _, hfifth, ?_⟩)
    exact ⟨rfl, rfl⟩
  have hmoves (t : ProcessTable) (pid : Pid) {serial : Nat}
      (hpid : t.occupant pid = some ⟨serial, true⟩) (hruns : t.ends serial = none) :
      Relation.ReflTransGen Move t (t.exited serial) :=
    .single (@Move.ended _ pid _ _ hpid hruns rfl)
  exact ⟨_, _, .swept nofun (hmoves twoThere 6 rfl rfl) hfirst
    (.swept nofun (hmoves past 5 rfl rfl) hsecond .nobody)⟩

/-- The child under number 6, which has exited before the other, comes first. -/
theorem reaps_everybody_once_of_two :
    Works .anybody default .empty spawnedTwo twoThere ∧ spawnedTwo.outstanding = [5, 6] ∧
      ∃ e final row,
        Sweeps ProcessTable.prompt [5, 6] [] spawnedTwo twoThere twoSpans
          (.ok [exitedRecord 6, exitedRecord 5], e) final ∧
        List.Forall₂ (Tells spawnedTwo final) row [exitedRecord 6, exitedRecord 5] ∧
        [⟨6, 1⟩, ⟨5, 0⟩].Sublist row := by
  have hworks := works_twoThere .anybody
  have horder : [5, 6].Perm spawnedTwo.outstanding := by decide
  obtain ⟨-, -, hall⟩ :=
    reaps_everybody_once ProcessTable.prompt_within ProcessTable.fresh_empty hworks horder
  obtain ⟨e, final, hsweeps⟩ := sweeps_two
  obtain ⟨row, records, hrecords, hperm, htold, hordered⟩ := hall _ _ _ hsweeps
  cases hrecords
  have hmem : ∀ who ∈ uncollected twoThere.history, who ∈ row := fun _ => hperm.mem_iff.mpr
  refine ⟨hworks, rfl, e, final, row, hsweeps, htold, ?_⟩
  exact hordered ProcessTable.prompt_prompt _ List.mem_cons_self _ (hmem _ (by decide)) _
    (hmem _ (by decide)) rfl rfl

end Executor

end Interposition
