/-
  The calls of a cage whose journal holds what the grate has registered.

  1. **The table** (`lookup_replay`, `call_fst_eq`): after the two registrations both calls of the
     cage are bound to the grate's handlers, and a table that has the same bindings and the handlers
     of the catalog answers them with the demonstration's user id.

  2. **The runtime** (`Follows`): the threads of the cage do to their runtime what `Shared.Step`
     allows, with a file that does not change.  So what is known of any threads holds of them: a
     runtime that has counted every record has the bindings of the journal.

  3. **The threads** (`Working`): the calls a thread has made and those it has still to make are the
     script, and it calls only after it has synced.  When no thread has a call to make, that is
     what the outcome says (`Working.served`).
-/
import Interposition.Proofs.Loopback.Routing
import Interposition.Proofs.Session.Protocol

namespace Interposition.Session

open Demo InterceptionTable LoopbackRuntime LoopbackRuntime.Shared

theorem Pid.toWord_ne_zero {pid : Pid} (h : 0 < pid) : pid.toWord ≠ 0 := by
  intro hzero
  have hwide : pid.toInt64 = 0 := congrArg UInt64.toInt64 hzero
  have hint : pid.toInt = 0 := by
    rw [← Int32.toInt_toInt64, hwide]
    rfl
  have hpos : (0 : Int) < pid.toInt := Int32.lt_iff_toInt_lt.mp h
  omega

namespace Setting

variable (setting : Setting)

/-! ## The table -/

/-- The records of the journal once the grate has registered. -/
def records : List JournalRecord := setting.registrations.map .register

theorem recorded_eq : setting.recorded = setting.records.flatMap JournalRecord.encode := by
  unfold records
  rw [List.flatMap_map]
  rfl

theorem readable_recorded : JournalRecord.Readable setting.recorded := by
  rw [recorded_eq]
  exact JournalRecord.readable_flatMap_encode _

theorem recordsOf_recorded : JournalRecord.recordsOf setting.recorded = setting.records := by
  rw [recorded_eq]
  exact JournalRecord.recordsOf_flatMap_encode _

variable {setting} {table : InterceptionTable} {native : Native}

theorem wellFormed_of_mem {r : Registration} (h : r ∈ setting.registrations) : r.WellFormed := by
  obtain ⟨entry, hentry, rfl⟩ := List.mem_map.mp h
  have hnumber : ∀ entry ∈ sessionInterceptions, entry.1.raw ≠ 400 := by decide
  exact ⟨Pid.toWord_ne_zero (setting.pid_pos .cage), Pid.toWord_ne_zero (setting.pid_pos .grate),
    hnumber entry hentry⟩

theorem hasExited_replay (process : CageId) :
    (JournalRecord.replay setting.records (.new native)).hasExited process = false :=
  (hasExited_register ..).trans (hasExited_register ..)

/-- **Both calls are bound** once the registrations have been replayed. -/
theorem lookup_replay {syscall : SyscallNumber} {handler : HandlerIndex}
    (h : (syscall, handler) ∈ sessionInterceptions) :
    (JournalRecord.replay setting.records (.new native)).lookup setting.cageId syscall =
      some ⟨handler, setting.grateId⟩ := by
  let first : Registration := ⟨setting.cageId, Syscall.getuid, getuidHandler, setting.grateId⟩
  let second : Registration := ⟨setting.cageId, Syscall.geteuid, geteuidHandler, setting.grateId⟩
  have hmem : first ∈ setting.registrations ∧ second ∈ setting.registrations := by
    simp [first, second, registrations, sessionInterceptions]
  have hfirst : (InterceptionTable.new native).refusal? first = none :=
    refusal?_eq_none_iff.mpr ⟨wellFormed_of_mem hmem.1, rfl, rfl⟩
  have hsecond : ((InterceptionTable.new native).register first).2.refusal? second = none :=
    refusal?_eq_none_iff.mpr
      ⟨wellFormed_of_mem hmem.2, hasExited_register .., hasExited_register ..⟩
  show (((InterceptionTable.new native).register first).2.register second).2.lookup _ _ = _
  rw [lookup_register, lookup_register]
  rcases List.mem_cons.mp h with heq | hrest
  · obtain ⟨rfl, rfl⟩ := Prod.mk.inj heq
    have hother : second.isFor setting.cageId Syscall.getuid = false := by
      simp [second, Registration.isFor, Syscall.getuid, Syscall.geteuid]
    have hfor : first.isFor setting.cageId Syscall.getuid = true := by
      simp [first, Registration.isFor]
    rw [if_neg (by simp [hother]), if_pos ⟨hfirst, hfor⟩]
    rfl
  · obtain ⟨rfl, rfl⟩ := Prod.mk.inj (List.mem_singleton.mp hrest)
    have hfor : second.isFor setting.cageId Syscall.geteuid = true := by
      simp [second, Registration.isFor]
    rw [if_pos ⟨hsecond, hfor⟩]
    rfl

/-- The handlers of the grate answer the demonstration's user id. -/
theorem get?_handlers (stateDir : Path) {syscall : SyscallNumber} {handler : HandlerIndex}
    (h : (syscall, handler) ∈ sessionInterceptions) :
    ∃ name, (handlers stateDir).get? handler = some (.identity name userId) := by
  rcases List.mem_cons.mp h with heq | hrest
  · obtain ⟨rfl, rfl⟩ := Prod.mk.inj heq
    exact ⟨"getuid", rfl⟩
  · obtain ⟨rfl, rfl⟩ := Prod.mk.inj (List.mem_singleton.mp hrest)
    exact ⟨"geteuid", rfl⟩

/-- **A call of the cage** is answered with the user id by every table that has the grate's
    handlers and the bindings of the journal. -/
theorem call_fst_eq (hstocked : Stocked (catalog setting.config.stateDir) table)
    (hagrees : table.Agrees (JournalRecord.replay setting.records (.new native)))
    {syscall : SyscallNumber} (h : syscall ∈ Worker.script) (args : ArgumentVector) :
    (table.call setting.cageId syscall args).1 = .value userId := by
  obtain ⟨handler, hmem⟩ : ∃ handler, (syscall, handler) ∈ sessionInterceptions := by
    rcases List.mem_cons.mp h with rfl | hrest
    · exact ⟨getuidHandler, List.mem_cons_self ..⟩
    · rw [List.mem_singleton.mp hrest]
      exact ⟨geteuidHandler, List.mem_cons_of_mem _ (List.mem_cons_self ..)⟩
  have hlookup : table.lookup setting.cageId syscall = some ⟨handler, setting.grateId⟩ :=
    (hagrees.lookup _ _).trans (lookup_replay hmem)
  obtain ⟨name, hhandler⟩ := get?_handlers setting.config.stateDir hmem
  have hservice : table.service setting.cageId syscall args =
      .handler ⟨setting.grateId, handler, .identity name userId, setting.cageId, args⟩ := by
    refine hstocked.service_of_lookup ((hagrees.hasExited _).trans (hasExited_replay _)) ?_ hlookup
      rfl hhandler
    rintro rfl
    exact absurd h (by decide)
  rw [call_eq, hservice]
  rfl

/-! ## The runtime -/

theorem recordsOf_file {s : Shared} (h : s.file = some setting.recorded) :
    JournalRecord.recordsOf s.file.bytes = setting.records := by
  rw [h]
  exact setting.recordsOf_recorded

/-- A runtime that the threads of the cage have come to while the journal held what the grate has
    registered. -/
def Follows (setting : Setting) (native : Native) (runtime : LoopbackRuntime) : Prop :=
  ∃ s, Steps ⟨default, setting.journal⟩ (start (some setting.recorded) setting.journal
      (catalog setting.config.stateDir) native) s ∧
    s.file = some setting.recorded ∧ s.underWay = none ∧ s.runtime = runtime

namespace Follows

variable {runtime : LoopbackRuntime}

theorem new (setting : Setting) (native : Native) : setting.Follows native
    (.new setting.journal (catalog setting.config.stateDir) native) :=
  ⟨_, .refl, rfl, rfl, rfl⟩

theorem journal (h : setting.Follows native runtime) : runtime.journal = setting.journal := by
  obtain ⟨s, hsteps, hfile, -, rfl⟩ := h
  have hreadable : JournalRecord.Readable s.file.bytes := hfile ▸ setting.readable_recorded
  exact ((following_start _ _ _ _).steps hsteps hreadable).1.journal

/-- Once the runtime has taken what there was to take it has counted every record. -/
theorem absorb (h : setting.Follows native runtime) :
    setting.Follows native (runtime.absorb (setting.records.drop runtime.applied)) ∧
      (runtime.absorb (setting.records.drop runtime.applied)).applied =
        setting.records.length := by
  obtain ⟨s, hsteps, hfile, hfree, rfl⟩ := h
  have hreadable : JournalRecord.Readable s.file.bytes := hfile ▸ setting.readable_recorded
  have hfollowing := ((following_start _ _ _ _).steps hsteps hreadable).1
  have huncounted : s.uncounted = setting.records.drop s.runtime.applied := by
    unfold uncounted
    rw [recordsOf_file hfile]
  have hcount : s.runtime.applied ≤ setting.records.length := by
    have htaken := hfollowing.taken_le
    rw [taken_of_free hfree, recordsOf_file hfile] at htaken
    exact htaken
  obtain ⟨s', hbegins, hrest⟩ := hfollowing.steps_of_sync hfree hreadable
  rw [← huncounted]
  refine ⟨⟨s.synced, (hsteps.tail (.begin hbegins)).trans hrest, hfile, rfl, rfl⟩, ?_⟩
  show s.runtime.applied + s.uncounted.length = _
  rw [huncounted, List.length_drop]
  omega

/-- **A call** that comes after the runtime has synced is answered with the user id. -/
theorem respondSynced (h : setting.Follows native runtime)
    (hsynced : runtime.applied = setting.records.length) {syscall : SyscallNumber}
    (hsyscall : syscall ∈ Worker.script) (args : ArgumentVector) :
    (runtime.respondSynced setting.cageId syscall args).1 = .value userId ∧
      setting.Follows native (runtime.respondSynced setting.cageId syscall args).2 ∧
      (runtime.respondSynced setting.cageId syscall args).2.applied = runtime.applied := by
  obtain ⟨s, hsteps, hfile, hfree, rfl⟩ := h
  have hreadable : JournalRecord.Readable s.file.bytes := hfile ▸ setting.readable_recorded
  have hfollowing := ((following_start _ _ _ _).steps hsteps hreadable).1
  have hrouting := (routing_start _ _ _ native).steps (fun _ _ h => Option.some.inj h ▸ rfl) hsteps
  have hagrees := hfollowing.settled native
  rw [settled_of_free hfree, taken_of_free hfree, hsynced, recordsOf_file hfile,
    List.take_length] at hagrees
  have hquiet : syscall ≠ Syscall.registerHandler := by
    rintro rfl
    exact absurd hsyscall (by decide)
  exact ⟨call_fst_eq hrouting.stocked hagrees hsyscall args,
    ⟨_, hsteps.tail (.call hquiet), hfile, hfree, rfl⟩, rfl⟩

end Follows

/-! ## The threads -/

/-- A thread that has been answered by the grate so far, and that calls only after it has synced. -/
structure Serves (setting : Setting) (runtime : LoopbackRuntime) (worker : Worker) : Prop where
  script : worker.calls.map CallRecord.syscall ++ worker.remaining = Worker.script
  answered : ∀ call ∈ worker.calls, call.ret = userId
  synced : worker.synced = true → runtime.applied = setting.records.length

/-- The threads of the cage and the runtime they share. -/
structure Working (setting : Setting) (native : Native) (workers : List Worker)
    (runtime : LoopbackRuntime) : Prop where
  follows : setting.Follows native runtime
  serves : ∀ worker ∈ workers, setting.Serves runtime worker
  count : workers.length = setting.threads

namespace Working

variable {runtime next : LoopbackRuntime} {workers : List Worker}

theorem start (setting : Setting) (native : Native) :
    setting.Working native
      ((List.range (max setting.cageArguments.threads.toNat 1)).map Worker.fresh)
      (.new setting.journal (catalog setting.config.stateDir) native) where
  follows := .new setting native
  serves worker h := by
    obtain ⟨index, -, rfl⟩ := List.mem_map.mp h
    exact ⟨rfl, nofun, nofun⟩
  count := by
    rw [List.length_map, List.length_range, Nat.max_comm]
    rfl

/-- One thread has taken a step. -/
theorem set (h : setting.Working native workers runtime) (hfollows : setting.Follows native next)
    (hcount : runtime.applied = setting.records.length → next.applied = setting.records.length)
    {worker : Worker} (hworker : setting.Serves next worker) (position : Nat) :
    setting.Working native (workers.set position worker) next where
  follows := hfollows
  serves other hmem := by
    rcases List.mem_or_eq_of_mem_set hmem with hother | rfl
    · obtain ⟨hscript, hanswered, hsynced⟩ := h.serves other hother
      exact ⟨hscript, hanswered, fun hother => hcount (hsynced hother)⟩
    · exact hworker
  count := by
    rw [List.length_set]
    exact h.count

end Working

/-- What a thread was answered, once it has made all its calls. -/
theorem Serves.returns {runtime : LoopbackRuntime} {worker : Worker}
    (h : setting.Serves runtime worker) (hfinished : worker.remaining = [])
    {syscall : SyscallNumber} (hsyscall : syscall ∈ Worker.script) :
    (worker.calls.filter fun call => call.syscall = syscall).map CallRecord.ret = [userId] := by
  have hscript := h.script
  rw [hfinished, List.append_nil] at hscript
  have hrets : (worker.calls.filter fun call => call.syscall = syscall).map CallRecord.ret =
      (worker.calls.filter fun call => call.syscall = syscall).map fun _ => userId :=
    List.map_congr_left fun call hcall => h.answered call (List.mem_of_mem_filter hcall)
  have hcount : (worker.calls.filter fun call => call.syscall = syscall).length = 1 := by
    rw [← List.length_map CallRecord.syscall]
    have hfilter : (worker.calls.filter fun call => call.syscall = syscall).map CallRecord.syscall =
        Worker.script.filter fun number => number = syscall := by
      rw [← hscript, List.filter_map]
      rfl
    rw [hfilter]
    rcases List.mem_cons.mp hsyscall with rfl | hrest
    · decide
    · rw [List.mem_singleton.mp hrest]
      decide
  rw [hrets, List.map_const', hcount]
  rfl

/-- A thread that is chosen is there and has a call to make. -/
theorem getElem?_of_mem_unfinished {workers : List Worker} {position : Nat}
    (h : position ∈ unfinished workers) :
    ∃ worker, workers[position]? = some worker := by
  obtain ⟨⟨worker, _⟩, hentry, rfl⟩ := List.mem_map.mp h
  exact ⟨worker, List.mk_mem_zipIdx_iff_getElem?.mp (List.mem_of_mem_filter hentry)⟩

theorem remaining_of_unfinished {workers : List Worker} (h : unfinished workers = [])
    {worker : Worker} (hworker : worker ∈ workers) : worker.remaining = [] := by
  obtain ⟨position, hposition⟩ := List.mem_iff_getElem?.mp hworker
  have hnone := List.filter_eq_nil_iff.mp (List.map_eq_nil_iff.mp h) (worker, position)
    (List.mk_mem_zipIdx_iff_getElem?.mpr hposition)
  simpa using hnone

theorem returnsOf_flatMap (cage : CageId) {workers : List Worker} {syscall : SyscallNumber}
    (h : ∀ worker ∈ workers,
      (worker.calls.filter fun call => call.syscall = syscall).map CallRecord.ret = [userId]) :
    CageOutcome.returnsOf ⟨cage, workers.flatMap Worker.calls⟩ syscall =
      List.replicate workers.length userId := by
  unfold CageOutcome.returnsOf
  induction workers with
  | nil => rfl
  | cons worker rest ih =>
    rw [List.flatMap_cons, List.filter_append, List.map_append, h worker (List.mem_cons_self ..),
      ih fun other hother => h other (List.mem_cons_of_mem _ hother)]
    rfl

/-- **When no thread has a call to make** the outcome has the user id once for each thread, for
    either call. -/
theorem Working.served {workers : List Worker} {runtime : LoopbackRuntime}
    (h : setting.Working native workers runtime) (hfinished : unfinished workers = []) :
    setting.Served ⟨setting.cageId, workers.flatMap Worker.calls⟩ := by
  have hreturns {syscall : SyscallNumber} (hsyscall : syscall ∈ Worker.script) :
      CageOutcome.returnsOf ⟨setting.cageId, workers.flatMap Worker.calls⟩ syscall =
        List.replicate setting.threads userId := by
    rw [← h.count]
    exact returnsOf_flatMap _ fun worker hworker =>
      (h.serves worker hworker).returns (remaining_of_unfinished hfinished hworker) hsyscall
  exact ⟨rfl, hreturns (List.mem_cons_self ..),
    hreturns (List.mem_cons_of_mem _ (List.mem_cons_self ..))⟩

end Setting

end Interposition.Session
