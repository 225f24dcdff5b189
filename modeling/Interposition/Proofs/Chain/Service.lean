/-
  What a cage of a chain is answered that is registered.

  The journal of a chain holds one kind of record: a cage of the demonstration is bound to its
  grate.  Nobody reports an exit there, so a number that is given to several cages in turn has
  several records, and the last of them counts; but whichever it is, the handler is the
  demonstration's.

  1. **The table** (`bound_replay`, `geteuid_of_agrees`): a cage with a record among those replayed
     is answered the demonstration's user id.

  2. **The runtime** (`Follows`): the threads of a cage do to their runtime what `Shared.Step`
     allows, while the journal grows.

  3. **The threads** (`serves_step`, `Working.turn`): a thread calls only after it has synced, and
     by then the record of the cage, which was there before the cage was, has been applied.
-/
import Interposition.Proofs.Chain.Levels
import Interposition.Proofs.Session.Calls

namespace Interposition.Chain

open Demo InterceptionTable LoopbackRuntime LoopbackRuntime.Shared

/-! ## The table -/

/-- The registration of a cage of the demonstration under its grate. -/
def own (pid grate : Pid) : Registration :=
  ⟨.ofPid pid, Syscall.geteuid, geteuidHandler, .ofPid grate⟩

/-- A record by which a cage is registered under its grate. -/
inductive Enters : JournalRecord → Prop where
  | intro {pid grate : Pid} (hpid : 0 < pid) (hgrate : 0 < grate) :
      Enters (.register (own pid grate))

/-- The number of a cage is bound to a grate of the demonstration. -/
def Bound (pid : Pid) (table : InterceptionTable) : Prop :=
  ∃ grate : Pid, table.lookup (.ofPid pid) Syscall.geteuid = some ⟨geteuidHandler, .ofPid grate⟩

variable {records : List JournalRecord} {pid grate : Pid} {table : InterceptionTable}
  {native : Native} {stateDir path : Path}

theorem wellFormed_own (hpid : 0 < pid) (hgrate : 0 < grate) : (own pid grate).WellFormed :=
  have hnumber : Syscall.geteuid.raw ≠ 400 := by decide
  ⟨Session.Pid.toWord_ne_zero hpid, Session.Pid.toWord_ne_zero hgrate, hnumber⟩

theorem hasExited_apply {r : JournalRecord} (h : Enters r) (process : CageId) :
    (r.apply table).hasExited process = table.hasExited process := by
  obtain ⟨-, -⟩ := h
  exact hasExited_register table _ process

theorem hasExited_replay (h : ∀ r ∈ records, Enters r) (process : CageId) :
    (JournalRecord.replay records table).hasExited process = table.hasExited process := by
  induction records generalizing table with
  | nil => rfl
  | cons r records ih =>
    obtain ⟨hr, hrecords⟩ := List.forall_mem_cons.mp h
    exact (ih hrecords).trans (hasExited_apply hr process)

/-- **One record** leaves a bound number bound, and binds its own. -/
theorem bound_apply (hexited : ∀ process, table.hasExited process = false) {r : JournalRecord}
    (h : Enters r) (hbound : Bound pid table ∨ ∃ grate, r = .register (own pid grate)) :
    Bound pid (r.apply table) := by
  obtain @⟨other, grate, hother, hgrate⟩ := h
  have haccepted : table.refusal? (own other grate) = none :=
    refusal?_eq_none_iff.mpr ⟨wellFormed_own hother hgrate, hexited _, hexited _⟩
  have hlookup := lookup_register table (own other grate) (.ofPid pid) Syscall.geteuid
  by_cases hfor : (own other grate).isFor (.ofPid pid) Syscall.geteuid = true
  · rw [if_pos ⟨haccepted, hfor⟩] at hlookup
    exact ⟨grate, hlookup⟩
  · rw [if_neg fun h => hfor h.2] at hlookup
    obtain ⟨former, hformer⟩ | ⟨grate', heq⟩ := hbound
    · exact ⟨former, hlookup.trans hformer⟩
    · have hcage := congrArg Registration.targetCage (JournalRecord.register.inj heq)
      exact absurd (Registration.isFor_iff.mpr ⟨hcage, rfl⟩) hfor

/-- **Every number** with a record is bound once the records are replayed. -/
theorem bound_replay (hexited : ∀ process, table.hasExited process = false)
    (h : ∀ r ∈ records, Enters r)
    (hbound : Bound pid table ∨ ∃ grate, JournalRecord.register (own pid grate) ∈ records) :
    Bound pid (JournalRecord.replay records table) := by
  induction records generalizing table with
  | nil => exact hbound.resolve_right fun ⟨_, hmem⟩ => List.not_mem_nil hmem
  | cons r records ih =>
    obtain ⟨hr, hrecords⟩ := List.forall_mem_cons.mp h
    refine ih (fun process => (hasExited_apply hr process).trans (hexited process)) hrecords ?_
    obtain hbound | ⟨grate, hmem⟩ := hbound
    · exact .inl (bound_apply hexited hr (.inl hbound))
    · obtain heq | hlater := List.mem_cons.mp hmem
      · exact .inl (bound_apply hexited hr (.inr ⟨grate, heq.symm⟩))
      · exact .inr ⟨grate, hlater⟩

/-- **A call** of a registered cage is answered the user id by every table that has the grates'
    handlers and the bindings of the records. -/
theorem geteuid_of_agrees (hstocked : Stocked (catalog stateDir) table)
    (hagrees : table.Agrees (JournalRecord.replay records (.new native)))
    (h : ∀ r ∈ records, Enters r) (hmem : JournalRecord.register (own pid grate) ∈ records)
    (args : ArgumentVector) :
    (table.call (.ofPid pid) Syscall.geteuid args).1 = .value userId := by
  obtain ⟨last, hlast⟩ : Bound pid (JournalRecord.replay records (.new native)) :=
    bound_replay (fun _ => rfl) h (.inr ⟨grate, hmem⟩)
  have hlives : table.hasExited (.ofPid pid) = false :=
    (hagrees.hasExited _).trans (hasExited_replay h _)
  have hservice : table.service (.ofPid pid) Syscall.geteuid args =
      .handler ⟨.ofPid last, geteuidHandler, .identity "geteuid" userId, .ofPid pid, args⟩ :=
    hstocked.service_of_lookup hlives (by decide) ((hagrees.lookup _ _).trans hlast) rfl rfl
  rw [call_eq, hservice]
  rfl

/-! ## The runtime -/

/-- A runtime that threads have come to while the journal grew to a file. -/
def Follows (path stateDir : Path) (file : JournalContents) (runtime : LoopbackRuntime) : Prop :=
  ∃ first native s, Steps ⟨default, path⟩ (start first path (catalog stateDir) native) s ∧
    s.file = file ∧ s.underWay = none ∧ s.runtime = runtime

namespace Follows

variable {file : JournalContents} {runtime : LoopbackRuntime}

theorem new (path stateDir : Path) (file : JournalContents) (native : Native) :
    Follows path stateDir file (.new path (catalog stateDir) native) :=
  ⟨file, native, _, .refl, rfl, rfl, rfl⟩

/-- Others append to the journal. -/
theorem grow (h : Follows path stateDir file runtime) {bytes : List UInt8}
    (hgrowth : file.bytes <+: bytes) : Follows path stateDir (some bytes) runtime := by
  obtain ⟨first, native, s, hsteps, rfl, hfree, rfl⟩ := h
  exact ⟨first, native, _, hsteps.tail (.grow hgrowth), rfl, hfree, rfl⟩

/-- **A sync** takes every record there is. -/
theorem sync (h : Follows path stateDir file runtime) (readable : JournalRecord.Readable file.bytes)
    {World : Type} {os : OperatingSystem World} {world final : World}
    (hshows : os.Shows world path file) {outcome : Except JournalError Nat × LoopbackRuntime}
    (hrun : runtime.sync.Runs os world outcome final) :
    Follows path stateDir file outcome.2 ∧
      outcome.2.applied = (JournalRecord.recordsOf file.bytes).length := by
  obtain ⟨first, native, s, hsteps, rfl, hfree, rfl⟩ := h
  have hfollowing := ((following_start _ _ _ _).steps hsteps readable).1
  obtain ⟨rfl, rfl⟩ := (hfollowing.runs_sync_of_shows readable hshows).mp hrun
  obtain ⟨s', hbegins, hrest⟩ := hfollowing.steps_of_sync hfree readable
  have hcount := hfollowing.taken_le
  rw [taken_of_free hfree] at hcount
  refine ⟨⟨first, native, s.synced, (hsteps.tail (.begin hbegins)).trans hrest, rfl, rfl, rfl⟩, ?_⟩
  show s.runtime.applied + s.uncounted.length = _
  unfold uncounted
  rw [List.length_drop]
  omega

/-- The records that have been applied are still there when the file has grown. -/
theorem applied_le (h : Follows path stateDir file runtime)
    (readable : JournalRecord.Readable file.bytes) :
    runtime.applied ≤ (JournalRecord.recordsOf file.bytes).length := by
  obtain ⟨first, native, s, hsteps, rfl, hfree, rfl⟩ := h
  have htaken := ((following_start _ _ _ _).steps hsteps readable).1.taken_le
  rwa [taken_of_free hfree] at htaken

theorem call (h : Follows path stateDir file runtime) {syscall : SyscallNumber}
    (hsyscall : syscall ≠ Syscall.registerHandler) (cage : CageId) (args : ArgumentVector) :
    Follows path stateDir file (runtime.respondSynced cage syscall args).2 := by
  obtain ⟨first, native, s, hsteps, rfl, hfree, rfl⟩ := h
  exact ⟨first, native, _, hsteps.tail (.call hsyscall), rfl, hfree, rfl⟩

/-- **A call** is answered the user id if the cage has a record among those applied. -/
theorem geteuid (h : Follows path stateDir file runtime)
    (readable : JournalRecord.Readable file.bytes)
    (henters : ∀ r ∈ JournalRecord.recordsOf file.bytes, Enters r)
    (hmem : JournalRecord.register (own pid grate) ∈
      (JournalRecord.recordsOf file.bytes).take runtime.applied) (args : ArgumentVector) :
    (runtime.respondSynced (.ofPid pid) Syscall.geteuid args).1 = .value userId := by
  obtain ⟨first, native, s, hsteps, rfl, hfree, rfl⟩ := h
  have hfollowing := ((following_start _ _ _ _).steps hsteps readable).1
  have hrouting := (routing_start _ _ _ native).steps (fun _ _ h => Option.some.inj h ▸ rfl) hsteps
  have hagrees := hfollowing.settled native
  rw [settled_of_free hfree, taken_of_free hfree] at hagrees
  exact geteuid_of_agrees hrouting.stocked hagrees
    (fun r hr => henters r (List.mem_of_mem_take hr)) hmem args

end Follows

/-! ## The journal -/

/-- The journal of a chain whose cages register themselves: whole records and nothing else. -/
def Tidy (file : JournalContents) : Prop :=
  ∃ records : List JournalRecord, file = some (records.flatMap JournalRecord.encode) ∧
    ∀ r ∈ records, Enters r

/-- There is a record of a cage. -/
def Registered (pid : Pid) (file : JournalContents) : Prop :=
  ∃ grate, JournalRecord.register (own pid grate) ∈ JournalRecord.recordsOf file.bytes

/-- A runtime has applied a record of a cage. -/
def Knows (pid : Pid) (file : JournalContents) (runtime : LoopbackRuntime) : Prop :=
  ∃ grate, JournalRecord.register (own pid grate) ∈
    (JournalRecord.recordsOf file.bytes).take runtime.applied

variable {file : JournalContents} {runtime next : LoopbackRuntime}

theorem Tidy.readable (h : Tidy file) : JournalRecord.Readable file.bytes := by
  obtain ⟨records, rfl, -⟩ := h
  exact JournalRecord.readable_flatMap_encode records

theorem Tidy.enters (h : Tidy file) : ∀ r ∈ JournalRecord.recordsOf file.bytes, Enters r := by
  obtain ⟨records, rfl, henters⟩ := h
  show ∀ r ∈ JournalRecord.recordsOf (records.flatMap JournalRecord.encode), Enters r
  rwa [JournalRecord.recordsOf_flatMap_encode]

theorem Registered.grow {now : JournalContents} (h : Registered pid file)
    (hgrowth : file.bytes <+: now.bytes) : Registered pid now := by
  obtain ⟨grate, hmem⟩ := h
  exact ⟨grate, (JournalRecord.recordsOf_isPrefix hgrowth).subset hmem⟩

/-- A runtime forgets nothing. -/
theorem Knows.mono (h : Knows pid file runtime) (hle : runtime.applied ≤ next.applied) :
    Knows pid file next := by
  obtain ⟨grate, hmem⟩ := h
  exact ⟨grate, (List.take_prefix_take_left hle).subset hmem⟩

theorem Knows.grow {now : JournalContents} (h : Knows pid file runtime)
    (hgrowth : file.bytes <+: now.bytes) : Knows pid now runtime := by
  obtain ⟨grate, hmem⟩ := h
  obtain ⟨later, hlater⟩ := JournalRecord.recordsOf_isPrefix hgrowth
  refine ⟨grate, ?_⟩
  rw [← hlater, List.take_append]
  exact List.mem_append_left _ hmem

/-! ## The threads -/

/-- A turn of a cage: one of its threads that have calls to make takes a step. -/
def takeTurn (cage : CageId) (state : List Worker × LoopbackRuntime) :
    Program ((List Worker × LoopbackRuntime) ⊕ List Worker) := do
  match unfinished state.1 with
  | [] => return .inr state.1
  | first :: others =>
    let choice ← Program.request (.choose (others.length + 1))
    let position := ((first :: others)[choice]?).getD first
    match state.1[position]? with
    | none => return .inr state.1
    | some worker =>
      let (worker, runtime) ← worker.step cage state.2
      return .inl (state.1.set position worker, runtime)

theorem runWorkers_eq (cage : CageId) (workers : List Worker) (runtime : LoopbackRuntime) :
    runWorkers cage workers runtime = Program.iterate (workers, runtime) (takeTurn cage) := rfl

/-- When no thread has a call to make, the cage is left with its threads as they are. -/
theorem workers_of_stop {cage : CageId} {state : List Worker × LoopbackRuntime}
    {last : List Worker} {World : Type} {os : OperatingSystem World} {world final : World}
    (h : (takeTurn cage state).Runs os world (.inr last) final) : last = state.1 := by
  unfold takeTurn at h
  split at h
  · exact Sum.inr.inj h.1
  · obtain ⟨choice, between, -, hrest⟩ := Program.runs_request_bind.mp h
    dsimp only at hrest
    split at hrest
    · exact Sum.inr.inj hrest.1
    · obtain ⟨_, _, -, heq, -⟩ := Program.runs_bind.mp hrest
      cases heq

/-- A thread that has been answered by a grate so far, and that calls only after it has synced. -/
structure Serves (pid : Pid) (file : JournalContents) (runtime : LoopbackRuntime)
    (worker : Worker) : Prop where
  script : ∀ syscall ∈ worker.remaining, syscall ∈ Worker.script
  answered : ∀ call ∈ worker.calls, call.syscall = Syscall.geteuid → call.ret = userId
  synced : worker.synced = true → Knows pid file runtime

theorem serves_fresh (pid : Pid) (file : JournalContents) (runtime : LoopbackRuntime)
    (index : Nat) : Serves pid file runtime (.fresh index) :=
  ⟨fun _ => id, fun _ => nofun, nofun⟩

section

variable {os : OperatingSystem JournalContents} {final : JournalContents}

/-- **A call** whose reply is a word returns it. -/
theorem runs_callSynced {caller : CageId} {syscall : SyscallNumber} {args : ArgumentVector}
    {ret : Int64} (h : (runtime.callSynced caller syscall args).Runs os file (ret, next) final) :
    next = (runtime.respondSynced caller syscall args).2 ∧
      ∀ word, (runtime.respondSynced caller syscall args).1 = .value word → ret = word := by
  have hcalled : runtime.callSynced caller syscall args = do
      return (← Program.perform (runtime.respondSynced caller syscall args).1,
        (runtime.respondSynced caller syscall args).2) := rfl
  rw [hcalled] at h
  obtain ⟨answer, between, hperform, heq, -⟩ := Program.runs_bind.mp h
  obtain ⟨rfl, rfl⟩ := Prod.mk.inj heq
  refine ⟨rfl, fun word hword => ?_⟩
  rw [hword] at hperform
  exact hperform.1

/-- **A step of a thread** of a cage that has a record. -/
theorem serves_step (hshows : os.Shows file path file) (htidy : Tidy file)
    (hregistered : Registered pid file) (hfollows : Follows path stateDir file runtime)
    {worker worker' : Worker} (hserves : Serves pid file runtime worker)
    (h : (worker.step (.ofPid pid) runtime).Runs os file (worker', next) final) :
    Follows path stateDir file next ∧ runtime.applied ≤ next.applied ∧
      Serves pid file next worker' := by
  unfold Worker.step at h
  cases hremaining : worker.remaining with
  | nil =>
    simp only [hremaining] at h
    obtain ⟨rfl, rfl⟩ := Prod.mk.inj h.1
    exact ⟨hfollows, Nat.le_refl _, hserves⟩
  | cons syscall rest =>
    have hscript := List.forall_mem_cons.mp (hremaining ▸ hserves.script)
    simp only [hremaining] at h
    split at h
    · next hsynced =>
      obtain ⟨⟨ret, called⟩, between, hcall, heq, -⟩ := Program.runs_bind.mp h
      obtain ⟨rfl, hret⟩ := runs_callSynced hcall
      obtain ⟨rfl, rfl⟩ := Prod.mk.inj heq
      have hnumber : syscall ≠ Syscall.registerHandler := by
        rintro rfl
        exact absurd hscript.1 (by decide)
      refine ⟨hfollows.call hnumber _ _, Nat.le_refl _, hscript.2, ?_, nofun⟩
      refine List.forall_mem_append.mpr ⟨hserves.answered, List.forall_mem_singleton.mpr ?_⟩
      rintro rfl
      obtain ⟨grate, hmem⟩ := hserves.synced hsynced
      exact hret _ (hfollows.geteuid htidy.readable htidy.enters hmem _)
    · obtain ⟨⟨outcome, read⟩, between, hsync, heq, -⟩ := Program.runs_bind.mp h
      obtain ⟨hfollows', hall⟩ := hfollows.sync htidy.readable hshows hsync
      obtain ⟨rfl, rfl⟩ := Prod.mk.inj heq
      have hle : runtime.applied ≤ next.applied := by
        rw [hall]
        exact hfollows.applied_le htidy.readable
      -- whatever is there has been applied, the record of the cage with it
      obtain ⟨grate, hmem⟩ := hregistered
      have hknows : Knows pid file next := by
        refine ⟨grate, ?_⟩
        rw [hall, List.take_length]
        exact hmem
      refine ⟨hfollows', hle, ?_, hserves.answered, fun _ => hknows⟩
      exact hremaining ▸ hserves.script

end

/-- A cage that has a record, its threads and the runtime they share. -/
structure Working (path : Path) (pid : Pid) (file : JournalContents)
    (state : List Worker × LoopbackRuntime) : Prop where
  registered : Registered pid file
  follows : ∃ stateDir, Follows path stateDir file state.2
  serves : ∀ worker ∈ state.1, Serves pid file state.2 worker

namespace Working

variable {state state' : List Worker × LoopbackRuntime}

/-- Others append to the journal. -/
theorem grow (h : Working path pid file state) {now : JournalContents} (htidy : Tidy now)
    (hgrowth : file.bytes <+: now.bytes) : Working path pid now state := by
  obtain ⟨records, rfl, -⟩ := htidy
  refine ⟨h.registered.grow hgrowth, h.follows.imp fun _ hfollows => hfollows.grow hgrowth,
    fun worker hworker => ?_⟩
  have hserves := h.serves worker hworker
  exact ⟨hserves.script, hserves.answered, fun hsynced => (hserves.synced hsynced).grow hgrowth⟩

/-- A cage that has a record and no call behind it. -/
theorem fresh (h : Registered pid file) (path stateDir : Path) (native : Native) (threads : Nat) :
    Working path pid file ((List.range threads).map Worker.fresh,
      .new path (catalog stateDir) native) where
  registered := h
  follows := ⟨stateDir, .new path stateDir file native⟩
  serves worker hworker := by
    obtain ⟨index, -, rfl⟩ := List.mem_map.mp hworker
    exact serves_fresh ..

/-- **A turn** of a cage whose journal can be read, on an operating system that leaves the journal
    alone. -/
theorem turn (h : Working path pid file state) (htidy : Tidy file)
    {os : OperatingSystem JournalContents} (hshows : os.Shows file path file)
    (hquiet : os.Keeps (fun _ => True) (· = file)) {final : JournalContents}
    (hrun : (takeTurn (.ofPid pid) state).Runs os file (.inl state') final) :
    Working path pid file state' := by
  obtain ⟨workers, runtime⟩ := state
  obtain ⟨stateDir, hfollows⟩ := h.follows
  unfold takeTurn at hrun
  split at hrun
  · cases hrun.1
  · obtain ⟨choice, between, hchoice, hrest⟩ := Program.runs_request_bind.mp hrun
    have hsame : between = file := hquiet.answers rfl trivial hchoice
    subst hsame
    dsimp only at hrest
    split at hrest
    · cases hrest.1
    · next worker hworker =>
      have hmem := List.mem_of_getElem? hworker
      obtain ⟨⟨worker', next⟩, last, hstep, heq, -⟩ := Program.runs_bind.mp hrest
      obtain ⟨hfollows', hle, hserves⟩ :=
        serves_step hshows htidy h.registered hfollows (h.serves worker hmem) hstep
      cases heq
      refine ⟨h.registered, ⟨stateDir, hfollows'⟩, fun other hother => ?_⟩
      obtain hformer | rfl := List.mem_or_eq_of_mem_set hother
      · -- another thread has only gained by what this one has read
        have hformer := h.serves other hformer
        exact ⟨hformer.script, hformer.answered, fun hsynced => (hformer.synced hsynced).mono hle⟩
      · exact hserves

end Working

end Interposition.Chain
