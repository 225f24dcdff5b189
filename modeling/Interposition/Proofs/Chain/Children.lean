/-
  Starting children and collecting them.

  What the programs of a chain ask of the machine, and what comes of it.

  1. **Files** (`meets_ensure`, `meets_create`, `meets_openWriter`): whether or not they can be
     opened, nobody is started and nobody is collected.

  2. **Registering** (`written_of_boots`): a child that has become a cage has appended its
     registrations under its grate to the journal, and nothing else.

  3. **Starting** (`meets_startChild`): there is one more child, or there is a failure where there
     may be one.

  4. **Collecting** (`meets_reapAll`): whoever has been started is waited for, and the records tell
     the ends that were foretold.
-/
import Interposition.Proofs.Chain.Lives
import Interposition.Proofs.Process.Collecting
import Interposition.Proofs.Process.Supervision

namespace Interposition

open Program (Meets makeDirectories meets_request_bind request)

namespace Chain

variable {machine : Machine} {self : Surroundings} {fate : Pid → Option Termination}
  {invariant : Doings → Prop} {inv : List Child → Prop} {now : Doings} {e : Executor}

/-! ## Files -/

/-- Files were made or opened, or were not where that may fail: nobody was started and nobody was
    collected. -/
structure LeavesAlone {ε α : Type} (machine : Machine) (now : Doings) (result : Except ε α)
    (after : Doings) : Prop where
  after_eq : after = now
  mayFail : ∀ cause, result = .error cause → machine.mayFail = true

/-- Directories can be made, unless things may fail. -/
theorem meets_makeDirectories {paths : List Path} :
    (makeDirectories paths).Meets (host machine self fate) (.alone invariant) (LeavesAlone machine now)
      now := by
  have hlook (path : Path) (cause : IoError) : (do
      if ← request (.isDirectory path) then return .ok () else return .error cause :
        Program (Except IoError Unit)).Meets (host machine self fate) (.alone invariant)
      (LeavesAlone machine now) now := by
    refine meets_request_bind fun hinv there between ⟨hthere, hbetween⟩ => ?_
    subst hbetween
    refine ⟨hinv, ?_⟩
    cases there with
    | true => exact ⟨rfl, nofun⟩
    | false => exact ⟨rfl, fun _ _ => hthere rfl⟩
  induction paths with
  | nil => exact ⟨rfl, nofun⟩
  | cons path parents ih =>
    refine meets_request_bind fun hinv made between hbetween => ?_
    obtain rfl : between = now := hbetween
    refine ⟨hinv, ?_⟩
    cases made with
    | ok => exact ⟨rfl, nofun⟩
    | error cause =>
      show (if cause.isNotFound = true then _ else _ : Program _).Meets _ _ _ _
      split
      · refine Meets.bind ih ?_
        rintro (_ | _) after ⟨rfl, habove⟩
        · exact ⟨rfl, fun _ _ => habove _ rfl⟩
        · refine meets_request_bind fun hinv made between hbetween => ?_
          obtain rfl : between = after := hbetween
          refine ⟨hinv, ?_⟩
          cases made with
          | ok => exact ⟨rfl, nofun⟩
          | error cause => exact hlook path cause
      · exact hlook path cause

/-- The rendezvous can be made, unless things may fail. -/
theorem meets_ensure {rendezvous : Rendezvous} :
    rendezvous.ensure.Meets (host machine self fate) (.alone invariant) (LeavesAlone machine now)
      now := by
  refine Meets.bind meets_makeDirectories ?_
  rintro (_ | _) after ⟨rfl, hmade⟩
  · exact ⟨rfl, fun _ _ => hmade _ rfl⟩
  · exact ⟨rfl, nofun⟩

/-- The journal can be opened, unless things may fail. -/
theorem meets_openWriter {path : Path} :
    (Journal.openWriter path).Meets (host machine self fate) (.alone invariant) (fun result after =>
      LeavesAlone machine now result after ∧
        ∀ writer, result = .ok writer → path = machine.journalPath →
          writer = ⟨machine.journal self.pid, machine.journalPath⟩) now := by
  refine meets_request_bind fun hinv opened between ⟨hsure, hhandle, hbetween⟩ => ?_
  subst hbetween
  refine ⟨hinv, ?_⟩
  cases opened with
  | error cause => exact ⟨⟨rfl, fun _ _ => hsure _ rfl⟩, nofun⟩
  | ok handle =>
    refine ⟨⟨rfl, nofun⟩, ?_⟩
    rintro _ hwriter rfl
    cases hwriter
    rw [hhandle handle rfl rfl]

/-- The journal can be made, unless things may fail. -/
theorem meets_create {path : Path} :
    (Journal.create path).Meets (host machine self fate) (.alone invariant) (LeavesAlone machine now)
      now := by
  have htruncate : (Journal.truncate path).Meets (host machine self fate) (.alone invariant)
      (LeavesAlone machine now) now := by
    refine meets_request_bind fun hinv made between ⟨hsure, hbetween⟩ => ?_
    subst hbetween
    refine ⟨hinv, ?_⟩
    cases made with
    | error cause => exact ⟨rfl, fun _ _ => hsure _ rfl⟩
    | ok file =>
      refine meets_request_bind fun hinv _ between hbetween => ?_
      obtain rfl : between = _ := hbetween
      exact ⟨hinv, meets_openWriter.mono fun _ _ h => h.1⟩
  unfold Journal.create
  split
  · exact htruncate
  · refine Meets.bind meets_makeDirectories ?_
    rintro (_ | _) after ⟨rfl, hmade⟩
    · exact ⟨rfl, fun _ _ => hmade _ rfl⟩
    · exact htruncate

/-! ## Registering -/

/-- What a cage of a chain registers under its grate. -/
def Settings.registrations (settings : Settings) (cage : CageId) (grate : GrateId) :
    List JournalRecord :=
  settings.interceptions.map fun (syscall, handler) => .register ⟨cage, syscall, handler, grate⟩

/-- **Registering** that is not refused has recorded every registration. -/
theorem runs_registerSelf {writer : JournalWriter} {cage : CageId} {grate : GrateId}
    {interceptions : List (SyscallNumber × HandlerIndex)} {contents next : JournalContents}
    (h : (registerSelf writer.channel cage grate interceptions).Runs (journalFile writer) contents
      none next) :
    next = contents.extended ((interceptions.map fun (syscall, handler) =>
      JournalRecord.register ⟨cage, syscall, handler, grate⟩).flatMap JournalRecord.encode) := by
  induction interceptions generalizing contents with
  | nil =>
    obtain ⟨-, rfl⟩ := Program.runs_pure.mp h
    exact (JournalContents.extended_nil _).symm
  | cons interception rest ih =>
    obtain ⟨status, between, hregister, hrest⟩ := Program.runs_bind.mp h
    by_cases hstatus : status = RegistrationError.accepted
    · have haccepted := JournalWriter.runs_channel_iff.mp ⟨hregister, by rw [hstatus]; decide⟩
      split at haccepted
      · obtain ⟨-, rfl⟩ := haccepted
        rw [if_neg (not_not_intro hstatus)] at hrest
        rw [ih hrest, JournalContents.extended_extended]
        rfl
      · rw [haccepted.1] at hstatus
        exact absurd hstatus (by decide)
    · rw [if_pos hstatus] at hrest
      exact nomatch hrest.1

theorem boot_within {parent pid : Pid} : (boot machine parent pid).Within
    (journalFile ⟨machine.journal parent, machine.journalPath⟩) where
  answers {written r answer next} h := by
    cases r <;> first | exact h | exact trivial
  spawns h := h.elim

/-- **A cage** has registered itself under its grate by the time it starts. -/
theorem written_of_boots {settings : Settings} {grate : GrateId} {parent pid : Pid}
    {written : List JournalRecord}
    (h : (setup settings ⟨machine.journal parent, machine.journalPath⟩ grate).Runs
      (boot machine parent pid) (some []) none (some (written.flatMap JournalRecord.encode))) :
    written = settings.registrations (.ofPid pid) grate := by
  obtain ⟨who, between, ⟨rfl, rfl⟩, hregister⟩ := Program.runs_request_bind.mp h
  have hwritten : written.flatMap JournalRecord.encode =
      (settings.registrations (.ofPid who.process) grate).flatMap JournalRecord.encode :=
    Option.some.inj (runs_registerSelf (hregister.within boot_within))
  rw [← JournalRecord.recordsOf_flatMap_encode written, hwritten,
    JournalRecord.recordsOf_flatMap_encode]

/-! ## Starting -/

section

variable {role : Role} {image : ImageSpec} {vars : List (String × String)}
  {setup : Option (Program (Option Errno))}

theorem meets_spawn {post : Except ProcessError Pid × Executor → Doings → Prop}
    (hborn : ∀ child : Child, child.Born machine self.pid ⟨image.program, image.args, vars⟩
      setup.isSome (setup.getD (pure none)) now → inv (now.started ++ [child]) ∧
        post (.ok child.pid, e.add (.new role image.name (Executor.key child.pid)))
          (now.starts child))
    (hfailed : machine.mayFail = true → ∀ cause, post (.error cause, e) now) :
    (Executor.spawn role image vars setup e).Meets (host machine self fate)
      (.alone fun now => inv now.started) post now := by
  rw [Executor.spawn_eq]
  rintro _ rfl hinv answer between hanswer
  cases answer with
  | error cause =>
    obtain ⟨hfail, rfl⟩ := hanswer
    exact ⟨⟨hinv, trivial⟩, hfailed hfail _⟩
  | ok pid =>
    obtain ⟨child, hchild, rfl, rfl⟩ := hanswer
    exact ⟨⟨(hborn child hchild).1, trivial⟩, (hborn child hchild).2⟩

/-- **Starting** a child of a level. -/
theorem meets_startChild {post : Except ProcessError (List String) × Executor → Doings → Prop}
    (hborn : ∀ child : Child, child.Born machine self.pid ⟨image.program, image.args, vars⟩
      setup.isSome (setup.getD (pure none)) now → inv (now.started ++ [child]) ∧
        post (.ok [], e.add (.new role image.name (Executor.key child.pid))) (now.starts child))
    (hfailed : machine.mayFail = true → ∀ result, result ≠ .ok [] → post (result, e) now) :
    (startChild role image vars setup e).Meets (host machine self fate)
      (.alone fun now => inv now.started) post now := by
  refine Supervised.meets_bind (Program.meets_bind (meets_spawn (fun child hchild => ?_) ?_))
  · exact hborn child hchild
  · intro hfail cause
    show ((if cause.isLeaf = true then pure [Diagnostic.message cause] else throw cause :
      Supervised (List String)) e).Meets _ _ _ _
    split
    · exact hfailed hfail _ (by simp)
    · exact hfailed hfail _ nofun

end

/-! ## Collecting -/

/-- The executor awaits everybody who has been started. -/
structure Tracks (e : Executor) (now : Doings) : Prop where
  outstanding : e.outstanding = now.started.map Child.pid
  awaited : ∀ child ∈ now.started, e.Awaits child.pid ∧ child.pid ∈ now.alive
  nodup : (now.started.map Child.pid).Nodup

theorem tracks_none : Tracks default .none := ⟨rfl, nofun, List.nodup_nil⟩

/-- A new child is awaited as well. -/
theorem Tracks.starts (h : Tracks e now) {role : Role} {image : String} {child : Child}
    (hfresh : child.pid ∉ now.alive) :
    Tracks (e.add (.new role image (Executor.key child.pid))) (now.starts child) := by
  -- everybody started before is still to be told of, so the new number is none of theirs
  have hnew : child.pid ∉ now.started.map Child.pid := by
    intro hmem
    obtain ⟨former, hformer, hpid⟩ := List.mem_map.mp hmem
    exact hfresh (hpid ▸ (h.awaited former hformer).2)
  have hothers : (now.started.map Child.pid).filter (· ≠ child.pid) = now.started.map Child.pid :=
    List.filter_eq_self.mpr fun pid hpid => decide_eq_true fun heq => hnew (heq ▸ hpid)
  refine ⟨?_, fun other hother => ?_, ?_⟩
  · rw [Executor.outstanding_add, h.outstanding, hothers, Doings.starts, List.map_append]
    rfl
  · rw [Executor.awaits_add]
    obtain hother | hother := List.mem_append.mp hother
    · exact ⟨.inr (h.awaited other hother).1, List.mem_cons_of_mem _ (h.awaited other hother).2⟩
    · rw [List.mem_singleton.mp hother]
      exact ⟨.inl rfl, List.mem_cons_self⟩
  · rw [Doings.starts, List.map_append]
    exact h.nodup.append (List.nodup_singleton _) (by simpa using hnew)

/-- A record tells the end of a child, as it was foretold. -/
def Tells (fate : Pid → Option Termination) (child : Child) (r : ProcessRecord) : Prop :=
  ∃ t, t ≠ .vanished ∧ fate child.pid = some t ∧ r.termination = some t

/-- Some of those started are still waited for, and the records tell of the others. -/
structure Row (fate : Pid → Option Termination) (started : List Child) (waiting : List Pid)
    (finished : List ProcessRecord) (e : Executor) (now : Doings) : Prop where
  started_eq : now.started = started
  nodup : waiting.Nodup
  awaited : ∀ pid ∈ waiting, e.Awaits pid ∧ pid ∈ now.alive
  known : ∀ pid ∈ waiting, ∃ child ∈ started, child.pid = pid
  told : ∀ child ∈ started, child.pid ∈ waiting ∨ ∃ r ∈ finished, Tells fate child r
  tells : ∀ r ∈ finished, ∃ child ∈ started, Tells fate child r

namespace Row

variable {started : List Child} {waiting rest : List Pid} {finished : List ProcessRecord} {pid : Pid}

theorem perm {waiting' : List Pid} (hperm : waiting.Perm waiting')
    (h : Row fate started waiting finished e now) : Row fate started waiting' finished e now where
  started_eq := h.started_eq
  nodup := hperm.nodup_iff.mp h.nodup
  awaited pid hpid := h.awaited pid (hperm.mem_iff.mpr hpid)
  known pid hpid := h.known pid (hperm.mem_iff.mpr hpid)
  told child hchild := (h.told child hchild).imp_left hperm.mem_iff.mp
  tells := h.tells

/-- **The end of the first** is told. -/
theorem ended (h : Row fate started (pid :: rest) finished e now) {t : Termination}
    (hfate : fate pid = some t) (hended : t ≠ .vanished) : ∃ r,
    (e.noteEnd pid t).record? pid = some r ∧
      Row fate started rest (finished ++ [r]) (e.noteEnd pid t) (now.told pid) := by
  obtain ⟨⟨r, hr, hrunning⟩, halive⟩ := h.awaited pid List.mem_cons_self
  obtain ⟨child, hchild, hpid⟩ := h.known pid List.mem_cons_self
  have hnodup := List.nodup_cons.mp h.nodup
  have htells : Tells fate child { r with termination := some t } := ⟨t, hended, hpid ▸ hfate, rfl⟩
  refine ⟨{ r with termination := some t }, ?_, h.started_eq, hnodup.2, ?_, ?_, ?_, ?_⟩
  · rw [Executor.record?_noteEnd, hr, Option.map_some, if_pos rfl]
  · intro other hother
    have hne : other ≠ pid := fun heq => hnodup.1 (heq ▸ hother)
    obtain ⟨hawaits, halive⟩ := h.awaited other (List.mem_cons_of_mem _ hother)
    exact ⟨Executor.awaits_noteEnd.mpr ⟨hne, hawaits⟩, (List.mem_erase_of_ne hne).mpr halive⟩
  · exact fun other hother => h.known other (List.mem_cons_of_mem _ hother)
  · intro other hother
    obtain hwaiting | ⟨former, hformer, hformerTells⟩ := h.told other hother
    · obtain hpid | hrest := List.mem_cons.mp hwaiting
      · exact .inr ⟨_, List.mem_append_right _ (List.mem_singleton_self _),
          t, hended, hpid ▸ hfate, rfl⟩
      · exact .inl hrest
    · exact .inr ⟨former, List.mem_append_left _ hformer, hformerTells⟩
  · intro former hformer
    obtain hformer | hformer := List.mem_append.mp hformer
    · exact h.tells former hformer
    · exact ⟨child, hchild, List.mem_singleton.mp hformer ▸ htells⟩

end Row

/-- **The row** of children is kept by every look and every pause, and no look fails. -/
theorem collecting (started : List Child) :
    Executor.Collecting (host machine self fate) (fun now => inv now.started) (Row fate started)
      fun _ _ _ => False where
  perm := Row.perm
  pause hinv hrow hnext := by
    obtain rfl := hnext
    exact ⟨hinv, hrow⟩
  look {pid rest finished e now} hrow := by
    have hawaits := (hrow.awaited pid List.mem_cons_self).1
    unfold Executor.tryReap
    rw [hawaits.termination?]
    refine meets_request_bind fun hinv answer between hanswer => ?_
    cases answer with
    | ok status =>
      cases hstatus : Termination.ofWaitStatus? status with
      | none =>
        simp only [host, hstatus] at hanswer ⊢
        subst hanswer
        exact ⟨hinv, hrow⟩
      | some t =>
        simp only [host, hstatus] at hanswer ⊢
        obtain ⟨-, hfate, rfl⟩ := hanswer
        exact ⟨hinv, hrow.ended hfate (Termination.ne_vanished_of_ofWaitStatus? hstatus)⟩
    | error cause =>
      -- the wait was interrupted, and the child stays in the row; or nobody is there to wait for
      obtain ⟨rfl | ⟨-, hgone⟩, rfl⟩ := hanswer
      · exact ⟨hinv, hrow⟩
      · exact absurd (hrow.awaited pid List.mem_cons_self).2 hgone

/-- **Collecting** never fails, and the records tell of everybody who was started. -/
theorem meets_reapAll (h : Tracks e now) :
    (Executor.reapAll e).Meets (host machine self fate) (.alone fun now => inv now.started)
      (fun outcome after => ∃ records, outcome.1 = .ok records ∧ after.started = now.started ∧
        (∀ child ∈ now.started, ∃ r ∈ records, Tells fate child r) ∧
        ∀ r ∈ records, ∃ child ∈ now.started, Tells fate child r) now := by
  have hrow : Row fate now.started e.outstanding [] e now := by
    rw [h.outstanding]
    refine ⟨rfl, h.nodup, fun pid hpid => ?_, fun pid => List.mem_map.mp,
      fun child hchild => .inl (List.mem_map_of_mem hchild), nofun⟩
    obtain ⟨child, hchild, rfl⟩ := List.mem_map.mp hpid
    exact h.awaited child hchild
  refine Meets.mono (Executor.meets_reapThese (collecting now.started) hrow) ?_
  rintro ⟨_ | records, after⟩ final hfinal
  · exact hfinal.elim
  · exact ⟨records, rfl, hfinal.started_eq,
      fun child hchild => (hfinal.told child hchild).resolve_left (List.not_mem_nil),
      hfinal.tells⟩

end Chain

end Interposition
