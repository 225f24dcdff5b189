/-
  Which sessions leave no registration behind.

  Others append to the journal of a session while it runs: the grate its registrations, and whoever
  else has opened it whatever they like, at any time and in whole records.  The session itself
  appends two records, and only when it is going to be reported.

  1. **Exits void registrations** (`JournalRecord.not_mem_of_lookup_replay`): what is bound after a
     replay names nobody whose exit is in the journal, whichever of the two was recorded first.

  2. **The shared file** (`sharedJournal`): appending succeeds, and goes behind whatever is there.

  3. **The exits of a session** (`run_records_exits`): after a session that is reported, nothing is
     bound to its cage or owned by its grate.  A session that fails has written nothing, so what its
     grate registered stays bound (`registration_outlives_failed_session`).
-/
import Interposition.Proofs.Host.Playing
import Interposition.Proofs.Journal.Bytes
import Interposition.Proofs.Session.Course
import Interposition.Proofs.Table.Exits

namespace Interposition

/-! ## Exits void registrations -/

namespace JournalRecord

/-- **What is bound names nobody whose exit is recorded**, in the role it was recorded in. -/
theorem not_mem_of_lookup_replay {native : Native} {records : List JournalRecord} {cage : CageId}
    {syscall : SyscallNumber} {binding : Binding}
    (h : (replay records (.new native)).lookup cage syscall = some binding) :
    .cageExit cage ∉ records ∧ .grateExit binding.grate ∉ records := by
  rw [replay_eq_after] at h
  obtain ⟨hcage, hgrate⟩ := InterceptionTable.not_mem_of_lookup h
  exact ⟨fun hmem => hcage (List.mem_map_of_mem hmem), fun hmem => hgrate (List.mem_map_of_mem hmem)⟩

end JournalRecord

/-! ## The shared file -/

/-- The file of a journal that others append to as well. -/
structure SharedJournal where
  content : List UInt8
  /-- What the process itself has appended. -/
  own : List UInt8
deriving DecidableEq

namespace SharedJournal

/-- The file after others have appended records. -/
def grown (journal : SharedJournal) (others : List JournalRecord) : SharedJournal :=
  { journal with content := journal.content ++ others.flatMap JournalRecord.encode }

/-- The file after the process itself has appended bytes. -/
def extended (journal : SharedJournal) (bytes : List UInt8) : SharedJournal :=
  ⟨journal.content ++ bytes, journal.own ++ bytes⟩

end SharedJournal

/-- An operating system, as far as the file of one journal goes.  The file is emptied when it is
    made anew, and a write to it takes all its bytes.  With every answer others may have appended
    records.  Nothing is promised of requests that give files other names or none. -/
def sharedJournal (path : Path) (file : FileHandle) : OperatingSystem SharedJournal where
  answers
    | journal, .createFile name, answer, next => ∃ others,
      next = (if answer.toBool ∧ name = path then ⟨[], journal.own⟩ else journal).grown others
    | journal, .openAppending name, answer, next =>
      (∀ handle, answer = .ok handle → name = path → handle = file) ∧
        ∃ others, next = journal.grown others
    | journal, .write handle bytes, answer, next =>
      (handle = file → answer = .ok bytes.length) ∧
        ∃ others, next = (if handle = file then journal.extended bytes else journal).grown others
    | _, .rename _ _, _, _ => True
    | _, .remove _, _, _ => True
    | journal, _, _, next => ∃ others, next = journal.grown others
  spawns journal _ _ _ _ next := ∃ others, next = journal.grown others

variable {path : Path} {file : FileHandle} {journal next : SharedJournal}

theorem SharedJournal.grown_nil (journal : SharedJournal) : journal.grown [] = journal := by
  unfold grown
  rw [List.flatMap_nil, List.append_nil]

/-- The file holds whole records, these among them. -/
def SharedJournal.Holds (journal : SharedJournal) (mine : List JournalRecord) : Prop :=
  ∃ records : List JournalRecord, journal.content = records.flatMap JournalRecord.encode ∧
    ∀ r ∈ mine, r ∈ records

namespace SharedJournal.Holds

variable {mine : List JournalRecord}

theorem empty (own : List UInt8) : (SharedJournal.mk [] own).Holds [] := ⟨[], rfl, nofun⟩

theorem grown (h : journal.Holds mine) (others : List JournalRecord) :
    (journal.grown others).Holds mine := by
  obtain ⟨records, hcontent, hmine⟩ := h
  refine ⟨records ++ others, ?_, fun r hr => List.mem_append_left _ (hmine r hr)⟩
  unfold SharedJournal.grown
  rw [hcontent, List.flatMap_append]

theorem extended (h : journal.Holds mine) (r : JournalRecord) :
    (journal.extended r.encode).Holds (mine ++ [r]) := by
  obtain ⟨records, hcontent, hmine⟩ := h
  refine ⟨records ++ [r], ?_, fun other hother => ?_⟩
  · unfold SharedJournal.extended
    rw [hcontent, List.flatMap_append, List.flatMap_singleton]
  · exact List.mem_append.mpr ((List.mem_append.mp hother).imp_left (hmine other))

/-- A reader finds the records. -/
theorem readFrom (h : journal.Holds mine) : ∃ records,
    JournalRecord.readFrom journal.content 0 = .ok records ∧ ∀ r ∈ mine, r ∈ records := by
  obtain ⟨records, hcontent, hmine⟩ := h
  refine ⟨records, ?_, hmine⟩
  rw [hcontent, (JournalRecord.readable_flatMap_encode records).readFrom,
    JournalRecord.recordsOf_flatMap_encode, List.drop_zero]

end SharedJournal.Holds

/-- What is so whatever others append is so after a look. -/
theorem keeps_look (good : SharedJournal → Prop)
    (hgrown : ∀ {journal} others, good journal → good (journal.grown others)) :
    (sharedJournal path file).Keeps Deed.IsLook good where
  answers := by
    intro world later r answer h hdeed hanswer
    cases r <;> first
      | exact hdeed.elim
      | obtain ⟨others, rfl⟩ := hanswer
        exact hgrown others h
  spawns _ hdeed _ := hdeed.elim

/-- If it is so of an empty file too, then it is so whenever nothing is written. -/
theorem keeps_spared (good : SharedJournal → Prop)
    (hgrown : ∀ {journal} others, good journal → good (journal.grown others))
    (hemptied : ∀ {journal}, good journal → good ⟨[], journal.own⟩) :
    (sharedJournal path file).Keeps Deed.SparesContents good where
  answers := by
    intro world later r answer h hdeed hanswer
    cases r with
    | createFile name =>
      obtain ⟨others, rfl⟩ := hanswer
      refine hgrown others ?_
      split
      · exact hemptied h
      · exact h
    | openAppending name =>
      obtain ⟨-, others, rfl⟩ := hanswer
      exact hgrown others h
    | _ => first
      | exact hdeed.elim
      | obtain ⟨others, rfl⟩ := hanswer
        exact hgrown others h
  spawns h _ hanswer := by
    obtain ⟨others, rfl⟩ := hanswer
    exact hgrown others h

/-- All bytes are taken by the first write, and the second round finds none left. -/
theorem runs_writeAll_shared {bytes : List UInt8} (hsome : bytes ≠ []) {result : Except IoError Unit}
    (h : (Program.writeAll file bytes).Runs (sharedJournal path file) journal result next) :
    result = .ok () ∧ ∃ others, next = (journal.extended bytes).grown others := by
  have hnonempty : ¬bytes.isEmpty := by rwa [List.isEmpty_iff]
  obtain ⟨n, hn⟩ := Nat.exists_eq_succ_of_ne_zero (List.length_eq_zero_iff.not.mpr hsome)
  cases Program.runs_iterate.mp h with
  | stop hround =>
    rw [if_neg hnonempty] at hround
    obtain ⟨answer, later, ⟨hanswer, -⟩, hround⟩ := Program.runs_request_bind.mp hround
    rw [hanswer rfl, hn] at hround
    exact nomatch hround.1
  | again hround hrest =>
    rw [if_neg hnonempty] at hround
    obtain ⟨answer, later, ⟨hanswer, others, hlater⟩, hround⟩ :=
      Program.runs_request_bind.mp hround
    rw [hanswer rfl, hn] at hround
    obtain ⟨heq, rfl⟩ := hround
    cases heq
    rw [if_pos rfl] at hlater
    rw [← hn, List.drop_length] at hrest
    cases hrest with
    | stop hround =>
      obtain ⟨heq, rfl⟩ := hround
      cases heq
      exact ⟨rfl, others, hlater⟩
    | again hround => exact nomatch hround.1

/-- **A record is appended** whole, and appending never fails. -/
theorem runs_append {writer : JournalWriter} {r : JournalRecord} {result : Except JournalError Unit}
    (h : (writer.append r).Runs (sharedJournal path writer.file) journal result next) :
    result = .ok () ∧ ∃ others, next = (journal.extended r.encode).grown others := by
  obtain ⟨written, between, hwrite, h⟩ := Program.runs_bind.mp h
  have hsome : r.encode ≠ [] := by
    have hlength := JournalRecord.length_encode r
    rintro hnil
    rw [hnil] at hlength
    contradiction
  obtain ⟨rfl, others, rfl⟩ := runs_writeAll_shared hsome hwrite
  obtain ⟨rfl, rfl⟩ := h
  exact ⟨rfl, others, rfl⟩

/-! ## The exits of a session -/

namespace Session

variable {config : RuntimeConfig} {probe : Probe} {cage grate : ImageSpec} {e e' : Executor}
  {cagePid gratePid : Pid} {start final : SharedJournal} {own : List UInt8}

/-! ### Before the exits are recorded -/

section

variable {good : SharedJournal → Prop}

/-- Waiting for the cage and for the grate writes nothing. -/
theorem awaitArmed_keeps {result : Except ProcessError Unit}
    (hkeeps : (sharedJournal path file).Keeps Deed.SparesContents good)
    (hrun : (awaitArmed config cagePid e).Runs (sharedJournal path file) journal (result, e') next)
    (h : good journal) : good next := by
  refine keeps_awaitArmed (fun _ => good)
    (fun _ => hkeeps.mono fun _ => Deed.IsLook.sparesContents) (fun h hrun => ?_) hrun h
  exact (Executor.confined_isAlive trivial).keeps hkeeps hrun h

theorem awaitReady_keeps {result : Except ProcessError ReadyMarker}
    (hkeeps : (sharedJournal path file).Keeps Deed.SparesContents good)
    (hprobe : probe.Confined Deed.SparesContents)
    (hrun : (awaitReady config probe gratePid e).Runs (sharedJournal path file) journal
      (result, e') next) (h : good journal) : good next := by
  refine keeps_awaitReady hprobe (fun _ => good) (fun _ => hkeeps) (fun h hrun => ?_) hrun h
  exact (Executor.confined_isAlive trivial).keeps hkeeps hrun h

theorem prepare_keeps {result : Except ProcessError JournalWriter}
    (hkeeps : (sharedJournal path file).Keeps Deed.SparesContents good)
    (hrun : (prepare config e).Runs (sharedJournal path file) journal (result, e') next)
    (h : good journal) : good next := by
  have hconfined : (prepare config e).Confined Deed.SparesContents :=
    confined_prepare.mono fun _ => Deed.IsPreparation.sparesContents
  exact hconfined.keeps hkeeps hrun h

theorem abort_keeps {pids : List Pid} {result : Except ProcessError Unit}
    (hkeeps : (sharedJournal path file).Keeps Deed.SparesContents good)
    (hrun : (abort pids e).Runs (sharedJournal path file) journal (result, e') next)
    (h : good journal) : good next := by
  exact (confined_abort (fun _ => trivial) fun _ => trivial).keeps hkeeps hrun h

theorem settle_keeps {result : Except ProcessError Unit}
    (hkeeps : (sharedJournal path file).Keeps Deed.SparesContents good)
    (hrun : (settle cagePid gratePid e).Runs (sharedJournal path file) journal (result, e') next)
    (h : good journal) : good next := by
  exact (confined_settle (fun _ _ => trivial) fun _ => trivial).keeps hkeeps hrun h

/-- Preparing, starting the cage and waiting for it. -/
theorem Armed.keeps {writer : JournalWriter} {waited : Executor}
    (hkeeps : (sharedJournal path file).Keeps Deed.SparesContents good)
    (h : Armed (sharedJournal path file) config cage e journal writer cagePid waited next)
    (hgood : good journal) : good next := by
  obtain ⟨hprepare, hspawn, harms⟩ := h
  have hprepared := prepare_keeps hkeeps hprepare hgood
  have hstarted := (starts_cage hspawn).keeps hkeeps (fun _ => trivial) hprepared
  exact awaitArmed_keeps hkeeps harms hstarted

end

/-- The session has written nothing so far. -/
theorem keeps_own : (sharedJournal path file).Keeps Deed.SparesContents (·.own = own) :=
  keeps_spared _ (fun _ h => h) fun h => h

/-- The file holds whole records. -/
theorem keeps_whole : (sharedJournal path file).Keeps Deed.SparesContents (·.Holds []) :=
  keeps_spared _ (fun others h => h.grown others) fun {_} _ => .empty _

/-- **The journal is ready** for the exits: it is empty but for what others append. -/
theorem prepared {writer : JournalWriter}
    (hrun : (prepare config e).Runs (sharedJournal config.journalPath file) journal
      (.ok writer, e') next) : writer.file = file ∧ next.Holds [] := by
  obtain ⟨before, made, closed, handle, ⟨others, rfl⟩, ⟨more, rfl⟩, hopened, ⟨rest, rfl⟩⟩ :=
    opens_of_runs_prepare hrun
  refine ⟨hopened _ rfl rfl, ?_⟩
  rw [if_pos ⟨rfl, rfl⟩]
  exact (((SharedJournal.Holds.empty _).grown others).grown more).grown rest

/-! ### The exits are recorded -/

/-- **Both exits** are recorded, and recording them never fails. -/
theorem runs_recordExits_shared {writer : JournalWriter} {result : Except ProcessError Unit}
    (hrun : (recordExits writer cagePid gratePid e).Runs (sharedJournal path writer.file) journal
      (result, e') next) : result = .ok () ∧
      (journal.Holds [] →
        next.Holds [.grateExit (.ofPid gratePid), .cageExit (.ofPid cagePid)]) := by
  have happend {r : JournalRecord} {result : Except ProcessError Unit} {e e' : Executor}
      {journal next : SharedJournal}
      (h : (Supervised.ofJournal (writer.append r) e).Runs (sharedJournal path writer.file) journal
        (result, e') next) :
      result = .ok () ∧ ∀ mine, journal.Holds mine → next.Holds (mine ++ [r]) := by
    obtain ⟨-, answer, happend, rfl⟩ := Supervised.runs_ofJournal.mp h
    obtain ⟨rfl, others, rfl⟩ := runs_append happend
    exact ⟨rfl, fun mine hmine => (hmine.extended r).grown others⟩
  obtain ⟨_, middle, between, hgrate, hcage⟩ :=
    Supervised.runs_bind_of_ok hrun fun h => ⟨(), (happend h).1⟩
  exact ⟨(happend hcage).1, fun h => (happend hcage).2 _ ((happend hgrate).2 _ h)⟩

/-- Reading the cage's outcome leaves the records where they are. -/
theorem report_keeps {mine : List JournalRecord} {marker : ReadyMarker}
    {result : Except ProcessError SessionReport}
    (hrun : (report config cage grate cagePid gratePid marker e).Runs (sharedJournal path file)
      journal (result, e') next) (h : journal.Holds mine) : next.Holds mine := by
  have hkept := confined_report.keeps
    (keeps_look (·.Holds mine) fun others h => h.grown others) hrun h
  exact hkept

/-! ### The whole session -/

/-- **A session that is reported** has both exits in the journal. -/
theorem Course.holds (hprobe : probe.Confined Deed.SparesContents) {reported : SessionReport}
    (h : Course (sharedJournal config.journalPath file) config probe cage grate e start
      (.ok reported) e' final) :
    final.Holds [.grateExit (.ofPid reported.grate.pid.toInt32),
      .cageExit (.ofPid reported.cage.pid.toInt32)] := by
  cases h with
  | released harmed hspawn hready hends =>
    obtain ⟨hprepare, hcage, harms⟩ := harmed
    obtain ⟨rfl, hwhole⟩ := prepared hprepare
    replace hwhole := (starts_cage hcage).keeps keeps_whole (fun _ => trivial) hwhole
    replace hwhole := awaitArmed_keeps keeps_whole harms hwhole
    replace hwhole := (starts_grate hspawn).keeps keeps_whole (fun _ => trivial) hwhole
    replace hwhole := awaitReady_keeps keeps_whole hprobe hready hwhole
    obtain ⟨_, _, settled, hsettle, hrest⟩ | ⟨_, -, heq⟩ := Supervised.runs_bind.mp hends
    · replace hwhole := settle_keeps keeps_whole hsettle hwhole
      obtain ⟨_, _, recorded, hrecord, hreport⟩ :=
        Supervised.runs_bind_of_ok hrest fun h => ⟨(), (runs_recordExits_shared h).1⟩
      have hholds := report_keeps hreport ((runs_recordExits_shared hrecord).2 hwhole)
      obtain ⟨-, _, heq, -, hcagePid, hgratePid⟩ := runs_report hreport
      cases heq
      rw [hcagePid, hgratePid, Executor.toInt32_key, Executor.toInt32_key]
      exact hholds
    · cases heq

/-- **A session that fails** has written nothing to the journal. -/
theorem Course.unwritten (hprobe : probe.Confined Deed.SparesContents) {cause : ProcessError}
    (h : Course (sharedJournal config.journalPath file) config probe cage grate e start
      (.error cause) e' final) : final.own = start.own := by
  cases h with
  | unprepared hprepare => exact prepare_keeps keeps_own hprepare rfl
  | noCage hprepare hspawn =>
    have hprepared := prepare_keeps keeps_own hprepare rfl
    have hrefused := (starts_cage hspawn).keeps keeps_own (fun _ => trivial) hprepared
    exact hrefused
  | unarmed hprepare hspawn harms hkilled =>
    have hprepared := prepare_keeps keeps_own hprepare rfl
    have hstarted := (starts_cage hspawn).keeps keeps_own (fun _ => trivial) hprepared
    exact abort_keeps keeps_own hkilled (awaitArmed_keeps keeps_own harms hstarted)
  | noGrate harmed hspawn hkilled =>
    have harmed := harmed.keeps keeps_own rfl
    have hrefused := (starts_grate hspawn).keeps keeps_own (fun _ => trivial) harmed
    exact abort_keeps keeps_own hkilled hrefused
  | unready harmed hspawn hready hkilled =>
    have harmed := harmed.keeps keeps_own rfl
    have hstarted := (starts_grate hspawn).keeps keeps_own (fun _ => trivial) harmed
    exact abort_keeps keeps_own hkilled (awaitReady_keeps keeps_own hprobe hready hstarted)
  | released harmed hspawn hready hends =>
    have hstarted := (starts_grate hspawn).keeps keeps_own (fun _ => trivial)
      (harmed.keeps keeps_own rfl)
    have hfound := awaitReady_keeps keeps_own hprobe hready hstarted
    obtain ⟨_, _, settled, hsettle, hrest⟩ | ⟨_, hsettle, -⟩ := Supervised.runs_bind.mp hends
    · obtain ⟨hprepare, -, -⟩ := harmed
      obtain ⟨rfl, -⟩ := prepared hprepare
      obtain ⟨_, _, recorded, -, hreport⟩ :=
        Supervised.runs_bind_of_ok hrest fun h => ⟨(), (runs_recordExits_shared h).1⟩
      obtain ⟨-, _, heq, -⟩ := runs_report hreport
      cases heq
    · exact settle_keeps keeps_own hsettle hfound

/-- **After a session that is reported**, nothing is bound to its cage or owned by its grate; and
    one that fails leaves the journal to the others. -/
theorem run_records_exits (hprobe : probe.Confined Deed.SparesContents)
    {result : Except ProcessError SessionReport}
    (hrun : (run config probe cage grate e).Runs (sharedJournal config.journalPath file) start
      (result, e') final) :
    (∀ reported, result = .ok reported → ∃ records,
      JournalRecord.readFrom final.content 0 = .ok records ∧
      ∀ native target syscall binding,
        (JournalRecord.replay records (.new native)).lookup target syscall = some binding →
        target ≠ .ofPid reported.cage.pid.toInt32 ∧
          binding.grate ≠ .ofPid reported.grate.pid.toInt32) ∧
    ∀ cause, result = .error cause → final.own = start.own := by
  constructor
  · rintro reported rfl
    obtain ⟨records, hread, hexits⟩ := ((course_of_run hrun).holds hprobe).readFrom
    refine ⟨records, hread, fun native target syscall binding hbound => ?_⟩
    obtain ⟨hcage, hgrate⟩ := JournalRecord.not_mem_of_lookup_replay hbound
    refine ⟨fun heq => hcage (hexits _ ?_), fun heq => hgrate (hexits _ ?_)⟩
    · rw [heq]
      exact List.mem_cons_of_mem _ (List.mem_singleton_self _)
    · rw [heq]
      exact List.mem_cons_self
  · rintro cause rfl
    exact (course_of_run hrun).unwritten hprobe

/-! ### A grate that registers -/

/-- What the grate below registers. -/
def soleRegistration : Registration := ⟨.ofPid 7, Syscall.geteuid, ⟨0⟩, .ofPid 8⟩

/-- A system on which process 7 is a cage that arms, and process 8 a grate that registers one call of
    it.  Either the grate then says that it is ready, or it ends without saying so. -/
def registering (ready : Bool) : Respondent SharedJournal where
  answer journal
    | .now => some (0, journal)
    | .createFile name => some (.ok ⟨3⟩,
        if name = plainConfig.journalPath then ⟨[], journal.own⟩ else journal)
    | .openAppending _ => some (.ok ⟨3⟩, journal)
    | .write handle bytes => some (.ok bytes.length,
        if handle = ⟨3⟩ then journal.extended bytes else journal)
    | .close _ => some ((), journal)
    | .makeDirectory _ => some (.ok (), journal)
    | .pathExists _ => some (true, journal)
    | .readFile _ => some (if ready then
        .ok (Utf8.ofText (toJson (ReadyMarker.mk (.ofPid 8) (.ofPid 7) [soleRegistration])).compact)
        else .error (.os .enoent), journal)
    | .kill _ _ => some (.ok (), journal)
    | .wait _ _ => some (.ok (.exited 0), journal)
    | _ => none
  start journal launch _ _ := some (if launch.program = .ofText "cage" then (.ok 7, journal)
    else (.ok 8, journal.grown [.register soleRegistration]))

theorem registering_within (ready : Bool) :
    (registering ready).system.Within (sharedJournal plainConfig.journalPath ⟨3⟩) where
  answers {journal request answer next} hanswer := by
    cases request <;> first
      | cases hanswer
        exact ⟨[], (SharedJournal.grown_nil _).symm⟩
      | skip
    case createFile name =>
      cases hanswer
      refine ⟨[], ?_⟩
      rw [SharedJournal.grown_nil]
      exact if_congr ⟨fun h => ⟨rfl, h⟩, And.right⟩ rfl rfl
    case openAppending name =>
      cases hanswer
      exact ⟨fun _ h _ => (Except.ok.inj h).symm, [], (SharedJournal.grown_nil _).symm⟩
    case write handle bytes =>
      cases hanswer
      exact ⟨fun _ => rfl, [], (SharedJournal.grown_nil _).symm⟩
    all_goals cases hanswer
  spawns hstart := by
    simp only [Respondent.system, registering, Option.some.injEq] at hstart
    split at hstart <;> cases hstart
    · exact ⟨[], (SharedJournal.grown_nil _).symm⟩
    · exact ⟨_, rfl⟩

/-- A session under such a grate. -/
def underRegistering : Supervised SessionReport :=
  run plainConfig (.marker ⟨plainConfig.rendezvousDir⟩) ⟨.ofText "cage", []⟩ ⟨.ofText "grate", []⟩

/-- When the grate becomes ready the session is reported, and its registration is void. -/
theorem run_records_exits_of_ready_grate :
    (Probe.marker ⟨plainConfig.rendezvousDir⟩).Confined Deed.SparesContents ∧
    ∃ reported e final,
      (run plainConfig (.marker ⟨plainConfig.rendezvousDir⟩) ⟨.ofText "cage", []⟩
        ⟨.ofText "grate", []⟩ default).Runs (sharedJournal plainConfig.journalPath ⟨3⟩) ⟨[], []⟩
          (.ok reported, e) final ∧
      ∃ records, JournalRecord.readFrom final.content 0 = .ok records ∧
        ∀ native target syscall binding,
          (JournalRecord.replay records (.new native)).lookup target syscall = some binding →
          target ≠ .ofPid reported.cage.pid.toInt32 ∧
            binding.grate ≠ .ofPid reported.grate.pid.toInt32 := by
  have hprobe : (Probe.marker ⟨plainConfig.rendezvousDir⟩).Confined Deed.SparesContents :=
    Probe.confined_marker.mono fun _ => Deed.IsLook.sparesContents
  have hplay : ((underRegistering default).play (registering true) 4 ⟨[], []⟩).any
      (fun outcome => outcome.1.1.toBool) = true := by
    decide +kernel
  obtain ⟨⟨⟨result, e⟩, final⟩, hplay, hok⟩ := (Option.any_eq_true _ _).mp hplay
  cases result with
  | error cause => contradiction
  | ok reported =>
    have hrun := (Program.runs_of_play hplay).within (registering_within true)
    exact ⟨hprobe, reported, e, final, hrun, (run_records_exits hprobe hrun).1 reported rfl⟩

/-- When the grate ends first the session fails.  Both children have been collected, and the
    registration that one made of the other still stands. -/
theorem registration_outlives_failed_session : ∃ cause e final records,
    (run plainConfig (.marker ⟨plainConfig.rendezvousDir⟩) ⟨.ofText "cage", []⟩
      ⟨.ofText "grate", []⟩ default).Runs (sharedJournal plainConfig.journalPath ⟨3⟩) ⟨[], []⟩
        (.error cause, e) final ∧
    e.running = 0 ∧ (e.record? 7).map ProcessRecord.role = some .cage ∧
    (e.record? 8).map ProcessRecord.role = some .grate ∧
    JournalRecord.readFrom final.content 0 = .ok records ∧
    (JournalRecord.replay records (.new .unsupported)).lookup (.ofPid 7) Syscall.geteuid =
      some ⟨⟨0⟩, .ofPid 8⟩ := by
  have hplay : ((underRegistering default).play (registering false) 4 ⟨[], []⟩).any
      (fun outcome => !outcome.1.1.toBool && outcome.1.2.running = 0 &&
        (outcome.1.2.record? 7).map ProcessRecord.role = some .cage &&
        (outcome.1.2.record? 8).map ProcessRecord.role = some .grate &&
        outcome.2.content = [.register soleRegistration].flatMap JournalRecord.encode) = true := by
    decide +kernel
  obtain ⟨⟨⟨result, e⟩, final⟩, hplay, hfailed⟩ := (Option.any_eq_true _ _).mp hplay
  simp only [Bool.and_eq_true, decide_eq_true_eq] at hfailed
  obtain ⟨⟨⟨⟨herror, hrunning⟩, hcage⟩, hgrate⟩, hcontent⟩ := hfailed
  cases result with
  | ok reported => contradiction
  | error cause =>
    have hrun := (Program.runs_of_play hplay).within (registering_within false)
    refine ⟨cause, e, final, [.register soleRegistration], hrun, hrunning, hcage, hgrate, ?_,
      by decide⟩
    rw [hcontent, (JournalRecord.readable_flatMap_encode _).readFrom,
      JournalRecord.recordsOf_flatMap_encode, List.drop_zero]

end Session

end Interposition
