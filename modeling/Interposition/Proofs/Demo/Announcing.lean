/-
  A grate announces what it has recorded.

  A grate requests its registrations one after another and notes those that were accepted.  When it is
  through it says in its ready marker which they are, and on this word a cage is released.  The list,
  the journal and the error come from three places; that they go together is by induction on the
  requests.

  1. **The system** (`journaling`): the journal can be written.  A write may take a part of what it is
     given, or be interrupted, and is made again (`Grown.writeAll`).

  2. **One request** (`Grown.register`): a well-formed request is one more record, and any other is
     refused and leaves no trace.

  3. **All requests** (`Grown.registerEach`): the records are those of the requests before the first
     that is malformed (`granted`), and what is returned are these requests, or the error of that one
     (`Announced`).

  4. **Serving** (`appended_of_serve`): the marker is written after the last record, under a name that
     is not the journal's, so both are there in the end and say the same.
-/
import Mathlib.Data.List.TakeWhile
import Interposition.Demo.Grate
import Interposition.Proofs.Journal.Reading
import Interposition.Proofs.Registration
import Interposition.Proofs.Rendezvous.Separation

namespace Interposition.Demo

open JournalRecord (byteLength recordCount)
open Rendezvous (Peer sharedDirectory Notice)

variable {Reader : Type} [DecidableEq Reader] {self : Pid}
  {first files now next final : SharedFiles (Peer Reader)} {handle : FileHandle} {journal : Path}
  {content bytes : List UInt8} {writer : JournalWriter} {r : Registration} {target : CageId}
  {grate : GrateId} {interceptions : List (SyscallNumber × HandlerIndex)} {config : RuntimeConfig}

/-! ## The system -/

/-- An operating system under which a grate can write its journal: a file is opened to append to
    whenever this is asked for, and a write takes some bytes or is interrupted.  Anything else that
    makes a marker may fail. -/
def journaling (self : Pid) : OperatingSystem (SharedFiles (Peer Reader)) where
  answers
    | files, .openAppending path, answer, next =>
      ∃ handle, answer = .ok handle ∧ next = files.openToAppend .writer path handle
    | files, .write handle bytes, answer, next =>
      answer = .error (.os .eintr) ∧ next = files ∨
        ∃ count, 0 < count ∧ count ≤ bytes.length ∧ answer = .ok count ∧
          next = files.write .writer handle (bytes.take count)
    | files, .identity, answer, next => answer.process = self ∧ next = files
    | files, .dispose _ _, _, next => next = files
    | files, .awaitSignal _ _, _, next => next = files
    | files, request, answer, next => (sharedDirectory .writer).answers files request answer next
  spawns := (sharedDirectory .writer).spawns

/-- It is a system in which markers are written. -/
theorem journaling_within (self : Pid) :
    (journaling self).Within (sharedDirectory (.writer : Peer Reader)) where
  answers := by
    intro files request answer next hanswer
    cases request with
    | write handle bytes =>
      rcases hanswer with ⟨rfl, rfl⟩ | ⟨count, -, hcount, rfl, rfl⟩
      · exact .inl ⟨⟨_, rfl⟩, rfl⟩
      · exact .inr ⟨count, hcount, rfl, rfl⟩
    | openAppending | identity | dispose | awaitSignal => trivial
    | _ => exact hanswer
  spawns hspawn := hspawn

/-- It may do all it is asked for. -/
theorem willing_journaling (self : Pid) :
    Rendezvous.Willing (journaling self : OperatingSystem (SharedFiles (Peer Reader))) where
  create := Rendezvous.willing_sharedDirectory.create
  write files handle bytes hbytes := by
    refine .inr ⟨bytes.length, List.length_pos_iff.mpr hbytes, Nat.le_refl _, rfl, ?_⟩
    rw [List.take_length]
  close := Rendezvous.willing_sharedDirectory.close
  rename := Rendezvous.willing_sharedDirectory.rename

/-! ## Writing -/

/-- The journal holds some bytes and is open at their end, and every other file is what it was. -/
structure Grown (first : SharedFiles (Peer Reader)) (journal : Path) (handle : FileHandle)
    (content : List UInt8) (now : SharedFiles (Peer Reader)) : Prop where
  atEnd : now.AtEnd .writer handle journal content
  apart : first.Apart → now.Apart
  others : first.Apart → ∀ q, q ≠ journal → first.SameAt now q

namespace Grown

theorem opened (files : SharedFiles (Peer Reader)) (journal : Path) (handle : FileHandle) :
    Grown files journal handle ((files.file? journal).getD [])
      (files.openToAppend .writer journal handle) where
  atEnd := SharedFiles.atEnd_openToAppend ..
  apart h := h.openToAppend .writer journal handle
  others h _ hq := SharedFiles.sameAt_openToAppend h hq

theorem write (h : Grown first journal handle content now) (bytes : List UInt8) :
    Grown first journal handle (content ++ bytes) (now.write .writer handle bytes) where
  atEnd := h.atEnd.write bytes
  apart hapart := (h.apart hapart).write .writer handle bytes
  others hapart q hq := by
    obtain ⟨file, hopened, hname, -⟩ := h.atEnd
    exact (h.others hapart q hq).trans
      (SharedFiles.sameAt_write (h.apart hapart) hopened hname hq bytes)

/-- A round of writing is the last one, or puts a part of the bytes into the journal. -/
theorem round {rest : List UInt8} {outcome : List UInt8 ⊕ Except IoError Unit}
    (h : Grown first journal handle content now)
    (hrun : (writeRound handle rest).Runs (journaling self) now outcome next) :
    rest = [] ∧ outcome = .inr (.ok ()) ∧ next = now ∨
      ∃ taken, outcome = .inl (rest.drop taken) ∧
        Grown first journal handle (content ++ rest.take taken) next := by
  unfold writeRound at hrun
  cases rest with
  | nil =>
    obtain ⟨rfl, rfl⟩ := Program.runs_pure.mp hrun
    exact .inl ⟨rfl, rfl, rfl⟩
  | cons byte rest =>
    obtain ⟨answer, between, hanswer, hrun⟩ := hrun
    rcases hanswer with ⟨rfl, rfl⟩ | ⟨count, hcount, -, rfl, rfl⟩
    · -- an interrupted write is made again, with nothing taken
      obtain ⟨rfl, rfl⟩ := Program.runs_pure.mp hrun
      refine .inr ⟨0, rfl, ?_⟩
      rw [List.take_zero, List.append_nil]
      exact h
    · obtain ⟨n, rfl⟩ := Nat.exists_eq_succ_of_ne_zero (Nat.ne_of_gt hcount)
      obtain ⟨rfl, rfl⟩ := Program.runs_pure.mp hrun
      exact .inr ⟨n + 1, rfl, h.write _⟩

/-- **Writing** ends well, in however many rounds. -/
theorem writeAll {result : Except IoError Unit} (h : Grown first journal handle content now)
    (hrun : (Program.writeAll handle bytes).Runs (journaling self) now result final) :
    result = .ok () ∧ Grown first journal handle (content ++ bytes) final := by
  rw [writeAll_eq, Program.runs_iterate] at hrun
  induction hrun generalizing content with
  | stop hround =>
    rcases h.round hround with ⟨rfl, hdone, rfl⟩ | ⟨taken, hleft, -⟩
    · rw [List.append_nil]
      exact ⟨Sum.inr.inj hdone, h⟩
    · contradiction
  | again hround _ ih =>
    rcases h.round hround with ⟨-, hdone, -⟩ | ⟨taken, hleft, hnext⟩
    · contradiction
    · obtain rfl := Sum.inl.inj hleft
      have hall := ih hnext
      rw [List.append_assoc, List.take_append_drop] at hall
      exact hall

end Grown

/-! ## Requests -/

/-- The registrations that interceptions of a cage under a grate ask for. -/
def requested (target : CageId) (grate : GrateId)
    (interceptions : List (SyscallNumber × HandlerIndex)) : List Registration :=
  interceptions.map fun (syscall, handler) => ⟨target, syscall, handler, grate⟩

/-- The requests before the first that is malformed. -/
def granted (requests : List Registration) : List Registration :=
  requests.takeWhile fun r => r.WellFormed

theorem wellFormed_of_mem_granted {requests : List Registration} (h : r ∈ granted requests) :
    r.WellFormed := by
  unfold granted at h
  have hkept := List.mem_takeWhile_imp h
  exact of_decide_eq_true hkept

theorem granted_cons_of_wellFormed (h : r.WellFormed) (rest : List Registration) :
    granted (r :: rest) = r :: granted rest :=
  List.takeWhile_cons_of_pos (decide_eq_true h)

theorem granted_cons_of_malformed (h : ¬ r.WellFormed) (rest : List Registration) :
    granted (r :: rest) = [] :=
  List.takeWhile_cons_of_neg (by simpa using h)

/-- What requests come to: they are all granted, or the first malformed one ends it. -/
def Announced (requests : List Registration) (outcome : Except RuntimeError (List Registration)) :
    Prop :=
  granted requests = requests ∧ outcome = .ok requests ∨
    ∃ refused rest, requests = granted requests ++ refused :: rest ∧ ¬ refused.WellFormed ∧
      outcome = .error (.registration (.ofMalformed refused))

namespace Announced

variable {requests : List Registration} {outcome : Except RuntimeError (List Registration)}

theorem refused (h : ¬ r.WellFormed) (rest : List Registration) :
    Announced (r :: rest) (.error (.registration (.ofMalformed r))) := by
  refine .inr ⟨r, rest, ?_, h, rfl⟩
  rw [granted_cons_of_malformed h]
  rfl

theorem cons (h : Announced requests outcome) (hr : r.WellFormed) :
    Announced (r :: requests) (outcome.map (r :: ·)) := by
  unfold Announced
  rw [granted_cons_of_wellFormed hr]
  rcases h with ⟨hall, rfl⟩ | ⟨refused, rest, hsplit, hrefused, rfl⟩
  · exact .inl ⟨congrArg (r :: ·) hall, rfl⟩
  · exact .inr ⟨refused, rest, congrArg (r :: ·) hsplit, hrefused, rfl⟩

theorem ok_iff (h : Announced requests outcome) :
    (∃ announced, outcome = .ok announced) ↔ granted requests = requests := by
  rcases h with ⟨hall, rfl⟩ | ⟨refused, rest, hsplit, -, rfl⟩
  · exact iff_of_true ⟨requests, rfl⟩ hall
  · refine iff_of_false nofun fun hall => ?_
    rw [hall] at hsplit
    exact List.cons_ne_nil refused rest (List.self_eq_append_right.mp hsplit)

theorem eq_granted (h : Announced requests outcome) {announced : List Registration}
    (hok : outcome = .ok announced) : announced = granted requests := by
  rcases h with ⟨hall, rfl⟩ | ⟨refused, rest, -, -, rfl⟩
  · rw [hall]
    exact (Except.ok.inj hok).symm
  · contradiction

theorem exists_refused (h : Announced requests outcome) (hpart : granted requests ≠ requests) :
    ∃ refused rest, requests = granted requests ++ refused :: rest ∧ ¬ refused.WellFormed ∧
      outcome = .error (.registration (.ofMalformed refused)) := by
  rcases h with ⟨hall, -⟩ | hrefused
  · exact absurd hall hpart
  · exact hrefused

end Announced

/-! ## Registering -/

/-- The bytes of the records of registrations. -/
def recordBytes (registrations : List Registration) : List UInt8 :=
  (registrations.map JournalRecord.register).flatMap JournalRecord.encode

/-- **One request** is one more record, or is refused and leaves everything as it is. -/
theorem Grown.register {outcome : Except RegistrationError Unit}
    (h : Grown first journal writer.file content now)
    (hrun : (writer.channel.register r).Runs (journaling self) now outcome final) :
    if r.WellFormed then
      outcome = .ok () ∧
        Grown first journal writer.file (content ++ (JournalRecord.register r).encode) final
    else outcome = .error (.ofMalformed r) ∧ final = now := by
  have hreported := JournalWriter.runs_register_iff.mp hrun
  split
  · next hr =>
    rw [if_pos hr] at hreported
    obtain ⟨result, happend, rfl⟩ := hreported
    obtain ⟨rfl, hgrown⟩ := h.writeAll happend
    exact ⟨rfl, hgrown⟩
  · next hr =>
    rw [if_neg hr] at hreported
    exact hreported

/-- A client is told what is wrong with a malformed request, whichever journal it is made to. -/
theorem returns_register_of_malformed (writer : JournalWriter) (h : ¬ r.WellFormed)
    (files : SharedFiles (Peer Reader)) :
    (writer.channel.register r).Returns (journaling self) files (.error (.ofMalformed r)) := by
  refine ⟨⟨files, JournalWriter.runs_register_iff.mpr ((if_neg h).mpr ⟨rfl, rfl⟩)⟩, ?_⟩
  intro other final hrun
  exact ((if_neg h).mp (JournalWriter.runs_register_iff.mp hrun)).1

/-- **All requests**: the records are those of the requests that are granted, and the others leave
    none. -/
theorem Grown.registerEach {outcome : Except RuntimeError (List Registration)}
    (h : Grown first journal writer.file content now)
    (hrun : (registerEach writer.channel target grate interceptions).Runs (journaling self) now
      outcome final) :
    Grown first journal writer.file
        (content ++ recordBytes (granted (requested target grate interceptions))) final ∧
      Announced (requested target grate interceptions) outcome := by
  induction interceptions generalizing now content outcome with
  | nil =>
    obtain ⟨rfl, rfl⟩ := Program.runs_pure.mp hrun
    refine ⟨?_, .inl ⟨rfl, rfl⟩⟩
    show Grown first journal writer.file (content ++ []) final
    rw [List.append_nil]
    exact h
  | cons entry rest ih =>
    obtain ⟨syscall, handler⟩ := entry
    obtain ⟨reported, between, hregister, hrest⟩ := Program.runs_bind.mp hrun
    have hone := h.register hregister
    show Grown first journal writer.file
        (content ++ recordBytes (granted (⟨target, syscall, handler, grate⟩ ::
          requested target grate rest))) final ∧
      Announced (⟨target, syscall, handler, grate⟩ :: requested target grate rest) outcome
    split at hone
    · next hr =>
      -- the others are requested of a journal that has grown by one record
      obtain ⟨rfl, hgrown⟩ := hone
      obtain ⟨others, later, hothers, hput⟩ := Program.runs_bind.mp hrest
      have hmap : outcome = others.map (⟨target, syscall, handler, grate⟩ :: ·) ∧
          final = later := by
        cases others <;> exact Program.runs_pure.mp hput
      obtain ⟨rfl, rfl⟩ := hmap
      obtain ⟨hgrown, hannounced⟩ := ih hgrown hothers
      refine ⟨?_, hannounced.cons hr⟩
      rw [List.append_assoc] at hgrown
      rw [granted_cons_of_wellFormed hr]
      exact hgrown
    · next hr =>
      obtain ⟨rfl, rfl⟩ := hone
      obtain ⟨rfl, rfl⟩ := Program.runs_pure.mp hrest
      refine ⟨?_, .refused hr _⟩
      rw [granted_cons_of_malformed hr]
      show Grown first journal writer.file (content ++ []) final
      rw [List.append_nil]
      exact h

theorem exists_runs_registerEach (self : Pid) (writer : JournalWriter) (target : CageId)
    (grate : GrateId) (interceptions : List (SyscallNumber × HandlerIndex))
    (now : SharedFiles (Peer Reader)) :
    ∃ outcome final, (registerEach writer.channel target grate interceptions).Runs (journaling self)
      now outcome final := by
  induction interceptions generalizing now with
  | nil => exact ⟨_, now, rfl, rfl⟩
  | cons entry rest ih =>
    obtain ⟨syscall, handler⟩ := entry
    let r : Registration := ⟨target, syscall, handler, grate⟩
    by_cases hr : r.WellFormed
    · obtain ⟨between, hwritten⟩ :=
        (willing_journaling self).exists_runs_writeAll writer.file
          (JournalRecord.register r).encode now
      have hregister : (writer.channel.register r).Runs (journaling self) now (.ok ()) between :=
        JournalWriter.runs_register_iff.mpr ((if_pos hr).mpr ⟨.ok (), hwritten, rfl⟩)
      obtain ⟨others, final, hothers⟩ := ih between
      cases others with
      | ok done =>
        exact ⟨.ok (r :: done), final, Program.runs_bind.mpr ⟨.ok (), between, hregister,
          Program.runs_bind.mpr ⟨.ok done, final, hothers, rfl, rfl⟩⟩⟩
      | error e =>
        exact ⟨.error e, final, Program.runs_bind.mpr ⟨.ok (), between, hregister,
          Program.runs_bind.mpr ⟨.error e, final, hothers, rfl, rfl⟩⟩⟩
    · have hregister : (writer.channel.register r).Runs (journaling self) now
          (.error (.ofMalformed r)) now :=
        JournalWriter.runs_register_iff.mpr ((if_neg hr).mpr ⟨rfl, rfl⟩)
      exact ⟨.error (.registration (.ofMalformed r)), now,
        Program.runs_bind.mpr ⟨.error (.ofMalformed r), now, hregister, rfl, rfl⟩⟩

/-- **Registering** opens the journal and goes through the requests. -/
theorem grown_of_registerAll {outcome : Except RuntimeError (List Registration)}
    (hrun : (registerAll config target grate interceptions).Runs (journaling self) files outcome
      final) :
    (∃ handle, Grown files config.journalPath handle ((files.file? config.journalPath).getD [] ++
        recordBytes (granted (requested target grate interceptions))) final) ∧
      Announced (requested target grate interceptions) outcome := by
  obtain ⟨opened, between, hopen, hrun⟩ := Program.runs_bind.mp hrun
  obtain ⟨_, _, ⟨handle, rfl, rfl⟩, rfl, rfl⟩ := Program.runs_request_bind.mp hopen
  obtain ⟨hgrown, hannounced⟩ := (Grown.opened files config.journalPath handle).registerEach hrun
  exact ⟨⟨handle, hgrown⟩, hannounced⟩

theorem exists_runs_registerAll (self : Pid) (config : RuntimeConfig) (target : CageId)
    (grate : GrateId) (interceptions : List (SyscallNumber × HandlerIndex))
    (files : SharedFiles (Peer Reader)) :
    ∃ outcome final, (registerAll config target grate interceptions).Runs (journaling self) files
      outcome final := by
  let handle : FileHandle := ⟨0⟩
  let writer : JournalWriter := ⟨handle, config.journalPath⟩
  let between := files.openToAppend .writer config.journalPath handle
  have hopen : (Journal.openWriter config.journalPath).Runs (journaling self) files (.ok writer)
      between := ⟨.ok handle, between, ⟨handle, rfl, rfl⟩, rfl, rfl⟩
  obtain ⟨outcome, final, hrun⟩ :=
    exists_runs_registerEach self writer target grate interceptions between
  exact ⟨outcome, final, Program.runs_bind.mpr ⟨.ok writer, between, hopen, hrun⟩⟩

/-! ## The journal -/

/-- Records have been put behind what was in a journal.  If those were whole records, readers find
    the new ones behind them. -/
structure Appended (before after : JournalContents) (records : List JournalRecord) : Prop where
  bytes : after = some (before.bytes ++ records.flatMap JournalRecord.encode)
  added : byteLength ∣ before.bytes.length →
    Journal.Reads after (recordCount before.bytes) (.ok records)
  kept : byteLength ∣ before.bytes.length → ∀ earlier, Journal.Reads before 0 (.ok earlier) →
    Journal.Reads after 0 (.ok (earlier ++ records))

theorem appended_of_bytes {before after : JournalContents} {records : List JournalRecord}
    (h : after = some (before.bytes ++ records.flatMap JournalRecord.encode)) :
    Appended before after records where
  bytes := h
  added hwhole := by
    have hnone := Journal.reading_recordCount before.bytes
    have hread := Journal.reading_append hwhole (Nat.le_refl _) hnone records
    rw [h]
    exact Journal.reads_iff.mpr hread.symm
  kept hwhole earlier hbefore := by
    have hearlier := (Journal.reads_iff.mp hbefore).symm
    have hread := Journal.reading_append hwhole (Nat.zero_le _) hearlier records
    rw [h]
    exact Journal.reads_iff.mpr hread.symm

theorem appended_of_registerAll {outcome : Except RuntimeError (List Registration)}
    (hrun : (registerAll config target grate interceptions).Runs (journaling self) files outcome
      final) :
    Appended (files.file? config.journalPath) (final.file? config.journalPath)
      ((granted (requested target grate interceptions)).map .register) := by
  obtain ⟨⟨handle, hgrown⟩, -⟩ := grown_of_registerAll hrun
  exact appended_of_bytes hgrown.atEnd.file?

/-! ## Serving -/

section serving

variable {result : Except RuntimeError Unit}

/-- A grate that serves registers, and then says that it is ready if nothing was refused. -/
theorem exists_of_serve
    (hrun : (serve ⟨target, config⟩).Runs (journaling self) files result final) :
    ∃ outcome between,
      (registerAll config target (.ofPid self) sessionInterceptions).Runs (journaling self) files
        outcome between ∧
      match outcome with
      | .error e => result = .error e ∧ final = between
      | .ok registrations => ∃ marked,
          ((Notice.ready ⟨.ofPid self, target, registrations⟩).write ⟨config.rendezvousDir⟩).Runs
            (journaling self) between marked final ∧
          result = marked.mapError .gate := by
  obtain ⟨identity, _, ⟨rfl, rfl⟩, hkeep⟩ := Program.runs_request_bind.mp hrun
  obtain ⟨_, _, rfl, hserve⟩ := Program.runs_request_bind.mp hkeep
  obtain ⟨outcome, between, hregister, hrest⟩ := Program.runs_bind.mp hserve
  refine ⟨outcome, between, hregister, ?_⟩
  cases outcome with
  | error e => exact hrest
  | ok registrations =>
    obtain ⟨marked, after, hmark, hidle⟩ := Program.runs_bind.mp hrest
    cases marked with
    | error e =>
      obtain ⟨rfl, rfl⟩ := hidle
      exact ⟨.error e, hmark, rfl⟩
    | ok =>
      obtain ⟨_, _, rfl, rfl, rfl⟩ := hidle
      exact ⟨.ok (), hmark, rfl⟩

/-- **The marker** says what is in the journal, or is what it was. -/
theorem appended_of_serve (peer : Peer Reader) (hapart : files.Apart)
    (hrun : (serve ⟨target, config⟩).Runs (journaling self) files result final) :
    let asked := requested target (.ofPid self) sessionInterceptions
    let rendezvous : Rendezvous := ⟨config.rendezvousDir⟩
    Appended (files.file? config.journalPath) (final.file? config.journalPath)
        ((granted asked).map .register) ∧
      (result = .ok () → granted asked = asked ∧
        (rendezvous.readReady (.ofPid self)).Returns (sharedDirectory peer) final
          (.ok (some ⟨.ofPid self, target, granted asked⟩))) ∧
      (result ≠ .ok () → final.file? (rendezvous.readyPath (.ofPid self)) =
        files.file? (rendezvous.readyPath (.ofPid self))) := by
  intro asked rendezvous
  obtain ⟨outcome, between, hregister, hrest⟩ := exists_of_serve hrun
  obtain ⟨⟨handle, hgrown⟩, hannounced⟩ := grown_of_registerAll hregister
  have happended := appended_of_registerAll hregister
  have hbefore : between.file? (rendezvous.readyPath (.ofPid self)) =
      files.file? (rendezvous.readyPath (.ofPid self)) :=
    (hgrown.others hapart _ (config.journalPath_ne_path rendezvous (.ready _)).symm).file?
  cases outcome with
  | error e =>
    obtain ⟨rfl, rfl⟩ := hrest
    exact ⟨happended, nofun, fun _ => hbefore⟩
  | ok registrations =>
    obtain ⟨marked, hmark, rfl⟩ := hrest
    have hall : granted asked = asked := hannounced.ok_iff.mp ⟨_, rfl⟩
    obtain rfl : registrations = granted asked := hannounced.eq_granted rfl
    have hwritten := hmark.within (journaling_within self)
    have hbetween := hgrown.apart hapart
    have hjournal : between.SameAt final config.journalPath :=
      (Rendezvous.spared_of_reaches hbetween hwritten.reaches).2 _ (config.journalPath_ne_path _ _)
        (config.journalPath_ne_temporary _)
    have hmarker := Rendezvous.file?_of_runs hbetween hwritten (.ready (.ofPid self))
    refine ⟨?_, ?_, ?_⟩
    · rw [hjournal.file?]
      exact happended
    · intro hok
      cases marked with
      | error e => contradiction
      | ok =>
        let marker : ReadyMarker := ⟨.ofPid self, target, granted asked⟩
        have hput : Notice.bytes? (.ready (.ofPid self)) (.ready marker) =
            some (Utf8.ofText (toJson marker).indented) := if_pos rfl
        rw [hput] at hmarker
        have hread := decodeBytes_indented (standsFor_readyMarker _ marker)
        exact ⟨hall, Rendezvous.returns_readMarker.mpr (Rendezvous.found_of_file? hmarker hread).symm⟩
    · intro hfailed
      cases marked with
      | ok => exact absurd rfl hfailed
      | error e => exact hmarker.trans hbefore

theorem exists_runs_serve (self : Pid) (config : RuntimeConfig) (target : CageId)
    (files : SharedFiles (Peer Reader))
    (hall : granted (requested target (.ofPid self) sessionInterceptions) =
      requested target (.ofPid self) sessionInterceptions) :
    ∃ final, (serve ⟨target, config⟩).Runs (journaling self) files (.ok ()) final := by
  obtain ⟨outcome, between, hregister⟩ :=
    exists_runs_registerAll self config target (.ofPid self) sessionInterceptions files
  obtain ⟨-, hannounced⟩ := grown_of_registerAll hregister
  obtain ⟨announced, rfl⟩ := hannounced.ok_iff.mpr hall
  let marker : ReadyMarker := ⟨.ofPid self, target, announced⟩
  obtain ⟨final, hmark⟩ := (willing_journaling self).exists_runs_publish
    (Rendezvous.readyPath ⟨config.rendezvousDir⟩ marker.grate)
    (Utf8.ofText (toJson marker).indented) between
  have hidle : (do
      let _ ← Program.request (.awaitSignal .stopping none)
      return (.ok () : Except RuntimeError Unit)).Runs (journaling self) final (.ok ()) final :=
    Program.runs_request_bind.mpr ⟨true, final, rfl, rfl, rfl⟩
  refine ⟨final, Program.runs_request_bind.mpr ⟨⟨0, 0, self⟩, files, ⟨rfl, rfl⟩, ?_⟩⟩
  refine Program.runs_request_bind.mpr ⟨(), files, rfl, ?_⟩
  exact Program.runs_bind.mpr ⟨.ok announced, between, hregister,
    Program.runs_bind.mpr ⟨.ok (), final, hmark, hidle⟩⟩

end serving

/-- **A grate announces what it has recorded.**  Registering ends, whatever is requested, and

    * the records of the requests before the first malformed one are behind what was in the journal,
      in the order of the requests; nothing else has changed;
    * it ends well exactly when no request is malformed, and then with the requests that are recorded;
    * otherwise it ends with what a client is told who makes the first malformed request alone.

    A grate that serves leaves the same records.  If it ends well, which it can when no request is
    malformed, its marker says what has been recorded; if not, the marker is what it was. -/
theorem announces_what_it_journaled (self : Pid) (config : RuntimeConfig) (target : CageId)
    (files : SharedFiles (Peer Reader)) :
    (∀ (grate : GrateId) (interceptions : List (SyscallNumber × HandlerIndex)),
      let asked := requested target grate interceptions
      let made := granted asked
      (∀ r ∈ made, r.WellFormed) ∧
      (∃ outcome final, (registerAll config target grate interceptions).Runs (journaling self) files
        outcome final) ∧
      ∀ {outcome final},
        (registerAll config target grate interceptions).Runs (journaling self) files outcome final →
        Appended (files.file? config.journalPath) (final.file? config.journalPath)
          (made.map .register) ∧
        (files.Apart → ∀ path, path ≠ config.journalPath → files.SameAt final path) ∧
        ((∃ announced, outcome = .ok announced) ↔ made = asked) ∧
        (∀ announced, outcome = .ok announced → announced = made) ∧
        (made ≠ asked → ∃ refused rest, asked = made ++ refused :: rest ∧ ¬ refused.WellFormed ∧
          outcome = .error (.registration (.ofMalformed refused)) ∧
          ∀ writer : JournalWriter, (writer.channel.register refused).Returns (journaling self) final
            (.error (.ofMalformed refused)))) ∧
    (files.Apart → ∀ peer : Peer Reader,
      let grate := GrateId.ofPid self
      let rendezvous : Rendezvous := ⟨config.rendezvousDir⟩
      let asked := requested target grate sessionInterceptions
      let made := granted asked
      (made = asked → ∃ final,
        (serve ⟨target, config⟩).Runs (journaling self) files (.ok ()) final) ∧
      ∀ {result final}, (serve ⟨target, config⟩).Runs (journaling self) files result final →
        Appended (files.file? config.journalPath) (final.file? config.journalPath)
          (made.map .register) ∧
        (result = .ok () → made = asked ∧
          (rendezvous.readReady grate).Returns (sharedDirectory peer) final
            (.ok (some ⟨grate, target, made⟩))) ∧
        (result ≠ .ok () →
          final.file? (rendezvous.readyPath grate) = files.file? (rendezvous.readyPath grate))) := by
  constructor
  · intro grate interceptions asked made
    refine ⟨fun r => wellFormed_of_mem_granted,
      exists_runs_registerAll self config target grate interceptions files, ?_⟩
    intro outcome final hrun
    obtain ⟨⟨handle, hgrown⟩, hannounced⟩ := grown_of_registerAll hrun
    refine ⟨appended_of_registerAll hrun, hgrown.others, hannounced.ok_iff,
      fun announced => hannounced.eq_granted, fun hpart => ?_⟩
    obtain ⟨refused, rest, hsplit, hrefused, houtcome⟩ := hannounced.exists_refused hpart
    exact ⟨refused, rest, hsplit, hrefused, houtcome,
      fun writer => returns_register_of_malformed writer hrefused final⟩
  · intro hapart peer grate rendezvous asked made
    exact ⟨exists_runs_serve self config target files, appended_of_serve peer hapart⟩

/-- A journal with the exit of a cage in it.  Of three requests the second is for the reserved number,
    so only the first is recorded; no request at all is nothing to refuse, whatever the ids; and a
    grate that serves announces the two registrations of a session, which are in the journal. -/
theorem announces_what_it_journaled_after_an_exit :
    let config : RuntimeConfig := .defaults (.ofText "run")
    let files : SharedFiles (Peer Unit) :=
      ⟨fun path => if path = config.journalPath then some 0 else none,
        fun _ => (JournalRecord.cageExit ⟨9⟩).encode, 1, fun _ _ => none⟩
    let first : Registration := ⟨⟨5⟩, ⟨50⟩, ⟨1⟩, ⟨2⟩⟩
    files.Apart ∧
    (∃ final, (registerAll config ⟨5⟩ ⟨2⟩ [(⟨50⟩, ⟨1⟩), (⟨400⟩, ⟨0⟩), (⟨51⟩, ⟨0⟩)]).Runs
        (journaling 2) files (.error (.registration (.reserved ⟨400⟩))) final ∧
      Journal.Reads (final.file? config.journalPath) 0 (.ok [.cageExit ⟨9⟩, .register first])) ∧
    (∃ final, (registerAll config ⟨0⟩ ⟨0⟩ []).Runs (journaling 2) files (.ok []) final) ∧
    ∃ final, (serve ⟨⟨5⟩, config⟩).Runs (journaling 2) files (.ok ()) final ∧
      Journal.Reads (final.file? config.journalPath) 1
        (.ok ((requested ⟨5⟩ ⟨2⟩ sessionInterceptions).map .register)) ∧
      (Rendezvous.readReady ⟨config.rendezvousDir⟩ ⟨2⟩).Returns (sharedDirectory (.reader ())) final
        (.ok (some ⟨⟨2⟩, ⟨5⟩, requested ⟨5⟩ ⟨2⟩ sessionInterceptions⟩)) := by
  intro config files first
  have hname {path : Path} {node : Nat} (h : files.names path = some node) :
      path = config.journalPath ∧ node = 0 := by
    by_cases hpath : path = config.journalPath
    · exact ⟨hpath, Option.some.inj (h.symm.trans (if_pos hpath))⟩
    · exact nomatch (h.symm.trans (if_neg hpath))
  have hapart : files.Apart :=
    ⟨fun hp hq => (hname hp).1.trans (hname hq).1.symm, fun hp => (hname hp).2 ▸ Nat.one_pos⟩
  have hfile : files.file? config.journalPath = some (JournalRecord.cageExit ⟨9⟩).encode :=
    congrArg (Option.map files.contents) (if_pos rfl)
  have hwhole : byteLength ∣ (JournalContents.bytes (files.file? config.journalPath)).length := by
    rw [hfile]
    exact Nat.dvd_refl byteLength
  have hexit : Journal.Reads (files.file? config.journalPath) 0 (.ok [.cageExit ⟨9⟩]) := by
    have hnothing : byteLength ∣ ([] : List UInt8).length := Nat.dvd_zero byteLength
    have hread := Journal.reading_append hnothing (Nat.le_refl 0) (Journal.reading_recordCount [])
      [JournalRecord.cageExit ⟨9⟩]
    rw [hfile]
    exact Journal.reads_iff.mpr hread.symm
  refine ⟨hapart, ?_, ?_, ?_⟩
  · obtain ⟨hregister, -⟩ := announces_what_it_journaled 2 config ⟨5⟩ files
    obtain ⟨-, ⟨outcome, final, hrun⟩, hall⟩ :=
      hregister ⟨2⟩ [(⟨50⟩, ⟨1⟩), (⟨400⟩, ⟨0⟩), (⟨51⟩, ⟨0⟩)]
    obtain ⟨happended, -, -, -, hrefused⟩ := hall hrun
    obtain ⟨refused, rest, hsplit, -, rfl, -⟩ := hrefused (by decide)
    obtain ⟨rfl, -⟩ := List.cons.inj (List.cons.inj hsplit).2
    exact ⟨final, hrun, happended.kept hwhole _ hexit⟩
  · obtain ⟨hregister, -⟩ := announces_what_it_journaled 2 config ⟨0⟩ files
    obtain ⟨-, ⟨outcome, final, hrun⟩, hall⟩ := hregister ⟨0⟩ []
    obtain ⟨-, -, hok, hannounced, -⟩ := hall hrun
    obtain ⟨announced, rfl⟩ := hok.mpr rfl
    obtain rfl := hannounced announced rfl
    exact ⟨final, hrun⟩
  · obtain ⟨-, hserve⟩ := announces_what_it_journaled 2 config ⟨5⟩ files
    obtain ⟨hwell, hall⟩ := hserve hapart (.reader ())
    obtain ⟨final, hrun⟩ := hwell (by decide)
    obtain ⟨happended, hready, -⟩ := hall hrun
    have hmade : granted (requested ⟨5⟩ (.ofPid 2) sessionInterceptions) =
        requested ⟨5⟩ ⟨2⟩ sessionInterceptions := by decide
    have hone : recordCount (JournalContents.bytes (files.file? config.journalPath)) = 1 := by
      rw [hfile]
      rfl
    have hadded := happended.added hwhole
    rw [hone, hmade] at hadded
    have hsaid := (hready rfl).2
    rw [hmade] at hsaid
    exact ⟨final, hrun, hadded, hsaid⟩

end Interposition.Demo
