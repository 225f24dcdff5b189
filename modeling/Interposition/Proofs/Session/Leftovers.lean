/-
  Whose markers a session acts on.

  A marker is named by the number of a process, and numbers come round.  A session makes the directory
  of its markers if it is not there and starts its journal afresh, but it takes no marker away.  What
  it finds under the number of one of its children may come from that child, or from whoever had the
  number when that child did not live.

  1. **Boards** (`Board`, `Act`, `bulletin`): the files, and what has happened in the session so far.
     At any time processes put markers of their own numbers, and markers vanish.

  2. **Origins** (`Origin`, `Traced.origin`): a marker that is there was put there in the session, by
     the child it is about or while that child did not live, or it was there before the session.

  3. **The law** (`Permitted`, `Lawful`): the grate is started behind an armed marker of the cage, and
     the cage is released behind a ready marker of the grate.  A stage that starts nobody and releases
     nobody keeps it (`Traced.meets`); the others come behind one that has found what they need.

  4. **Leftovers** (`acts_on_markers_by_origin`): every session keeps the law, at every point it comes
     to.  With nobody else's markers under the numbers of its children it acts on theirs
     (`acts_on_own_markers`).  But the law does not tell a child's own marker from one that was left
     under its number, and a session takes the one for the other (`leftovers_release_the_cage`).
-/
import Mathlib.Logic.Function.Basic
import Mathlib.Logic.Relation
import Interposition.Proofs.Host.Alone
import Interposition.Proofs.Host.Playing
import Interposition.Proofs.Rendezvous.Acknowledging
import Interposition.Proofs.Rendezvous.Names
import Interposition.Proofs.Rendezvous.Publishing
import Interposition.Proofs.Session.Course

namespace Interposition

/-- A number is told by its word. -/
theorem Pid.toWord_injective {pid other : Pid} (h : pid.toWord = other.toWord) : pid = other := by
  have hwide : pid.toInt64 = other.toInt64 := congrArg UInt64.toInt64 h
  have hint : pid.toInt = other.toInt := by
    rw [← Int32.toInt_toInt64, hwide, Int32.toInt_toInt64]
  exact Int32.toInt_inj.mp hint

/-- A deed that leaves the markers of a directory alone, starts nobody and releases nobody. -/
def Deed.SparesMarkers (rendezvous : Rendezvous) : Deed → Prop
  | asks (.kill _ signal) => signal ≠ .release
  | asks (.createFile path) | asks (.openAppending path) => ∀ name, path ≠ rendezvous.path name
  | asks (.openWriting _ _) | asks (.rename _ _) | asks (.remove _) => False
  | asks _ => True
  | _ => False

theorem Deed.IsLook.sparesMarkers {rendezvous : Rendezvous} {deed : Deed} (h : deed.IsLook) :
    deed.SparesMarkers rendezvous := by
  cases deed with
  | asks request => cases request <;> first | exact trivial | exact h.elim
  | starts launch => exact h.elim
  | goesOn => exact h.elim

/-- One of the two probes there are, for the markers of one directory. -/
inductive Probe.Reads (rendezvous : Rendezvous) : Probe → Prop where
  | marker : Reads rendezvous (.marker rendezvous)
  | operator (channel : Nat) : Reads rendezvous (.operator rendezvous channel)

/-- What such a probe does, beside asking for the grate, is looking. -/
theorem Probe.Reads.confined {rendezvous : Rendezvous} {probe : Probe} (h : probe.Reads rendezvous)
    {σ : Type} {allowed : Deed → Prop} {grate : GrateId} {timeout : Duration}
    {alive : σ → Program (Bool × σ)} (hlook : ∀ deed : Deed, deed.IsLook → allowed deed)
    (halive : ∀ s, (alive s).Confined allowed) (s : σ) :
    (probe.awaitReady grate timeout alive s).Confined allowed := by
  have hwait : (rendezvous.waitReady grate timeout alive s).Confined allowed :=
    Poll.confined_wait (hlook (.asks .now) trivial) (fun pause => hlook (.asks (.sleep pause)) trivial)
      ((Rendezvous.confined_readMarker _ _).mono hlook) halive s
  cases h with
  | marker => exact hwait
  | operator channel =>
    refine (Program.confined_request (hlook (.asks .now) trivial)).bind fun started => ?_
    refine hwait.bind ?_
    rintro ⟨_ | marker, s'⟩
    · exact trivial
    · refine (Program.confined_request (hlook (.asks .now) trivial)).bind fun moment => ?_
      refine (Program.confined_request (hlook (.asks (.receiveLine channel _)) trivial)).bind ?_
      rintro (_ | _ | _) <;> exact trivial

namespace Session

open Rendezvous (MarkerName)

/-! ## Boards -/

/-- Something that happens while a session runs. -/
inductive Occurrence where
  /-- The session has started a child. -/
  | started (pid : Pid)
  /-- The session has been told of the end of a child, and the number is free. -/
  | collected (pid : Pid)
  /-- The session has sent a signal. -/
  | signalled (pid : Pid) (signal : Signal)
  /-- A process has put a marker in its place. -/
  | put (pid : Pid) (name : MarkerName) (bytes : List UInt8)
deriving DecidableEq

namespace Occurrence

/-- The child that was started. -/
def child? : Occurrence → Option Pid
  | started pid => some pid
  | _ => none

/-- Nobody is started, and nobody is released. -/
def IsQuiet : Occurrence → Prop
  | started _ => False
  | signalled _ signal => signal ≠ .release
  | _ => True

end Occurrence

/-- The children that have been started, oldest first: the cage, and then the grate. -/
def childrenIn (history : List Occurrence) : List Pid := history.filterMap Occurrence.child?

/-- A child has its place for good. -/
theorem getElem?_childrenIn_grown {before history : List Occurrence} {n : Nat} {pid : Pid}
    (h : before <+: history) (hchild : (childrenIn before)[n]? = some pid) :
    (childrenIn history)[n]? = some pid := by
  obtain ⟨after, rfl⟩ := h
  have hplace : n < (childrenIn before).length := (List.getElem?_eq_some_iff.mp hchild).1
  unfold childrenIn at hchild hplace ⊢
  rwa [List.filterMap_append, List.getElem?_append_left hplace]

theorem childrenIn_append_singleton (history : List Occurrence) (event : Occurrence) :
    childrenIn (history ++ [event]) = childrenIn history ++ event.child?.toList := by
  unfold childrenIn
  rw [List.filterMap_append]
  cases event <;> rfl

/-- The files, and what has happened so far, oldest first. -/
structure Board where
  files : Path → Option (List UInt8)
  history : List Occurrence

namespace Board

variable (rendezvous : Rendezvous) (board : Board)

/-- The board after something that touches no file. -/
def after (event : Occurrence) : Board := { board with history := board.history ++ [event] }

/-- The board after a process has put a marker in its place. -/
def putting (pid : Pid) (name : MarkerName) (bytes : List UInt8) : Board where
  files := Function.update board.files (rendezvous.path name) (some bytes)
  history := board.history ++ [.put pid name bytes]

end Board

variable {rendezvous : Rendezvous} {board next : Board} {files : Path → Option (List UInt8)}
  {history later : List Occurrence} {children : List Pid} {pid : Pid} {name : MarkerName}
  {bytes : List UInt8} {event : Occurrence} {n : Nat}

/-- What others may do at any time: a process puts a marker of its own number, markers vanish, and
    files that are no markers change in any way. -/
inductive Act (rendezvous : Rendezvous) : Board → Board → Prop where
  | puts {board : Board} {pid : Pid} {name : MarkerName} {bytes : List UInt8}
      (hname : name.id = pid.toWord) : Act rendezvous board (board.putting rendezvous pid name bytes)
  | clears {board : Board} {files : Path → Option (List UInt8)}
      (h : ∀ name bytes, files (rendezvous.path name) = some bytes →
        board.files (rendezvous.path name) = some bytes) : Act rendezvous board { board with files }

/-- Any number of such acts. -/
def Passes (rendezvous : Rendezvous) : Board → Board → Prop := Relation.ReflTransGen (Act rendezvous)

/-- An operating system, as far as markers go.  A file is found only where there is one, and others act
    behind every answer.  Nothing is promised of requests that give files other names or none, or open
    them where there are markers; what is written goes to files that were opened elsewhere. -/
def bulletin (rendezvous : Rendezvous) : OperatingSystem Board where
  answers
    | board, .pathExists path, there, next =>
      (there = true → (board.files path).isSome) ∧ Passes rendezvous board next
    | board, .readFile path, answer, next =>
      (∀ bytes, answer = .ok bytes → board.files path = some bytes) ∧ Passes rendezvous board next
    | board, .kill pid signal, _, next => Passes rendezvous (board.after (.signalled pid signal)) next
    | board, .wait pid _, answer, next =>
      Passes rendezvous
        (if (Termination.told? answer).isSome then board.after (.collected pid) else board) next
    | board, .createFile path, _, next | board, .openAppending path, _, next =>
      (∀ name, path ≠ rendezvous.path name) → Passes rendezvous board next
    | _, .openWriting _ _, _, _ => True
    | _, .rename _ _, _, _ => True
    | _, .remove _, _, _ => True
    | board, _, _, next => Passes rendezvous board next
  spawns board _ _ _ answer next :=
    match answer with
    | .ok pid => Passes rendezvous (board.after (.started pid)) next
    | .error _ => Passes rendezvous board next

theorem Passes.keeps {holds : Board → Prop}
    (hact : ∀ {board next}, Act rendezvous board next → holds board → holds next)
    (h : Passes rendezvous board next) (hboard : holds board) : holds next := by
  induction h with
  | refl => exact hboard
  | tail _ hlast ih => exact hact hlast ih

/-- What has happened stays so. -/
theorem Passes.grows (h : Passes rendezvous board next) : board.history <+: next.history := by
  induction h with
  | refl => exact List.prefix_refl _
  | tail _ hlast ih =>
    cases hlast with
    | puts => exact ih.trans (List.prefix_append _ _)
    | clears => exact ih

/-- What others keep, and what quiet occurrences keep, every deed keeps that spares markers. -/
theorem keeps_of_act {holds : Board → Prop}
    (hact : ∀ {board next}, Act rendezvous board next → holds board → holds next)
    (hquiet : ∀ {board : Board} {event}, event.IsQuiet → holds board → holds (board.after event)) :
    (bulletin rendezvous).Keeps (Deed.SparesMarkers rendezvous) holds where
  answers {board next r answer} h hdeed hanswer := by
    cases r with
    | pathExists path => exact hanswer.2.keeps hact h
    | readFile path => exact hanswer.2.keeps hact h
    | kill pid signal =>
      have hsent : (Occurrence.signalled pid signal).IsQuiet := hdeed
      exact Passes.keeps hact hanswer (hquiet hsent h)
    | wait pid block =>
      refine Passes.keeps hact hanswer ?_
      have htold : (Occurrence.collected pid).IsQuiet := trivial
      split
      · exact hquiet htold h
      · exact h
    | createFile path => exact Passes.keeps hact (hanswer hdeed) h
    | openAppending path => exact Passes.keeps hact (hanswer hdeed) h
    | openWriting path mode => exact hdeed.elim
    | rename source target => exact hdeed.elim
    | remove path => exact hdeed.elim
    | _ => exact Passes.keeps hact hanswer h
  spawns _ hdeed _ := hdeed.elim

/-! ## Origins -/

/-- The child with the given place among those started has this number, and has not been collected. -/
def Living (n : Nat) (pid : Pid) (history : List Occurrence) : Prop :=
  ∃ before after, history = before ++ .started pid :: after ∧ (childrenIn before).length = n ∧
    .collected pid ∉ after

/-- Where a marker comes from that is about the child with the given place and number. -/
inductive Origin (rendezvous : Rendezvous) (files : Path → Option (List UInt8)) (n : Nat) (pid : Pid)
    (name : MarkerName) (bytes : List UInt8) (history : List Occurrence) : Prop where
  /-- The child has put it there. -/
  | own {before after : List Occurrence} (h : history = before ++ .put pid name bytes :: after)
      (living : Living n pid before)
  /-- Somebody has put it there who had the number while the child did not live. -/
  | stranger {before after : List Occurrence} (h : history = before ++ .put pid name bytes :: after)
      (gone : ¬Living n pid before)
  /-- It was there before the session. -/
  | leftover (h : files (rendezvous.path name) = some bytes)

theorem Origin.mono (h : Origin rendezvous files n pid name bytes history)
    (hlater : history <+: later) : Origin rendezvous files n pid name bytes later := by
  obtain ⟨more, rfl⟩ := hlater
  cases h with
  | own h hliving =>
    rw [h, List.append_assoc, List.cons_append]
    exact .own rfl hliving
  | stranger h hgone =>
    rw [h, List.append_assoc, List.cons_append]
    exact .stranger rfl hgone
  | leftover h => exact .leftover h

/-- The child has put the marker there itself, while it lived. -/
def PutByChild (n : Nat) (pid : Pid) (name : MarkerName) (bytes : List UInt8)
    (history : List Occurrence) : Prop :=
  ∃ before after, history = before ++ .put pid name bytes :: after ∧ Living n pid before

/-- A child has its number to itself: there was no marker of the number before, and whoever has put
    one was the child while it lived. -/
structure Unshared (rendezvous : Rendezvous) (files : Path → Option (List UInt8)) (n : Nat)
    (pid : Pid) (history : List Occurrence) : Prop where
  clean : ∀ name : MarkerName, name.id = pid.toWord → files (rendezvous.path name) = none
  kept : ∀ before name bytes after, history = before ++ .put pid name bytes :: after →
    Living n pid before

/-- **A marker is the child's own** where nobody shares its number. -/
theorem Origin.putByChild (h : Origin rendezvous files n pid name bytes history)
    (hlater : history <+: later) (hname : name.id = pid.toWord)
    (halone : Unshared rendezvous files n pid later) : PutByChild n pid name bytes history := by
  cases h with
  | own hput hliving => exact ⟨_, _, hput, hliving⟩
  | @stranger before after hput hgone =>
    obtain ⟨more, rfl⟩ := hlater
    refine absurd (halone.kept before name bytes (after ++ more) ?_) hgone
    rw [hput, List.append_assoc, List.cons_append]
  | leftover hleft =>
    rw [halone.clean name hname] at hleft
    contradiction

/-! ## The law -/

/-- What must have been found before something happens.  Beside the cage one more child is started, the
    grate, behind an armed marker of the cage; and nobody but the cage is released, behind a ready
    marker of the grate. -/
def Permitted (rendezvous : Rendezvous) (files : Path → Option (List UInt8))
    (history : List Occurrence) : Occurrence → Prop
  | .started _ => childrenIn history = [] ∨ ∃ cage bytes, childrenIn history = [cage] ∧
      Origin rendezvous files 0 cage (.armed (.ofPid cage)) bytes history
  | .signalled pid signal => signal = .release → ∃ grate marker bytes,
      childrenIn history = [pid, grate] ∧ decodeBytes ReadyMarker bytes = .ok marker ∧
      Origin rendezvous files 1 grate (.ready (.ofPid grate)) bytes history
  | _ => True

theorem Occurrence.IsQuiet.permitted (h : event.IsQuiet) : Permitted rendezvous files history event := by
  cases event with
  | started pid => exact h.elim
  | signalled pid signal => exact fun hrelease => absurd hrelease h
  | _ => exact trivial

theorem Occurrence.IsQuiet.toList_child? (h : event.IsQuiet) : event.child?.toList = [] := by
  cases event with
  | started pid => exact h.elim
  | _ => rfl

/-- Whatever happened was permitted when it did. -/
def Lawful (rendezvous : Rendezvous) (files : Path → Option (List UInt8))
    (history : List Occurrence) : Prop :=
  ∀ before event after, history = before ++ event :: after → Permitted rendezvous files before event

theorem Lawful.append (h : Lawful rendezvous files history)
    (hevent : Permitted rendezvous files history event) :
    Lawful rendezvous files (history ++ [event]) := by
  intro before other after heq
  rcases List.eq_nil_or_concat after with rfl | ⟨rest, last, rfl⟩
  · obtain ⟨rfl, hlast⟩ := List.append_inj' heq rfl
    cases hlast
    exact hevent
  · have hsplit : history ++ [event] = (before ++ other :: rest) ++ [last] := by
      rw [heq, List.concat_eq_append, List.append_assoc, List.cons_append]
    obtain ⟨hhistory, -⟩ := List.append_inj' hsplit rfl
    exact h before other rest hhistory

/-- The law, as what a session owes at every point. -/
abbrev law (rendezvous : Rendezvous) (files : Path → Option (List UInt8)) : Contract Board :=
  .alone fun board => Lawful rendezvous files board.history

/-- The law has been kept, so many children have been started, and every marker that is there was put
    there or was there before. -/
structure Traced (rendezvous : Rendezvous) (files : Path → Option (List UInt8)) (children : List Pid)
    (board : Board) : Prop where
  sound : ∀ {name bytes}, board.files (rendezvous.path name) = some bytes →
    files (rendezvous.path name) = some bytes ∨
      ∃ pid, name.id = pid.toWord ∧ .put pid name bytes ∈ board.history
  lawful : Lawful rendezvous files board.history
  children : childrenIn board.history = children

/-- The directory of a session's markers. -/
abbrev directory (config : RuntimeConfig) : Rendezvous := ⟨config.rendezvousDir⟩

/-- What a report says the cage saw was read from a marker of the cage. -/
def Reported (rendezvous : Rendezvous) (files : Path → Option (List UInt8)) (reported : SessionReport)
    (outcome : CageOutcome) (history : List Occurrence) : Prop :=
  ∃ cagePid gratePid bytes, childrenIn history = [cagePid, gratePid] ∧
    reported.cage.pid = Executor.key cagePid ∧ reported.grate.pid = Executor.key gratePid ∧
    decodeBytes CageOutcome bytes = .ok outcome ∧
    Origin rendezvous files 0 cagePid (.outcome (.ofPid cagePid)) bytes history

/-- Whatever a session reports that the cage saw was read so. -/
def Vouched (rendezvous : Rendezvous) (files : Path → Option (List UInt8))
    (result : Except ProcessError SessionReport × Executor) (now : Board) : Prop :=
  ∀ reported outcome, result.1 = .ok reported → reported.outcome = some outcome →
    Reported rendezvous files reported outcome now.history

theorem vouched_error (cause : ProcessError) (e : Executor) (now : Board) :
    Vouched rendezvous files (.error cause, e) now := fun _ _ h => nomatch h

namespace Traced

theorem default (rendezvous : Rendezvous) (files : Path → Option (List UInt8)) :
    Traced rendezvous files [] ⟨files, []⟩ :=
  ⟨.inl, fun _ _ _ h => by simp at h, rfl⟩

/-- Something permitted. -/
theorem after (h : Traced rendezvous files children board)
    (hevent : Permitted rendezvous files board.history event) :
    Traced rendezvous files (children ++ event.child?.toList) (board.after event) where
  sound hthere := (h.sound hthere).imp_right fun ⟨pid, hname, hput⟩ =>
    ⟨pid, hname, List.mem_append_left _ hput⟩
  lawful := h.lawful.append hevent
  children := by
    unfold Board.after
    rw [childrenIn_append_singleton, h.children]

/-- Something quiet. -/
theorem quiet (hevent : event.IsQuiet) (h : Traced rendezvous files children board) :
    Traced rendezvous files children (board.after event) := by
  have hafter := h.after hevent.permitted
  rwa [hevent.toList_child?, List.append_nil] at hafter

/-- An act of others. -/
theorem act (hact : Act rendezvous board next) (h : Traced rendezvous files children board) :
    Traced rendezvous files children next := by
  cases hact with
  | clears hkept => exact ⟨fun hthere => h.sound (hkept _ _ hthere), h.lawful, h.children⟩
  | @puts pid name bytes hname =>
    have hafter : Traced rendezvous files children (board.after (.put pid name bytes)) :=
      quiet trivial h
    refine ⟨fun {other said} hthere => ?_, hafter.lawful, hafter.children⟩
    by_cases hother : other = name
    · subst hother
      have hsaid : some bytes = some said := by
        rw [← hthere]
        exact (Function.update_self (rendezvous.path other) (some bytes) board.files).symm
      cases hsaid
      exact .inr ⟨pid, hname, List.mem_append_right _ (List.mem_singleton_self _)⟩
    · have hpath : rendezvous.path other ≠ rendezvous.path name :=
        fun heq => hother (Rendezvous.path_injective heq)
      have hbefore : board.files (rendezvous.path other) = some said := by
        rw [← hthere]
        exact (Function.update_of_ne hpath (some bytes) board.files).symm
      exact hafter.sound hbefore

theorem keeps (rendezvous : Rendezvous) (files : Path → Option (List UInt8)) (children : List Pid) :
    (bulletin rendezvous).Keeps (Deed.SparesMarkers rendezvous)
      (Traced rendezvous files children) := keeps_of_act act quiet

/-- **A marker that is there** has one of the origins. -/
theorem origin (h : Traced rendezvous files children board) (hname : name.id = pid.toWord)
    (hthere : board.files (rendezvous.path name) = some bytes) (n : Nat) :
    Origin rendezvous files n pid name bytes board.history := by
  rcases h.sound hthere with hleft | ⟨other, hother, hput⟩
  · exact .leftover hleft
  · obtain rfl : pid = other := Pid.toWord_injective (hname.symm.trans hother)
    obtain ⟨before, later, hhistory⟩ := List.append_of_mem hput
    by_cases hliving : Living n pid before
    · exact .own hhistory hliving
    · exact .stranger hhistory hliving

/-- **Reading a marker** of a child. -/
theorem reads {α : Type} [Decode α] {a : α} (h : Traced rendezvous files children board)
    (hname : name.id = pid.toWord)
    (hrun : (Rendezvous.readMarker α (rendezvous.path name)).Runs (bulletin rendezvous) board
      (.ok (some a)) next) (n : Nat) : ∃ bytes, decodeBytes α bytes = .ok a ∧
      Origin rendezvous files n pid name bytes next.history := by
  obtain ⟨answer, ⟨hthere, hpasses⟩, hsaid⟩ := Rendezvous.runs_readMarker.mp hrun
  obtain ⟨bytes, rfl, hread⟩ := Rendezvous.decodes_of_found hsaid.symm
  exact ⟨bytes, hread, (h.origin hname (hthere bytes rfl) n).mono (Passes.grows hpasses)⟩

/-- **What spares markers** keeps the law, and all that has been traced. -/
theorem meets {α : Type} {program : Program α} (h : Traced rendezvous files children board)
    (hconfined : program.Confined (Deed.SparesMarkers rendezvous)) {post : α → Board → Prop}
    (hpost : ∀ a next, program.Runs (bulletin rendezvous) board a next →
      Traced rendezvous files children next → post a next) :
    program.Meets (bulletin rendezvous) (law rendezvous files) post board :=
  hconfined.meets (keeps rendezvous files children) (fun _ hnow => hnow.lawful) h hpost

/-- Turns of a wait that asks for a child. -/
theorem takes {β : Type} {check : Program (Except GateError (Option β))} {turns : List (Poll.Turn β)}
    {start final : Executor × Board} (h : Traced rendezvous files children start.2)
    (hcheck : check.Confined Deed.IsLook)
    (htakes : Poll.Takes (bulletin rendezvous) (Executor.isAlive pid) check turns start final) :
    Traced rendezvous files children final.2 :=
  htakes.keeps (keeps rendezvous files children) trivial (fun _ => trivial)
    (hcheck.mono fun _ => Deed.IsLook.sparesMarkers) (fun _ => Executor.confined_isAlive trivial) h

end Traced

/-! ## The stages -/

variable {config : RuntimeConfig} {probe : Probe} {cage grate : ImageSpec} {e : Executor}
  {cagePid gratePid : Pid} {journal : JournalWriter}

theorem meets_prepare (h : Traced (directory config) files [] board) :
    (prepare config e).Meets (bulletin (directory config)) (law (directory config) files)
      (fun _ now => Traced (directory config) files [] now) board :=
  h.meets (confined_prepare_of (fun _ => trivial) (fun _ => trivial) (config.journalPath_ne_path _)
    (fun _ => trivial) (config.journalPath_ne_path _)) fun _ _ _ hnow => hnow

/-- **Starting a child**, behind what must have been found before. -/
theorem meets_starts {α : Type} {role : Role} {image : ImageSpec} {vars : List (String × String)}
    {settings : α} {L : LaunchSettings α} (h : Traced rendezvous files children board)
    (hpermitted : ∀ pid, Permitted rendezvous files board.history (.started pid)) :
    ((do
      let setting ← ExceptT.mk (pure (LaunchSettings.toEnvironment settings))
      Executor.spawn role image (vars ++ [setting]) none : Supervised Pid) e).Meets
        (bulletin rendezvous) (law rendezvous files) (fun outcome now =>
          match outcome.1 with
          | .ok pid => Traced rendezvous files (children ++ [pid]) now
          | .error _ => Traced rendezvous files children now) board := by
  refine Supervised.meets_bind ?_
  cases LaunchSettings.toEnvironment settings with
  | error cause => exact h
  | ok setting =>
    show (Executor.spawn role image (vars ++ [setting]) none e).Meets _ _ _ _
    rw [Executor.spawn_eq]
    rintro _ rfl - answer between hspawns
    cases answer with
    | error cause =>
      have hrefused : Traced rendezvous files children between := Passes.keeps Traced.act hspawns h
      exact ⟨⟨hrefused.lawful, trivial⟩, hrefused⟩
    | ok pid =>
      have hstarted : Traced rendezvous files (children ++ [pid]) between :=
        Passes.keeps Traced.act hspawns (h.after (hpermitted pid))
      exact ⟨⟨hstarted.lawful, trivial⟩, hstarted⟩

/-- **The cage arms**, and its marker was there at the last look. -/
theorem meets_awaitArmed (h : Traced (directory config) files [cagePid] board) :
    (awaitArmed config cagePid e).Meets (bulletin (directory config)) (law (directory config) files)
      (fun outcome now => Traced (directory config) files [cagePid] now ∧ (outcome.1 = .ok () →
        ∃ bytes, Origin (directory config) files 0 cagePid (.armed (.ofPid cagePid)) bytes now.history))
      board := by
  have hcheck : (do
      return .ok (if ← (directory config).isArmed (.ofPid cagePid) then some () else none) :
        Program (Except GateError (Option Unit))).Confined Deed.IsLook :=
    (Program.confined_request trivial).bind fun there => by cases there <;> exact trivial
  have hconfined : (awaitArmed config cagePid e).Confined (Deed.SparesMarkers (directory config)) := by
    refine (Poll.confined_wait trivial (fun _ => trivial)
      (hcheck.mono fun _ => Deed.IsLook.sparesMarkers)
      (fun _ => Executor.confined_isAlive trivial) e).bind ?_
    rintro ⟨_ | _, _⟩ <;> exact trivial
  refine h.meets hconfined fun outcome next hrun hnext => ⟨hnext, fun hok => ?_⟩
  obtain ⟨answer, hwait, hanswer⟩ := runs_asking.mp hrun
  obtain ⟨started, turns, hcourse, htakes⟩ := Poll.takes_of_wait hwait
  cases answer with
  | error cause =>
    rw [hanswer] at hok
    cases hok
  | ok found =>
    obtain ⟨before, hturns⟩ := hcourse.exact.value rfl
    rw [hturns] at htakes
    obtain ⟨⟨_, looked⟩, hbefore, ⟨_, _⟩, ⟨hlook, -⟩, hend⟩ := Poll.takes_append.mp htakes
    cases hend
    have hlooked : Traced (directory config) files [cagePid] looked := h.takes hcheck hbefore
    obtain ⟨there, between, ⟨hthere, hpasses⟩, hsaid⟩ := Program.runs_request_bind.mp hlook
    cases there with
    | false => cases hsaid.1
    | true =>
      obtain ⟨-, rfl⟩ := hsaid
      obtain ⟨bytes, hbytes⟩ := Option.isSome_iff_exists.mp (hthere rfl)
      have hname : (MarkerName.armed (.ofPid cagePid)).id = cagePid.toWord := rfl
      exact ⟨bytes, (hlooked.origin hname hbytes 0).mono (Passes.grows hpasses)⟩

/-- The wait for the grate found its word. -/
theorem Traced.found {marker : ReadyMarker} {start final : Executor × Board}
    (h : Traced rendezvous files children start.2)
    (hfound : Probe.Found (bulletin rendezvous) rendezvous (.ofPid gratePid)
      (Executor.isAlive gratePid) marker start final) :
    ∃ bytes, decodeBytes ReadyMarker bytes = .ok marker ∧
      Origin rendezvous files 1 gratePid (.ready (.ofPid gratePid)) bytes final.2.history := by
  obtain ⟨before, looked, hbefore, hlook⟩ := hfound
  have hlooked : Traced rendezvous files children looked :=
    h.takes (Rendezvous.confined_readMarker _ _) hbefore
  have hname : (MarkerName.ready (.ofPid gratePid)).id = gratePid.toWord := rfl
  exact hlooked.reads hname hlook 1

/-- **Either probe** answers behind a marker of the grate. -/
theorem Traced.ready {marker : ReadyMarker} {timeout : Duration} {e' : Executor}
    (h : Traced rendezvous files children board) (hprobe : probe.Reads rendezvous)
    (hrun : (probe.awaitReady (.ofPid gratePid) timeout (Executor.isAlive gratePid) e).Runs
      (bulletin rendezvous) board (.ok marker, e') next) :
    ∃ bytes, decodeBytes ReadyMarker bytes = .ok marker ∧
      Origin rendezvous files 1 gratePid (.ready (.ofPid gratePid)) bytes next.history := by
  cases hprobe with
  | marker => exact h.found (Probe.found_of_waitReady hrun)
  | operator channel =>
    obtain ⟨started, first, hnow, hrest⟩ := Program.runs_request_bind.mp hrun
    have hfirst : Traced rendezvous files children first := Passes.keeps Traced.act hnow h
    obtain ⟨⟨waited, s⟩, marked, hwait, hrest⟩ := Program.runs_bind.mp hrest
    cases waited with
    | error cause => cases hrest.1
    | ok word =>
      obtain ⟨bytes, hread, horigin⟩ := hfirst.found (Probe.found_of_waitReady hwait)
      obtain ⟨moment, asked, hasked, hrest⟩ := Program.runs_request_bind.mp hrest
      obtain ⟨line, heard, hheard, hrest⟩ := Program.runs_request_bind.mp hrest
      have hhistory : marked.history <+: heard.history :=
        (Passes.grows hasked).trans (Passes.grows hheard)
      cases line <;> obtain ⟨heq, rfl⟩ := hrest <;> cases heq
      exact ⟨bytes, hread, horigin.mono hhistory⟩

/-- **The grate becomes ready**, and its marker was there at the last look. -/
theorem meets_awaitReady (h : Traced (directory config) files [cagePid, gratePid] board)
    (hprobe : probe.Reads (directory config)) :
    (awaitReady config probe gratePid e).Meets (bulletin (directory config))
      (law (directory config) files) (fun outcome now =>
        Traced (directory config) files [cagePid, gratePid] now ∧ ∀ marker, outcome.1 = .ok marker →
          ∃ bytes, decodeBytes ReadyMarker bytes = .ok marker ∧ Origin (directory config) files 1
            gratePid (.ready (.ofPid gratePid)) bytes now.history) board := by
  have hconfined : (awaitReady config probe gratePid e).Confined
      (Deed.SparesMarkers (directory config)) := by
    refine (hprobe.confined (fun _ => Deed.IsLook.sparesMarkers)
      (fun _ => Executor.confined_isAlive trivial) e).bind ?_
    rintro ⟨_ | _, _⟩ <;> exact trivial
  refine h.meets hconfined fun outcome next hrun hnext => ⟨hnext, fun marker hmarker => ?_⟩
  obtain ⟨answer, hasked, hanswer⟩ := runs_asking.mp hrun
  rw [hanswer] at hmarker
  cases answer <;> cases hmarker
  exact h.ready hprobe hasked

/-- **The release**, behind the word of the grate. -/
theorem meets_release {marker : ReadyMarker}
    (h : Traced rendezvous files [cagePid, gratePid] board)
    (hread : decodeBytes ReadyMarker bytes = .ok marker)
    (horigin : Origin rendezvous files 1 gratePid (.ready (.ofPid gratePid)) bytes board.history) :
    (Executor.signal cagePid .release e).Meets (bulletin rendezvous) (law rendezvous files)
      (fun _ now => Traced rendezvous files [cagePid, gratePid] now) board := by
  have hpermitted : Permitted rendezvous files board.history (.signalled cagePid .release) :=
    fun _ => ⟨gratePid, marker, bytes, h.children, hread, horigin⟩
  unfold Executor.signal
  split
  · exact h
  · refine Program.meets_request_bind fun _ answer between hpasses => ?_
    have hsent : Traced rendezvous files [cagePid, gratePid] between :=
      Passes.keeps Traced.act hpasses (h.after hpermitted)
    refine ⟨hsent.lawful, ?_⟩
    cases answer with
    | ok => exact hsent
    | error cause =>
      show (if cause = .esrch then _ else _ : Program _).Meets _ _ _ _
      split <;> exact hsent

/-- The end of both lives. -/
theorem meets_settle {marker : ReadyMarker}
    (h : Traced rendezvous files [cagePid, gratePid] board)
    (hread : decodeBytes ReadyMarker bytes = .ok marker)
    (horigin : Origin rendezvous files 1 gratePid (.ready (.ofPid gratePid)) bytes board.history) :
    (settle cagePid gratePid e).Meets (bulletin rendezvous) (law rendezvous files)
      (fun _ now => Traced rendezvous files [cagePid, gratePid] now) board := by
  refine Supervised.meets_bind ((meets_release h hread horigin).mono fun outcome now hnow => ?_)
  obtain ⟨sent, later⟩ := outcome
  cases sent with
  | error cause => exact hnow
  | ok delivered =>
    refine hnow.meets ?_ fun _ _ _ hnext => hnext
    refine Supervised.confined_bind (Executor.confined_reap trivial) fun _ _ => ?_
    refine Supervised.confined_bind (Executor.confined_signal nofun) fun _ _ => ?_
    exact Supervised.confined_bind (Executor.confined_reap trivial) fun _ _ => trivial

/-- **Reporting**, and what is reported that the cage saw. -/
theorem meets_report {marker : ReadyMarker}
    (h : Traced (directory config) files [cagePid, gratePid] board) :
    (report config cage grate cagePid gratePid marker e).Meets (bulletin (directory config))
      (law (directory config) files) (Vouched (directory config) files) board := by
  refine h.meets (confined_report.mono fun _ => Deed.IsLook.sparesMarkers) ?_
  rintro ⟨result, e'⟩ next hrun hnext reported outcome rfl houtcome
  obtain ⟨-, other, hreported, -, hcage, hgrate⟩ := runs_report hrun
  obtain rfl := Except.ok.inj hreported
  have hname : (MarkerName.outcome (.ofPid cagePid)).id = cagePid.toWord := rfl
  obtain ⟨bytes, hread, horigin⟩ := h.reads hname (readOutcome_of_runs_report hrun houtcome) 0
  exact ⟨cagePid, gratePid, bytes, hnext.children, hcage, hgrate, hread, horigin⟩

/-- What fails, fails after everybody has been killed, which the law allows. -/
theorem meets_orAbort {α : Type} {pids : List Pid} {program : Supervised α}
    {post : Except ProcessError α × Executor → Board → Prop}
    (h : (program e).Meets (bulletin rendezvous) (law rendezvous files) (fun outcome now =>
      match outcome.1 with
      | .ok _ => post outcome now
      | .error cause => (∃ children, Traced rendezvous files children now) ∧
          ∀ e now, post (.error cause, e) now) board) :
    (orAbort pids program e).Meets (bulletin rendezvous) (law rendezvous files) post board := by
  refine Supervised.meets_bind (Program.Meets.bind h ?_)
  rintro ⟨_ | a, later⟩ now hnow
  · obtain ⟨⟨children, hnow⟩, hpost⟩ := hnow
    have hconfined : (abort pids later).Confined (Deed.SparesMarkers rendezvous) :=
      confined_abort (fun _ => nofun) fun _ => trivial
    refine Supervised.meets_bind (hnow.meets hconfined fun outcome next hrun _ => ?_)
    obtain ⟨result, last⟩ := outcome
    obtain rfl := ok_of_runs_abort hrun
    exact hpost last next
  · exact hnow

/-- The end of a session, once the probe has found the grate ready. -/
theorem meets_ends {marker : ReadyMarker}
    (h : Traced (directory config) files [cagePid, gratePid] board)
    (hread : decodeBytes ReadyMarker bytes = .ok marker)
    (horigin : Origin (directory config) files 1 gratePid (.ready (.ofPid gratePid)) bytes
      board.history) :
    ((do
      settle cagePid gratePid
      recordExits journal cagePid gratePid
      report config cage grate cagePid gratePid marker) e).Meets (bulletin (directory config))
        (law (directory config) files) (Vouched (directory config) files) board := by
  refine Supervised.meets_bind ((meets_settle h hread horigin).mono ?_)
  rintro ⟨_ | _, settled⟩ now hnow
  · exact vouched_error _ _ _
  · have hrecords : (recordExits journal cagePid gratePid settled).Confined
        (Deed.SparesMarkers (directory config)) := confined_recordExits_of fun _ => trivial
    refine Supervised.meets_bind (hnow.meets hrecords ?_)
    rintro ⟨_ | _, recorded⟩ later - hlater
    · exact vouched_error _ _ _
    · exact meets_report hlater

/-- **A session** keeps the law at every point, and what it reports was read from a marker. -/
theorem meets_run (hprobe : probe.Reads (directory config))
    (h : Traced (directory config) files [] board) :
    (run config probe cage grate e).Meets (bulletin (directory config)) (law (directory config) files)
      (Vouched (directory config) files) board := by
  rw [run_eq]
  refine Supervised.meets_bind ((meets_prepare h).mono ?_)
  rintro ⟨_ | journal, e⟩ prepared hprepared
  · exact vouched_error _ _ _
  refine Supervised.meets_bind ((meets_starts hprepared fun _ => .inl hprepared.children).mono ?_)
  rintro ⟨_ | cagePid, e⟩ started hstarted
  · exact vouched_error _ _ _
  -- the cage arms
  refine Supervised.meets_bind (meets_orAbort ((meets_awaitArmed hstarted).mono ?_))
  rintro ⟨_ | _, e⟩ armed ⟨harmed, hmarker⟩
  · exact ⟨⟨_, harmed⟩, vouched_error _⟩
  obtain ⟨bytes, horigin⟩ := hmarker rfl
  -- the grate becomes ready
  refine Supervised.meets_bind (meets_orAbort ((meets_starts harmed fun _ =>
    .inr ⟨cagePid, bytes, harmed.children, horigin⟩).mono ?_))
  rintro ⟨_ | gratePid, e⟩ started hstarted
  · exact ⟨⟨_, hstarted⟩, vouched_error _⟩
  refine Supervised.meets_bind (meets_orAbort ((meets_awaitReady hstarted hprobe).mono ?_))
  rintro ⟨_ | marker, e⟩ ready ⟨hready, hword⟩
  · exact ⟨⟨_, hready⟩, vouched_error _⟩
  obtain ⟨bytes, hread, horigin⟩ := hword marker rfl
  exact meets_ends hready hread horigin

/-! ## Leftovers -/

/-- **A session acts on markers of its own children**, or on what was left under their numbers:
    whatever the files were at first and however far the session has come, everything that has happened
    was permitted when it did, and an outcome that it reports was read from a marker of the cage. -/
theorem acts_on_markers_by_origin (hprobe : probe.Reads (directory config))
    {rest : Program (Except ProcessError SessionReport × Executor)}
    (hreach : (run config probe cage grate e).Reaches (bulletin (directory config)) ⟨files, []⟩ rest
      board) :
    (∀ before event after, board.history = before ++ event :: after →
      Permitted (directory config) files before event) ∧
    ∀ reported e' outcome, rest = .pure (.ok reported, e') → reported.outcome = some outcome →
      Reported (directory config) files reported outcome board.history := by
  have hstart := Traced.default (directory config) files
  obtain ⟨hlaw, hrest⟩ := (meets_run hprobe hstart).reaches hstart.lawful hreach
  refine ⟨hlaw, ?_⟩
  rintro reported e' outcome rfl houtcome
  exact hrest reported outcome rfl houtcome

/-- **A session acts on its own children's markers** where nobody shares their numbers: the grate is
    started behind the armed marker that the cage has put, the cage is released behind the ready
    marker that the grate has put, and what is reported was read from the cage's own marker. -/
theorem acts_on_own_markers (hprobe : probe.Reads (directory config))
    {rest : Program (Except ProcessError SessionReport × Executor)}
    (hreach : (run config probe cage grate e).Reaches (bulletin (directory config)) ⟨files, []⟩ rest
      board)
    (halone : ∀ n pid, (childrenIn board.history)[n]? = some pid →
      Unshared (directory config) files n pid board.history) :
    (∀ before pid after, board.history = before ++ .started pid :: after →
      childrenIn before = [] ∨ ∃ cagePid bytes, childrenIn before = [cagePid] ∧
        PutByChild 0 cagePid (.armed (.ofPid cagePid)) bytes before) ∧
    (∀ before pid after, board.history = before ++ .signalled pid .release :: after →
      ∃ gratePid marker bytes, childrenIn before = [pid, gratePid] ∧
        decodeBytes ReadyMarker bytes = .ok marker ∧
        PutByChild 1 gratePid (.ready (.ofPid gratePid)) bytes before) ∧
    ∀ reported e' outcome, rest = .pure (.ok reported, e') → reported.outcome = some outcome →
      ∃ cagePid gratePid bytes, childrenIn board.history = [cagePid, gratePid] ∧
        decodeBytes CageOutcome bytes = .ok outcome ∧
        PutByChild 0 cagePid (.outcome (.ofPid cagePid)) bytes board.history := by
  have hstart := Traced.default (directory config) files
  obtain ⟨hlaw, hrest⟩ := (meets_run hprobe hstart).reaches hstart.lawful hreach
  -- the children of a time are those of the end, in the same places
  have hown {before : List Occurrence} {n : Nat} {pid : Pid} {name : MarkerName}
      {bytes : List UInt8} (hearlier : before <+: board.history)
      (hchild : (childrenIn before)[n]? = some pid) (hname : name.id = pid.toWord)
      (horigin : Origin (directory config) files n pid name bytes before) :
      PutByChild n pid name bytes before :=
    horigin.putByChild hearlier hname (halone n pid (getElem?_childrenIn_grown hearlier hchild))
  refine ⟨fun before pid after hhistory => ?_, fun before pid after hhistory => ?_, ?_⟩
  · obtain hfirst | ⟨cagePid, bytes, hchildren, horigin⟩ := hlaw before (.started pid) after hhistory
    · exact .inl hfirst
    · refine .inr ⟨cagePid, bytes, hchildren, hown ⟨_, hhistory.symm⟩ ?_ rfl horigin⟩
      rw [hchildren]
      rfl
  · obtain ⟨gratePid, marker, bytes, hchildren, hread, horigin⟩ :=
      hlaw before (.signalled pid .release) after hhistory rfl
    refine ⟨gratePid, marker, bytes, hchildren, hread, hown ⟨_, hhistory.symm⟩ ?_ rfl horigin⟩
    rw [hchildren]
    rfl
  · rintro reported e' outcome rfl houtcome
    obtain ⟨cagePid, gratePid, bytes, hchildren, -, -, hread, horigin⟩ := hrest reported outcome rfl
      houtcome
    refine ⟨cagePid, gratePid, bytes, hchildren, hread, hown (List.prefix_refl _) ?_ rfl horigin⟩
    rw [hchildren]
    rfl

/-! ### Children that write their markers, and children that find them -/

/-- What the markers of cage 7 and grate 8 say, when they saw nothing and registered nothing. -/
def plainBytes : MarkerName → List UInt8
  | .armed cage => Utf8.ofText (toString cage.raw)
  | .ready grate => Utf8.ofText (toJson (ReadyMarker.mk grate (.ofPid 7) [])).compact
  | .outcome cage => Utf8.ofText (toJson (CageOutcome.mk cage [])).compact

/-- A marker of a process is put, if processes write markers here at all. -/
def write (writes : Bool) (board : Board) (pid : Pid) (name : MarkerName) : Board :=
  if writes then board.putting (directory plainConfig) pid name (plainBytes name) else board

/-- A system on which process 7 is a cage and process 8 a grate.  Either the cage arms and says what it
    saw once it is released, and the grate says that it is ready; or neither says anything. -/
def attending (writes : Bool) : Respondent Board where
  answer board
    | .now => some (0, board)
    | .createFile _ => some (.ok ⟨3⟩, board)
    | .openAppending _ => some (.ok ⟨3⟩, board)
    | .write _ bytes => some (.ok bytes.length, board)
    | .close _ => some ((), board)
    | .makeDirectory _ => some (.ok (), board)
    | .pathExists path => some ((board.files path).isSome, board)
    | .readFile path => some (match board.files path with
        | some bytes => .ok bytes
        | none => .error (.os .enoent), board)
    | .kill pid signal => some (.ok (),
        let sent := board.after (.signalled pid signal)
        if signal = .release then write writes sent 7 (.outcome (.ofPid 7)) else sent)
    | .wait pid _ => some (.ok (.exited 0), board.after (.collected pid))
    | _ => none
  start board launch _ _ := some (if launch.program = .ofText "cage"
    then (.ok 7, write writes (board.after (.started 7)) 7 (.armed (.ofPid 7)))
    else (.ok 8, write writes (board.after (.started 8)) 8 (.ready (.ofPid 8))))

theorem passes_write {writes : Bool} {pid : Pid} (hname : name.id = pid.toWord) :
    Passes (directory plainConfig) board (write writes board pid name) := by
  unfold write
  split
  · exact .single (.puts hname)
  · exact .refl

theorem attending_within (writes : Bool) :
    (attending writes).system.Within (bulletin (directory plainConfig)) where
  answers {board request answer next} hanswer := by
    cases request
    case kill pid signal =>
      cases hanswer
      show Passes _ _ (if signal = .release then _ else _)
      split
      · exact passes_write rfl
      · exact .refl
    case readFile path =>
      cases hanswer
      refine ⟨fun bytes hbytes => ?_, .refl⟩
      cases hfile : board.files path <;> rw [hfile] at hbytes <;> cases hbytes
      rfl
    case pathExists path =>
      cases hanswer
      exact ⟨id, .refl⟩
    case createFile path =>
      cases hanswer
      exact fun _ => .refl
    case openAppending path =>
      cases hanswer
      exact fun _ => .refl
    all_goals cases hanswer
    all_goals exact .refl
  spawns hstart := by
    simp only [Respondent.system, attending, Option.some.injEq] at hstart
    split at hstart <;> cases hstart
    · exact passes_write rfl
    · exact passes_write rfl

/-- A session of the two. -/
def attended : Supervised SessionReport :=
  run plainConfig (.marker (directory plainConfig)) ⟨.ofText "cage", []⟩ ⟨.ofText "grate", []⟩

/-- When both write their markers, the session acts on these. -/
theorem acts_on_markers_of_writing_children :
    (Probe.marker (directory plainConfig)).Reads (directory plainConfig) ∧
    ∃ reported e final,
      (run plainConfig (.marker (directory plainConfig)) ⟨.ofText "cage", []⟩ ⟨.ofText "grate", []⟩
        default).Reaches (bulletin (directory plainConfig)) ⟨fun _ => none, []⟩
          (.pure (.ok reported, e)) final ∧
      reported.outcome = some ⟨.ofPid 7, []⟩ ∧
      (∀ before event after, final.history = before ++ event :: after →
        Permitted (directory plainConfig) (fun _ => none) before event) ∧
      Reported (directory plainConfig) (fun _ => none) reported ⟨.ofPid 7, []⟩ final.history := by
  have hprobe : (Probe.marker (directory plainConfig)).Reads (directory plainConfig) := .marker
  have hplay : ((attended default).play (attending true) 4 ⟨fun _ => none, []⟩).any (fun outcome =>
      match outcome.1.1 with
      | .ok reported => reported.outcome = some ⟨.ofPid 7, []⟩
      | .error _ => false) = true := by
    decide +kernel
  obtain ⟨⟨⟨result, e⟩, final⟩, hplay, hok⟩ := (Option.any_eq_true _ _).mp hplay
  cases result with
  | error cause => contradiction
  | ok reported =>
    have houtcome : reported.outcome = some ⟨.ofPid 7, []⟩ := of_decide_eq_true hok
    have hrun := (Program.runs_of_play hplay).within (attending_within true)
    obtain ⟨hlaw, hreported⟩ := acts_on_markers_by_origin hprobe hrun.reaches
    exact ⟨hprobe, reported, e, final, hrun.reaches, houtcome, hlaw,
      hreported reported e _ rfl houtcome⟩

/-- The markers that a cage 7 and a grate 8 of an earlier session have left. -/
def leftovers (path : Path) : Option (List UInt8) :=
  ([.armed (.ofPid 7), .ready (.ofPid 8), .outcome (.ofPid 7)].find? fun name =>
    (directory plainConfig).path name = path).map plainBytes

/-- **Leftovers release the cage**: neither child puts a marker, and still the grate is started, the
    cage is released, and what a cage of an earlier session saw is reported. -/
theorem leftovers_release_the_cage : ∃ reported e final,
    (run plainConfig (.marker (directory plainConfig)) ⟨.ofText "cage", []⟩ ⟨.ofText "grate", []⟩
      default).Runs (bulletin (directory plainConfig)) ⟨leftovers, []⟩ (.ok reported, e) final ∧
    final.history = [.started 7, .started 8, .signalled 7 .release, .collected 7,
      .signalled 8 .stopping, .collected 8] ∧
    reported.outcome = some ⟨.ofPid 7, []⟩ := by
  have hplay : ((attended default).play (attending false) 4 ⟨leftovers, []⟩).any (fun outcome =>
      match outcome.1.1 with
      | .ok reported => outcome.2.history = [.started 7, .started 8, .signalled 7 .release,
          .collected 7, .signalled 8 .stopping, .collected 8] &&
          reported.outcome = some ⟨.ofPid 7, []⟩
      | .error _ => false) = true := by
    decide +kernel
  obtain ⟨⟨⟨result, e⟩, final⟩, hplay, hok⟩ := (Option.any_eq_true _ _).mp hplay
  cases result with
  | error cause => contradiction
  | ok reported =>
    obtain ⟨hhistory, houtcome⟩ := (Bool.and_eq_true _ _).mp hok
    have hrun := (Program.runs_of_play hplay).within (attending_within false)
    exact ⟨reported, e, final, hrun, of_decide_eq_true hhistory, of_decide_eq_true houtcome⟩

end Session

end Interposition
