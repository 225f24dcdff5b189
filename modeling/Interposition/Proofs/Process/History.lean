/-
  What a process has asked for and been told, in order.

  The answers of an operating system leave no trace in a program's result.  What a loader has done
  to its children is therefore read off a history: the requests it made with their answers, and the
  children it started.

  1. **Histories** (`Event`, `OperatingSystem.recorded`): any operating system, with what was asked
     of it written down.  The answers are those it gives anyway.

  2. **Who lives** (`livingAfter`): a child does from its start until its parent is told of its end,
     which is by the status it ended with or by the news that there is no such child
     (`Termination.told?`).  A process number may be used again.
-/
import Mathlib.Data.List.Induction
import Interposition.Process.Executor
import Interposition.Proofs.Host.Confinement

namespace Interposition

/-! ## What a wait tells -/

/-- How a child ended, if the answer to a wait says so.  A child that is not there any more has been
    collected by somebody else. -/
def Termination.told? : Except Errno WaitStatus → Option Termination
  | .ok status => ofWaitStatus? status
  | .error cause => if cause = .echild then some vanished else none

/-- A status tells of no child that it has vanished. -/
theorem Termination.ne_vanished_of_ofWaitStatus? {status : WaitStatus} {t : Termination}
    (h : ofWaitStatus? status = some t) : t ≠ .vanished := by
  rintro rfl
  cases status <;> cases h

/-! ## Histories -/

/-- A request with its answer, or a start with what came of it. -/
inductive Event where
  | asked (request : Request) (answer : request.Answer)
  | started (launch : Launch) (answer : Except IoError Pid)

namespace Event

/-- The child that came into being. -/
def started? : Event → Option Pid
  | started _ (.ok pid) => some pid
  | _ => none

/-- The child whose end was told. -/
def ended? : Event → Option Pid
  | asked (.wait pid _) answer => (Termination.told? answer).map fun _ => pid
  | _ => none

/-- The process that was signalled, and how. -/
def sent? : Event → Option (Pid × Signal)
  | asked (.kill pid signal) _ => some (pid, signal)
  | _ => none

/-- Whether a child lives after an event. -/
def turns (event : Event) (pid : Pid) (living : Bool) : Bool :=
  if event.started? = some pid then true
  else if event.ended? = some pid then false
  else living

/-- Nobody came into being, and nobody's end was told. -/
def IsQuiet (event : Event) : Prop := event.started? = none ∧ event.ended? = none

theorem isQuiet_of_sparesProcesses {request : Request} (answer : request.Answer)
    (h : request.SparesProcesses) : (asked request answer).IsQuiet := by
  cases request <;> first | exact ⟨rfl, rfl⟩ | exact h.elim

theorem sent?_of_sparesProcesses {request : Request} (answer : request.Answer)
    (h : request.SparesProcesses) : (asked request answer).sent? = none := by
  cases request <;> first | rfl | exact h.elim

end Event

/-- The children that came into being, oldest first. -/
def startedIn (history : List Event) : List Pid := history.filterMap Event.started?

/-- Whether a child lives, as far as its parent has been told. -/
def livingAfter (history : List Event) (pid : Pid) : Bool :=
  history.foldl (fun living event => event.turns pid living) false

/-- A process was signalled. -/
def Signalled (pid : Pid) (signal : Signal) (history : List Event) : Prop :=
  ∃ event ∈ history, event.sent? = some (pid, signal)

section

variable {history more : List Event} {event : Event} {pid : Pid} {signal : Signal}

theorem livingAfter_append_singleton :
    livingAfter (history ++ [event]) pid = event.turns pid (livingAfter history pid) := by
  unfold livingAfter
  rw [List.foldl_append]
  rfl

theorem startedIn_append : startedIn (history ++ more) = startedIn history ++ startedIn more :=
  List.filterMap_append

/-- Who lives was started. -/
theorem mem_startedIn_of_livingAfter (h : livingAfter history pid = true) :
    pid ∈ startedIn history := by
  induction history using List.reverseRecOn with
  | nil => exact absurd h Bool.false_ne_true
  | append_singleton earlier event ih =>
    rw [livingAfter_append_singleton] at h
    rw [startedIn_append, List.mem_append]
    unfold Event.turns at h
    split at h
    · next hstarted =>
      exact .inr (List.mem_filterMap.mpr ⟨event, List.mem_singleton_self _, hstarted⟩)
    · split at h
      · contradiction
      · exact .inl (ih h)

theorem signalled_append : Signalled pid signal (history ++ more) ↔
    Signalled pid signal history ∨ Signalled pid signal more := by
  unfold Signalled
  simp only [List.mem_append, or_and_right, exists_or]

theorem not_signalled_nil : ¬Signalled pid signal [] := by
  rintro ⟨event, hevent, -⟩
  contradiction

theorem signalled_singleton : Signalled pid signal [event] ↔ event.sent? = some (pid, signal) := by
  unfold Signalled
  simp only [List.mem_singleton, exists_eq_left]

end

/-! ## Recording -/

variable {World : Type} {kernel : OperatingSystem World}

/-- An operating system, with what was asked of it written down. -/
def OperatingSystem.recorded (kernel : OperatingSystem World) :
    OperatingSystem (World × List Event) where
  answers now request answer next :=
    kernel.answers now.1 request answer next.1 ∧ next.2 = now.2 ++ [.asked request answer]
  spawns now launch hooked setup answer next :=
    kernel.spawns now.1 launch hooked setup answer next.1 ∧
      next.2 = now.2 ++ [.started launch answer]

/-- **Recording changes nothing**: a program can still come to all it could come to. -/
theorem OperatingSystem.runs_recorded {α : Type} {program : Program α} {world final : World} {a : α}
    (h : program.Runs kernel world a final) (history : List Event) :
    ∃ later, program.Runs kernel.recorded (world, history) a (final, later) := by
  induction program generalizing world final history with
  | pure value =>
    obtain ⟨rfl, rfl⟩ := h
    exact ⟨history, rfl, rfl⟩
  | ask request next ih =>
    obtain ⟨answer, between, hanswer, hrest⟩ := h
    obtain ⟨later, hlater⟩ := ih answer hrest (history ++ [.asked request answer])
    exact ⟨later, answer, (between, _), ⟨hanswer, rfl⟩, hlater⟩
  | spawn launch hooked setup next _ ih =>
    obtain ⟨answer, between, hanswer, hrest⟩ := h
    obtain ⟨later, hlater⟩ := ih answer hrest (history ++ [.started launch answer])
    exact ⟨later, answer, (between, _), ⟨hanswer, rfl⟩, hlater⟩
  | loop state body next ihbody ih =>
    obtain ⟨result, between, hloop, hrest⟩ := h
    have hrecorded : ∃ middle, Program.Iterates (fun state => (body state).Runs kernel.recorded)
        state (world, history) result (between, middle) := by
      clear hrest
      induction hloop generalizing history with
      | stop hstop =>
        obtain ⟨middle, hmiddle⟩ := ihbody _ hstop history
        exact ⟨middle, .stop hmiddle⟩
      | again hagain _ ihloop =>
        obtain ⟨middle, hmiddle⟩ := ihbody _ hagain history
        obtain ⟨later, hlater⟩ := ihloop middle
        exact ⟨later, .again hmiddle hlater⟩
    obtain ⟨middle, hmiddle⟩ := hrecorded
    obtain ⟨later, hlater⟩ := ih result hrest middle
    exact ⟨later, result, (between, middle), hmiddle, hlater⟩

/-- What a kind of deed keeps of a history, if it stays so with each event that such a deed adds. -/
theorem OperatingSystem.keeps_recorded {allowed : Deed → Prop} (good : List Event → Prop)
    (hasked : ∀ {history request} (answer : request.Answer), good history →
      allowed (.asks request) → good (history ++ [.asked request answer]))
    (hstarted : ∀ {history launch} (answer : Except IoError Pid), good history →
      allowed (.starts launch) → good (history ++ [.started launch answer])) :
    kernel.recorded.Keeps allowed fun now => good now.2 where
  answers h hdeed hanswer := by
    rw [hanswer.2]
    exact hasked _ h hdeed
  spawns h hdeed hanswer := by
    rw [hanswer.2]
    exact hstarted _ h hdeed

end Interposition
