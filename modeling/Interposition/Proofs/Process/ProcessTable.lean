/-
  The processes of a system, by their numbers.

  A process number is free again once somebody has collected the status of the process that had it,
  and the next process created may get it, whoever creates it.  So a number alone does not say which
  process is meant, and a signal sent to a number may reach a stranger.

  1. **Histories** (`Happening`): which processes the executor has spawned, which statuses it has
     collected, and whom its signals have reached.  From it is read who is still to be collected
     (`uncollected`), and whether every signal reached a child that was (`Rightful`).

  2. **The table** (`ProcessTable`, `Move`): who has which number.  At any time a stranger may be
     created under a free number or be freed by its own parent, and any process may end.

  3. **The system** (`ProcessTable.system`): what `kill`, `waitpid` and `fork` do to the table.  Only
     the executor waits for its children.  A wait either hands over the status of a child that has
     ended, and frees its number, or changes nothing.

  4. **Soundness** (`ProcessTable.Sound`): the children in the table are those not collected, and
     every status collected is how that child ended.  Every move keeps it, and every deed of the
     executor, as long as it is about one process (`Sound.kill`, `Sound.wait`, `Sound.spawn`).
-/
import Mathlib.Data.List.Infix
import Mathlib.Logic.Relation
import Interposition.Proofs.Process.History

namespace Interposition

/-! ## Histories -/

/-- A process: the number it has, and which of the processes it is that have had the number.  No two
    processes have one serial number. -/
structure Incarnation where
  pid : Pid
  serial : Nat
deriving DecidableEq

/-- What has come of the executor's deeds. -/
inductive Happening where
  | spawned (who : Incarnation)
  | collected (who : Incarnation) (status : WaitStatus)
  /-- A signal has reached a process. -/
  | delivered (signal : Signal) (who : Incarnation)
deriving DecidableEq

namespace Happening

/-- The child that came into being. -/
def spawned? : Happening → Option Incarnation
  | spawned who => some who
  | _ => none

/-- The status collected, if it is that of a given process. -/
def statusOf? (who : Incarnation) : Happening → Option WaitStatus
  | collected other status => if other = who then some status else none
  | _ => none

end Happening

/-- The children that were spawned, oldest first. -/
def spawnedIn (history : List Happening) : List Incarnation :=
  history.filterMap Happening.spawned?

/-- The latest child that was spawned under a number. -/
def latest? (history : List Happening) (pid : Pid) : Option Incarnation :=
  (spawnedIn history).reverse.find? fun who => who.pid = pid

/-- The status that was collected of a process. -/
def collected? (history : List Happening) (who : Incarnation) : Option WaitStatus :=
  history.findSome? (Happening.statusOf? who)

/-- The children whose status has not been collected, oldest first. -/
def uncollected (history : List Happening) : List Incarnation :=
  (spawnedIn history).filter fun who => (collected? history who).isNone

/-- **No stranger was signalled**: every signal reached a process that had been spawned under that
    number, and whose status had not been collected. -/
def Rightful (history : List Happening) : Prop :=
  ∀ before signal who after, history = before ++ .delivered signal who :: after →
    .spawned who ∈ before ∧ ∀ status, .collected who status ∉ before

section

variable {history later : List Happening} {event : Happening} {who other : Incarnation}
  {status : WaitStatus} {signal : Signal} {pid : Pid}

theorem mem_spawnedIn : who ∈ spawnedIn history ↔ .spawned who ∈ history := by
  unfold spawnedIn
  rw [List.mem_filterMap]
  constructor
  · rintro ⟨event, hevent, hwho⟩
    cases event <;> cases hwho
    exact hevent
  · exact fun h => ⟨_, h, rfl⟩

theorem collected?_eq_none_iff :
    collected? history who = none ↔ ∀ status, .collected who status ∉ history := by
  unfold collected?
  rw [List.findSome?_eq_none_iff]
  constructor
  · intro h status hmem
    simpa [Happening.statusOf?] using h _ hmem
  · intro h event hmem
    cases event with
    | collected other status =>
      have hne : other ≠ who := fun heq => h status (heq ▸ hmem)
      exact if_neg hne
    | _ => rfl

theorem mem_uncollected :
    who ∈ uncollected history ↔ who ∈ spawnedIn history ∧ collected? history who = none := by
  unfold uncollected
  rw [List.mem_filter, Option.isNone_iff_eq_none]

theorem of_latest? (h : latest? history pid = some who) : who.pid = pid ∧ who ∈ spawnedIn history :=
  ⟨by simpa using List.find?_some h, List.mem_reverse.mp (List.mem_of_find?_eq_some h)⟩

/-! ### One happening more -/

theorem spawnedIn_append : spawnedIn (history ++ later) = spawnedIn history ++ spawnedIn later :=
  List.filterMap_append

theorem collected?_append :
    collected? (history ++ later) who = (collected? history who).or (collected? later who) :=
  List.findSome?_append

/-- Only a child that is spawned becomes the latest. -/
theorem spawnedIn_snoc (h : event.spawned? = none) :
    spawnedIn (history ++ [event]) = spawnedIn history := by
  have hnobody : spawnedIn [event] = [] := List.filterMap_cons_none h
  rw [spawnedIn_append, hnobody, List.append_nil]

theorem latest?_snoc (h : event.spawned? = none) :
    latest? (history ++ [event]) pid = latest? history pid := by
  unfold latest?
  rw [spawnedIn_snoc h]

theorem latest?_append_of_unspawned (h : ∀ who ∈ spawnedIn later, who.pid ≠ pid) :
    latest? (history ++ later) pid = latest? history pid := by
  have hnone : (spawnedIn later).reverse.find? (fun who => who.pid = pid) = none := by
    simpa using h
  unfold latest?
  rw [spawnedIn_append, List.reverse_append, List.find?_append, hnone, Option.none_or]

theorem collected?_snoc :
    collected? (history ++ [event]) who = (collected? history who).or (event.statusOf? who) := by
  rw [collected?_append, collected?, collected?, List.findSome?_singleton]

theorem collected?_snoc_of_none (h : event.statusOf? who = none) :
    collected? (history ++ [event]) who = collected? history who := by
  rw [collected?_snoc, h, Option.or_none]

theorem spawnedIn_spawned : spawnedIn (history ++ [.spawned who]) = spawnedIn history ++ [who] :=
  spawnedIn_append

theorem latest?_spawned : latest? (history ++ [.spawned who]) pid =
    if who.pid = pid then some who else latest? history pid := by
  unfold latest?
  rw [spawnedIn_spawned, List.reverse_append, List.reverse_singleton, List.singleton_append,
    List.find?_cons]
  by_cases hpid : who.pid = pid <;> simp [hpid]

/-- A new child is to be collected as well. -/
theorem uncollected_spawned (h : collected? history who = none) :
    uncollected (history ++ [.spawned who]) = uncollected history ++ [who] := by
  have hsame (other : Incarnation) :
      collected? (history ++ [.spawned who]) other = collected? history other :=
    collected?_snoc_of_none rfl
  unfold uncollected
  simp only [hsame]
  rw [spawnedIn_spawned, List.filter_append, List.filter_singleton, h]
  rfl

/-- A child that is collected is not to be collected any more. -/
theorem uncollected_collected : uncollected (history ++ [.collected who status]) =
    (uncollected history).filter (· ≠ who) := by
  unfold uncollected
  rw [spawnedIn_snoc rfl, List.filter_filter]
  refine List.filter_congr fun other _ => ?_
  rw [collected?_snoc, Happening.statusOf?]
  by_cases hwho : who = other
  · simp [hwho]
  · simp [hwho, Ne.symm hwho]

/-- Signals have no part in who is to be collected. -/
theorem uncollected_delivered :
    uncollected (history ++ [.delivered signal who]) = uncollected history := by
  have hsame (other : Incarnation) :
      collected? (history ++ [.delivered signal who]) other = collected? history other :=
    collected?_snoc_of_none rfl
  unfold uncollected
  simp only [hsame]
  rw [spawnedIn_snoc rfl]

theorem rightful_nil : Rightful [] := by
  intro before signal who after h
  simp at h

/-- A signal is looked at when it is delivered, and never again. -/
theorem Rightful.snoc (h : Rightful history)
    (hevent : ∀ signal who, event = .delivered signal who → who ∈ uncollected history) :
    Rightful (history ++ [event]) := by
  intro before signal who after heq
  obtain rfl | ⟨rest, last, rfl⟩ := after.eq_nil_or_concat'
  · -- it is the last happening
    obtain ⟨rfl, hlast⟩ := List.append_inj' heq rfl
    obtain ⟨hspawned, hnone⟩ := mem_uncollected.mp (hevent signal who (List.singleton_inj.mp hlast))
    exact ⟨mem_spawnedIn.mp hspawned, collected?_eq_none_iff.mp hnone⟩
  · rw [← List.cons_append, ← List.append_assoc] at heq
    exact h before signal who rest (List.append_inj' heq rfl).1

end

/-! ## The table -/

/-- Who has a process number: which process, and whether it is a child of the executor's. -/
structure Occupant where
  serial : Nat
  isChild : Bool

/-- The processes of a system. -/
structure ProcessTable where
  /-- Who has a number; nobody if it is free. -/
  occupant : Pid → Option Occupant
  /-- How a process has ended, if it has, by its serial number. -/
  ends : Nat → Option WaitStatus
  /-- How many processes there have been. -/
  serials : Nat
  history : List Happening

namespace ProcessTable

variable {t t' : ProcessTable} {pid : Pid} {who : Incarnation} {status : WaitStatus}
  {signal : Signal}

/-- The table with a new process under a number. -/
def enter (t : ProcessTable) (pid : Pid) (isChild : Bool) : ProcessTable :=
  { t with
    occupant := Function.update t.occupant pid (some ⟨t.serials, isChild⟩)
    serials := t.serials + 1 }

/-- The table with a number free again. -/
def free (t : ProcessTable) (pid : Pid) : ProcessTable :=
  { t with occupant := Function.update t.occupant pid none }

/-- The table with one more happening. -/
def note (t : ProcessTable) (event : Happening) : ProcessTable :=
  { t with history := t.history ++ [event] }

/-- A child has a number, and is the process meant by it. -/
def HasChild (t : ProcessTable) (who : Incarnation) : Prop :=
  t.occupant who.pid = some ⟨who.serial, true⟩

/-- What goes on without the executor. -/
inductive Move : ProcessTable → ProcessTable → Prop where
  /-- A stranger is created, under any number that is free. -/
  | created {t : ProcessTable} {pid : Pid} (hpid : 0 < pid) (hfree : t.occupant pid = none) :
      Move t (t.enter pid false)
  /-- A process ends, child or stranger, in any way. -/
  | ended {t : ProcessTable} {pid : Pid} {occupant : Occupant} {status : WaitStatus}
      (hpid : t.occupant pid = some occupant) (hruns : t.ends occupant.serial = none)
      (hstatus : (Termination.ofWaitStatus? status).isSome) :
      Move t { t with ends := Function.update t.ends occupant.serial (some status) }
  /-- A stranger that has ended is collected by its own parent. -/
  | freed {t : ProcessTable} {pid : Pid} {occupant : Occupant}
      (hpid : t.occupant pid = some occupant) (hstranger : occupant.isChild = false)
      (hended : (t.ends occupant.serial).isSome) : Move t (t.free pid)

/-! ## The system -/

/-- What comes of sending a signal. -/
inductive Kills (t : ProcessTable) (pid : Pid) (signal : Signal) :
    Except Errno Unit → ProcessTable → Prop where
  /-- It reaches whoever has the number, a process that has ended and was not collected included. -/
  | delivered {occupant : Occupant} (hpid : 0 < pid) (h : t.occupant pid = some occupant) :
      Kills t pid signal (.ok ()) (t.note (.delivered signal ⟨pid, occupant.serial⟩))
  /-- A number that is not positive means a group, and the signal reaches anybody. -/
  | group (hpid : ¬0 < pid) (members : List Incarnation) :
      Kills t pid signal (.ok ())
        { t with history := t.history ++ members.map (.delivered signal) }
  | refused (cause : Errno) : Kills t pid signal (.error cause) t

/-- What comes of waiting for a child. -/
inductive Waits (t : ProcessTable) (pid : Pid) (block : Bool) :
    Except Errno WaitStatus → ProcessTable → Prop where
  /-- The child has ended, and its number is free.  A number that is not positive means any child. -/
  | collected {who : Incarnation} {status : WaitStatus} (hpid : 0 < pid → who.pid = pid)
      (hchild : t.HasChild who) (hended : t.ends who.serial = some status) :
      Waits t pid block (.ok status) ((t.free who.pid).note (.collected who status))
  /-- There is nothing to tell of an end; that the child is alive is told to those who do not wait
      for its end, while it is. -/
  | untold {status : WaitStatus} (hstatus : Termination.ofWaitStatus? status = none)
      (halive : status = .alive → block = false ∧
        ∃ who, (0 < pid → who.pid = pid) ∧ t.HasChild who ∧ t.ends who.serial = none) :
      Waits t pid block (.ok status) t
  | interrupted : Waits t pid block (.error .eintr) t
  /-- There is no such child. -/
  | childless (h : ∀ who, (0 < pid → who.pid = pid) → ¬t.HasChild who) :
      Waits t pid block (.error .echild) t

/-- A system with these processes.  Whatever the executor asks of it, other things may have happened
    before. -/
def system : OperatingSystem ProcessTable where
  answers t request answer next := ∃ now, Relation.ReflTransGen Move t now ∧
    match request, answer with
    | .kill pid signal, answer => now.Kills pid signal answer next
    | .wait pid block, answer => now.Waits pid block answer next
    | _, _ => next = now
  spawns t _ _ _ answer next := ∃ now, Relation.ReflTransGen Move t now ∧
    match answer with
    | .ok pid => 0 < pid ∧ now.occupant pid = none ∧
      next = (now.enter pid true).note (.spawned ⟨pid, now.serials⟩)
    | .error _ => next = now

/-! ## Soundness -/

/-- No child has been spawned yet. -/
structure Fresh (t : ProcessTable) : Prop where
  history : t.history = []
  strangers : ∀ pid occupant, t.occupant pid = some occupant →
    occupant.isChild = false ∧ occupant.serial < t.serials
  ends : ∀ serial status, t.ends serial = some status →
    serial < t.serials ∧ (Termination.ofWaitStatus? status).isSome

/-- The table goes with the history. -/
structure Sound (t : ProcessTable) : Prop where
  children : ∀ who, who ∈ uncollected t.history ↔ t.HasChild who
  latest : ∀ who ∈ uncollected t.history, latest? t.history who.pid = some who
  spawned : ∀ who ∈ spawnedIn t.history, 0 < who.pid ∧ who.serial < t.serials
  collected : ∀ who status, collected? t.history who = some status →
    who.serial < t.serials ∧ t.ends who.serial = some status
  ends : ∀ serial status, t.ends serial = some status → (Termination.ofWaitStatus? status).isSome

theorem Fresh.sound (h : t.Fresh) : t.Sound where
  children who := by
    rw [h.history]
    refine iff_of_false nofun fun hchild => ?_
    cases (h.strangers _ _ hchild).1
  latest := by
    rw [h.history]
    nofun
  spawned := by
    rw [h.history]
    nofun
  collected := by
    rw [h.history]
    nofun
  ends serial status hends := (h.ends serial status hends).2

/-- Nobody is there. -/
def empty : ProcessTable := ⟨fun _ => none, fun _ => none, 0, []⟩

theorem fresh_empty : empty.Fresh := ⟨rfl, nofun, nofun⟩

/-! ### Who has a number -/

/-- A number that was free is the new process's. -/
theorem hasChild_enter {isChild : Bool} (hfree : t.occupant pid = none) :
    (t.enter pid isChild).HasChild who ↔
      t.HasChild who ∨ who = ⟨pid, t.serials⟩ ∧ isChild = true := by
  obtain ⟨number, serial⟩ := who
  unfold HasChild enter
  by_cases hpid : number = pid
  · subst hpid
    simp [hfree, eq_comm]
  · simp [hpid]

theorem hasChild_free : (t.free pid).HasChild who ↔ who.pid ≠ pid ∧ t.HasChild who := by
  unfold HasChild free
  by_cases hpid : who.pid = pid
  · simp [hpid]
  · simp [hpid]

/-- One number, one process. -/
theorem HasChild.eq {other : Incarnation} (h : t.HasChild who) (hother : t.HasChild other)
    (hpid : who.pid = other.pid) : who = other := by
  obtain ⟨pid, serial⟩ := who
  obtain ⟨_, serial'⟩ := other
  subst hpid
  obtain ⟨rfl⟩ : serial = serial' :=
    congrArg Occupant.serial (Option.some.inj (h.symm.trans hother))
  rfl

/-- A number that is free is nobody's. -/
theorem HasChild.ne_of_free (h : t.HasChild who) (hfree : t.occupant pid = none) :
    who.pid ≠ pid := by
  rintro rfl
  rw [HasChild, hfree] at h
  cases h

/-- Nobody has been collected whose serial number was not given yet. -/
theorem Sound.collected?_eq_none (h : t.Sound) (hserial : t.serials ≤ who.serial) :
    collected? t.history who = none := by
  cases hwho : collected? t.history who with
  | none => rfl
  | some status => exact absurd (h.collected who status hwho).1 (Nat.not_lt.mpr hserial)

/-! ### Moves -/

/-- Nothing is written down of what goes on without the executor. -/
theorem Move.history_eq (h : Move t t') : t'.history = t.history := by
  cases h <;> rfl

/-- **A move** does not touch the executor's children, but for their ends. -/
theorem Sound.move (h : t.Sound) (hmove : Move t t') : t'.Sound := by
  cases hmove with
  | created hpid hfree =>
    refine ⟨fun who => ?_, h.latest, fun who hwho => ?_, fun who status hwho => ?_, h.ends⟩
    · rw [hasChild_enter hfree, or_iff_left fun hnew => Bool.false_ne_true hnew.2]
      exact h.children who
    · obtain ⟨hpositive, hserial⟩ := h.spawned who hwho
      exact ⟨hpositive, Nat.lt_succ_of_lt hserial⟩
    · obtain ⟨hserial, hends⟩ := h.collected who status hwho
      exact ⟨Nat.lt_succ_of_lt hserial, hends⟩
  | @ended _ occupant status hpid hruns hstatus =>
    refine ⟨h.children, h.latest, h.spawned, fun who told hwho => ?_, fun serial told htold => ?_⟩
    · -- whoever has been collected had ended, and so has not ended just now
      obtain ⟨hserial, hends⟩ := h.collected who told hwho
      have hne : who.serial ≠ occupant.serial := by
        intro heq
        rw [heq, hruns] at hends
        cases hends
      exact ⟨hserial, (Function.update_of_ne hne _ _).trans hends⟩
    · by_cases heq : serial = occupant.serial
      · subst heq
        obtain rfl : status = told := by simpa using htold
        exact hstatus
      · exact h.ends serial told (by simpa [heq] using htold)
  | @freed pid occupant hpid hstranger hended =>
    refine ⟨fun who => ?_, h.latest, h.spawned, h.collected, h.ends⟩
    refine (h.children who).trans (Iff.trans ?_ hasChild_free.symm)
    rw [iff_and_self]
    rintro hchild rfl
    have hsame : occupant = ⟨who.serial, true⟩ := Option.some.inj (hpid.symm.trans hchild)
    rw [hsame] at hstranger
    cases hstranger

/-- **Any moves** do no more. -/
theorem Sound.moves (h : t.Sound) (hmoves : Relation.ReflTransGen Move t t') :
    t'.Sound ∧ t'.history = t.history := by
  induction hmoves with
  | refl => exact ⟨h, rfl⟩
  | tail _ hmove ih => exact ⟨ih.1.move hmove, hmove.history_eq.trans ih.2⟩

/-! ### Deeds -/

theorem Sound.deliver (h : t.Sound) : (t.note (.delivered signal who)).Sound := by
  have hsame : uncollected (t.note (.delivered signal who)).history = uncollected t.history :=
    uncollected_delivered
  refine ⟨fun other => ?_, fun other hother => ?_, fun other hother => ?_,
    fun other status hother => ?_, h.ends⟩
  · rw [hsame]
    exact h.children other
  · rw [hsame] at hother
    exact (latest?_snoc rfl).trans (h.latest other hother)
  · replace hother : other ∈ spawnedIn (t.history ++ [.delivered signal who]) := hother
    rw [spawnedIn_snoc rfl] at hother
    exact h.spawned other hother
  · exact h.collected other status ((collected?_snoc_of_none rfl).symm.trans hother)

theorem Sound.collect (h : t.Sound) (hchild : t.HasChild who)
    (hends : t.ends who.serial = some status) :
    ((t.free who.pid).note (.collected who status)).Sound := by
  have hwho : who ∈ uncollected t.history := (h.children who).mpr hchild
  have hrest : uncollected ((t.free who.pid).note (.collected who status)).history =
      (uncollected t.history).filter (· ≠ who) := uncollected_collected
  refine ⟨fun other => ?_, fun other hother => ?_, fun other hother => ?_, fun other told hother => ?_,
    h.ends⟩
  · rw [hrest, List.mem_filter, h.children other, decide_eq_true_iff]
    refine Iff.trans ?_ hasChild_free.symm
    constructor
    · exact fun ⟨hother, hne⟩ => ⟨fun hpid => hne (hother.eq hchild hpid), hother⟩
    · exact fun ⟨hpid, hother⟩ => ⟨hother, fun heq => hpid (congrArg Incarnation.pid heq)⟩
  · rw [hrest] at hother
    exact (latest?_snoc rfl).trans (h.latest other (List.mem_filter.mp hother).1)
  · replace hother : other ∈ spawnedIn (t.history ++ [.collected who status]) := hother
    rw [spawnedIn_snoc rfl] at hother
    exact h.spawned other hother
  · obtain hother | ⟨-, hother⟩ := Option.or_eq_some_iff.mp (collected?_snoc.symm.trans hother)
    · exact h.collected other told hother
    · obtain ⟨rfl, htold⟩ := Option.ite_none_right_eq_some.mp hother
      cases htold
      exact ⟨(h.spawned who (mem_uncollected.mp hwho).1).2, hends⟩

theorem Sound.enter (h : t.Sound) (hpid : 0 < pid) (hfree : t.occupant pid = none) :
    ((t.enter pid true).note (.spawned ⟨pid, t.serials⟩)).Sound := by
  let who : Incarnation := ⟨pid, t.serials⟩
  have hrest : uncollected ((t.enter pid true).note (.spawned who)).history =
      uncollected t.history ++ [who] := uncollected_spawned (h.collected?_eq_none le_rfl)
  refine ⟨fun other => ?_, fun other hother => ?_, fun other hother => ?_, fun other told hother => ?_,
    h.ends⟩
  · rw [hrest, List.mem_append, List.mem_singleton, h.children other]
    refine Iff.trans ?_ (hasChild_enter hfree).symm
    rw [and_iff_left rfl]
  · rw [hrest] at hother
    refine latest?_spawned.trans ?_
    obtain hother | hother := List.mem_append.mp hother
    · -- the number was free, so whoever is to be collected has another
      rw [if_neg (((h.children other).mp hother).ne_of_free hfree).symm]
      exact h.latest other hother
    · rw [List.mem_singleton.mp hother, if_pos rfl]
  · replace hother : other ∈ spawnedIn t.history ++ [who] := spawnedIn_spawned ▸ hother
    obtain hother | hother := List.mem_append.mp hother
    · obtain ⟨hpositive, hserial⟩ := h.spawned other hother
      exact ⟨hpositive, Nat.lt_succ_of_lt hserial⟩
    · rw [List.mem_singleton.mp hother]
      exact ⟨hpid, Nat.lt_succ_self _⟩
  · obtain ⟨hserial, hends⟩ := h.collected other told ((collected?_snoc_of_none rfl).symm.trans hother)
    exact ⟨Nat.lt_succ_of_lt hserial, hends⟩

/-- **A signal** to a number reaches the child that has it, if there is one. -/
theorem Sound.kill (h : t.Sound) (hpid : 0 < pid) {answer : Except Errno Unit}
    (hanswer : system.answers t (.kill pid signal) answer t') :
    t'.Sound ∧ (t'.history = t.history ∨
      ∃ who, t'.history = t.history ++ [.delivered signal who] ∧
        ∀ child ∈ uncollected t.history, child.pid = pid → child = who) := by
  obtain ⟨now, hmoves, hkills⟩ := hanswer
  obtain ⟨hnow, hhistory⟩ := h.moves hmoves
  rw [← hhistory]
  cases hkills with
  | @delivered occupant _ hoccupant =>
    refine ⟨hnow.deliver, .inr ⟨_, rfl, ?_⟩⟩
    rintro child hchild rfl
    obtain rfl : occupant = ⟨child.serial, true⟩ :=
      Option.some.inj (hoccupant.symm.trans ((hnow.children child).mp hchild))
    rfl
  | group hgroup _ => exact absurd hpid hgroup
  | refused _ => exact ⟨hnow, .inl rfl⟩

/-- What a wait for the child that has a number comes to. -/
inductive Waited (history : List Happening) (pid : Pid) :
    Except Errno WaitStatus → List Happening → Prop where
  | collected {who : Incarnation} {status : WaitStatus} {ending : Termination}
      (hwho : who ∈ uncollected history) (hpid : who.pid = pid)
      (hending : Termination.ofWaitStatus? status = some ending) :
      Waited history pid (.ok status) (history ++ [.collected who status])
  | untold {status : WaitStatus} (hstatus : Termination.ofWaitStatus? status = none) :
      Waited history pid (.ok status) history
  | interrupted : Waited history pid (.error .eintr) history
  | childless (h : ∀ who ∈ uncollected history, who.pid ≠ pid) :
      Waited history pid (.error .echild) history

/-- **A wait** for the child that has a number collects it, or tells nothing; if there is no such
    child, that is told. -/
theorem Sound.wait (h : t.Sound) (hpid : 0 < pid) {block : Bool} {answer : Except Errno WaitStatus}
    (hanswer : system.answers t (.wait pid block) answer t') :
    t'.Sound ∧ Waited t.history pid answer t'.history := by
  obtain ⟨now, hmoves, hwaits⟩ := hanswer
  obtain ⟨hnow, hhistory⟩ := h.moves hmoves
  rw [← hhistory]
  cases hwaits with
  | collected hwho hchild hends =>
    obtain ⟨ending, hending⟩ := Option.isSome_iff_exists.mp (hnow.ends _ _ hends)
    exact ⟨hnow.collect hchild hends, .collected ((hnow.children _).mpr hchild) (hwho hpid) hending⟩
  | untold hstatus _ => exact ⟨hnow, .untold hstatus⟩
  | interrupted => exact ⟨hnow, .interrupted⟩
  | childless hnobody =>
    refine ⟨hnow, .childless fun who hwho heq => ?_⟩
    exact hnobody who (fun _ => heq) ((hnow.children who).mp hwho)

/-- **A start** gives the child a number that no child has that is still to be collected. -/
theorem Sound.spawn (h : t.Sound) {launch : Launch} {hooked : Bool}
    {setup : Program (Option Errno)} {answer : Except IoError Pid}
    (hanswer : system.spawns t launch hooked setup answer t') :
    t'.Sound ∧ match answer with
      | .ok pid => ∃ serial, t'.history = t.history ++ [.spawned ⟨pid, serial⟩] ∧
          (∀ who ∈ uncollected t.history, who.pid ≠ pid) ∧
          collected? t.history ⟨pid, serial⟩ = none
      | .error _ => t'.history = t.history := by
  obtain ⟨now, hmoves, hanswer⟩ := hanswer
  obtain ⟨hnow, hhistory⟩ := h.moves hmoves
  rw [← hhistory]
  cases answer with
  | error cause =>
    obtain rfl := hanswer
    exact ⟨hnow, rfl⟩
  | ok pid =>
    obtain ⟨hpid, hfree, rfl⟩ := hanswer
    refine ⟨hnow.enter hpid hfree, now.serials, rfl, fun who hwho => ?_,
      hnow.collected?_eq_none le_rfl⟩
    exact ((hnow.children who).mp hwho).ne_of_free hfree

end ProcessTable

end Interposition
