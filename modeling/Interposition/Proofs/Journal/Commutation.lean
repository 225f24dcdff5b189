/-
  Journal records that may change places.

  Processes append to one journal at the same time, and nothing decides whose record comes first.
  Often it makes no difference, and this file says when: two records are independent when neither
  looks at what the other one changes.

  1. **Exits** (`rebind_of_exit?`): an exit drops bindings, and which ones it drops is not a matter
     of who has exited; it drops only bindings that name the process.

  2. **One exchange** (`Independent.apply`): two independent records, one after the other.  A
     registration that passes over an exit is refused or granted as before, because the process is
     neither its target nor its grate, and for the same reason the exit does not drop what it binds.
     What the registration replaces may go with the exit, or with the registration: it is gone.

  3. **Exchanges in a journal** (`Independent.replay`): what stands behind the two records meets
     tables that look the same, and keeps them so.
-/
import Interposition.Proofs.Journal.Views

namespace Interposition

namespace JournalRecord

variable {a b r : JournalRecord}

/-! ## Independence -/

/-- Neither of two records looks at what the other one changes. -/
inductive Independent : JournalRecord → JournalRecord → Prop where
  /-- Registrations and revocations of different pairs. -/
  | pairs {a b : JournalRecord} {p q : CageId × SyscallNumber} (ha : a.pair? = some p)
      (hb : b.pair? = some q) (h : p ≠ q) : Independent a b
  /-- Any two exits. -/
  | exits {a b : JournalRecord} {p q : CageId} (ha : a.exit? = some p) (hb : b.exit? = some q) :
      Independent a b
  /-- A revocation and any exit. -/
  | revokeExit {cage : CageId} {syscall : SyscallNumber} {b : JournalRecord} {p : CageId}
      (hb : b.exit? = some p) : Independent (revoke cage syscall) b
  /-- A registration and the exit of somebody it does not name. -/
  | registerExit {r : Registration} {b : JournalRecord} {p : CageId} (hb : b.exit? = some p)
      (target : p ≠ r.targetCage) (grate : p ≠ r.grate.asCage) : Independent (register r) b
  | symm {a b : JournalRecord} (h : Independent a b) : Independent b a

/-! ## What exits leave alone -/

/-- An exit drops bindings, whoever else has exited, and none that does not name the process. -/
theorem rebind_of_exit? {process : CageId} (h : r.exit? = some process) (cage : CageId)
    (syscall : SyscallNumber) :
    ∃ keep : Binding → Bool,
      (∀ exited bound, r.rebind exited cage syscall bound = bound.filter keep) ∧
      ∀ binding, process ≠ cage → process ≠ binding.grate.asCage → keep binding = true := by
  cases r with
  | register r => contradiction
  | revoke cage syscall => contradiction
  | grateExit grate =>
    refine ⟨_, fun _ _ => rfl, fun binding _ hgrate => decide_eq_true ?_⟩
    rintro rfl
    exact hgrate (Option.some.inj h).symm
  | cageExit gone =>
    refine ⟨_, fun _ _ => rfl, fun _ hcage _ => decide_eq_true ?_⟩
    rintro rfl
    exact hcage (Option.some.inj h).symm

namespace Independent

/-! ## One exchange -/

/-- Exits add up, in whatever order. -/
theorem exitedAfter_comm (a b : JournalRecord) (exited : CageId → Bool) :
    b.exitedAfter (a.exitedAfter exited) = a.exitedAfter (b.exitedAfter exited) := by
  funext process
  unfold exitedAfter
  rw [Bool.or_assoc, Bool.or_assoc, Bool.or_comm (decide _)]

/-- **The binding of a pair** after two independent records does not tell their order. -/
theorem rebind_comm (h : Independent a b) (exited : CageId → Bool) (cage : CageId)
    (syscall : SyscallNumber) (bound : Option Binding) :
    b.rebind (a.exitedAfter exited) cage syscall (a.rebind exited cage syscall bound) =
      a.rebind (b.exitedAfter exited) cage syscall (b.rebind exited cage syscall bound) := by
  induction h with
  | @pairs a b p q ha hb hne =>
    rw [exitedAfter_of_pair? ha, exitedAfter_of_pair? hb]
    by_cases hp : p = (cage, syscall)
    · have hq : q ≠ (cage, syscall) := fun hq => hne (hp.trans hq.symm)
      rw [rebind_of_pair? hb hq, rebind_of_pair? hb hq]
    · rw [rebind_of_pair? ha hp, rebind_of_pair? ha hp]
  | exits ha hb =>
    obtain ⟨keep, hkeep, -⟩ := rebind_of_exit? ha cage syscall
    obtain ⟨keep', hkeep', -⟩ := rebind_of_exit? hb cage syscall
    rw [hkeep, hkeep, hkeep', hkeep']
    cases bound with
    | none => rfl
    | some binding =>
      cases h : keep binding <;> cases h' : keep' binding <;> simp [Option.filter, h, h']
  | @revokeExit cage' syscall' b p hb =>
    obtain ⟨keep, hkeep, -⟩ := rebind_of_exit? hb cage syscall
    rw [hkeep, hkeep]
    exact apply_ite (Option.filter keep) _ none bound
  | @registerExit r b p hb target grate =>
    obtain ⟨keep, hkeep, hnamed⟩ := rebind_of_exit? hb cage syscall
    rw [hkeep, hkeep]
    -- the exit is no reason to refuse the registration, and does not drop what it binds
    have hlives (process : CageId) (hne : p ≠ process) :
        b.exitedAfter exited process = exited process := by
      unfold exitedAfter
      rw [hb, decide_eq_false (fun hsame => hne (Option.some.inj hsame)), Bool.or_false]
    simp only [rebind, hlives _ target, hlives _ grate]
    split
    case isTrue hgranted =>
      obtain ⟨rfl, -⟩ := Registration.isFor_iff.mp hgranted.1
      rw [Option.filter_some, if_pos (hnamed r.binding target grate)]
    case isFalse => rfl
  | symm _ ih => exact ih.symm

/-- **One exchange**: two independent records, in either order. -/
theorem apply (h : Independent a b) (table : InterceptionTable) (cage : CageId) :
    InterceptionTable.SameFor cage (b.apply (a.apply table)) (a.apply (b.apply table)) where
  lookup syscall := by
    simp only [lookup_apply, hasExited_apply]
    exact h.rebind_comm table.hasExited cage syscall (table.lookup cage syscall)
  hasExited process := by
    simp only [hasExited_apply]
    rw [exitedAfter_comm]

/-! ## Exchanges in a journal -/

/-- **An exchange in a journal** cannot be seen in the table. -/
theorem replay (h : Independent a b) (before after : List JournalRecord)
    (table : InterceptionTable) (cage : CageId) :
    InterceptionTable.SameFor cage (JournalRecord.replay (before ++ [a, b] ++ after) table)
      (JournalRecord.replay (before ++ [b, a] ++ after) table) := by
  rw [replay_append, replay_append, replay_append, replay_append]
  exact (h.apply (JournalRecord.replay before table) cage).replay after

end Independent

/-- **Independent records commute.**  Two journals that differ in the order of two independent
    records next to each other, whatever stands before and behind them, are replayed into tables in
    which nothing has happened: this gives two tables with the same registrations in the same order,
    in which every pair has the same binding and the same processes have exited. -/
theorem independent_records_commute (h : Independent a b) (before after : List JournalRecord)
    {contents exchanged : JournalContents} (hcontents : contents.Holds (before ++ [a, b] ++ after))
    (hexchanged : exchanged.Holds (before ++ [b, a] ++ after)) (writer writer' : JournalWriter)
    (native : Native) :
    ∃ count table table',
      Journal.Rebuilds writer native contents count table ∧
      Journal.Rebuilds writer' native exchanged count table' ∧
      table.registrations = table'.registrations ∧
      (∀ cage syscall, table.lookup cage syscall = table'.lookup cage syscall) ∧
      ∀ process, table.hasExited process = table'.hasExited process := by
  have hsame (cage : CageId) := h.replay before after (.new native) cage
  have hcount : (before ++ [b, a] ++ after).length = (before ++ [a, b] ++ after).length := by
    rw [List.length_append, List.length_append, List.length_append, List.length_append]
    rfl
  have hrebuilds := hexchanged.rebuilds writer' native
  rw [hcount] at hrebuilds
  refine ⟨_, _, _, hcontents.rebuilds writer native, hrebuilds, ?_, ?_, ?_⟩
  · exact congrArg Bindings.entries (InterceptionTable.SameFor.bindings_eq hsame)
  · exact fun cage => (hsame cage).lookup
  · exact (hsame ⟨0⟩).hasExited

/-- A registration for another grate and the exit of the grate whose binding it replaces: either way
    the pair is bound to the other grate. -/
theorem independent_records_commute_replaced :
    let writer : JournalWriter := ⟨⟨3⟩, .ofText "journal"⟩
    let first : JournalRecord := .register ⟨⟨5⟩, ⟨107⟩, ⟨1⟩, ⟨2⟩⟩
    let second : JournalRecord := .register ⟨⟨5⟩, ⟨107⟩, ⟨0⟩, ⟨9⟩⟩
    let exit : JournalRecord := .grateExit ⟨2⟩
    Independent second exit ∧
    ∃ count table table',
      Journal.Rebuilds writer Native.unsupported
        (some ([first, second, exit].flatMap encode)) count table ∧
      Journal.Rebuilds writer Native.unsupported
        (some ([first, exit, second].flatMap encode)) count table' ∧
      table.registrations = table'.registrations ∧
      table.lookup ⟨5⟩ ⟨107⟩ = table'.lookup ⟨5⟩ ⟨107⟩ := by
  intro writer first second exit
  have h : Independent second exit := .registerExit rfl (by decide) (by decide)
  obtain ⟨count, table, table', hrebuilds, hrebuilds', hregistrations, hlookup, -⟩ :=
    independent_records_commute h [first] [] (JournalContents.holds_flatMap_encode _)
      (JournalContents.holds_flatMap_encode _) writer writer Native.unsupported
  exact ⟨h, count, table, table', hrebuilds, hrebuilds', hregistrations, hlookup _ _⟩

end JournalRecord

end Interposition
