/-
  What a journal record does to a table, seen from outside.

  Nobody asks a table for its list of bindings or for the order in which processes have exited.
  What is asked is `lookup` and `hasExited`, and a record acts on these two functions by itself:
  what it makes of the binding of a pair depends on that binding and on who has exited, and on
  nothing else.

  1. **The action** (`lookup_apply`, `hasExited_apply`): one equation for each question, with
     `rebind` for the bindings and `exitedAfter` for the exits.  A registration or a revocation
     leaves every pair but its own alone, and nobody exits by it (`rebind_of_pair?`,
     `exitedAfter_of_pair?`).

  2. **Tables that look the same to a cage** (`SameFor`): the same bindings of this cage, whatever
     the others are bound to, and the same exits.  Since no record looks at other pairs, records
     keep such tables the same (`SameFor.apply`, `SameFor.replay`).

  3. **Files of given records** (`JournalContents.Holds`): replaying one is replaying its records.
-/
import Interposition.Proofs.Journal.Agreement

namespace Interposition

namespace JournalRecord

variable {r : JournalRecord} {exited : CageId → Bool} {cage : CageId} {syscall : SyscallNumber}

/-! ## The action of a record -/

/-- The pair that a record binds or sets free, if it is about one. -/
def pair? : JournalRecord → Option (CageId × SyscallNumber)
  | register r => some (r.targetCage, r.syscall)
  | revoke cage syscall => some (cage, syscall)
  | _ => none

/-- The process whose exit a record reports, if it reports one. -/
def exit? : JournalRecord → Option CageId
  | grateExit grate => some grate.asCage
  | cageExit cage => some cage
  | _ => none

/-- Who has exited after a record, given who had before. -/
def exitedAfter (r : JournalRecord) (exited : CageId → Bool) (process : CageId) : Bool :=
  exited process || decide (r.exit? = some process)

/-- What a record makes of the binding of a pair, given who has exited. -/
def rebind (r : JournalRecord) (exited : CageId → Bool) (cage : CageId) (syscall : SyscallNumber)
    (bound : Option Binding) : Option Binding :=
  match r with
  | register r =>
    if r.isFor cage syscall = true ∧ r.WellFormed ∧ exited r.targetCage = false ∧
      exited r.grate.asCage = false then some r.binding else bound
  | revoke cage' syscall' => if cage = cage' ∧ syscall = syscall' then none else bound
  | grateExit grate => bound.filter fun binding => binding.grate ≠ grate
  | cageExit gone => bound.filter fun _ => cage ≠ gone

/-- **The bindings after a record.** -/
theorem lookup_apply (r : JournalRecord) (table : InterceptionTable) (cage : CageId)
    (syscall : SyscallNumber) :
    (r.apply table).lookup cage syscall =
      r.rebind table.hasExited cage syscall (table.lookup cage syscall) := by
  cases r with
  | register r =>
    refine (table.lookup_register r cage syscall).trans (if_congr ?_ rfl rfl)
    rw [InterceptionTable.refusal?_eq_none_iff, and_comm]
  | revoke cage' syscall' => exact table.lookup_revoke cage' cage syscall' syscall
  | grateExit grate => exact table.lookup_grateExited grate cage syscall
  | cageExit gone =>
    refine (table.lookup_cageExited gone cage syscall).trans ?_
    cases table.lookup cage syscall with
    | none => exact ite_self none
    | some binding => by_cases h : cage = gone <;> simp [rebind, h, Option.filter_some]

/-- **The exits after a record.** -/
theorem hasExited_apply (r : JournalRecord) (table : InterceptionTable) :
    (r.apply table).hasExited = r.exitedAfter table.hasExited := by
  funext process
  cases r with
  | register r => exact (table.hasExited_register r process).trans (Bool.or_false _).symm
  | revoke cage syscall =>
    exact (table.hasExited_revoke cage syscall process).trans (Bool.or_false _).symm
  | grateExit grate =>
    refine (table.hasExited_grateExited grate process).trans ?_
    simp [exitedAfter, exit?, eq_comm]
  | cageExit cage =>
    refine (table.hasExited_cageExited cage process).trans ?_
    simp [exitedAfter, exit?, eq_comm]

/-- Nobody exits by a record of a pair. -/
theorem exitedAfter_of_pair? {p : CageId × SyscallNumber} (h : r.pair? = some p) :
    r.exitedAfter exited = exited := by
  funext process
  cases r with
  | register r => exact Bool.or_false _
  | revoke cage syscall => exact Bool.or_false _
  | grateExit grate => contradiction
  | cageExit cage => contradiction

/-- A record of a pair leaves the others alone. -/
theorem rebind_of_pair? {p : CageId × SyscallNumber} (h : r.pair? = some p)
    (hne : p ≠ (cage, syscall)) (bound : Option Binding) :
    r.rebind exited cage syscall bound = bound := by
  cases r with
  | register r =>
    refine if_neg fun hfor => hne ?_
    obtain ⟨hcage, hsyscall⟩ := Registration.isFor_iff.mp hfor.1
    rw [← Option.some.inj h, hcage, hsyscall]
  | revoke cage' syscall' =>
    refine if_neg fun hsame => hne ?_
    rw [← Option.some.inj h, hsame.1, hsame.2]
  | grateExit grate => contradiction
  | cageExit gone => contradiction

end JournalRecord

/-! ## Tables that look the same to a cage -/

namespace InterceptionTable

variable {cage : CageId} {table other : InterceptionTable}

/-- The same bindings of one cage, and the same exits. -/
structure SameFor (cage : CageId) (table other : InterceptionTable) : Prop where
  lookup : ∀ syscall, table.lookup cage syscall = other.lookup cage syscall
  hasExited : ∀ process, table.hasExited process = other.hasExited process

namespace SameFor

theorem refl (cage : CageId) (table : InterceptionTable) : SameFor cage table table :=
  ⟨fun _ => rfl, fun _ => rfl⟩

theorem symm (h : SameFor cage table other) : SameFor cage other table :=
  ⟨fun syscall => (h.lookup syscall).symm, fun process => (h.hasExited process).symm⟩

theorem trans {third : InterceptionTable} (h : SameFor cage table other)
    (h' : SameFor cage other third) : SameFor cage table third :=
  ⟨fun syscall => (h.lookup syscall).trans (h'.lookup syscall),
    fun process => (h.hasExited process).trans (h'.hasExited process)⟩

theorem of_agrees (cage : CageId) (h : table.Agrees other) : SameFor cage table other :=
  ⟨h.lookup cage, h.hasExited⟩

/-- **One record** keeps tables the same. -/
theorem apply (h : SameFor cage table other) (r : JournalRecord) :
    SameFor cage (r.apply table) (r.apply other) where
  lookup syscall := by
    rw [r.lookup_apply, r.lookup_apply, h.lookup, funext h.hasExited]
  hasExited process := by
    rw [r.hasExited_apply, r.hasExited_apply, funext h.hasExited]

/-- **A whole journal** does so too. -/
theorem replay (h : SameFor cage table other) (records : List JournalRecord) :
    SameFor cage (JournalRecord.replay records table) (JournalRecord.replay records other) := by
  induction records generalizing table other with
  | nil => exact h
  | cons r records ih => exact ih (h.apply r)

/-- Tables that look the same to every cage have the same bindings. -/
theorem bindings_eq (h : ∀ cage, SameFor cage table other) : table.bindings = other.bindings :=
  Bindings.ext_lookup fun cage => (h cage).lookup

end SameFor

end InterceptionTable

/-! ## Files of given records -/

/-- Every complete record of the file means something, and these are the records. -/
structure JournalContents.Holds (contents : JournalContents) (records : List JournalRecord) :
    Prop where
  readable : JournalRecord.Readable contents.bytes
  records : JournalRecord.recordsOf contents.bytes = records

theorem JournalContents.holds_flatMap_encode (records : List JournalRecord) :
    Holds (some (records.flatMap JournalRecord.encode)) records :=
  ⟨JournalRecord.readable_flatMap_encode records, JournalRecord.recordsOf_flatMap_encode records⟩

/-- Replaying a file is replaying its records. -/
theorem JournalContents.Holds.rebuilds {contents : JournalContents} {records : List JournalRecord}
    (h : contents.Holds records) (writer : JournalWriter) (native : Native) :
    Journal.Rebuilds writer native contents records.length
      (JournalRecord.replay records (.new native)) := by
  rw [← h.records]
  exact Journal.rebuilds_of_readable writer native h.readable

end Interposition
