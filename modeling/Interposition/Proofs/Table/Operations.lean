/-
  What the operations of an interception table do, each said once.

  A table changes in five ways: a registration, a revocation, the exit of a grate, the exit of a
  cage, and not at all (calls, routes and attached dispatchers move counters and dispatchers only).
  Registrations come in two ways, directly and through a call of the reserved number, so the five
  ways are spread over seven operations.

  1. **Refusals** (`refusal?_of_malformed`, `refusal?_of_wellFormed`): a registration is refused for
     its own words, or else because it names the dead.

  2. **One equation per operation** (`register_eq`, `revoke_eq`, …): the answer and the new table in
     closed form.  An unchanged registration IS an insertion and the revocation of nothing IS a
     filter (they just leave the list as it is), so the equations do not split on the bindings.

  3. **Agreement** (`Agrees`): two tables with the same bindings, exits and trail answer
     registrations alike and keep agreeing, whatever dispatchers they hold.  Quiet operations
     stay in agreement with where they started, which is how calls drop out of every argument
     about registrations.
-/
import Interposition.Journal.Record
import Interposition.Proofs.Bindings

namespace Interposition

/-! ## Refusals -/

theorem CageId.isValid_iff (cage : CageId) : cage.isValid = true ↔ cage.raw ≠ 0 := by
  simp [CageId.isValid]

theorem GrateId.isValid_iff (grate : GrateId) : grate.isValid = true ↔ grate.raw ≠ 0 := by
  simp [GrateId.isValid]

/-- The reserved number is 400. -/
theorem Syscall.isReserved_iff (number : SyscallNumber) :
    Syscall.isReserved number = true ↔ number.raw = 400 := by
  unfold Syscall.isReserved
  rw [decide_eq_true_iff]
  constructor
  · rintro rfl
    rfl
  · intro h
    exact congrArg SyscallNumber.mk h

namespace Registration

/-- What the words of a request have to satisfy, whatever the table. -/
structure WellFormed (r : Registration) : Prop where
  cage : r.targetCage.raw ≠ 0
  grate : r.grate.raw ≠ 0
  syscall : r.syscall.raw ≠ 400

instance (r : Registration) : Decidable r.WellFormed :=
  decidable_of_iff (r.targetCage.raw ≠ 0 ∧ r.grate.raw ≠ 0 ∧ r.syscall.raw ≠ 400)
    ⟨fun ⟨cage, grate, syscall⟩ => ⟨cage, grate, syscall⟩,
      fun ⟨cage, grate, syscall⟩ => ⟨cage, grate, syscall⟩⟩

theorem namesProcesses_iff (r : Registration) :
    r.namesProcesses = true ↔ r.targetCage.raw ≠ 0 ∧ r.grate.raw ≠ 0 := by
  unfold namesProcesses
  rw [Bool.and_eq_true, CageId.isValid_iff, GrateId.isValid_iff]

/-- The two checks of a request's words, made in their order, pass together exactly when the
    request is well-formed. -/
theorem wellFormed_iff (r : Registration) :
    r.WellFormed ↔ r.namesProcesses = true ∧ Syscall.isReserved r.syscall = false := by
  rw [namesProcesses_iff, Bool.eq_false_iff]
  constructor
  · rintro ⟨cage, grate, syscall⟩
    exact ⟨⟨cage, grate⟩, fun h => syscall ((Syscall.isReserved_iff _).mp h)⟩
  · rintro ⟨⟨cage, grate⟩, free⟩
    exact ⟨cage, grate, fun h => free ((Syscall.isReserved_iff _).mpr h)⟩

end Registration

namespace InterceptionTable

variable {table other : InterceptionTable}

/-- A request that is not well-formed is refused as such, whoever has exited. -/
theorem refusal?_of_malformed (table : InterceptionTable) {r : Registration} (h : ¬ r.WellFormed) :
    ∃ e, table.refusal? r = some e ∧ e.toStatus = Errno.einval.status := by
  rw [Registration.wellFormed_iff] at h
  unfold refusal?
  by_cases hnames : r.namesProcesses = true
  · have hreserved : Syscall.isReserved r.syscall = true :=
      (Bool.not_eq_false _).mp fun hfree => h ⟨hnames, hfree⟩
    exact ⟨.reserved r.syscall, by rw [hnames, hreserved]; rfl, rfl⟩
  · rw [Bool.not_eq_true] at hnames
    exact ⟨.invalid r, by rw [hnames]; rfl, rfl⟩

/-- A well-formed request is refused only because it names the dead, its target first. -/
theorem refusal?_of_wellFormed {r : Registration} (h : r.WellFormed) :
    table.refusal? r =
      if table.hasExited r.targetCage then some (.exited r.targetCage)
      else if table.hasExited r.grate.asCage then some (.exited r.grate.asCage)
      else none := by
  obtain ⟨hnames, hfree⟩ := r.wellFormed_iff.mp h
  unfold refusal?
  rw [hnames, hfree]
  rfl

theorem refusal?_eq_none_iff {r : Registration} :
    table.refusal? r = none ↔ r.WellFormed ∧ table.hasExited r.targetCage = false ∧
      table.hasExited r.grate.asCage = false := by
  by_cases h : r.WellFormed
  · rw [refusal?_of_wellFormed h]
    cases table.hasExited r.targetCage <;> cases table.hasExited r.grate.asCage <;> simp [h]
  · obtain ⟨e, he, -⟩ := refusal?_of_malformed table h
    rw [he]
    simp [h]

/-- A refusal by the table is a status word other than success, and which one it is says whether
    the request was well-formed. -/
theorem toStatus_of_refusal? {r : Registration} {e : RegistrationError}
    (h : table.refusal? r = some e) :
    e.toStatus = if r.WellFormed then Errno.esrch.status else Errno.einval.status := by
  by_cases hr : r.WellFormed
  · rw [refusal?_of_wellFormed hr] at h
    rw [if_pos hr]
    split at h
    · exact (Option.some.inj h) ▸ rfl
    · split at h
      · exact (Option.some.inj h) ▸ rfl
      · exact absurd h (by simp)
  · obtain ⟨e', he', hstatus⟩ := refusal?_of_malformed table hr
    rw [if_neg hr, ← hstatus]
    rw [he'] at h
    exact (Option.some.inj h) ▸ rfl

/-! ## One equation per operation -/

/-- What making an accepted registration comes to. -/
def outcome (table : InterceptionTable) (r : Registration) : RegistrationOutcome :=
  match table.lookup r.targetCage r.syscall with
  | none => .installed
  | some previous => if previous = r.binding then .unchanged else .replaced previous

/-- The event that the outcome of a registration leaves in the trail. -/
def eventOf? (r : Registration) : RegistrationOutcome → Option AuditEvent
  | .installed => some (.installed r)
  | .replaced previous => some (.replaced r previous)
  | .unchanged => none

/-- **Registration**: refused, or an insertion together with the event of its outcome. -/
theorem register_eq (table : InterceptionTable) (r : Registration) :
    table.register r =
      match table.refusal? r with
      | some e => (.error e, table)
      | none => (.ok (table.outcome r), { table with
          bindings := table.bindings.insert r
          audit := table.audit ++ (eventOf? r (table.outcome r)).toList }) := by
  unfold register outcome
  cases table.refusal? r with
  | some e => rfl
  | none =>
    cases hlookup : table.lookup r.targetCage r.syscall with
    | none => rfl
    | some previous =>
      by_cases hsame : previous = r.binding
      · subst hsame
        have hinsert : table.bindings.insert r = table.bindings :=
          Bindings.insert_of_lookup hlookup
        simp only [if_pos, eventOf?, Option.toList_none, List.append_nil, hinsert]
      · simp only [if_neg hsame, eventOf?, record, Option.toList_some]

theorem outcome_eq_installed_iff {r : Registration} :
    table.outcome r = .installed ↔ table.lookup r.targetCage r.syscall = none := by
  unfold outcome
  cases table.lookup r.targetCage r.syscall with
  | none => simp
  | some previous => by_cases hsame : previous = r.binding <;> simp [hsame]

theorem outcome_eq_replaced_iff {r : Registration} {previous : Binding} :
    table.outcome r = .replaced previous ↔
      table.lookup r.targetCage r.syscall = some previous ∧ previous ≠ r.binding := by
  unfold outcome
  cases table.lookup r.targetCage r.syscall with
  | none => simp
  | some bound =>
    by_cases hsame : bound = r.binding
    · simp only [if_pos hsame, Option.some.injEq, reduceCtorEq, false_iff, not_and]
      rintro rfl
      exact not_not_intro hsame
    · simp only [if_neg hsame, RegistrationOutcome.replaced.injEq, Option.some.injEq]
      constructor
      · rintro rfl
        exact ⟨rfl, hsame⟩
      · exact And.left

theorem outcome_eq_unchanged_iff {r : Registration} :
    table.outcome r = .unchanged ↔ table.lookup r.targetCage r.syscall = some r.binding := by
  unfold outcome
  cases table.lookup r.targetCage r.syscall with
  | none => simp
  | some previous => by_cases hsame : previous = r.binding <;> simp [hsame]

/-- A registration of what is bound already changes nothing, its trail included. -/
theorem register_of_unchanged {r : Registration} (hrefusal : table.refusal? r = none)
    (h : table.outcome r = .unchanged) : table.register r = (.ok .unchanged, table) := by
  have hinsert : table.bindings.insert r = table.bindings :=
    Bindings.insert_of_lookup (outcome_eq_unchanged_iff.mp h)
  rw [register_eq, hrefusal]
  simp only [h, hinsert, eventOf?, Option.toList_none, List.append_nil]

/-- The registrations of other pairs are not for a pair, and those of the pair are. -/
theorem isFor_on (binding : Binding) (cage cage' : CageId) (syscall syscall' : SyscallNumber) :
    (binding.on cage' syscall').isFor cage syscall =
      decide (cage' = cage ∧ syscall' = syscall) := by
  rw [Bool.eq_iff_iff, Registration.isFor_iff, decide_eq_true_iff]
  rfl

/-- What a revocation leaves of the bindings. -/
theorem lookup_filter_isFor (bindings : Bindings) (cage cage' : CageId)
    (syscall syscall' : SyscallNumber) :
    (bindings.filter fun r => !r.isFor cage syscall).lookup cage' syscall' =
      if cage' = cage ∧ syscall' = syscall then none else bindings.lookup cage' syscall' := by
  split
  case isTrue hpair =>
    exact Bindings.lookup_filter_of_drop fun binding => by rw [isFor_on, decide_eq_true hpair]; rfl
  case isFalse hpair =>
    exact Bindings.lookup_filter_of_keep fun binding => by rw [isFor_on, decide_eq_false hpair]; rfl

/-- **Revocation**: a filter, and an event if there was something to revoke. -/
theorem revoke_eq (table : InterceptionTable) (cage : CageId) (syscall : SyscallNumber) :
    table.revoke cage syscall =
      (table.lookup cage syscall, { table with
        bindings := table.bindings.filter fun r => !r.isFor cage syscall
        audit := table.audit ++
          ((table.lookup cage syscall).map (AuditEvent.revoked cage syscall)).toList }) := by
  unfold revoke
  cases hlookup : table.lookup cage syscall with
  | none =>
    have hsame : (table.bindings.filter fun r => !r.isFor cage syscall) = table.bindings := by
      apply Bindings.ext_lookup
      intro cage' syscall'
      rw [lookup_filter_isFor]
      split
      case isTrue hpair =>
        obtain ⟨rfl, rfl⟩ := hpair
        exact hlookup.symm
      case isFalse => rfl
    rw [hsame, Option.map_none, Option.toList_none, List.append_nil]
  | some binding => rfl

/-- A call by the dead is refused, unless it is the one that ends them. -/
theorem call_of_exited {caller : CageId} {syscall : SyscallNumber} (args : ArgumentVector)
    (hcaller : table.hasExited caller = true) (hexit : syscall ≠ Syscall.exit) :
    table.call caller syscall args = (.value Errno.esrch.status, table) := by
  unfold call
  rw [if_pos ⟨hcaller, hexit⟩]

/-- The status word that answers a request. -/
def statusOf : Except RegistrationError RegistrationOutcome → Int64
  | .ok _ => RegistrationError.accepted
  | .error e => e.toStatus

/-- **Registration by a call**: what `register` does, answered by a status word. -/
theorem call_registerHandler {caller : CageId} (args : ArgumentVector)
    (hcaller : table.hasExited caller = false) :
    table.call caller Syscall.registerHandler args =
      (.value (statusOf (table.register (.ofWords args.values)).1),
        (table.register (.ofWords args.values)).2) := by
  have hlive : ¬ (table.hasExited caller = true ∧ Syscall.registerHandler ≠ Syscall.exit) := by
    rw [hcaller]
    simp
  unfold call
  rw [if_neg hlive, if_pos rfl]
  rcases table.register (.ofWords args.values) with ⟨_ | _, _⟩ <;> rfl

/-! ## Exits -/

/-- Noting an exit adds one id, and the ids are a set: the order does not matter to a question. -/
theorem contains_noteExit (exited : List CageId) (cage other : CageId) :
    (noteExit exited cage).contains other = (exited.contains other || decide (other = cage)) := by
  unfold noteExit
  split
  · rename_i hmem
    by_cases h : other = cage
    · rw [h, hmem]
      rfl
    · simp [h]
  · simp

/-! ## The view after an operation -/

theorem lookup_register (table : InterceptionTable) (r : Registration) (cage : CageId)
    (syscall : SyscallNumber) :
    (table.register r).2.lookup cage syscall =
      if table.refusal? r = none ∧ r.isFor cage syscall = true then some r.binding
      else table.lookup cage syscall := by
  rw [register_eq]
  cases table.refusal? r with
  | some e => simp
  | none =>
    simp only [true_and]
    exact Bindings.lookup_insert table.bindings r cage syscall

theorem lookup_revoke (table : InterceptionTable) (cage cage' : CageId)
    (syscall syscall' : SyscallNumber) :
    (table.revoke cage syscall).2.lookup cage' syscall' =
      if cage' = cage ∧ syscall' = syscall then none else table.lookup cage' syscall' := by
  rw [revoke_eq]
  exact lookup_filter_isFor table.bindings cage cage' syscall syscall'

theorem lookup_grateExited (table : InterceptionTable) (grate : GrateId) (cage : CageId)
    (syscall : SyscallNumber) :
    (table.grateExited grate).2.lookup cage syscall =
      (table.lookup cage syscall).filter fun binding => decide (binding.grate ≠ grate) :=
  Bindings.lookup_filter table.bindings _ cage syscall

theorem lookup_cageExited (table : InterceptionTable) (cage cage' : CageId)
    (syscall : SyscallNumber) :
    (table.cageExited cage).2.lookup cage' syscall =
      if cage' = cage then none else table.lookup cage' syscall := by
  split
  case isTrue h => exact Bindings.lookup_filter_of_drop fun binding => by simp [Binding.on, h]
  case isFalse h => exact Bindings.lookup_filter_of_keep fun binding => by simp [Binding.on, h]

theorem hasExited_register (table : InterceptionTable) (r : Registration) (cage : CageId) :
    (table.register r).2.hasExited cage = table.hasExited cage := by
  rw [register_eq]
  cases table.refusal? r <;> rfl

theorem hasExited_revoke (table : InterceptionTable) (cage : CageId) (syscall : SyscallNumber)
    (other : CageId) : (table.revoke cage syscall).2.hasExited other = table.hasExited other := by
  rw [revoke_eq]
  rfl

theorem hasExited_grateExited (table : InterceptionTable) (grate : GrateId) (other : CageId) :
    (table.grateExited grate).2.hasExited other =
      (table.hasExited other || decide (other = grate.asCage)) :=
  contains_noteExit table.exited grate.asCage other

theorem hasExited_cageExited (table : InterceptionTable) (cage other : CageId) :
    (table.cageExited cage).2.hasExited other =
      (table.hasExited other || decide (other = cage)) :=
  contains_noteExit table.exited cage other

/-! ## Agreement -/

/-- The same bindings, the same exits and the same trail; the dispatchers and the native
    implementation may be others. -/
structure Agrees (table other : InterceptionTable) : Prop where
  bindings : table.bindings = other.bindings
  exited : table.exited = other.exited
  audit : table.audit = other.audit

namespace Agrees

theorem refl (table : InterceptionTable) : table.Agrees table := ⟨rfl, rfl, rfl⟩

theorem symm (h : table.Agrees other) : other.Agrees table :=
  ⟨h.bindings.symm, h.exited.symm, h.audit.symm⟩

theorem trans {third : InterceptionTable} (h : table.Agrees other) (h' : other.Agrees third) :
    table.Agrees third :=
  ⟨h.bindings.trans h'.bindings, h.exited.trans h'.exited, h.audit.trans h'.audit⟩

theorem lookup (h : table.Agrees other) (cage : CageId) (syscall : SyscallNumber) :
    table.lookup cage syscall = other.lookup cage syscall := by
  unfold InterceptionTable.lookup
  rw [h.bindings]

theorem hasExited (h : table.Agrees other) (cage : CageId) :
    table.hasExited cage = other.hasExited cage := by
  unfold InterceptionTable.hasExited
  rw [h.exited]

theorem refusal? (h : table.Agrees other) (r : Registration) :
    table.refusal? r = other.refusal? r := by
  unfold InterceptionTable.refusal?
  rw [h.hasExited, h.hasExited]

theorem outcome (h : table.Agrees other) (r : Registration) :
    table.outcome r = other.outcome r := by
  unfold InterceptionTable.outcome
  rw [h.lookup]

theorem register (h : table.Agrees other) (r : Registration) :
    (table.register r).2.Agrees (other.register r).2 := by
  rw [register_eq, register_eq, h.refusal? r, h.outcome r]
  cases other.refusal? r with
  | some e => exact h
  | none =>
    exact ⟨congrArg (·.insert r) h.bindings, h.exited, congrArg (· ++ _) h.audit⟩

theorem revoke (h : table.Agrees other) (cage : CageId) (syscall : SyscallNumber) :
    (table.revoke cage syscall).2.Agrees (other.revoke cage syscall).2 := by
  rw [revoke_eq, revoke_eq, h.lookup]
  exact ⟨congrArg (Bindings.filter · _) h.bindings, h.exited, congrArg (· ++ _) h.audit⟩

theorem grateExited (h : table.Agrees other) (grate : GrateId) :
    (table.grateExited grate).2.Agrees (other.grateExited grate).2 := by
  unfold InterceptionTable.grateExited
  rw [h.bindings, h.exited]
  exact ⟨rfl, rfl, congrArg (· ++ _) h.audit⟩

theorem cageExited (h : table.Agrees other) (cage : CageId) :
    (table.cageExited cage).2.Agrees (other.cageExited cage).2 := by
  unfold InterceptionTable.cageExited
  rw [h.bindings, h.exited]
  exact ⟨rfl, rfl, congrArg (· ++ _) h.audit⟩

/-- **Journal records keep tables in agreement**: they only read what agrees. -/
theorem apply (h : table.Agrees other) (r : JournalRecord) :
    (r.apply table).Agrees (r.apply other) := by
  cases r with
  | register registration => exact h.register registration
  | revoke cage syscall => exact h.revoke cage syscall
  | grateExit grate => exact h.grateExited grate
  | cageExit cage => exact h.cageExited cage

theorem replay (h : table.Agrees other) (records : List JournalRecord) :
    (JournalRecord.replay records table).Agrees (JournalRecord.replay records other) := by
  induction records generalizing table other with
  | nil => exact h
  | cons r records ih => exact ih (h.apply r)

end Agrees

/-! ## Quiet operations -/

theorem attach_agrees (table : InterceptionTable) (d : Dispatcher) :
    (table.attach d).2.Agrees table := ⟨rfl, rfl, rfl⟩

/-- A routed call moves at most the counters of one dispatcher. -/
theorem route_agrees (table : InterceptionTable) (caller : CageId) (syscall : SyscallNumber)
    (args : ArgumentVector) : (table.route caller syscall args).2.Agrees table := by
  unfold route
  cases table.lookup caller syscall with
  | none => exact Agrees.refl table
  | some binding =>
    cases hd : table.dispatcher? binding.grate with
    | none =>
      simp only [hd]
      exact Agrees.refl table
    | some d =>
      simp only [hd]
      exact ⟨rfl, rfl, rfl⟩

/-- **Calls are quiet**, all but those of the reserved number. -/
theorem call_agrees (table : InterceptionTable) (caller : CageId) {syscall : SyscallNumber}
    (args : ArgumentVector) (hfree : syscall ≠ Syscall.registerHandler) :
    (table.call caller syscall args).2.Agrees table := by
  unfold call
  by_cases hdead : table.hasExited caller = true ∧ syscall ≠ Syscall.exit
  · rw [if_pos hdead]
    exact Agrees.refl table
  · rw [if_neg hdead, if_neg hfree]
    have hroute := route_agrees table caller syscall args
    rcases hr : table.route caller syscall args with ⟨_ | reply, table'⟩
    · rw [hr] at hroute
      exact hroute
    · rw [hr] at hroute
      exact hroute

end InterceptionTable

end Interposition
