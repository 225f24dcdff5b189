/-
  The tables that can come about: sequences of operations on a table in which nothing has happened.

  `Operation` lists what can be asked of a table and `perform` asks it; `after` asks a sequence, in
  order.  A table is reachable exactly when it is `(new native).after ops` for some `ops`, so a
  statement about every reachable table is a statement about every list of operations.

  Two facts about one step are all that the theory of sequences needs to know of registrations and
  exits:

  * `accepts_iff` — a request is granted exactly when whoever makes it lives and the table does not
    refuse it, whether it comes directly or through a call;
  * `hasExited_after` — a process counts as exited exactly when one of the operations said so.
-/
import Interposition.Proofs.Table.Operations

namespace Interposition.InterceptionTable

/-! ## Operations and answers -/

/-- What can be asked of a table. -/
inductive Operation where
  | register (r : Registration)
  | call (caller : CageId) (syscall : SyscallNumber) (args : ArgumentVector)
  | revoke (cage : CageId) (syscall : SyscallNumber)
  | grateExited (grate : GrateId)
  | cageExited (cage : CageId)
  | attach (d : Dispatcher)
  | route (caller : CageId) (syscall : SyscallNumber) (args : ArgumentVector)

/-- What a table answers. -/
inductive Answer where
  | registered (verdict : Except RegistrationError RegistrationOutcome)
  | replied (reply : Reply)
  | revoked (binding : Option Binding)
  | removed (count : Nat)
  | attached (former : Option Dispatcher)
  | routed (reply : Option Reply)

/-- Asks one thing of a table. -/
def perform (table : InterceptionTable) : Operation → Answer × InterceptionTable
  | .register r => (table.register r).map .registered id
  | .call caller syscall args => (table.call caller syscall args).map .replied id
  | .revoke cage syscall => (table.revoke cage syscall).map .revoked id
  | .grateExited grate => (table.grateExited grate).map .removed id
  | .cageExited cage => (table.cageExited cage).map .removed id
  | .attach d => (table.attach d).map .attached id
  | .route caller syscall args => (table.route caller syscall args).map .routed id

/-- The table after a sequence of operations. -/
def after (table : InterceptionTable) (ops : List Operation) : InterceptionTable :=
  ops.foldl (fun table op => (table.perform op).2) table

variable {native : Native} {table : InterceptionTable}

@[simp] theorem after_nil (table : InterceptionTable) : table.after [] = table := rfl

theorem after_append (table : InterceptionTable) (ops more : List Operation) :
    table.after (ops ++ more) = (table.after ops).after more :=
  List.foldl_append

theorem after_snoc (table : InterceptionTable) (ops : List Operation) (op : Operation) :
    table.after (ops ++ [op]) = ((table.after ops).perform op).2 :=
  after_append table ops [op]

/-! ## Requests -/

/-- The registration an operation requests, if it requests one: directly, or by a call of the
    reserved number. -/
def Operation.requested? : Operation → Option Registration
  | .register r => some r
  | .call _ syscall args =>
    if syscall = Syscall.registerHandler then some (.ofWords args.values) else none
  | _ => none

/-- Who makes an operation, if it is a call. -/
def Operation.caller? : Operation → Option CageId
  | .call caller _ _ => some caller
  | _ => none

/-- Whether an answer grants the request it answers. -/
def Answer.Grants : Answer → Prop
  | .registered (.ok _) => True
  | .replied reply => reply = .value RegistrationError.accepted
  | _ => False

/-- An operation requests a registration, and the table's answer grants it. -/
def Accepts (table : InterceptionTable) (op : Operation) (r : Registration) : Prop :=
  op.requested? = some r ∧ (table.perform op).1.Grants

/-- Whoever makes the operation, if anybody in particular does, has not exited. -/
def CallerLives (table : InterceptionTable) (op : Operation) : Prop :=
  ∀ caller ∈ op.caller?, table.hasExited caller = false

/-- **Requests come in two ways**, and in no other. -/
theorem Operation.requested?_eq_some_iff {op : Operation} {r : Registration} :
    op.requested? = some r ↔ op = .register r ∨
      ∃ caller args, op = .call caller Syscall.registerHandler args ∧ r = .ofWords args.values := by
  constructor
  · intro h
    cases op with
    | register r' => exact .inl (congrArg _ (Option.some.inj h))
    | call caller syscall args =>
      by_cases hsyscall : syscall = Syscall.registerHandler
      · subst hsyscall
        exact .inr ⟨caller, args, rfl, (Option.some.inj h).symm⟩
      · exact absurd h (by simp [requested?, hsyscall])
    | revoke _ _ => exact absurd h (by simp [requested?])
    | grateExited _ => exact absurd h (by simp [requested?])
    | cageExited _ => exact absurd h (by simp [requested?])
    | attach _ => exact absurd h (by simp [requested?])
    | route _ _ _ => exact absurd h (by simp [requested?])
  · rintro (rfl | ⟨caller, args, rfl, rfl⟩) <;> rfl

/-- No refusal of a table reads as success. -/
theorem toStatus_ne_accepted {r : Registration} {e : RegistrationError}
    (h : table.refusal? r = some e) : e.toStatus ≠ RegistrationError.accepted := by
  rw [toStatus_of_refusal? h]
  split <;> decide

/-- A request of somebody who lives is a registration. -/
theorem perform_requested {op : Operation} {r : Registration} (hr : op.requested? = some r)
    (hcaller : table.CallerLives op) :
    (table.perform op).2 = (table.register r).2 ∧
      ((table.perform op).1.Grants ↔ table.refusal? r = none) := by
  rcases Operation.requested?_eq_some_iff.mp hr with rfl | ⟨caller, args, rfl, rfl⟩
  · refine ⟨rfl, ?_⟩
    show Answer.Grants (.registered (table.register r).1) ↔ _
    rw [register_eq]
    cases table.refusal? r <;> simp [Answer.Grants]
  · have hcall := call_registerHandler args (hcaller caller rfl)
    refine ⟨congrArg Prod.snd hcall, ?_⟩
    show (table.call caller Syscall.registerHandler args).1 = .value _ ↔ _
    rw [hcall, register_eq, Reply.value.injEq]
    cases hrefusal : table.refusal? (.ofWords args.values) with
    | none => simp [statusOf]
    | some e => simp [statusOf, toStatus_ne_accepted hrefusal]

/-- A request of the dead is not heard. -/
theorem perform_of_exited {op : Operation} {r : Registration} (hr : op.requested? = some r)
    (hcaller : ¬ table.CallerLives op) :
    (table.perform op).2 = table ∧ ¬ (table.perform op).1.Grants := by
  rcases Operation.requested?_eq_some_iff.mp hr with rfl | ⟨caller, args, rfl, rfl⟩
  · exact absurd (fun _ h => absurd h (by simp [Operation.caller?])) hcaller
  · have hdead : table.hasExited caller = true := by
      rw [← Bool.not_eq_false]
      intro hlives
      exact hcaller fun other hother => (Option.some.inj hother) ▸ hlives
    have hcall := call_of_exited args hdead (show Syscall.registerHandler ≠ _ by decide)
    refine ⟨congrArg Prod.snd hcall, ?_⟩
    show ¬ (table.call caller Syscall.registerHandler args).1 = .value _
    rw [hcall]
    exact show ¬ Reply.value Errno.esrch.status = .value RegistrationError.accepted by decide

/-- **Acceptance**: a request is granted exactly when its maker lives and the table has nothing
    against it. -/
theorem accepts_iff {op : Operation} {r : Registration} :
    table.Accepts op r ↔
      op.requested? = some r ∧ table.CallerLives op ∧ table.refusal? r = none := by
  unfold Accepts
  refine and_congr_right fun hr => ?_
  by_cases hcaller : table.CallerLives op
  · rw [(perform_requested hr hcaller).2]
    exact ⟨fun h => ⟨hcaller, h⟩, And.right⟩
  · have hdenied := (perform_of_exited hr hcaller).2
    exact ⟨fun h => absurd h hdenied, fun h => absurd h.1 hcaller⟩

/-! ## Exits -/

/-- Whether an operation reports the exit of a process, in whatever role. -/
def Operation.reportsExit (op : Operation) (process : CageId) : Bool :=
  match op with
  | .cageExited cage => process = cage
  | .grateExited grate => process = grate.asCage
  | _ => false

theorem hasExited_perform (table : InterceptionTable) (op : Operation) (process : CageId) :
    (table.perform op).2.hasExited process =
      (table.hasExited process || op.reportsExit process) := by
  cases op with
  | register r => exact (hasExited_register table r process).trans (Bool.or_false _).symm
  | call caller syscall args =>
    refine Eq.trans ?_ (Bool.or_false _).symm
    by_cases hsyscall : syscall = Syscall.registerHandler
    · subst hsyscall
      by_cases hlives : table.CallerLives (.call caller Syscall.registerHandler args)
      · rw [(perform_requested rfl hlives).1]
        exact hasExited_register table _ process
      · rw [(perform_of_exited rfl hlives).1]
    · exact (call_agrees table caller args hsyscall).hasExited process
  | revoke cage syscall =>
    exact (hasExited_revoke table cage syscall process).trans (Bool.or_false _).symm
  | grateExited grate => exact hasExited_grateExited table grate process
  | cageExited cage => exact hasExited_cageExited table cage process
  | attach d => exact (Bool.or_false _).symm
  | route caller syscall args =>
    exact ((route_agrees table caller syscall args).hasExited process).trans
      (Bool.or_false _).symm

/-- **Exits**: a process counts as exited exactly when one of the operations reported it. -/
theorem hasExited_after (native : Native) (ops : List Operation) (process : CageId) :
    ((new native).after ops).hasExited process = ops.any (·.reportsExit process) := by
  suffices h : ∀ table : InterceptionTable, (table.after ops).hasExited process =
      (table.hasExited process || ops.any (·.reportsExit process)) from h (new native)
  induction ops with
  | nil => exact fun table => (Bool.or_false _).symm
  | cons op ops ih =>
    intro table
    show ((table.perform op).2.after ops).hasExited process = _
    rw [ih, hasExited_perform, List.any_cons, Bool.or_assoc]

/-! ## Sequences that grow at their end -/

/-- The ways to split a list that has one more element at its end. -/
theorem snoc_eq_append_cons_iff {α : Type} {l mid rest : List α} {x y : α} :
    l ++ [x] = mid ++ y :: rest ↔
      (rest = [] ∧ l = mid ∧ x = y) ∨ ∃ rest', rest = rest' ++ [x] ∧ l = mid ++ y :: rest' := by
  constructor
  · intro h
    rcases List.eq_nil_or_concat rest with rfl | ⟨rest', z, rfl⟩
    · obtain ⟨hl, hx⟩ := List.append_inj' h rfl
      exact .inl ⟨rfl, hl, (List.cons.inj hx).1⟩
    · rw [List.concat_eq_append] at h ⊢
      have h' : l ++ [x] = (mid ++ y :: rest') ++ [z] := by simpa using h
      obtain ⟨hl, hx⟩ := List.append_inj' h' rfl
      exact .inr ⟨rest', by rw [(List.cons.inj hx).1], hl⟩
  · rintro (⟨rfl, rfl, rfl⟩ | ⟨rest', rfl, rfl⟩)
    · rfl
    · simp

end Interposition.InterceptionTable

/-! ## Records as operations -/

namespace Interposition.JournalRecord

/-- What a record asks of a table. -/
def operation : JournalRecord → InterceptionTable.Operation
  | register r => .register r
  | revoke cage syscall => .revoke cage syscall
  | grateExit grate => .grateExited grate
  | cageExit cage => .cageExited cage

theorem perform_operation (r : JournalRecord) (table : InterceptionTable) :
    (table.perform r.operation).2 = r.apply table := by
  cases r <;> rfl

/-- Replaying records is asking for one after the other. -/
theorem replay_eq_after (records : List JournalRecord) (table : InterceptionTable) :
    replay records table = table.after (records.map operation) := by
  unfold replay InterceptionTable.after
  simp only [List.foldl_map, perform_operation]

end Interposition.JournalRecord
