/-
  The meaning of a table as a trace: what is bound is what was last registered and not undone since.

  A table keeps its bindings in a list that six operations change, registrations come in two ways,
  cages and grates share one space of ids, and an exit drops many bindings at once.  None of that is
  visible in the statement proved here, `lookup_iff_latest_registration`, which reads a table off
  the sequence of operations that led to it:

  1. **Acceptance** is a matter of the sequence alone (`Admissible`): the ids of a request are not
     zero, its call is not the reserved one, and no earlier operation reported the exit of its
     target, of its grate or of whoever made it.

  2. **Standing** (`Stands`): some accepted registration of the pair is followed by no other one
     for the pair, by no revocation of it, by no exit of the cage and by no exit of the grate.

  3. **The crux** is one step (`lookup_perform_iff`): after an operation a pair is bound as the
     operation says or as before, and as before unless the operation ends it (`Ends`).  `Stands`
     satisfies the same recurrence along the sequence (`stands_snoc_iff`), so an induction from the
     right identifies the two.
-/
import Mathlib.Data.List.Induction
import Interposition.Proofs.Table.Sequences

namespace Interposition.InterceptionTable

variable {native : Native} {table : InterceptionTable} {cage : CageId} {syscall : SyscallNumber}
  {binding : Binding}

/-! ## One step -/

/-- What ends the standing of a binding: another registration for its pair, a revocation, the exit
    of its cage or the exit of its grate. -/
def Ends (table : InterceptionTable) (op : Operation) (cage : CageId) (syscall : SyscallNumber)
    (binding : Binding) : Prop :=
  (∃ r, table.Accepts op r ∧ r.isFor cage syscall = true) ∨ op = .revoke cage syscall ∨
    op = .cageExited cage ∨ op = .grateExited binding.grate

/-- An operation that requests nothing accepts nothing. -/
theorem not_accepts_of_requested?_eq_none (table : InterceptionTable) {op : Operation}
    (h : op.requested? = none) (r : Registration) : ¬ table.Accepts op r := by
  rintro ⟨hr, -⟩
  rw [h] at hr
  exact absurd hr (by simp)

/-- A request that is not accepted leaves the table as it is. -/
theorem perform_of_not_accepts {op : Operation} {r : Registration}
    (hr : op.requested? = some r) (h : ¬ table.Accepts op r) : (table.perform op).2 = table := by
  by_cases hcaller : table.CallerLives op
  · rw [(perform_requested hr hcaller).1, register_eq]
    cases hrefusal : table.refusal? r with
    | none => exact absurd (accepts_iff.mpr ⟨hr, hcaller, hrefusal⟩) h
    | some e => rfl
  · exact (perform_of_exited hr hcaller).1

/-- An accepted request binds a pair when it is the request for that pair. -/
theorem accepts_on_iff {op : Operation} {r : Registration} (h : table.Accepts op r) :
    table.Accepts op (binding.on cage syscall) ↔
      r.isFor cage syscall = true ∧ r.binding = binding := by
  rw [← Registration.eq_on_iff]
  constructor
  · exact fun hon => Option.some.inj (h.1.symm.trans hon.1)
  · exact fun hsame => hsame ▸ h

/-- **One step of a request**: an accepted registration binds its own pair. -/
theorem lookup_perform_requested {op : Operation} {r : Registration}
    (hr : op.requested? = some r) :
    (table.perform op).2.lookup cage syscall = some binding ↔
      table.Accepts op (binding.on cage syscall) ∨
        (table.lookup cage syscall = some binding ∧
          ¬ (table.Accepts op r ∧ r.isFor cage syscall = true)) := by
  by_cases haccepts : table.Accepts op r
  · obtain ⟨-, hcaller, hrefusal⟩ := accepts_iff.mp haccepts
    rw [(perform_requested hr hcaller).1, lookup_register, hrefusal, accepts_on_iff haccepts]
    by_cases hfor : r.isFor cage syscall = true
    · simp [haccepts, hfor]
    · simp [hfor]
  · have hother : ¬ table.Accepts op (binding.on cage syscall) := by
      intro h
      have hr' : r = binding.on cage syscall := Option.some.inj (hr.symm.trans h.1)
      exact haccepts (hr' ▸ h)
    rw [perform_of_not_accepts hr haccepts]
    simp [haccepts, hother]

/-- A request ends the standing of the pair it is accepted for. -/
theorem ends_requested_iff {op : Operation} {r : Registration} (hr : op.requested? = some r) :
    table.Ends op cage syscall binding ↔ table.Accepts op r ∧ r.isFor cage syscall = true := by
  unfold Ends
  constructor
  · rintro (⟨r', haccepts, hfor⟩ | rfl | rfl | rfl)
    · obtain rfl : r = r' := Option.some.inj (hr.symm.trans haccepts.1)
      exact ⟨haccepts, hfor⟩
    · exact absurd hr (by simp [Operation.requested?])
    · exact absurd hr (by simp [Operation.requested?])
    · exact absurd hr (by simp [Operation.requested?])
  · exact fun h => .inl ⟨r, h⟩

/-- **The crux, one step**: a pair is bound as the operation says, or as before unless the
    operation ended that. -/
theorem lookup_perform_iff {op : Operation} :
    (table.perform op).2.lookup cage syscall = some binding ↔
      table.Accepts op (binding.on cage syscall) ∨
        (table.lookup cage syscall = some binding ∧ ¬ table.Ends op cage syscall binding) := by
  cases hrequest : op.requested? with
  | some r =>
    rw [lookup_perform_requested hrequest, ends_requested_iff hrequest]
  | none =>
    have hnone := not_accepts_of_requested?_eq_none table hrequest
    unfold Ends
    simp only [hnone, false_and, exists_false, false_or]
    cases op with
    | register r => exact absurd hrequest (by simp [Operation.requested?])
    | call caller number args =>
      have hquiet : (table.perform (.call caller number args)).2.Agrees table :=
        call_agrees table caller args fun h => by simp [Operation.requested?, h] at hrequest
      rw [hquiet.lookup]
      simp
    | revoke cage' syscall' =>
      show (table.revoke cage' syscall').2.lookup cage syscall = _ ↔ _
      rw [lookup_revoke]
      by_cases hpair : cage = cage' ∧ syscall = syscall'
      · obtain ⟨rfl, rfl⟩ := hpair
        simp
      · have hne : ¬ (cage' = cage ∧ syscall' = syscall) :=
          fun h => hpair ⟨h.1.symm, h.2.symm⟩
        rw [if_neg hpair]
        simp [hne]
    | grateExited grate =>
      show (table.grateExited grate).2.lookup cage syscall = _ ↔ _
      rw [lookup_grateExited, Option.filter_eq_some_iff, decide_eq_true_iff]
      simp [eq_comm]
    | cageExited cage' =>
      show (table.cageExited cage').2.lookup cage syscall = _ ↔ _
      rw [lookup_cageExited]
      by_cases hcage : cage = cage'
      · subst hcage
        simp
      · have hne : ¬ cage' = cage := fun h => hcage h.symm
        rw [if_neg hcage]
        simp [hne]
    | attach d =>
      have hquiet : (table.perform (.attach d)).2.Agrees table := attach_agrees table d
      rw [hquiet.lookup]
      simp
    | route caller number args =>
      have hquiet : (table.perform (.route caller number args)).2.Agrees table :=
        route_agrees table caller number args
      rw [hquiet.lookup]
      simp

/-! ## Sequences -/

/-- A request that the operations before it have nothing against: its ids are not zero, its call is
    not the reserved one, and neither its target nor its grate nor its maker was reported to have
    exited. -/
structure Admissible (before : List Operation) (op : Operation) (r : Registration) : Prop where
  requested : op.requested? = some r
  cage_ne_zero : r.targetCage.raw ≠ 0
  grate_ne_zero : r.grate.raw ≠ 0
  syscall_ne_reserved : r.syscall.raw ≠ 400
  cage_lives : ∀ earlier ∈ before, earlier.reportsExit r.targetCage = false
  grate_lives : ∀ earlier ∈ before, earlier.reportsExit r.grate.asCage = false
  caller_lives : ∀ caller ∈ op.caller?, ∀ earlier ∈ before, earlier.reportsExit caller = false

theorem hasExited_after_eq_false_iff {ops : List Operation} {process : CageId} :
    ((new native).after ops).hasExited process = false ↔
      ∀ op ∈ ops, op.reportsExit process = false := by
  rw [hasExited_after, List.any_eq_false]
  simp

/-- **Acceptance is a matter of the sequence alone.** -/
theorem accepts_after_iff {before : List Operation} {op : Operation} {r : Registration} :
    ((new native).after before).Accepts op r ↔ Admissible before op r := by
  rw [accepts_iff, refusal?_eq_none_iff, hasExited_after_eq_false_iff,
    hasExited_after_eq_false_iff]
  unfold CallerLives
  simp only [hasExited_after_eq_false_iff]
  constructor
  · rintro ⟨hr, hcaller, ⟨hcage, hgrate, hsyscall⟩, hc, hg⟩
    exact ⟨hr, hcage, hgrate, hsyscall, hc, hg, hcaller⟩
  · rintro ⟨hr, hcage, hgrate, hsyscall, hc, hg, hcaller⟩
    exact ⟨hr, hcaller, ⟨hcage, hgrate, hsyscall⟩, hc, hg⟩

/-- A binding stands after a sequence: the latest accepted registration for its pair is the one that
    makes it, and neither a revocation of the pair nor the exit of the cage or of the grate comes
    after that. -/
def Stands (native : Native) (ops : List Operation) (cage : CageId) (syscall : SyscallNumber)
    (binding : Binding) : Prop :=
  ∃ before op later, ops = before ++ op :: later ∧
    ((new native).after before).Accepts op (binding.on cage syscall) ∧
    (∀ mid op' rest r, later = mid ++ op' :: rest →
      ((new native).after (before ++ op :: mid)).Accepts op' r → r.isFor cage syscall = false) ∧
    .revoke cage syscall ∉ later ∧ .cageExited cage ∉ later ∧ .grateExited binding.grate ∉ later

/-- **The recurrence of standing**, the same as that of a lookup. -/
theorem stands_snoc_iff {ops : List Operation} {op : Operation} :
    Stands native (ops ++ [op]) cage syscall binding ↔
      ((new native).after ops).Accepts op (binding.on cage syscall) ∨
        (Stands native ops cage syscall binding ∧
          ¬ ((new native).after ops).Ends op cage syscall binding) := by
  constructor
  · rintro ⟨before, first, later, hsplit, haccepts, hlatest, hrevoke, hcage, hgrate⟩
    rcases snoc_eq_append_cons_iff.mp hsplit with ⟨rfl, rfl, rfl⟩ | ⟨later, rfl, rfl⟩
    · exact .inl haccepts
    · refine .inr ⟨⟨before, first, later, rfl, haccepts, ?_, ?_, ?_, ?_⟩, ?_⟩
      · intro mid op' rest r hlater
        exact hlatest mid op' (rest ++ [op]) r (by rw [hlater]; simp)
      · exact fun h => hrevoke (List.mem_append_left _ h)
      · exact fun h => hcage (List.mem_append_left _ h)
      · exact fun h => hgrate (List.mem_append_left _ h)
      · have hlast {op' : Operation} (h : op' ∉ later ++ [op]) : op ≠ op' :=
          fun heq => h (heq ▸ List.mem_append_right _ List.mem_cons_self)
        rintro (⟨r, hr, hfor⟩ | h | h | h)
        · rw [hlatest later op [] r rfl hr] at hfor
          exact absurd hfor (by decide)
        · exact hlast hrevoke h
        · exact hlast hcage h
        · exact hlast hgrate h
  · rintro (haccepts | ⟨⟨before, first, later, rfl, haccepts, hlatest, hrevoke, hcage, hgrate⟩,
      hends⟩)
    · exact ⟨ops, op, [], rfl, haccepts, by simp, by simp, by simp, by simp⟩
    · have hmem {op' : Operation} (h : op' ∉ later) (hne : op ≠ op') : op' ∉ later ++ [op] := by
        intro hin
        rcases List.mem_append.mp hin with hin | hin
        · exact h hin
        · exact hne (List.mem_singleton.mp hin).symm
      refine ⟨before, first, later ++ [op], by simp, haccepts, ?_,
        hmem hrevoke fun h => hends (.inr (.inl h)),
        hmem hcage fun h => hends (.inr (.inr (.inl h))),
        hmem hgrate fun h => hends (.inr (.inr (.inr h)))⟩
      intro mid op' rest r hlater hr
      rcases snoc_eq_append_cons_iff.mp hlater with ⟨-, rfl, rfl⟩ | ⟨rest', -, rfl⟩
      · rw [Bool.eq_false_iff]
        exact fun hfor => hends (.inl ⟨r, hr, hfor⟩)
      · exact hlatest mid op' rest' r rfl hr

/-- **What is bound is what stands.** -/
theorem lookup_after_iff_stands (native : Native) (ops : List Operation) :
    ((new native).after ops).lookup cage syscall = some binding ↔
      Stands native ops cage syscall binding := by
  -- an induction from the right, for a table is one operation away from the one before
  induction ops using List.reverseRecOn with
  | nil =>
    constructor
    · intro h
      exact absurd h (by simp [lookup, new])
    · rintro ⟨before, op, later, hsplit, -⟩
      exact absurd hsplit (by simp)
  | append_singleton ops op ih => rw [after_snoc, lookup_perform_iff, ih, ← stands_snoc_iff]

/-! ## The table as a trace -/

/-- **The meaning of a table.**  After any sequence of operations on a table in which nothing has
    happened: a pair is bound to a handler of a grate exactly when the latest accepted registration
    for the pair says so and nothing undid it since; whether a registration is accepted is decided
    by the sequence alone; and the registrations listed are in strict order of cage and call and
    are those of the pairs that are bound. -/
theorem lookup_iff_latest_registration (native : Native) (ops : List Operation) :
    (∀ cage syscall handler grate,
      ((new native).after ops).lookup cage syscall = some ⟨handler, grate⟩ ↔
        ∃ before op later, ops = before ++ op :: later ∧
          ((new native).after before).Accepts op ⟨cage, syscall, handler, grate⟩ ∧
          (∀ mid op' rest r, later = mid ++ op' :: rest →
            ((new native).after (before ++ op :: mid)).Accepts op' r →
              ¬ (r.targetCage = cage ∧ r.syscall = syscall)) ∧
          .revoke cage syscall ∉ later ∧ .cageExited cage ∉ later ∧ .grateExited grate ∉ later) ∧
    (∀ before op r, ((new native).after before).Accepts op r ↔ Admissible before op r) ∧
    ((new native).after ops).registrations.Pairwise (fun a b =>
      a.targetCage.raw < b.targetCage.raw ∨
        a.targetCage.raw = b.targetCage.raw ∧ a.syscall.raw < b.syscall.raw) ∧
    ∀ r, r ∈ ((new native).after ops).registrations ↔
      ((new native).after ops).lookup r.targetCage r.syscall = some r.binding := by
  refine ⟨fun cage syscall handler grate => ?_, fun _ _ _ => accepts_after_iff,
    ((new native).after ops).bindings.ordered, fun r => ?_⟩
  · rw [lookup_after_iff_stands]
    unfold Stands
    simp only [Bool.eq_false_iff, ne_eq, Registration.isFor_iff]
    rfl
  · show r.binding.on r.targetCage r.syscall ∈ _ ↔ _
    exact Bindings.lookup_eq_some_iff.symm

end Interposition.InterceptionTable
