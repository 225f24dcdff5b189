/-
  What an exit leaves behind.

  Cages and grates share one space of ids, and an exit is reported in one of two roles.  Each report
  drops the bindings that name the id in its own role, and both put the id among the exited.  So an
  id may be bound and exited at once, when its exit was reported in the other role:
  `bound_after_exit_in_other_role` is such a table, and `exits_of_bound_ids` says that there is no
  other way to one.

  1. **Bound ids** (`not_mem_of_lookup`): what is bound was not reported to have exited in the role
     in which the binding names it, at any time.  Before the registration a report would have
     refused it, and after it a report would have dropped it.

  2. **The dead are not served** (`dead_are_never_served`): a cage reported as one makes no call any
     more but the one that ends it, and a grate reported as one is asked by no call any more,
     whatever is attached or registered for it afterwards.
-/
import Interposition.Proofs.Table.Service
import Interposition.Proofs.Table.Trace

namespace Interposition.InterceptionTable

variable {native : Native} {ops : List Operation} {cage : CageId} {syscall : SyscallNumber}
  {binding : Binding}

/-! ## Bound ids -/

/-- Nothing was reported to exit before a registration that was accepted. -/
theorem reportsExit_of_accepts {before : List Operation} {op : Operation} {r : Registration}
    (h : ((new native).after before).Accepts op r) {earlier : Operation} (hmem : earlier ∈ before) :
    earlier.reportsExit r.targetCage = false ∧ earlier.reportsExit r.grate.asCage = false := by
  have hadmissible := accepts_after_iff.mp h
  exact ⟨hadmissible.cage_lives earlier hmem, hadmissible.grate_lives earlier hmem⟩

/-- **Bound ids have not exited in the role they are bound in.** -/
theorem not_mem_of_lookup (h : ((new native).after ops).lookup cage syscall = some binding) :
    .cageExited cage ∉ ops ∧ .grateExited binding.grate ∉ ops := by
  obtain ⟨before, op, later, rfl, haccepts, -, -, hcage, hgrate⟩ :=
    (lookup_after_iff_stands native ops).mp h
  have hrequest : op.requested? = some (binding.on cage syscall) := haccepts.1
  constructor
  · intro hmem
    rcases List.mem_append.mp hmem with hbefore | hrest
    · have hlives := (reportsExit_of_accepts haccepts hbefore).1
      exact absurd hlives (by simp [Operation.reportsExit, Binding.on])
    · rcases List.mem_cons.mp hrest with rfl | hlater
      · exact absurd hrequest (by simp [Operation.requested?])
      · exact hcage hlater
  · intro hmem
    rcases List.mem_append.mp hmem with hbefore | hrest
    · have hlives := (reportsExit_of_accepts haccepts hbefore).2
      exact absurd hlives (by simp [Operation.reportsExit, Binding.on])
    · rcases List.mem_cons.mp hrest with rfl | hlater
      · exact absurd hrequest (by simp [Operation.requested?])
      · exact hgrate hlater

/-- An id has exited exactly if a report said so in one of the two roles. -/
theorem hasExited_after_iff (native : Native) (ops : List Operation) (process : CageId) :
    ((new native).after ops).hasExited process = true ↔
      .cageExited process ∈ ops ∨ .grateExited ⟨process.raw⟩ ∈ ops := by
  rw [hasExited_after, List.any_eq_true]
  constructor
  · rintro ⟨op, hmem, hreports⟩
    cases op with
    | cageExited cage =>
      obtain rfl : process = cage := of_decide_eq_true hreports
      exact .inl hmem
    | grateExited grate =>
      obtain rfl : process = grate.asCage := of_decide_eq_true hreports
      exact .inr hmem
    | register _ => exact absurd hreports (by simp [Operation.reportsExit])
    | call _ _ _ => exact absurd hreports (by simp [Operation.reportsExit])
    | revoke _ _ => exact absurd hreports (by simp [Operation.reportsExit])
    | attach _ => exact absurd hreports (by simp [Operation.reportsExit])
    | route _ _ _ => exact absurd hreports (by simp [Operation.reportsExit])
  · rintro (hmem | hmem)
    · exact ⟨_, hmem, decide_eq_true rfl⟩
    · exact ⟨_, hmem, decide_eq_true rfl⟩

/-- **Exits of bound ids.**  An id that is bound has not exited in the role it is bound in; it counts
    as exited exactly when its exit was reported in the other role. -/
theorem exits_of_bound_ids (native : Native) (ops : List Operation) (cage : CageId)
    (syscall : SyscallNumber) (handler : HandlerIndex) (grate : GrateId)
    (h : ((new native).after ops).lookup cage syscall = some ⟨handler, grate⟩) :
    .cageExited cage ∉ ops ∧ .grateExited grate ∉ ops ∧
    (((new native).after ops).hasExited cage = true ↔ .grateExited ⟨cage.raw⟩ ∈ ops) ∧
    (((new native).after ops).hasExited grate.asCage = true ↔ .cageExited grate.asCage ∈ ops) := by
  obtain ⟨hcage, hgrate⟩ := not_mem_of_lookup h
  refine ⟨hcage, hgrate, ?_, ?_⟩
  · rw [hasExited_after_iff]
    exact or_iff_right hcage
  · rw [hasExited_after_iff]
    exact or_iff_left hgrate

/-- A cage is bound to a grate, and the exit of the grate is reported as that of a cage. -/
theorem exits_of_bound_ids_as_cage :
    let ops : List Operation := [.register ⟨⟨5⟩, ⟨50⟩, ⟨1⟩, ⟨2⟩⟩, .cageExited ⟨2⟩]
    let table := (new Native.unsupported).after ops
    table.lookup ⟨5⟩ ⟨50⟩ = some ⟨⟨1⟩, ⟨2⟩⟩ ∧
      (table.hasExited (GrateId.asCage ⟨2⟩) = true ↔ .cageExited (GrateId.asCage ⟨2⟩) ∈ ops) := by
  intro ops table
  have hbound : table.lookup ⟨5⟩ ⟨50⟩ = some ⟨⟨1⟩, ⟨2⟩⟩ := by decide
  exact ⟨hbound, (exits_of_bound_ids Native.unsupported ops ⟨5⟩ ⟨50⟩ ⟨1⟩ ⟨2⟩ hbound).2.2.2⟩

/-- **A bound id may have exited**, in either position of the binding: the grate when its exit is
    reported as that of a cage, and the cage when its exit is reported as that of a grate. -/
theorem bound_after_exit_in_other_role :
    let bind : Operation := .register ⟨⟨5⟩, ⟨50⟩, ⟨1⟩, ⟨2⟩⟩
    let afterCage := (new Native.unsupported).after [bind, .cageExited ⟨2⟩]
    let afterGrate := (new Native.unsupported).after [bind, .grateExited ⟨5⟩]
    (afterCage.lookup ⟨5⟩ ⟨50⟩ = some ⟨⟨1⟩, ⟨2⟩⟩ ∧
      afterCage.hasExited (GrateId.asCage ⟨2⟩) = true) ∧
    afterGrate.lookup ⟨5⟩ ⟨50⟩ = some ⟨⟨1⟩, ⟨2⟩⟩ ∧ afterGrate.hasExited ⟨5⟩ = true := by
  decide

/-! ## The dead are not served -/

/-- A cage that was reported as one is bound to nothing. -/
theorem lookup_of_cageExited (h : .cageExited cage ∈ ops) (syscall : SyscallNumber) :
    ((new native).after ops).lookup cage syscall = none := by
  cases hlookup : ((new native).after ops).lookup cage syscall with
  | none => rfl
  | some binding => exact absurd h (not_mem_of_lookup hlookup).1

/-- A dispatcher attached for a grate that nothing is bound to does not change who answers. -/
theorem routed?_attach {table : InterceptionTable} {caller : CageId} {d : Dispatcher}
    (hunbound : ∀ binding, table.lookup caller syscall = some binding → binding.grate ≠ d.grate)
    (args : ArgumentVector) :
    (table.attach d).2.routed? caller syscall args = table.routed? caller syscall args := by
  refine routed?_congr rfl fun binding hlookup => ?_
  unfold handlers?
  rw [dispatcher?_attach, if_neg (hunbound binding hlookup)]

/-- **The dead are never served again.**  After any sequence of operations:

    * a cage whose exit was reported is refused every call but the one that ends it, which changes
      nothing, and that one call is answered by the native implementation;
    * no call and no route asks the dispatcher of a grate whose exit was reported: whoever answers
      is somebody else, the counters of a dispatcher attached for the grate again do not move, and
      whatever dispatcher is attached for it, the answers are the same. -/
theorem dead_are_never_served (native : Native) (ops : List Operation) :
    let table := (new native).after ops
    (∀ cage, .cageExited cage ∈ ops →
      (∀ syscall args, syscall ≠ Syscall.exit →
        table.service cage syscall args = .refused ∧
        table.call cage syscall args = (.value Errno.esrch.status, table)) ∧
      ∀ args, table.service cage Syscall.exit args = .native ∧
        table.call cage Syscall.exit args =
          (.value (native cage Syscall.exit args), table)) ∧
    ∀ grate, .grateExited grate ∈ ops → ∀ caller syscall args,
      (table.service caller syscall args).grate? ≠ some grate ∧
      (∀ s, table.routed? caller syscall args = some s → s.grate? ≠ some grate) ∧
      (table.call caller syscall args).2.dispatcher? grate = table.dispatcher? grate ∧
      (table.route caller syscall args).2.dispatcher? grate = table.dispatcher? grate ∧
      ∀ d : Dispatcher, d.grate = grate →
        ((table.attach d).2.call caller syscall args).1 = (table.call caller syscall args).1 ∧
        ((table.attach d).2.route caller syscall args).1 =
          (table.route caller syscall args).1 := by
  intro table
  constructor
  · intro cage hexit
    have hdead : table.hasExited cage = true :=
      (hasExited_after_iff native ops cage).mpr (.inl hexit)
    constructor
    · intro syscall args hsyscall
      exact ⟨if_pos ⟨hdead, hsyscall⟩, call_of_exited args hdead hsyscall⟩
    · intro args
      -- the call that ends a cage is not reserved, and the cage is bound to nothing any more
      have hservice : table.service cage Syscall.exit args = .native := by
        unfold service routed?
        rw [if_neg (fun h => h.2 rfl), if_neg (by decide), lookup_of_cageExited hexit]
        rfl
      refine ⟨hservice, ?_⟩
      rw [call_eq, hservice, ← native_after native ops]
      rfl
  · intro grate hexit caller syscall args
    have hunbound : ∀ binding, table.lookup caller syscall = some binding →
        binding.grate ≠ grate := by
      rintro binding hlookup rfl
      exact (not_mem_of_lookup hlookup).2 hexit
    have hkeyed : table.Keyed := (Keyed.new native).after ops
    have hservice : (table.service caller syscall args).grate? ≠ some grate := by
      intro h
      obtain ⟨handler, hlookup⟩ := lookup_of_service h
      exact hunbound _ hlookup rfl
    have hrouted : ∀ s, table.routed? caller syscall args = some s → s.grate? ≠ some grate := by
      intro s hs h
      obtain ⟨handler, hlookup⟩ := lookup_of_routed? hs h
      exact hunbound _ hlookup rfl
    refine ⟨hservice, hrouted, ?_, ?_, ?_⟩
    · rw [call_snd]
      exact dispatcher?_served hkeyed hservice
    · obtain ⟨s, hs, hasked⟩ := route_snd table caller syscall args
      rw [hs]
      rcases hasked with hnone | hsome
      · exact dispatcher?_served hkeyed (by rw [hnone]; simp)
      · exact dispatcher?_served hkeyed (hrouted s hsome)
    · rintro d rfl
      have hsame := routed?_attach hunbound args
      have hagrees := table.attach_agrees d
      have hreply (s : Service) : (table.attach d).2.replyOf caller syscall args s =
          table.replyOf caller syscall args s := replyOf_of_agrees hagrees rfl s
      constructor
      · rw [call_eq, call_eq]
        unfold service
        rw [hagrees.hasExited, hsame]
        exact hreply _
      · rw [route_eq, route_eq, hsame]
        cases table.routed? caller syscall args with
        | none => rfl
        | some s => exact congrArg some (hreply s)

/-- A grate is attached and registered, exits, and is attached and registered again; then the cage
    it was registered for exits, and asks to be registered itself. -/
theorem dead_are_never_served_again :
    let d : Dispatcher := .new ⟨2⟩ [.identity "geteuid" 7]
    let bind (cage : Word) : Operation := .register ⟨⟨cage⟩, Syscall.geteuid, ⟨0⟩, ⟨2⟩⟩
    let ops := [.attach d, bind 5, .grateExited ⟨2⟩, .attach d, bind 5, bind 6, .cageExited ⟨5⟩]
    let table := (new Native.unsupported).after ops
    let args : ArgumentVector := .ofOwner ⟨6⟩ (Vector.replicate 6 unusedWord)
    (table.dispatcher? ⟨2⟩).isSome = true ∧
      (table.service ⟨6⟩ Syscall.geteuid args).grate? ≠ some ⟨2⟩ ∧
      table.call ⟨5⟩ Syscall.registerHandler args = (.value Errno.esrch.status, table) := by
  intro d bind ops table args
  obtain ⟨hcages, hgrates⟩ := dead_are_never_served Native.unsupported ops
  have hcage : Operation.cageExited ⟨5⟩ ∈ ops := by simp [ops]
  have hgrate : Operation.grateExited ⟨2⟩ ∈ ops := by simp [ops]
  exact ⟨by decide, (hgrates ⟨2⟩ hgrate ⟨6⟩ Syscall.geteuid args).1,
    ((hcages ⟨5⟩ hcage).1 Syscall.registerHandler args (by decide)).2⟩

end Interposition.InterceptionTable
