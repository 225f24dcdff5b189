/-
  The audit trail reconstructs the table.

  A table writes an event for every change, and keeps the bindings themselves apart from the events.
  Somebody who only reads the trail keeps a map of their own, `BindingMap`, and updates it event by
  event (`AuditEvent.apply`).  The two never come apart:

  1. **Truth of an event** (`AuditEvent.HoldsOf`): an event says something about the map it is read
     at: that a pair was not bound, what it was bound to, how many bindings went away.

  2. **The invariant** (`Accounted`): the trail folds to the lookups of the table, and every event
     holds of the map that the events before it fold to.

  3. **One step** either leaves the table in agreement with itself or adds one event that holds and
     whose effect on the map is the effect on the lookups (`Accounted.extend`).  The only part that
     needs an argument is counting: the number a bulk removal reports is a difference of two list
     lengths, and it has to be the number of pairs bound in the map (`ncard_lookup`).

  `trail_reconstructs_bindings` puts these together and adds what each answer says about its event.
-/
import Mathlib.Data.Set.Card
import Interposition.Proofs.Table.Sequences

namespace Interposition

/-! ## The map of somebody who reads the trail -/

/-- What every pair of a cage and a call is bound to. -/
abbrev BindingMap := CageId → SyscallNumber → Option Binding

namespace BindingMap

/-- Nothing is bound. -/
def empty : BindingMap := fun _ _ => none

/-- The map with another entry for one pair. -/
def update (map : BindingMap) (cage : CageId) (syscall : SyscallNumber)
    (entry : Option Binding) : BindingMap :=
  fun cage' syscall' => if cage' = cage ∧ syscall' = syscall then entry else map cage' syscall'

/-- The pairs that are bound to a grate. -/
def ownedBy (map : BindingMap) (grate : GrateId) : Set (CageId × SyscallNumber) :=
  {pair | ∃ handler, map pair.1 pair.2 = some ⟨handler, grate⟩}

/-- The bound pairs of a cage. -/
def ofCage (map : BindingMap) (cage : CageId) : Set (CageId × SyscallNumber) :=
  {pair | pair.1 = cage ∧ ∃ binding, map pair.1 pair.2 = some binding}

end BindingMap

namespace AuditEvent

/-- What an event does to the map. -/
def apply (map : BindingMap) : AuditEvent → BindingMap
  | .installed r => map.update r.targetCage r.syscall (some r.binding)
  | .replaced r _ => map.update r.targetCage r.syscall (some r.binding)
  | .revoked cage syscall _ => map.update cage syscall none
  | .grateDetached grate _ => fun cage syscall =>
    (map cage syscall).filter fun binding => decide (binding.grate ≠ grate)
  | .cageExited cage _ => fun cage' syscall => if cage' = cage then none else map cage' syscall

/-- What an event says of the map it is read at. -/
def HoldsOf (map : BindingMap) : AuditEvent → Prop
  | .installed r => map r.targetCage r.syscall = none
  | .replaced r previous =>
    map r.targetCage r.syscall = some previous ∧ previous ≠ r.binding
  | .revoked cage syscall binding => map cage syscall = some binding
  | .grateDetached grate removed => removed = (map.ownedBy grate).ncard
  | .cageExited cage removed => removed = (map.ofCage cage).ncard

/-- The map that a trail folds to. -/
def replay (trail : List AuditEvent) : BindingMap := trail.foldl apply .empty

theorem replay_snoc (trail : List AuditEvent) (event : AuditEvent) :
    replay (trail ++ [event]) = event.apply (replay trail) :=
  List.foldl_append

end AuditEvent

/-! ## Counting -/

/-- **Counting**: the pairs whose binding satisfies a condition are as many as the registrations
    that a filter for the condition keeps. -/
theorem Bindings.ncard_lookup (bindings : Bindings) (wanted : Registration → Bool) :
    {pair : CageId × SyscallNumber | ∃ binding, bindings.lookup pair.1 pair.2 = some binding ∧
      wanted (binding.on pair.1 pair.2) = true}.ncard = (bindings.filter wanted).size := by
  -- the pairs are the image of the kept registrations, of which no two are for the same pair
  let kept := bindings.filter wanted
  let pairOf (r : Registration) : CageId × SyscallNumber := (r.targetCage, r.syscall)
  have himage : {pair : CageId × SyscallNumber | ∃ binding,
      bindings.lookup pair.1 pair.2 = some binding ∧ wanted (binding.on pair.1 pair.2) = true} =
      pairOf '' (kept.entries.toFinset : Set Registration) := by
    ext ⟨cage, syscall⟩
    constructor
    · rintro ⟨binding, hlookup, hwanted⟩
      refine ⟨binding.on cage syscall, ?_, rfl⟩
      rw [List.coe_toFinset]
      exact List.mem_filter.mpr ⟨lookup_eq_some_iff.mp hlookup, hwanted⟩
    · rintro ⟨r, hr, hpair⟩
      obtain ⟨rfl, rfl⟩ := Prod.mk.inj hpair
      rw [List.coe_toFinset] at hr
      obtain ⟨hmem, hwanted⟩ := List.mem_filter.mp hr
      exact ⟨r.binding, lookup_of_mem hmem, hwanted⟩
  have hinj : Set.InjOn pairOf (kept.entries.toFinset : Set Registration) := by
    intro a ha b hb hab
    rw [List.coe_toFinset] at ha hb
    obtain ⟨hcage, hcall⟩ := Prod.mk.inj hab
    exact eq_of_mem_of_isFor kept.ordered ha hb hcage hcall
  have hnodup : kept.entries.Nodup := by
    refine List.Pairwise.imp ?_ kept.ordered
    rintro a b h rfl
    exact Registration.Before.irrefl a h
  rw [himage, hinj.ncard_image, Set.ncard_coe_finset, List.toFinset_card_of_nodup hnodup]
  rfl

namespace InterceptionTable

variable {native : Native} {table : InterceptionTable}

/-- The number an exit of a grate answers is the number of pairs bound to it. -/
theorem grateExited_fst (table : InterceptionTable) (grate : GrateId) :
    (table.grateExited grate).1 = (BindingMap.ownedBy table.lookup grate).ncard := by
  have hset : BindingMap.ownedBy table.lookup grate = {pair | ∃ binding,
      table.bindings.lookup pair.1 pair.2 = some binding ∧
        (!decide ((binding.on pair.1 pair.2).grate ≠ grate)) = true} := by
    ext pair
    constructor
    · rintro ⟨handler, h⟩
      exact ⟨⟨handler, grate⟩, h, by simp [Binding.on]⟩
    · rintro ⟨⟨handler, grate'⟩, h, hgrate⟩
      rw [Bool.not_eq_true', decide_eq_false_iff_not, not_not] at hgrate
      obtain rfl : grate' = grate := hgrate
      exact ⟨handler, h⟩
  have hcount := table.bindings.size_filter_add fun r => decide (r.grate ≠ grate)
  rw [hset, Bindings.ncard_lookup table.bindings fun r => !decide (r.grate ≠ grate)]
  show table.bindings.size - (table.bindings.filter fun r => decide (r.grate ≠ grate)).size = _
  omega

/-- The number an exit of a cage answers is the number of its bound pairs. -/
theorem cageExited_fst (table : InterceptionTable) (cage : CageId) :
    (table.cageExited cage).1 = (BindingMap.ofCage table.lookup cage).ncard := by
  have hset : BindingMap.ofCage table.lookup cage = {pair | ∃ binding,
      table.bindings.lookup pair.1 pair.2 = some binding ∧
        (!decide ((binding.on pair.1 pair.2).targetCage ≠ cage)) = true} := by
    ext pair
    constructor
    · rintro ⟨hcage, binding, h⟩
      exact ⟨binding, h, by simp [Binding.on, hcage]⟩
    · rintro ⟨binding, h, hcage⟩
      rw [Bool.not_eq_true', decide_eq_false_iff_not, not_not] at hcage
      exact ⟨hcage, binding, h⟩
  have hcount := table.bindings.size_filter_add fun r => decide (r.targetCage ≠ cage)
  rw [hset, Bindings.ncard_lookup table.bindings fun r => !decide (r.targetCage ≠ cage)]
  show table.bindings.size - (table.bindings.filter fun r => decide (r.targetCage ≠ cage)).size = _
  omega

/-! ## The invariant -/

/-- The trail accounts for the table: it folds to the lookups, and every event holds of the map it
    is read at. -/
structure Accounted (table : InterceptionTable) : Prop where
  folds : AuditEvent.replay table.audit = table.lookup
  holds : ∀ before event later, table.audit = before ++ event :: later →
    event.HoldsOf (AuditEvent.replay before)

namespace Accounted

theorem new (native : Native) : (InterceptionTable.new native).Accounted where
  folds := rfl
  holds before event later h := absurd h (by simp [InterceptionTable.new])

/-- Agreement carries accounts over. -/
theorem of_agrees {other : InterceptionTable} (h : table.Accounted) (hagrees : other.Agrees table) :
    other.Accounted where
  folds := by
    rw [hagrees.audit, h.folds]
    funext cage syscall
    exact (hagrees.lookup cage syscall).symm
  holds := by
    rw [hagrees.audit]
    exact h.holds

/-- **One event more**: it has to hold of the lookups before it, and to do to them what the
    operation does. -/
theorem extend {other : InterceptionTable} {event : AuditEvent} (h : table.Accounted)
    (haudit : other.audit = table.audit ++ [event]) (hholds : event.HoldsOf table.lookup)
    (hlookup : ∀ cage syscall, other.lookup cage syscall = event.apply table.lookup cage syscall) :
    other.Accounted where
  folds := by
    rw [haudit, AuditEvent.replay_snoc, h.folds]
    funext cage syscall
    exact (hlookup cage syscall).symm
  holds before event' later hsplit := by
    rw [haudit] at hsplit
    rcases snoc_eq_append_cons_iff.mp hsplit with ⟨-, rfl, rfl⟩ | ⟨later', -, hsplit'⟩
    · rw [h.folds]
      exact hholds
    · exact h.holds before event' later' hsplit'

theorem register (h : table.Accounted) (r : Registration) : (table.register r).2.Accounted := by
  cases hrefusal : table.refusal? r with
  | some e =>
    rw [register_eq, hrefusal]
    exact h
  | none =>
    have hlookup (cage : CageId) (syscall : SyscallNumber) :
        (table.register r).2.lookup cage syscall =
          BindingMap.update table.lookup r.targetCage r.syscall (some r.binding) cage syscall := by
      rw [lookup_register, hrefusal]
      refine if_congr ?_ rfl rfl
      rw [Registration.isFor_iff]
      exact ⟨fun h => ⟨h.2.1.symm, h.2.2.symm⟩, fun h => ⟨rfl, h.1.symm, h.2.symm⟩⟩
    have haudit : (table.register r).2.audit =
        table.audit ++ (eventOf? r (table.outcome r)).toList := by
      rw [register_eq, hrefusal]
    cases houtcome : table.outcome r with
    | installed =>
      rw [houtcome] at haudit
      exact h.extend haudit (outcome_eq_installed_iff.mp houtcome) hlookup
    | replaced previous =>
      rw [houtcome] at haudit
      exact h.extend haudit (outcome_eq_replaced_iff.mp houtcome) hlookup
    | unchanged =>
      -- nothing is logged, and nothing changes either
      rw [register_of_unchanged hrefusal houtcome]
      exact h

theorem revoke (h : table.Accounted) (cage : CageId) (syscall : SyscallNumber) :
    (table.revoke cage syscall).2.Accounted := by
  cases hbound : table.lookup cage syscall with
  | none =>
    unfold InterceptionTable.revoke
    rw [hbound]
    exact h
  | some binding =>
    have haudit : (table.revoke cage syscall).2.audit =
        table.audit ++ [.revoked cage syscall binding] := by
      rw [revoke_eq, hbound]
      rfl
    exact h.extend haudit hbound fun cage' syscall' =>
      lookup_revoke table cage cage' syscall syscall'

theorem grateExited (h : table.Accounted) (grate : GrateId) :
    (table.grateExited grate).2.Accounted := by
  have haudit : (table.grateExited grate).2.audit =
      table.audit ++ [.grateDetached grate (table.grateExited grate).1] := rfl
  exact h.extend haudit (grateExited_fst table grate) (lookup_grateExited table grate)

theorem cageExited (h : table.Accounted) (cage : CageId) : (table.cageExited cage).2.Accounted := by
  have haudit : (table.cageExited cage).2.audit =
      table.audit ++ [.cageExited cage (table.cageExited cage).1] := rfl
  exact h.extend haudit (cageExited_fst table cage) (lookup_cageExited table cage)

/-- **One step** keeps the accounts. -/
theorem perform (h : table.Accounted) (op : Operation) : (table.perform op).2.Accounted := by
  cases op with
  | register r => exact h.register r
  | call caller syscall args =>
    by_cases hsyscall : syscall = Syscall.registerHandler
    · subst hsyscall
      by_cases hlives : table.CallerLives (.call caller Syscall.registerHandler args)
      · rw [(perform_requested rfl hlives).1]
        exact h.register _
      · rw [(perform_of_exited rfl hlives).1]
        exact h
    · exact h.of_agrees (call_agrees table caller args hsyscall)
  | revoke cage syscall => exact h.revoke cage syscall
  | grateExited grate => exact h.grateExited grate
  | cageExited cage => exact h.cageExited cage
  | attach d => exact h.of_agrees (attach_agrees table d)
  | route caller syscall args => exact h.of_agrees (route_agrees table caller syscall args)

/-- **A whole run** keeps the accounts. -/
theorem after (h : table.Accounted) (ops : List Operation) : (table.after ops).Accounted := by
  induction ops generalizing table with
  | nil => exact h
  | cons op ops ih => exact ih (h.perform op)

end Accounted

/-! ## Answers and events -/

/-- **The answer to a registration names its event**; without an event, nothing changes. -/
theorem register_trail (table : InterceptionTable) (r : Registration) :
    match table.register r with
    | (.ok .installed, next) => next.audit = table.audit ++ [.installed r]
    | (.ok (.replaced previous), next) => next.audit = table.audit ++ [.replaced r previous]
    | (.ok .unchanged, next) => next = table
    | (.error _, next) => next = table := by
  cases hrefusal : table.refusal? r with
  | some e =>
    rw [register_eq, hrefusal]
  | none =>
    cases houtcome : table.outcome r with
    | installed =>
      rw [register_eq, hrefusal, houtcome]
      rfl
    | replaced previous =>
      rw [register_eq, hrefusal, houtcome]
      rfl
    | unchanged =>
      rw [register_of_unchanged hrefusal houtcome]

/-- The answer to a revocation names its event; without one, nothing changes. -/
theorem revoke_trail (table : InterceptionTable) (cage : CageId) (syscall : SyscallNumber) :
    match table.revoke cage syscall with
    | (some binding, next) => next.audit = table.audit ++ [.revoked cage syscall binding]
    | (none, next) => next = table := by
  unfold InterceptionTable.revoke
  cases table.lookup cage syscall <;> rfl

/-- **The trail reconstructs the bindings** of every table that can come about, and tells the truth
    about each.

    * Folding the events gives the lookups, hence the registrations, and each event holds of the
      map it is read at.
    * What a further operation answers is what its event says; an operation that leaves no event
      leaves the table alone.
    * Calls write what the registration they make writes, and nothing otherwise. -/
theorem trail_reconstructs_bindings (native : Native) (ops : List Operation) :
    let table := (new native).after ops
    AuditEvent.replay table.audit = table.lookup ∧
    (∀ r, r ∈ table.registrations ↔
      AuditEvent.replay table.audit r.targetCage r.syscall = some r.binding) ∧
    (∀ before event later, table.audit = before ++ event :: later →
      event.HoldsOf (AuditEvent.replay before)) ∧
    (∀ r, match table.register r with
      | (.ok .installed, next) => next.audit = table.audit ++ [.installed r]
      | (.ok (.replaced previous), next) => next.audit = table.audit ++ [.replaced r previous]
      | (.ok .unchanged, next) => next = table
      | (.error _, next) => next = table) ∧
    (∀ cage syscall, match table.revoke cage syscall with
      | (some binding, next) => next.audit = table.audit ++ [.revoked cage syscall binding]
      | (none, next) => next = table) ∧
    (∀ grate, match table.grateExited grate with
      | (removed, next) => next.audit = table.audit ++ [.grateDetached grate removed] ∧
        removed = (BindingMap.ownedBy (AuditEvent.replay table.audit) grate).ncard ∧
        table.registrations.length = next.registrations.length + removed) ∧
    (∀ cage, match table.cageExited cage with
      | (removed, next) => next.audit = table.audit ++ [.cageExited cage removed] ∧
        removed = (BindingMap.ofCage (AuditEvent.replay table.audit) cage).ncard ∧
        table.registrations.length = next.registrations.length + removed) ∧
    (∀ caller args, (table.call caller Syscall.registerHandler args).2 =
      if table.hasExited caller = true then table
      else (table.register (.ofWords args.values)).2) ∧
    (∀ caller syscall args, syscall ≠ Syscall.registerHandler →
      (table.call caller syscall args).2.Agrees table) ∧
    (∀ caller syscall args, (table.route caller syscall args).2.Agrees table) ∧
    (∀ d, (table.attach d).2.Agrees table) := by
  intro table
  have haccounts : table.Accounted := (Accounted.new native).after ops
  refine ⟨haccounts.folds, fun r => ?_, haccounts.holds, table.register_trail, table.revoke_trail,
    fun grate => ⟨rfl, ?_, ?_⟩, fun cage => ⟨rfl, ?_, ?_⟩, fun caller args => ?_,
    fun caller syscall args => table.call_agrees caller args, table.route_agrees,
    table.attach_agrees⟩
  · rw [haccounts.folds]
    exact (@Bindings.lookup_eq_some_iff table.bindings r.targetCage r.syscall r.binding).symm
  · rw [haccounts.folds]
    exact table.grateExited_fst grate
  · exact (Nat.add_sub_cancel' (List.length_filter_le _ _)).symm
  · rw [haccounts.folds]
    exact table.cageExited_fst cage
  · exact (Nat.add_sub_cancel' (List.length_filter_le _ _)).symm
  · cases hcaller : table.hasExited caller with
    | true =>
      rw [call_of_exited args hcaller (by decide), if_pos rfl]
    | false =>
      rw [call_registerHandler args hcaller, if_neg Bool.false_ne_true]

end InterceptionTable

end Interposition
