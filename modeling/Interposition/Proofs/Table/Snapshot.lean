/-
  Taking down the registrations of a table and making them again elsewhere.

  A table that has been through anything may hold bindings that it would not make again: a cage may
  have exited whose id is also that of a grate, and the bindings of the grate are kept.  In a table
  in which nothing has happened there is nobody to be dead, so all that is left to refuse a
  registration for is its own words.

  1. **The invariant** (`WellBound`): what is bound is well-formed.  One operation keeps this
     (`WellBound.perform`), because what it binds it has accepted, and so does a sequence.

  2. **Making registrations** (`registerAll_of_new`): where nothing is refused, nothing is bound
     and no pair comes twice, each one is installed, and what is left is known exactly.  Each step
     leaves the others new to the table, so the induction is on the list.

  3. **Order** (`mem_insertAll_iff`): which registrations are listed in the end does not depend on
     the order in which they came, and the list of a table is in order anyway.
-/
import Interposition.Proofs.Table.Trace

namespace Interposition

/-! ## Inserting many -/

namespace Registration

/-- Two registrations are for different pairs. -/
def Apart (a b : Registration) : Prop := b.isFor a.targetCage a.syscall = false

theorem Apart.symm {a b : Registration} (h : a.Apart b) : b.Apart a := by
  unfold Apart at h ⊢
  rw [Bool.eq_false_iff] at h ⊢
  intro hfor
  obtain ⟨hcage, hcall⟩ := isFor_iff.mp hfor
  exact h (isFor_iff.mpr ⟨hcage.symm, hcall.symm⟩)

end Registration

namespace Bindings

/-- The bindings with registrations made one after another. -/
def insertAll (bindings : Bindings) (rs : List Registration) : Bindings :=
  rs.foldl insert bindings

/-- The registrations of a table are for different pairs, in whatever order they are put. -/
theorem pairwise_apart (bindings : Bindings) {order : List Registration}
    (h : order.Perm bindings.entries) : order.Pairwise Registration.Apart := by
  rw [h.pairwise_iff fun hab => hab.symm]
  exact bindings.ordered.imp fun hab => Registration.isFor_of_before (.inl hab)

/-- **What is listed in the end** was listed before for another pair, or has come. -/
theorem mem_insertAll_iff (bindings : Bindings) {rs : List Registration}
    (apart : rs.Pairwise Registration.Apart) (y : Registration) :
    y ∈ (bindings.insertAll rs).entries ↔
      y ∈ rs ∨ (y ∈ bindings.entries ∧ ∀ r ∈ rs, r.Apart y) := by
  induction apart generalizing bindings with
  | nil => simp [insertAll]
  | @cons r rs hr _ ih =>
    have hinsert : y ∈ (bindings.insert r).entries ↔
        y = r ∨ (y ∈ bindings.entries ∧ r.Apart y) := mem_insertOrdered_iff bindings.ordered
    show y ∈ ((bindings.insert r).insertAll rs).entries ↔ _
    rw [ih (bindings.insert r), hinsert, List.mem_cons, List.forall_mem_cons]
    constructor
    · rintro (hy | ⟨rfl | ⟨hy, hfirst⟩, hrest⟩)
      · exact .inl (.inr hy)
      · exact .inl (.inl rfl)
      · exact .inr ⟨hy, hfirst, hrest⟩
    · rintro ((rfl | hy) | ⟨hy, hfirst, hrest⟩)
      · exact .inr ⟨.inl rfl, fun other hother => (hr other hother).symm⟩
      · exact .inl hy
      · exact .inr ⟨.inr ⟨hy, hfirst⟩, hrest⟩

/-- **Order**: what is inserted into nothing in whatever order is in order. -/
theorem insertAll_perm (bindings : Bindings) {order : List Registration}
    (h : order.Perm bindings.entries) : empty.insertAll order = bindings := by
  have hmem (r : Registration) : r ∈ (empty.insertAll order).entries ↔ r ∈ bindings.entries := by
    rw [mem_insertAll_iff empty (bindings.pairwise_apart h), ← h.mem_iff]
    simp [empty]
  have hentries := eq_of_mem_iff (empty.insertAll order).ordered bindings.ordered hmem
  exact (Bindings.mk.injEq ..).mpr hentries

end Bindings

namespace InterceptionTable

variable {native : Native} {table : InterceptionTable}

/-! ## Making registrations -/

/-- Makes registrations one after another.  Also what each was answered. -/
def registerAll (table : InterceptionTable) :
    List Registration → List (Except RegistrationError RegistrationOutcome) × InterceptionTable
  | [] => ([], table)
  | r :: rs =>
    let (verdict, next) := table.register r
    let (verdicts, last) := next.registerAll rs
    (verdict :: verdicts, last)

/-- The table with a registration installed. -/
def install (table : InterceptionTable) (r : Registration) : InterceptionTable :=
  { table with
    bindings := table.bindings.insert r
    audit := table.audit ++ [.installed r] }

/-- A registration that a table has nothing against and nothing for. -/
structure NewTo (r : Registration) (table : InterceptionTable) : Prop where
  accepted : table.refusal? r = none
  unbound : table.lookup r.targetCage r.syscall = none

theorem NewTo.register {r : Registration} (h : NewTo r table) :
    table.register r = (.ok .installed, table.install r) := by
  have hinstalled : table.outcome r = .installed := outcome_eq_installed_iff.mpr h.unbound
  rw [register_eq, h.accepted, hinstalled]
  rfl

/-- Installing a registration leaves the others new to the table. -/
theorem NewTo.install {r other : Registration} (h : NewTo other table) (apart : r.Apart other) :
    NewTo other (table.install r) where
  accepted := h.accepted
  unbound := by
    show (table.bindings.insert r).lookup other.targetCage other.syscall = none
    have hother : r.isFor other.targetCage other.syscall = false := apart.symm
    rw [Bindings.lookup_insert, hother, if_neg Bool.false_ne_true]
    exact h.unbound

/-- **Making registrations** that are all new installs each of them. -/
theorem registerAll_of_new {rs : List Registration} (apart : rs.Pairwise Registration.Apart)
    (hnew : ∀ r ∈ rs, NewTo r table) :
    table.registerAll rs = (rs.map fun _ => .ok .installed, { table with
      bindings := table.bindings.insertAll rs
      audit := table.audit ++ rs.map .installed }) := by
  induction apart generalizing table with
  | nil =>
    show ([], table) = ([], { table with audit := table.audit ++ [] })
    rw [List.append_nil]
  | @cons r rs hr _ ih =>
    have hrest : ∀ other ∈ rs, NewTo other (table.install r) := fun other hother =>
      (hnew other (List.mem_cons_of_mem r hother)).install (hr other hother)
    have hfirst : table.register r = (.ok .installed, table.install r) :=
      (hnew r List.mem_cons_self).register
    have haudit : (table.install r).audit ++ rs.map AuditEvent.installed =
        table.audit ++ (r :: rs).map AuditEvent.installed := by
      show (table.audit ++ [.installed r]) ++ rs.map _ = _
      rw [List.append_assoc]
      rfl
    rw [registerAll, hfirst]
    show (.ok .installed :: ((table.install r).registerAll rs).1,
      ((table.install r).registerAll rs).2) = _
    rw [ih hrest, haudit]
    rfl

/-! ## What is bound -/

/-- What is bound could be asked for again, as far as its words go. -/
def WellBound (table : InterceptionTable) : Prop :=
  ∀ cage syscall binding, table.lookup cage syscall = some binding →
    (binding.on cage syscall).WellFormed

namespace WellBound

theorem new (native : Native) : WellBound (.new native) :=
  fun _ _ _ h => absurd h (by simp [lookup, InterceptionTable.new])

/-- **One operation** binds what it accepts, and nothing else is bound that was not. -/
theorem perform (h : table.WellBound) (op : Operation) : (table.perform op).2.WellBound := by
  intro cage syscall binding hbound
  rcases lookup_perform_iff.mp hbound with haccepts | ⟨hbefore, -⟩
  · obtain ⟨-, -, hrefusal⟩ := accepts_iff.mp haccepts
    exact (refusal?_eq_none_iff.mp hrefusal).1
  · exact h cage syscall binding hbefore

/-- **A sequence** does so too. -/
theorem after (h : table.WellBound) (ops : List Operation) : (table.after ops).WellBound := by
  induction ops generalizing table with
  | nil => exact h
  | cons op ops ih => exact ih (h.perform op)

/-- What is listed is new to a table in which nothing has happened. -/
theorem newTo (h : table.WellBound) (fresh : Native) {r : Registration}
    (hr : r ∈ table.registrations) : NewTo r (.new fresh) where
  accepted := by
    have hbound : table.lookup r.targetCage r.syscall = some r.binding := Bindings.lookup_of_mem hr
    exact refusal?_eq_none_iff.mpr ⟨h _ _ _ hbound, rfl, rfl⟩
  unbound := rfl

/-- **Restoring** a table's registrations, in whatever order, gives its bindings and nothing
    else. -/
theorem registerAll (h : table.WellBound) (fresh : Native) {order : List Registration}
    (hperm : order.Perm table.registrations) :
    (InterceptionTable.new fresh).registerAll order =
      (order.map fun _ => .ok .installed, { InterceptionTable.new fresh with
        bindings := table.bindings
        audit := order.map .installed }) := by
  have hnew : ∀ r ∈ order, NewTo r (.new fresh) := fun r hr =>
    h.newTo fresh (hperm.mem_iff.mp hr)
  rw [registerAll_of_new (table.bindings.pairwise_apart hperm) hnew]
  have hbindings : (InterceptionTable.new fresh).bindings.insertAll order = table.bindings :=
    table.bindings.insertAll_perm hperm
  rw [hbindings]
  rfl

end WellBound

/-! ## Snapshots -/

/-- **A snapshot restores.**  Whatever a table has been through, its registrations can be made again
    in a table in which nothing has happened, in any order: each of them is installed, every pair
    is bound as it was, and the same registrations are listed. -/
theorem snapshot_restores (native fresh : Native) (ops : List Operation)
    {order : List Registration} (hperm : order.Perm ((new native).after ops).registrations) :
    let (verdicts, restored) := (new fresh).registerAll order
    verdicts = order.map (fun _ => .ok .installed) ∧
    (∀ cage syscall,
      restored.lookup cage syscall = ((new native).after ops).lookup cage syscall) ∧
    restored.registrations = ((new native).after ops).registrations := by
  have hbound : ((new native).after ops).WellBound := (WellBound.new native).after ops
  rw [hbound.registerAll fresh hperm]
  exact ⟨rfl, fun _ _ => rfl, rfl⟩

/-- A grate is overwritten and exits, a registration is refused, and a cage exits whose id the other
    grate has.  What is bound to that grate could not be registered there again, but it can be
    elsewhere. -/
theorem snapshot_restores_reversed :
    let ops : List Operation := [.register ⟨⟨5⟩, ⟨107⟩, ⟨0⟩, ⟨2⟩⟩, .register ⟨⟨5⟩, ⟨107⟩, ⟨1⟩, ⟨3⟩⟩,
      .register ⟨⟨5⟩, ⟨50⟩, ⟨4⟩, ⟨3⟩⟩, .register ⟨⟨6⟩, ⟨50⟩, ⟨0⟩, ⟨2⟩⟩,
      .register ⟨⟨5⟩, ⟨400⟩, ⟨0⟩, ⟨3⟩⟩, .grateExited ⟨2⟩, .cageExited ⟨3⟩]
    let table := (new Native.unsupported).after ops
    let order : List Registration := [⟨⟨5⟩, ⟨107⟩, ⟨1⟩, ⟨3⟩⟩, ⟨⟨5⟩, ⟨50⟩, ⟨4⟩, ⟨3⟩⟩]
    order.Perm table.registrations ∧ (∀ r ∈ order, table.refusal? r = some (.exited ⟨3⟩)) ∧
      ((new Native.unsupported).registerAll order).1 = [.ok .installed, .ok .installed] ∧
      ((new Native.unsupported).registerAll order).2.registrations = table.registrations := by
  intro ops table order
  have hperm : order.Perm table.registrations := by decide
  have hrestores := snapshot_restores Native.unsupported Native.unsupported ops hperm
  exact ⟨hperm, by decide, hrestores.1, hrestores.2.2⟩

end InterceptionTable

end Interposition
