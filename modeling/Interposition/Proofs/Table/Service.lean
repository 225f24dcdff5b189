/-
  Who answers a call.

  A call is answered by one of six: by nobody, because the caller is dead; by the table itself, which
  is asked to register; by a handler of the grate the call is bound to; by that grate's dispatcher,
  when it has no handler with the index; by the table on behalf of a grate that has no dispatcher;
  or by the native implementation.  `Service` names them, and a handler that is run is named with
  everything it is run with.

  1. **Dispatchers by grate** (`lookup_setDispatcher`, `Keyed`): every dispatcher is found under
     the grate it serves, and running a handler moves the counters of one of them.

  2. **Calls are services** (`route_eq`, `call_eq`): what a call answers and what becomes of the
     table, in terms of who answers.  Everything said about services below is said about calls and
     routes by these two equations.
-/
import Interposition.Proofs.Table.Sequences

namespace Interposition

/-! ## Running a handler -/

namespace Dispatcher

/-- The dispatcher with a call for an index counted. -/
def counting (d : Dispatcher) (index : HandlerIndex) : Dispatcher :=
  if (d.table.get? index).isSome then
    { d with stats.dispatched := d.stats.dispatched + 1 }
  else { d with stats.rejected := d.stats.rejected + 1 }

@[simp] theorem counting_grate (d : Dispatcher) (index : HandlerIndex) :
    (d.counting index).grate = d.grate := by
  unfold counting
  split <;> rfl

@[simp] theorem counting_table (d : Dispatcher) (index : HandlerIndex) :
    (d.counting index).table = d.table := by
  unfold counting
  split <;> rfl

/-- **Dispatch**: the handler with the index answers, or the refusal does, and the call is
    counted. -/
theorem dispatch_eq (d : Dispatcher) (index : HandlerIndex) (caller : CageId)
    (args : ArgumentVector) :
    d.dispatch index caller args =
      (match d.table.get? index with
        | some handler => handler.run caller args
        | none => .value refusal, d.counting index) := by
  unfold dispatch dispatchBy tryDispatchBy counting
  cases d.table.get? index <;> rfl

end Dispatcher

namespace InterceptionTable

variable {native : Native} {table other : InterceptionTable} {caller : CageId}
  {syscall : SyscallNumber} {args : ArgumentVector}

/-! ## Dispatchers by grate -/

theorem lookup_cons_eq_ite (key grate : GrateId) (d : Dispatcher)
    (rest : List (GrateId × Dispatcher)) :
    ((key, d) :: rest).lookup grate = if grate = key then some d else rest.lookup grate := by
  rw [List.lookup_cons]
  by_cases h : grate = key
  · rw [if_pos h, beq_iff_eq.mpr h]
  · rw [if_neg h, beq_eq_false_iff_ne.mpr h]

theorem lookup_setDispatcher (d : Dispatcher) (attached : List (GrateId × Dispatcher))
    (grate : GrateId) :
    (setDispatcher d attached).lookup grate =
      if grate = d.grate then some d else attached.lookup grate := by
  induction attached with
  | nil => exact lookup_cons_eq_ite d.grate grate d []
  | cons entry rest ih =>
    obtain ⟨key, former⟩ := entry
    unfold setDispatcher
    by_cases hkey : key = d.grate
    · subst hkey
      rw [if_pos rfl, lookup_cons_eq_ite, lookup_cons_eq_ite]
      split <;> rfl
    · rw [if_neg hkey, lookup_cons_eq_ite, lookup_cons_eq_ite, ih]
      by_cases h : grate = key
      · subst h
        rw [if_pos rfl, if_neg hkey, if_pos rfl]
      · rw [if_neg h, if_neg h]

/-- A dispatcher set for its grate is the one found there, and nothing else changes. -/
theorem dispatcher?_attach (table : InterceptionTable) (d : Dispatcher) (grate : GrateId) :
    (table.attach d).2.dispatcher? grate =
      if grate = d.grate then some d else table.dispatcher? grate :=
  lookup_setDispatcher d table.attached grate

theorem dispatcher?_grateExited (table : InterceptionTable) (gone grate : GrateId) :
    (table.grateExited gone).2.dispatcher? grate =
      if grate = gone then none else table.dispatcher? grate := by
  show (table.attached.filter fun entry => decide (entry.1 ≠ gone)).lookup grate =
    if grate = gone then none else table.attached.lookup grate
  induction table.attached with
  | nil => exact (ite_self none).symm
  | cons entry rest ih =>
    obtain ⟨key, d⟩ := entry
    by_cases hkey : key = gone
    · subst hkey
      rw [List.filter_cons_of_neg (by simp), ih, lookup_cons_eq_ite]
      split <;> rfl
    · rw [List.filter_cons_of_pos (by simpa using hkey), lookup_cons_eq_ite, lookup_cons_eq_ite,
        ih]
      by_cases h : grate = key
      · subst h
        rw [if_pos rfl, if_neg hkey, if_pos rfl]
      · rw [if_neg h, if_neg h]

theorem dispatcher?_register (table : InterceptionTable) (r : Registration) (grate : GrateId) :
    (table.register r).2.dispatcher? grate = table.dispatcher? grate := by
  rw [register_eq]
  cases table.refusal? r <;> rfl

theorem dispatcher?_revoke (table : InterceptionTable) (cage : CageId) (number : SyscallNumber)
    (grate : GrateId) :
    (table.revoke cage number).2.dispatcher? grate = table.dispatcher? grate := by
  rw [revoke_eq]
  rfl

/-- The handlers through which the calls bound to a grate are served. -/
def handlers? (table : InterceptionTable) (grate : GrateId) : Option HandlerTable :=
  (table.dispatcher? grate).map Dispatcher.table

theorem isSome_handlers? (table : InterceptionTable) (grate : GrateId) :
    (table.handlers? grate).isSome = table.isAttached grate := Option.isSome_map

theorem handlers?_attach (table : InterceptionTable) (d : Dispatcher) (grate : GrateId) :
    (table.attach d).2.handlers? grate =
      if grate = d.grate then some d.table else table.handlers? grate := by
  unfold handlers?
  rw [dispatcher?_attach]
  exact apply_ite _ _ _ _

theorem handlers?_grateExited (table : InterceptionTable) (gone grate : GrateId) :
    (table.grateExited gone).2.handlers? grate =
      if grate = gone then none else table.handlers? grate := by
  unfold handlers?
  rw [dispatcher?_grateExited]
  exact apply_ite _ _ _ _

/-- Every dispatcher is found under the grate it serves. -/
def Keyed (table : InterceptionTable) : Prop :=
  ∀ grate d, table.dispatcher? grate = some d → d.grate = grate

/-- The table with a call for an index of a grate's handlers counted by the grate's dispatcher. -/
def counting (table : InterceptionTable) (grate : GrateId) (index : HandlerIndex) :
    InterceptionTable :=
  match table.dispatcher? grate with
  | none => table
  | some d => { table with attached := setDispatcher (d.counting index) table.attached }

theorem counting_native (table : InterceptionTable) (grate : GrateId) (index : HandlerIndex) :
    (table.counting grate index).native = table.native := by
  unfold counting
  split <;> rfl

/-- Counting moves the counters of one grate. -/
theorem dispatcher?_counting (h : table.Keyed) (counted : GrateId) (index : HandlerIndex)
    (grate : GrateId) :
    (table.counting counted index).dispatcher? grate =
      if grate = counted then (table.dispatcher? counted).map (·.counting index)
      else table.dispatcher? grate := by
  unfold counting
  cases hd : table.dispatcher? counted with
  | none =>
    by_cases hgrate : grate = counted
    · rw [if_pos hgrate, hgrate]
      exact hd
    · rw [if_neg hgrate]
  | some d =>
    have hkey : (d.counting index).grate = counted := by
      rw [Dispatcher.counting_grate]
      exact h counted d hd
    show (setDispatcher (d.counting index) table.attached).lookup grate = _
    rw [lookup_setDispatcher, hkey]
    rfl

/-! ## Services -/

/-- A handler that is run: the grate under which its dispatcher is attached, its index there, the
    handler itself, for whom it is run and with what. -/
structure HandlerRun where
  grate : GrateId
  index : HandlerIndex
  handler : Handler
  caller : CageId
  args : ArgumentVector

/-- What a handler that is run answers. -/
def HandlerRun.reply (run : HandlerRun) : Reply := run.handler.run run.caller run.args

/-- Who answers a call. -/
inductive Service where
  /-- Nobody: the caller has exited. -/
  | refused
  /-- The table, which is asked for a registration. -/
  | registry (r : Registration)
  /-- A handler of the grate the call is bound to. -/
  | handler (run : HandlerRun)
  /-- The dispatcher of that grate, which has no handler with the index. -/
  | misdirected (grate : GrateId) (index : HandlerIndex)
  /-- Nobody: the grate has no dispatcher. -/
  | unreachable (grate : GrateId)
  /-- The native implementation. -/
  | native

/-- The grate whose dispatcher a service asks, if it asks one. -/
def Service.grate? : Service → Option GrateId
  | .handler run => some run.grate
  | .misdirected grate _ => some grate
  | _ => none

/-- Who answers a call that a binding sends to a grate. -/
def serviceOf (table : InterceptionTable) (caller : CageId) (args : ArgumentVector)
    (binding : Binding) : Service :=
  match table.dispatcher? binding.grate with
  | none => .unreachable binding.grate
  | some d =>
    match d.table.get? binding.handler with
    | none => .misdirected binding.grate binding.handler
    | some handler => .handler ⟨binding.grate, binding.handler, handler, caller, args⟩

/-- Who answers a routed call, if the call is bound. -/
def routed? (table : InterceptionTable) (caller : CageId) (syscall : SyscallNumber)
    (args : ArgumentVector) : Option Service :=
  (table.lookup caller syscall).map (table.serviceOf caller args)

/-- Who answers a call. -/
def service (table : InterceptionTable) (caller : CageId) (syscall : SyscallNumber)
    (args : ArgumentVector) : Service :=
  if table.hasExited caller = true ∧ syscall ≠ Syscall.exit then .refused
  else if syscall = Syscall.registerHandler then .registry (.ofWords args.values)
  else (table.routed? caller syscall args).getD .native

/-- What a service answers. -/
def replyOf (table : InterceptionTable) (caller : CageId) (syscall : SyscallNumber)
    (args : ArgumentVector) : Service → Reply
  | .refused => .value Errno.esrch.status
  | .registry r => .value (statusOf (table.register r).1)
  | .handler run => run.reply
  | .misdirected _ _ => .value Dispatcher.refusal
  | .unreachable _ => .value Errno.esrch.status
  | .native => .value (table.native caller syscall args)

/-- What a service makes of the table. -/
def served (table : InterceptionTable) : Service → InterceptionTable
  | .registry r => (table.register r).2
  | .handler run => table.counting run.grate run.index
  | .misdirected grate index => table.counting grate index
  | _ => table

/-- **Routes are services.** -/
theorem route_eq (table : InterceptionTable) (caller : CageId) (syscall : SyscallNumber)
    (args : ArgumentVector) :
    table.route caller syscall args =
      match table.routed? caller syscall args with
      | none => (none, table)
      | some s => (some (table.replyOf caller syscall args s), table.served s) := by
  unfold route routed?
  cases table.lookup caller syscall with
  | none => rfl
  | some binding =>
    show _ = (some (table.replyOf caller syscall args (table.serviceOf caller args binding)),
      table.served (table.serviceOf caller args binding))
    unfold serviceOf
    cases hd : table.dispatcher? binding.grate with
    | none =>
      simp only [hd]
      rfl
    | some d =>
      have hcounting (index : HandlerIndex) : table.counting binding.grate index =
          { table with attached := setDispatcher (d.counting index) table.attached } := by
        unfold counting
        rw [hd]
      simp only [hd, d.dispatch_eq]
      cases d.table.get? binding.handler with
      | none => simp only [replyOf, served, hcounting]
      | some handler =>
        simp only [replyOf, served, hcounting]
        rfl

/-- **Calls are services.** -/
theorem call_eq (table : InterceptionTable) (caller : CageId) (syscall : SyscallNumber)
    (args : ArgumentVector) :
    table.call caller syscall args =
      (table.replyOf caller syscall args (table.service caller syscall args),
        table.served (table.service caller syscall args)) := by
  unfold service
  by_cases hdead : table.hasExited caller = true ∧ syscall ≠ Syscall.exit
  · rw [if_pos hdead]
    exact call_of_exited args hdead.1 hdead.2
  · rw [if_neg hdead]
    unfold call
    rw [if_neg hdead]
    by_cases hregister : syscall = Syscall.registerHandler
    · rw [if_pos hregister, if_pos hregister]
      show _ = (Reply.value (statusOf (table.register _).1), (table.register _).2)
      rcases table.register (.ofWords args.values) with ⟨_ | _, _⟩ <;> rfl
    · rw [if_neg hregister, if_neg hregister, route_eq]
      cases table.routed? caller syscall args <;> rfl

/-! ## What a service depends on -/

theorem serviceOf_grate? {binding : Binding} {grate : GrateId}
    (h : (table.serviceOf caller args binding).grate? = some grate) : binding.grate = grate := by
  unfold serviceOf at h
  cases hd : table.dispatcher? binding.grate with
  | none =>
    rw [hd] at h
    exact absurd h (by simp [Service.grate?])
  | some d =>
    simp only [hd] at h
    cases hhandler : d.table.get? binding.handler <;> simp only [hhandler] at h <;>
      exact Option.some.inj h

/-- A route asks the dispatcher of the grate its call is bound to. -/
theorem lookup_of_routed? {s : Service} {grate : GrateId}
    (h : table.routed? caller syscall args = some s) (hgrate : s.grate? = some grate) :
    ∃ handler, table.lookup caller syscall = some ⟨handler, grate⟩ := by
  unfold routed? at h
  obtain ⟨binding, hlookup, rfl⟩ := Option.map_eq_some_iff.mp h
  obtain rfl := serviceOf_grate? hgrate
  exact ⟨binding.handler, hlookup⟩

/-- And so does a call. -/
theorem lookup_of_service {grate : GrateId}
    (h : (table.service caller syscall args).grate? = some grate) :
    ∃ handler, table.lookup caller syscall = some ⟨handler, grate⟩ := by
  unfold service at h
  split at h
  · exact absurd h (by simp [Service.grate?])
  · split at h
    · exact absurd h (by simp [Service.grate?])
    · cases hrouted : table.routed? caller syscall args with
      | none =>
        rw [hrouted] at h
        exact absurd h (by simp [Service.grate?])
      | some s =>
        rw [hrouted] at h
        exact lookup_of_routed? hrouted h

/-- A call that reaches nobody is bound to a grate without a dispatcher. -/
theorem lookup_of_unreachable {grate : GrateId}
    (h : table.service caller syscall args = .unreachable grate) :
    ∃ binding, table.lookup caller syscall = some binding ∧ binding.grate = grate ∧
      table.dispatcher? binding.grate = none := by
  unfold service routed? at h
  split at h
  · contradiction
  · split at h
    · contradiction
    · cases hlookup : table.lookup caller syscall with
      | none =>
        rw [hlookup] at h
        contradiction
      | some binding =>
        rw [hlookup] at h
        have h : table.serviceOf caller args binding = .unreachable grate := h
        unfold serviceOf at h
        cases hd : table.dispatcher? binding.grate with
        | none =>
          rw [hd] at h
          exact ⟨binding, rfl, Service.unreachable.inj h, hd⟩
        | some d =>
          simp only [hd] at h
          cases hhandler : d.table.get? binding.handler <;> simp only [hhandler] at h <;>
            contradiction

/-- Who answers a call whose grate has these handlers, if it has any. -/
def Service.through (handlers : Option HandlerTable) (caller : CageId) (args : ArgumentVector)
    (binding : Binding) : Service :=
  match handlers with
  | none => .unreachable binding.grate
  | some handlers =>
    match handlers.get? binding.handler with
    | none => .misdirected binding.grate binding.handler
    | some found => .handler ⟨binding.grate, binding.handler, found, caller, args⟩

/-- **Of a dispatcher only the handlers matter** to who answers. -/
theorem serviceOf_eq (table : InterceptionTable) (caller : CageId) (args : ArgumentVector)
    (binding : Binding) :
    table.serviceOf caller args binding =
      .through (table.handlers? binding.grate) caller args binding := by
  unfold serviceOf handlers?
  cases table.dispatcher? binding.grate <;> rfl

/-- A call by the living that is bound is answered through the handlers of its grate. -/
theorem service_of_bound {binding : Binding} (lives : table.hasExited caller = false)
    (hsyscall : syscall ≠ Syscall.registerHandler)
    (hlookup : table.lookup caller syscall = some binding) (args : ArgumentVector) :
    table.service caller syscall args =
      .through (table.handlers? binding.grate) caller args binding := by
  unfold service routed?
  rw [if_neg (by simp [lives]), if_neg hsyscall, hlookup, Option.map_some, serviceOf_eq]
  rfl

/-- Handlers that are asked answer as any dispatcher of theirs would. -/
theorem replyOf_through (table : InterceptionTable) (d : Dispatcher) (caller : CageId)
    (syscall : SyscallNumber) (args : ArgumentVector) (binding : Binding) :
    table.replyOf caller syscall args (.through (some d.table) caller args binding) =
      (d.dispatch binding.handler caller args).1 := by
  rw [d.dispatch_eq]
  unfold Service.through
  cases hhandler : d.table.get? binding.handler <;> simp only [hhandler] <;> rfl

/-- **Services are alike** on tables that bind the call alike and that have the same handlers where
    it is bound to. -/
theorem routed?_congr (hlookup : table.lookup caller syscall = other.lookup caller syscall)
    (hhandlers : ∀ binding, table.lookup caller syscall = some binding →
      table.handlers? binding.grate = other.handlers? binding.grate) :
    table.routed? caller syscall args = other.routed? caller syscall args := by
  unfold routed?
  rw [← hlookup]
  cases hbound : table.lookup caller syscall with
  | none => rfl
  | some binding =>
    rw [Option.map_some, Option.map_some, serviceOf_eq, serviceOf_eq, hhandlers binding hbound]

theorem service_congr (hexited : table.hasExited caller = other.hasExited caller)
    (hlookup : table.lookup caller syscall = other.lookup caller syscall)
    (hhandlers : ∀ binding, table.lookup caller syscall = some binding →
      table.handlers? binding.grate = other.handlers? binding.grate) :
    table.service caller syscall args = other.service caller syscall args := by
  unfold service
  rw [hexited, routed?_congr hlookup hhandlers]

/-- What a service answers depends on bindings, exits and the native implementation only. -/
theorem replyOf_of_agrees (h : table.Agrees other) (hnative : table.native = other.native)
    (s : Service) :
    table.replyOf caller syscall args s = other.replyOf caller syscall args s := by
  cases s with
  | registry r =>
    show Reply.value (statusOf (table.register r).1) = .value (statusOf (other.register r).1)
    rw [register_eq, register_eq, h.refusal?, h.outcome]
    cases other.refusal? r <;> rfl
  | native =>
    show Reply.value (table.native caller syscall args) = .value (other.native caller syscall args)
    rw [hnative]
  | refused => rfl
  | handler run => rfl
  | misdirected grate index => rfl
  | unreachable grate => rfl

/-- A call of any other number is not a request. -/
theorem service_ne_registry (hsyscall : syscall ≠ Syscall.registerHandler) (r : Registration) :
    table.service caller syscall args ≠ .registry r := by
  unfold service routed?
  rw [if_neg hsyscall]
  split
  · exact Service.noConfusion
  · cases table.lookup caller syscall with
    | none => exact Service.noConfusion
    | some binding =>
      show table.serviceOf caller args binding ≠ .registry r
      unfold serviceOf
      split
      · exact Service.noConfusion
      · split <;> exact Service.noConfusion

/-- Unless it is the table that is asked, what a service answers is a matter of the native
    implementation at most. -/
theorem replyOf_congr (hnative : table.native = other.native) {s : Service}
    (hs : ∀ r, s ≠ .registry r) :
    table.replyOf caller syscall args s = other.replyOf caller syscall args s := by
  cases s with
  | registry r => exact absurd rfl (hs r)
  | native =>
    show Reply.value (table.native caller syscall args) = .value (other.native caller syscall args)
    rw [hnative]
  | refused => rfl
  | handler run => rfl
  | misdirected grate index => rfl
  | unreachable grate => rfl

/-- A service leaves alone the dispatchers it does not ask. -/
theorem dispatcher?_served (h : table.Keyed) {s : Service} {grate : GrateId}
    (hgrate : s.grate? ≠ some grate) :
    (table.served s).dispatcher? grate = table.dispatcher? grate := by
  cases s with
  | registry r => exact dispatcher?_register table r grate
  | handler run =>
    have hne : grate ≠ run.grate := fun heq => hgrate (congrArg some heq.symm)
    exact (dispatcher?_counting h run.grate run.index grate).trans (if_neg hne)
  | misdirected asked index =>
    have hne : grate ≠ asked := fun heq => hgrate (congrArg some heq.symm)
    exact (dispatcher?_counting h asked index grate).trans (if_neg hne)
  | refused => rfl
  | unreachable _ => rfl
  | native => rfl

/-- Running a handler or refusing to only moves counters, so the dispatchers keep their handlers. -/
theorem dispatcher?_served_table (h : table.Keyed) (s : Service) (grate : GrateId) :
    ((table.served s).dispatcher? grate).map (fun d => (d.grate, d.table)) =
      (table.dispatcher? grate).map fun d => (d.grate, d.table) := by
  have hcounting (counted : GrateId) (index : HandlerIndex) :
      ((table.counting counted index).dispatcher? grate).map (fun d => (d.grate, d.table)) =
        (table.dispatcher? grate).map fun d => (d.grate, d.table) := by
    rw [dispatcher?_counting h]
    by_cases heq : grate = counted
    · rw [if_pos heq, heq, Option.map_map]
      congr 1
      funext d
      simp
    · rw [if_neg heq]
  cases s with
  | registry r => rw [served, dispatcher?_register]
  | handler run => exact hcounting run.grate run.index
  | misdirected asked index => exact hcounting asked index
  | refused => rfl
  | unreachable _ => rfl
  | native => rfl

/-! ## Sequences -/

/-- What a table is left with by a call or by a route. -/
theorem call_snd (table : InterceptionTable) (caller : CageId) (syscall : SyscallNumber)
    (args : ArgumentVector) : (table.call caller syscall args).2 =
      table.served (table.service caller syscall args) := by
  rw [call_eq]

theorem route_snd (table : InterceptionTable) (caller : CageId) (syscall : SyscallNumber)
    (args : ArgumentVector) :
    ∃ s, (table.route caller syscall args).2 = table.served s ∧
      (s.grate? = none ∨ table.routed? caller syscall args = some s) := by
  rw [route_eq]
  cases h : table.routed? caller syscall args with
  | none => exact ⟨.native, rfl, .inl rfl⟩
  | some s => exact ⟨s, rfl, .inr rfl⟩

namespace Keyed

theorem new (native : Native) : (InterceptionTable.new native).Keyed := by
  intro grate d h
  exact absurd h (by simp [dispatcher?, InterceptionTable.new])

/-- Dispatchers found where they were, with the grate they had. -/
theorem of_dispatcher? (h : table.Keyed)
    (hsame : ∀ grate, (other.dispatcher? grate).map (fun d => (d.grate, d.table)) =
      (table.dispatcher? grate).map fun d => (d.grate, d.table)) : other.Keyed := by
  intro grate d hd
  have hmap := hsame grate
  rw [hd, Option.map_some] at hmap
  obtain ⟨former, hformer, heq⟩ := Option.map_eq_some_iff.mp hmap.symm
  rw [← (Prod.mk.inj heq).1]
  exact h grate former hformer

theorem served (h : table.Keyed) (s : Service) : (table.served s).Keyed :=
  h.of_dispatcher? (dispatcher?_served_table h s)

/-- **One step** keeps dispatchers under their grates. -/
theorem perform (h : table.Keyed) (op : Operation) : (table.perform op).2.Keyed := by
  cases op with
  | register r => exact h.of_dispatcher? fun grate => by rw [← dispatcher?_register table r]; rfl
  | call caller syscall args =>
    show (table.call caller syscall args).2.Keyed
    rw [call_snd]
    exact h.served _
  | revoke cage syscall =>
    exact h.of_dispatcher? fun grate => by rw [← dispatcher?_revoke table cage syscall]; rfl
  | grateExited gone =>
    intro grate d hd
    have hfound : (table.grateExited gone).2.dispatcher? grate = some d := hd
    rw [dispatcher?_grateExited] at hfound
    by_cases hgone : grate = gone
    · rw [if_pos hgone] at hfound
      contradiction
    · rw [if_neg hgone] at hfound
      exact h grate d hfound
  | cageExited cage => exact h
  | attach d =>
    intro grate found hfound
    have hfound : (table.attach d).2.dispatcher? grate = some found := hfound
    rw [dispatcher?_attach] at hfound
    by_cases hgrate : grate = d.grate
    · rw [if_pos hgrate] at hfound
      rw [← Option.some.inj hfound, hgrate]
    · rw [if_neg hgrate] at hfound
      exact h grate found hfound
  | route caller syscall args =>
    obtain ⟨s, hs, -⟩ := route_snd table caller syscall args
    show (table.route caller syscall args).2.Keyed
    rw [hs]
    exact h.served s

/-- **A whole run** does so too. -/
theorem after (h : table.Keyed) (ops : List Operation) : (table.after ops).Keyed := by
  induction ops generalizing table with
  | nil => exact h
  | cons op ops ih => exact ih (h.perform op)

end Keyed

/-- **One step** changes the handlers of a grate only by attaching it or by its exit. -/
theorem handlers?_perform (h : table.Keyed) (op : Operation) (grate : GrateId) :
    (table.perform op).2.handlers? grate =
      match op with
      | .attach d => if grate = d.grate then some d.table else table.handlers? grate
      | .grateExited gone => if grate = gone then none else table.handlers? grate
      | _ => table.handlers? grate := by
  have hserved (s : Service) : (table.served s).handlers? grate = table.handlers? grate := by
    have hsame := congrArg (Option.map Prod.snd) (dispatcher?_served_table h s grate)
    rw [Option.map_map, Option.map_map] at hsame
    exact hsame
  cases op with
  | register r => exact congrArg _ (dispatcher?_register table r grate)
  | call caller syscall args =>
    show (table.call caller syscall args).2.handlers? grate = _
    rw [call_snd]
    exact hserved _
  | revoke cage syscall => exact congrArg _ (dispatcher?_revoke table cage syscall grate)
  | grateExited gone => exact handlers?_grateExited table gone grate
  | cageExited cage => rfl
  | attach d => exact handlers?_attach table d grate
  | route caller syscall args =>
    obtain ⟨s, hs, -⟩ := route_snd table caller syscall args
    show (table.route caller syscall args).2.handlers? grate = _
    rw [hs]
    exact hserved s

theorem native_perform (table : InterceptionTable) (op : Operation) :
    (table.perform op).2.native = table.native := by
  have hregister (r : Registration) : (table.register r).2.native = table.native := by
    rw [register_eq]
    cases table.refusal? r <;> rfl
  have hserved (s : Service) : (table.served s).native = table.native := by
    cases s with
    | registry r => exact hregister r
    | handler run => exact counting_native table run.grate run.index
    | misdirected grate index => exact counting_native table grate index
    | refused => rfl
    | unreachable _ => rfl
    | native => rfl
  cases op with
  | register r => exact hregister r
  | call caller syscall args =>
    exact (congrArg InterceptionTable.native (call_snd table caller syscall args)).trans
      (hserved _)
  | revoke cage syscall =>
    show (table.revoke cage syscall).2.native = table.native
    rw [revoke_eq]
  | grateExited grate => rfl
  | cageExited cage => rfl
  | attach d => rfl
  | route caller syscall args =>
    obtain ⟨s, hs, -⟩ := route_snd table caller syscall args
    exact (congrArg InterceptionTable.native hs).trans (hserved s)

/-- The native implementation is the one the table was made with. -/
theorem native_after (native : Native) (ops : List Operation) :
    ((new native).after ops).native = native := by
  suffices h : ∀ table : InterceptionTable, (table.after ops).native = table.native from
    h (new native)
  induction ops with
  | nil => exact fun _ => rfl
  | cons op ops ih => exact fun table => (ih (table.perform op).2).trans (native_perform table op)

end InterceptionTable

end Interposition
