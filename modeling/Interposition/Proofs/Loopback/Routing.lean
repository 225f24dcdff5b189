/-
  A process that follows a journal routes its calls as the owner of the table would.

  The owner of a table attaches a grate before anything else is asked for it.  A loopback runtime
  cannot: it learns of grates from the journal, and attaches one when it comes to a registration
  that names it, unless it is attached already or has exited.  Both ways are sequences of operations
  on a table, and all that is needed of them is this:

  1. **The step** (`Stocked.perform`): a table is stocked when every grate that is bound and that
     the catalog knows is served by the catalog's handlers.  An operation keeps it stocked if it
     attaches what the catalog has, and if the grate it wants registered is either served or dead
     (`Supplied`); what is registered for the dead is refused.

  2. **The runtime** (`Routing`): the grate of a registration is supplied from the moment its
     attachment was tried, also when other threads call in between.

  3. **The owner** (`Direct`): a grate is supplied from its first attachment on.

  On stocked tables with the same bindings a call is answered by the same handler, whatever else
  happened to them.
-/
import Interposition.Proofs.Loopback.Following
import Interposition.Proofs.Table.Service
import Interposition.Proofs.Table.Trace

namespace Interposition

namespace InterceptionTable

variable {catalog : GrateCatalog} {table other : InterceptionTable} {grate : GrateId}
  {op : Operation}

/-! ## Stocked tables -/

/-- The handlers a catalog has for a grate. -/
def catalogued? (catalog : GrateCatalog) (grate : GrateId) : Option HandlerTable :=
  (catalog grate).map Dispatcher.table

theorem isSome_catalogued? (catalog : GrateCatalog) (grate : GrateId) :
    (catalogued? catalog grate).isSome = (catalog grate).isSome := Option.isSome_map

/-- A grate that the catalog knows is served, or has exited. -/
def Supplied (catalog : GrateCatalog) (table : InterceptionTable) (grate : GrateId) : Prop :=
  (catalogued? catalog grate).isSome → (table.handlers? grate).isSome ∨
    table.hasExited grate.asCage = true

/-- Whoever is served is served by the catalog's handlers, and whoever is bound and known to the
    catalog is served. -/
structure Stocked (catalog : GrateCatalog) (table : InterceptionTable) : Prop where
  keyed : table.Keyed
  known : ∀ grate handlers, table.handlers? grate = some handlers →
    catalogued? catalog grate = some handlers
  bound : ∀ cage syscall binding, table.lookup cage syscall = some binding →
    (catalogued? catalog binding.grate).isSome → (table.handlers? binding.grate).isSome

/-- An operation attaches what the catalog has, and wants registered only who is supplied. -/
structure Fits (catalog : GrateCatalog) (table : InterceptionTable) (op : Operation) : Prop where
  attach : ∀ d, op = .attach d → catalogued? catalog d.grate = some d.table
  supplied : ∀ r, op.requested? = some r → Supplied catalog table r.grate

/-- Whoever is served is served until it exits. -/
theorem isSome_handlers?_perform (h : table.Keyed) (hserved : (table.handlers? grate).isSome)
    (hlives : op ≠ .grateExited grate) : ((table.perform op).2.handlers? grate).isSome := by
  rw [handlers?_perform h]
  cases op with
  | attach d =>
    show (if grate = d.grate then _ else _ : Option HandlerTable).isSome
    split
    · rfl
    · exact hserved
  | grateExited gone =>
    have hne : grate ≠ gone := fun heq => hlives (by rw [heq])
    show (if grate = gone then _ else _ : Option HandlerTable).isSome
    rw [if_neg hne]
    exact hserved
  | register r => exact hserved
  | call caller syscall args => exact hserved
  | revoke cage syscall => exact hserved
  | cageExited cage => exact hserved
  | route caller syscall args => exact hserved

/-- Who is supplied stays so. -/
theorem Supplied.perform (h : Supplied catalog table grate) (hkeyed : table.Keyed)
    (op : Operation) : Supplied catalog (table.perform op).2 grate := by
  intro hknown
  rw [hasExited_perform]
  by_cases hexit : op = .grateExited grate
  · subst hexit
    exact .inr (by simp [Operation.reportsExit])
  · rcases h hknown with hserved | hdead
    · exact .inl (isSome_handlers?_perform hkeyed hserved hexit)
    · exact .inr (by rw [hdead, Bool.true_or])

namespace Stocked

theorem new (catalog : GrateCatalog) (native : Native) : Stocked catalog (.new native) where
  keyed := .new native
  known grate handlers h := absurd h (by simp [handlers?, dispatcher?, InterceptionTable.new])
  bound cage syscall binding h :=
    absurd h (by simp [InterceptionTable.lookup, InterceptionTable.new, Bindings.lookup_empty])

/-- **One step** that fits keeps a table stocked. -/
theorem perform (h : Stocked catalog table) (hop : Fits catalog table op) :
    Stocked catalog (table.perform op).2 where
  keyed := h.keyed.perform op
  known := by
    intro grate handlers hhandlers
    rw [handlers?_perform h.keyed] at hhandlers
    cases op with
    | attach d =>
      have hhandlers : (if grate = d.grate then some d.table else table.handlers? grate) =
          some handlers := hhandlers
      by_cases hgrate : grate = d.grate
      · rw [if_pos hgrate] at hhandlers
        rw [hgrate, ← hhandlers]
        exact hop.attach d rfl
      · rw [if_neg hgrate] at hhandlers
        exact h.known grate handlers hhandlers
    | grateExited gone =>
      have hhandlers : (if grate = gone then none else table.handlers? grate) = some handlers :=
        hhandlers
      by_cases hgone : grate = gone
      · rw [if_pos hgone] at hhandlers
        contradiction
      · rw [if_neg hgone] at hhandlers
        exact h.known grate handlers hhandlers
    | register r => exact h.known grate handlers hhandlers
    | call caller syscall args => exact h.known grate handlers hhandlers
    | revoke cage syscall => exact h.known grate handlers hhandlers
    | cageExited cage => exact h.known grate handlers hhandlers
    | route caller syscall args => exact h.known grate handlers hhandlers
  bound := by
    intro cage syscall binding hlookup hknown
    rcases lookup_perform_iff.mp hlookup with haccepts | ⟨hbound, hstands⟩
    · -- the registration was granted, so its grate had not exited, and was served
      obtain ⟨hrequest, -, hrefusal⟩ := accepts_iff.mp haccepts
      have hlives : table.hasExited binding.grate.asCage = false :=
        (refusal?_eq_none_iff.mp hrefusal).2.2
      rcases hop.supplied _ hrequest hknown with hserved | hdead
      · refine isSome_handlers?_perform h.keyed hserved ?_
        rintro rfl
        exact absurd hrequest (by simp [Operation.requested?])
      · exact absurd (hlives.symm.trans hdead) (by simp)
    · refine isSome_handlers?_perform h.keyed (h.bound cage syscall binding hbound hknown) ?_
      rintro rfl
      exact hstands (.inr (.inr (.inr rfl)))

/-- Whoever is bound is served as the catalog says. -/
theorem handlers?_of_lookup (h : Stocked catalog table) {cage : CageId} {syscall : SyscallNumber}
    {binding : Binding} (hlookup : table.lookup cage syscall = some binding) :
    table.handlers? binding.grate = catalogued? catalog binding.grate := by
  cases hhandlers : table.handlers? binding.grate with
  | some handlers => exact (h.known _ handlers hhandlers).symm
  | none =>
    cases hknown : catalogued? catalog binding.grate with
    | none => rfl
    | some handlers =>
      have hserved := h.bound cage syscall binding hlookup (by rw [hknown]; rfl)
      rw [hhandlers] at hserved
      contradiction

/-- A call that is bound to a grate the catalog knows is served by the catalog's handler. -/
theorem service_of_lookup (h : Stocked catalog table) {caller : CageId} {syscall : SyscallNumber}
    {args : ArgumentVector} {binding : Binding} {handlers : HandlerTable} {handler : Handler}
    (hlives : table.hasExited caller = false) (hsyscall : syscall ≠ Syscall.registerHandler)
    (hlookup : table.lookup caller syscall = some binding)
    (hknown : catalogued? catalog binding.grate = some handlers)
    (hhandler : handlers.get? binding.handler = some handler) :
    table.service caller syscall args =
      .handler ⟨binding.grate, binding.handler, handler, caller, args⟩ := by
  obtain ⟨d, hd, rfl⟩ := Option.map_eq_some_iff.mp ((h.handlers?_of_lookup hlookup).trans hknown)
  unfold service routed? serviceOf
  rw [if_neg (by simp [hlives]), if_neg hsyscall, hlookup]
  simp only [Option.map_some, hd, hhandler, Option.getD_some]

/-- Only a grate that the catalog does not know is bound and cannot be reached. -/
theorem eq_none_of_unreachable (h : Stocked catalog table) {caller : CageId}
    {syscall : SyscallNumber} {args : ArgumentVector}
    (hservice : table.service caller syscall args = .unreachable grate) : catalog grate = none := by
  obtain ⟨binding, hlookup, rfl, hnone⟩ := lookup_of_unreachable hservice
  have hhandlers := h.handlers?_of_lookup hlookup
  unfold handlers? at hhandlers
  rw [hnone] at hhandlers
  exact Option.map_eq_none_iff.mp hhandlers.symm

/-- **Same binding, same service**: what two stocked tables were made of does not matter. -/
theorem service_congr (h : Stocked catalog table) (h' : Stocked catalog other) {caller : CageId}
    {syscall : SyscallNumber} (hexited : table.hasExited caller = other.hasExited caller)
    (hlookup : table.lookup caller syscall = other.lookup caller syscall) (args : ArgumentVector) :
    table.service caller syscall args = other.service caller syscall args := by
  refine InterceptionTable.service_congr hexited hlookup fun binding hbound => ?_
  rw [h.handlers?_of_lookup hbound, h'.handlers?_of_lookup (hlookup ▸ hbound)]

theorem service_eq (h : Stocked catalog table) (h' : Stocked catalog other)
    (hagrees : table.Agrees other) (caller : CageId) (syscall : SyscallNumber)
    (args : ArgumentVector) :
    table.service caller syscall args = other.service caller syscall args :=
  h.service_congr h' (hagrees.hasExited caller) (hagrees.lookup caller syscall) args

end Stocked

end InterceptionTable

namespace JournalRecord

/-- The grate a record names, if it names one. -/
def grate? : JournalRecord → Option GrateId
  | register r => some r.grate
  | grateExit grate => some grate
  | _ => none

/-- Of the records, only registrations request anything. -/
theorem requested?_operation {r : JournalRecord} {wanted : Registration}
    (h : r.operation.requested? = some wanted) : r = .register wanted := by
  cases r with
  | register r => exact congrArg register (Option.some.inj h)
  | revoke cage syscall => contradiction
  | grateExit grate => contradiction
  | cageExit cage => contradiction

theorem operation_ne_attach (r : JournalRecord) (d : Dispatcher) : r.operation ≠ .attach d := by
  cases r <;> simp [operation]

end JournalRecord

/-! ## The owner of a table -/

namespace InterceptionTable

/-- Operations of an owner that make the changes of a journal: the records in order, dispatchers of
    the catalog attached at any time, and every grate the catalog knows before it is named. -/
inductive Direct (catalog : GrateCatalog) : List JournalRecord → List Operation → Prop where
  | nothing : Direct catalog [] []
  | attach {records : List JournalRecord} {ops : List Operation} {d : Dispatcher}
      (earlier : Direct catalog records ops) (known : catalog d.grate = some d) :
      Direct catalog records (ops ++ [.attach d])
  | record {records : List JournalRecord} {ops : List Operation} {r : JournalRecord}
      (earlier : Direct catalog records ops)
      (attached : ∀ grate ∈ r.grate?, ∀ d, catalog grate = some d → .attach d ∈ ops) :
      Direct catalog (records ++ [r]) (ops ++ [r.operation])

namespace Direct

variable {catalog : GrateCatalog} {records : List JournalRecord} {ops : List Operation}

/-- Every journal can be made by an owner. -/
theorem exists_of_keyed (keyed : ∀ grate d, catalog grate = some d → d.grate = grate)
    (records : List JournalRecord) : ∃ ops, Direct catalog records ops := by
  induction records using List.reverseRecOn with
  | nil => exact ⟨[], .nothing⟩
  | append_singleton records r ih =>
    obtain ⟨ops, hops⟩ := ih
    cases hnamed : r.grate?.bind catalog with
    | none =>
      refine ⟨_, hops.record fun grate hgrate d hd => ?_⟩
      rw [Option.mem_def.mp hgrate] at hnamed
      exact absurd (hnamed.symm.trans hd) (by simp)
    | some d =>
      obtain ⟨grate, hgrate, hd⟩ := Option.bind_eq_some_iff.mp hnamed
      have hkey : d.grate = grate := keyed grate d hd
      refine ⟨_, (hops.attach (hkey ▸ hd)).record fun grate' hgrate' d' hd' => ?_⟩
      obtain rfl : grate = grate' := Option.some.inj (hgrate.symm.trans hgrate')
      obtain rfl : d = d' := Option.some.inj (hd.symm.trans hd')
      exact List.mem_append_right ops (List.mem_singleton_self _)

/-- **The owner's table** is the replay of the records, stocked, and supplies whom it attached. -/
theorem stocked (h : Direct catalog records ops)
    (keyed : ∀ grate d, catalog grate = some d → d.grate = grate) (native fresh : Native) :
    Stocked catalog ((new native).after ops) ∧
    (∀ d, .attach d ∈ ops → Supplied catalog ((new native).after ops) d.grate) ∧
    ((new native).after ops).Agrees (JournalRecord.replay records (.new fresh)) := by
  induction h with
  | nothing => exact ⟨.new catalog native, fun d hmem => by contradiction, ⟨rfl, rfl, rfl⟩⟩
  | @attach records ops d earlier known ih =>
    obtain ⟨hstocked, hsupplied, hagrees⟩ := ih
    have hfits : Fits catalog ((new native).after ops) (.attach d) :=
      ⟨fun d' hd' => by rw [← Operation.attach.inj hd', catalogued?, known]; rfl,
        fun r hr => by contradiction⟩
    rw [after_snoc]
    refine ⟨hstocked.perform hfits, fun d' hmem => ?_, ?_⟩
    · rcases List.mem_append.mp hmem with hearlier | hlast
      · exact (hsupplied d' hearlier).perform hstocked.keyed _
      · obtain rfl : d' = d := Operation.attach.inj (List.mem_singleton.mp hlast)
        refine fun _ => .inl ?_
        rw [handlers?_perform hstocked.keyed]
        show (if d'.grate = d'.grate then some d'.table else _ : Option HandlerTable).isSome
        rw [if_pos rfl]
        rfl
    · exact (attach_agrees _ d).trans hagrees
  | @record records ops r earlier attached ih =>
    obtain ⟨hstocked, hsupplied, hagrees⟩ := ih
    have hfits : Fits catalog ((new native).after ops) r.operation := by
      refine ⟨fun d hd => absurd hd (r.operation_ne_attach d), fun wanted hwanted hknown => ?_⟩
      obtain rfl := JournalRecord.requested?_operation hwanted
      obtain ⟨d, hd⟩ := Option.isSome_iff_exists.mp
        ((isSome_catalogued? catalog wanted.grate).symm.trans hknown)
      have hkey : d.grate = wanted.grate := keyed wanted.grate d hd
      exact hkey ▸ hsupplied d (attached wanted.grate rfl d hd) (hkey.symm ▸ hknown)
    rw [after_snoc]
    refine ⟨hstocked.perform hfits, fun d hmem => ?_, ?_⟩
    · rcases List.mem_append.mp hmem with hearlier | hlast
      · exact (hsupplied d hearlier).perform hstocked.keyed _
      · exact absurd (List.mem_singleton.mp hlast).symm (r.operation_ne_attach d)
    · rw [JournalRecord.perform_operation, JournalRecord.replay_append]
      exact hagrees.replay [r]

end Direct

end InterceptionTable

/-! ## The runtime -/

namespace LoopbackRuntime

open Shared InterceptionTable

variable {catalog : GrateCatalog} {native : Native} {table : InterceptionTable}
  {writer : JournalWriter} {s s' : Shared}

/-- A registration's grate is attached, if the catalog knows it, before it is registered. -/
theorem ensureAttached_stocked (keyed : ∀ grate d, catalog grate = some d → d.grate = grate)
    (h : Stocked catalog table) (grate : GrateId) :
    Stocked catalog (ensureAttached catalog grate table) ∧
    Supplied catalog (ensureAttached catalog grate table) grate ∧
    (ensureAttached catalog grate table).native = table.native := by
  unfold ensureAttached
  by_cases hready : (table.isAttached grate || table.hasExited grate.asCage) = true
  · rw [if_pos hready]
    refine ⟨h, fun _ => ?_, rfl⟩
    rcases Bool.or_eq_true_iff.mp hready with hattached | hdead
    · exact .inl ((isSome_handlers? table grate).trans hattached)
    · exact .inr hdead
  · rw [if_neg hready]
    cases hd : catalog grate with
    | none => exact ⟨h, fun hknown => absurd hknown (by simp [catalogued?, hd]), rfl⟩
    | some d =>
      have hkey : d.grate = grate := keyed grate d hd
      have hfits : Fits catalog table (.attach d) :=
        ⟨fun d' hd' => by rw [← Operation.attach.inj hd', catalogued?, hkey, hd]; rfl,
          fun r hr => by contradiction⟩
      refine ⟨h.perform hfits, fun _ => .inl ?_, rfl⟩
      show ((table.perform (.attach d)).2.handlers? grate).isSome
      rw [handlers?_perform h.keyed]
      show (if grate = d.grate then some d.table else _ : Option HandlerTable).isSome
      rw [if_pos hkey.symm]
      rfl

/-- What is left to do is all there is to do about some records, except that the grate of the first
    may be supplied already. -/
def Due (catalog : GrateCatalog) (table : InterceptionTable) (tasks : List Task) : Prop :=
  ∃ records : List JournalRecord, tasks = records.flatMap Task.ofRecord ∨
    ∃ r, tasks = .apply (.register r) :: records.flatMap Task.ofRecord ∧
      Supplied catalog table r.grate

/-- The table of a runtime is stocked, also in the middle of a sync. -/
structure Routing (catalog : GrateCatalog) (native : Native) (s : Shared) : Prop where
  sameCatalog : s.runtime.catalog = catalog
  sameNative : s.runtime.table.native = native
  stocked : Stocked catalog s.runtime.table
  due : ∀ count tasks, s.underWay = some (count, tasks) → Due catalog s.runtime.table tasks

theorem routing_start (file : JournalContents) (journal : Path) (catalog : GrateCatalog)
    (native : Native) : Routing catalog native (start file journal catalog native) where
  sameCatalog := rfl
  sameNative := rfl
  stocked := .new catalog native
  due _ _ h := by contradiction

namespace Routing

/-- A task done. -/
theorem done (keyed : ∀ grate d, catalog grate = some d → d.grate = grate)
    (h : Routing catalog native s) {count : Nat} {task : Task} {tasks : List Task}
    (hunderWay : s.underWay = some (count, task :: tasks)) :
    Routing catalog native (s.done count task tasks) := by
  -- a record applied that wants nobody registered who is not supplied
  have happly (r : JournalRecord) (records : List JournalRecord)
      (hsupplied : ∀ wanted, r = .register wanted → Supplied catalog s.runtime.table wanted.grate) :
      Routing catalog native (s.done count (.apply r) (records.flatMap Task.ofRecord)) := by
    have hfits : Fits catalog s.runtime.table r.operation :=
      ⟨fun d hd => absurd hd (r.operation_ne_attach d),
        fun wanted hwanted => hsupplied wanted (JournalRecord.requested?_operation hwanted)⟩
    have hstocked := h.stocked.perform hfits
    have hnative := native_perform s.runtime.table r.operation
    rw [JournalRecord.perform_operation] at hstocked hnative
    refine ⟨h.sameCatalog, hnative.trans h.sameNative, hstocked, fun count' tasks' h' => ?_⟩
    exact ⟨records, .inl (Prod.mk.inj (Option.some.inj h')).2.symm⟩
  -- the grate of a registration attached, which supplies it
  have hattach (r : Registration) (records : List JournalRecord) :
      Routing catalog native (s.done count (.attach r.grate)
        (.apply (.register r) :: records.flatMap Task.ofRecord)) := by
    have hsameCatalog := h.sameCatalog
    subst hsameCatalog
    obtain ⟨hstocked, hsupplied, hnative⟩ := ensureAttached_stocked keyed h.stocked r.grate
    refine ⟨rfl, hnative.trans h.sameNative, hstocked, fun count' tasks' h' => ?_⟩
    exact ⟨records, .inr ⟨r, (Prod.mk.inj (Option.some.inj h')).2.symm, hsupplied⟩⟩
  obtain ⟨records, hall | ⟨r, hrest, hsupplied⟩⟩ := h.due count (task :: tasks) hunderWay
  · cases records with
    | nil => contradiction
    | cons r records =>
      cases r with
      | register r =>
        obtain ⟨rfl, rfl⟩ := List.cons.inj hall
        exact hattach r records
      | revoke cage syscall =>
        obtain ⟨rfl, rfl⟩ := List.cons.inj hall
        exact happly _ records fun wanted hwanted => by contradiction
      | grateExit grate =>
        obtain ⟨rfl, rfl⟩ := List.cons.inj hall
        exact happly _ records fun wanted hwanted => by contradiction
      | cageExit cage =>
        obtain ⟨rfl, rfl⟩ := List.cons.inj hall
        exact happly _ records fun wanted hwanted => by contradiction
  · obtain ⟨rfl, rfl⟩ := List.cons.inj hrest
    refine happly _ records fun wanted hwanted => ?_
    rw [← JournalRecord.register.inj hwanted]
    exact hsupplied

/-- **One step** keeps the table stocked. -/
theorem step (keyed : ∀ grate d, catalog grate = some d → d.grate = grate)
    (h : Routing catalog native s) (hstep : Step writer s s') : Routing catalog native s' := by
  cases hstep with
  | grow hgrowth => exact ⟨h.sameCatalog, h.sameNative, h.stocked, h.due⟩
  | begin hbegins =>
    obtain ⟨-, records, -, rfl⟩ := hbegins
    refine ⟨h.sameCatalog, h.sameNative, h.stocked, fun count tasks h' => ⟨records, .inl ?_⟩⟩
    exact (Prod.mk.inj (Option.some.inj h')).2.symm
  | work hunderWay => exact h.done keyed hunderWay
  | finish hunderWay => exact ⟨h.sameCatalog, h.sameNative, h.stocked, fun _ _ h' => by contradiction⟩
  | @call caller syscall args hsyscall =>
    let op : Operation := .call caller syscall args
    have hquiet : ∀ r, op.requested? ≠ some r := by
      intro r hr
      exact absurd hr (by simp [op, Operation.requested?, hsyscall])
    have hfits : Fits catalog s.runtime.table op :=
      ⟨fun d hd => by contradiction, fun r hr => absurd hr (hquiet r)⟩
    refine ⟨h.sameCatalog, (native_perform _ op).trans h.sameNative, h.stocked.perform hfits, ?_⟩
    intro count tasks hunderWay
    obtain ⟨records, hall | ⟨r, hrest, hsupplied⟩⟩ := h.due count tasks hunderWay
    · exact ⟨records, .inl hall⟩
    · exact ⟨records, .inr ⟨r, hrest, hsupplied.perform h.stocked.keyed op⟩⟩

/-- **A whole run** does so too. -/
theorem steps (keyed : ∀ grate d, catalog grate = some d → d.grate = grate)
    (h : Routing catalog native s) (hsteps : Steps writer s s') : Routing catalog native s' := by
  induction hsteps with
  | refl => exact h
  | tail _ hstep ih => exact ih.step keyed hstep

end Routing

/-! ## Calls -/

/-- A runtime answers what whoever answers in its table does. -/
theorem respondSynced_fst (runtime : LoopbackRuntime) (caller : CageId) (syscall : SyscallNumber)
    (args : ArgumentVector) :
    (runtime.respondSynced caller syscall args).1 =
      runtime.table.replyOf caller syscall args (runtime.table.service caller syscall args) := by
  show (runtime.table.call caller syscall args).1 = _
  rw [call_eq]

/-- Once synced, the runtime's table is the replay of the whole journal. -/
theorem Following.synced_agrees (h : Following writer s) (free : s.underWay = none)
    (readable : JournalRecord.Readable s.file.bytes) (native : Native) :
    s.synced.runtime.table.Agrees
      (JournalRecord.replay (JournalRecord.recordsOf s.file.bytes) (.new native)) := by
  obtain ⟨s', hbegins, hsteps⟩ := h.steps_of_sync free readable
  obtain ⟨hs', hall⟩ := h.begin hbegins readable
  obtain ⟨hsynced, htaken⟩ := hs'.steps hsteps readable
  have hagrees := hsynced.settled native
  rw [settled_of_free rfl, List.take_of_length_le (hall ▸ htaken)] at hagrees
  exact hagrees

/-- A call, in a world where the journal reads as it did when the runtime was looked at: a sync,
    and what the table answers then is brought about. -/
theorem Following.runs_call (h : Following writer s) (readable : JournalRecord.Readable s.file.bytes)
    {World : Type} {os : OperatingSystem World} {world final : World}
    (hshows : os.Shows world writer.path s.file) {caller : CageId} {syscall : SyscallNumber}
    {args : ArgumentVector} {ret : Int64} {runtime : LoopbackRuntime} :
    (s.runtime.call caller syscall args).Runs os world (ret, runtime) final ↔
      runtime = (s.synced.runtime.respondSynced caller syscall args).2 ∧
      (Program.perform (s.synced.runtime.respondSynced caller syscall args).1).Runs os world ret
        final := by
  have hread := Journal.reading_of_readable readable s.runtime.applied
  have hanswers := s.runtime.answers s.file caller syscall args
  rw [refreshed_of_reading hread] at hanswers
  exact hanswers World os world (h.journal.symm ▸ hshows) ret runtime final

/-- **Cages route as the owner of the table would.**  Threads share a runtime that has followed a
    journal from nothing, in whatever steps, and the catalog finds every grate under its own id.

    * At any time, in the middle of a sync too, a grate that is bound and that the catalog knows is
      attached, so a call reaches nobody only if its grate is not in the catalog.
    * Nobody being at work, and every record of the journal meaning something: there are owners who
      made the same changes directly, and next to the table of any of them, every call is answered
      by the same handler, run for the same caller with the same arguments, or by the same one of
      the others who answer, and comes to the same result in any world in which the journal reads
      as it is. -/
theorem calls_route_as_direct (writer : JournalWriter) (first : JournalContents)
    (catalog : GrateCatalog) (native : Native)
    (keyed : ∀ grate d, catalog grate = some d → d.grate = grate) {s : Shared}
    (hsteps : Steps writer (start first writer.path catalog native) s) :
    (∀ cage syscall binding, s.runtime.table.lookup cage syscall = some binding →
      (catalog binding.grate).isSome → s.runtime.table.isAttached binding.grate = true) ∧
    (∀ caller syscall args grate,
      s.runtime.table.service caller syscall args = .unreachable grate → catalog grate = none) ∧
    (s.underWay = none → JournalRecord.Readable s.file.bytes →
      (∃ ops, Direct catalog (JournalRecord.recordsOf s.file.bytes) ops) ∧
      ∀ ops, Direct catalog (JournalRecord.recordsOf s.file.bytes) ops →
      ∀ caller syscall args,
        let direct := (InterceptionTable.new native).after ops
        ∃ followed : LoopbackRuntime,
          followed.table.service caller syscall args = direct.service caller syscall args ∧
          (followed.table.call caller syscall args).1 = (direct.call caller syscall args).1 ∧
          ∀ (World : Type) (os : OperatingSystem World) (world : World),
            os.Shows world writer.path s.file →
            (∀ outcome final, s.runtime.sync.Runs os world outcome final →
              outcome.2 = followed) ∧
            ∀ ret runtime final,
              (s.runtime.call caller syscall args).Runs os world (ret, runtime) final ↔
                runtime = { followed with table := (followed.table.call caller syscall args).2 } ∧
                (Program.perform (direct.call caller syscall args).1).Runs os world ret final) := by
  have hrouting : Routing catalog native s :=
    (routing_start first writer.path catalog native).steps keyed hsteps
  refine ⟨?_, ?_, ?_⟩
  · intro cage syscall binding hlookup hknown
    rw [← isSome_handlers?]
    exact hrouting.stocked.bound cage syscall binding hlookup
      ((isSome_catalogued? catalog binding.grate).trans hknown)
  · intro caller syscall args grate
    exact hrouting.stocked.eq_none_of_unreachable
  · intro free readable
    refine ⟨Direct.exists_of_keyed keyed _, fun ops hops caller syscall args => ?_⟩
    have hfollowing : Following writer s :=
      ((following_start writer first catalog native).steps hsteps readable).1
    obtain ⟨s', hbegins, hrest⟩ := hfollowing.steps_of_sync free readable
    have hsynced : Routing catalog native s.synced :=
      (hrouting.step keyed (.begin hbegins)).steps keyed hrest
    obtain ⟨hstocked, -, hdirect⟩ := hops.stocked keyed native native
    have hagrees := (hfollowing.synced_agrees free readable native).trans hdirect.symm
    have hservice := hsynced.stocked.service_eq hstocked hagrees caller syscall args
    have hnative : s.synced.runtime.table.native = ((InterceptionTable.new native).after ops).native :=
      hsynced.sameNative.trans (native_after native ops).symm
    have hreply : (s.synced.runtime.table.call caller syscall args).1 =
        (((InterceptionTable.new native).after ops).call caller syscall args).1 := by
      rw [call_eq, call_eq, hservice]
      exact replyOf_of_agrees hagrees hnative _
    refine ⟨s.synced.runtime, hservice, hreply, fun World os world hshows => ⟨?_, ?_⟩⟩
    · intro outcome final hsync
      rw [((hfollowing.runs_sync_of_shows readable hshows).mp hsync).1]
    · intro ret runtime final
      rw [← hreply]
      exact hfollowing.runs_call readable hshows

/-- A journal with registrations for a grate of the catalog and for another grate, and an exit: the
    call that is bound to the first is answered by its handler, and the other reaches nobody. -/
theorem calls_route_as_direct_two_grates :
    let writer : JournalWriter := ⟨⟨3⟩, .ofText "journal"⟩
    let d : Dispatcher := .new ⟨2⟩ [.identity "geteuid" 7]
    let catalog : GrateCatalog := fun grate => if grate = ⟨2⟩ then some d else none
    let records : List JournalRecord :=
      [.register ⟨⟨5⟩, ⟨107⟩, ⟨0⟩, ⟨2⟩⟩, .grateExit ⟨3⟩, .register ⟨⟨5⟩, ⟨50⟩, ⟨1⟩, ⟨9⟩⟩]
    let args : ArgumentVector := .ofOwner ⟨5⟩ (Vector.replicate 6 unusedWord)
    ∃ s : Shared, Steps writer (start none writer.path catalog Native.unsupported) s ∧
      JournalRecord.recordsOf s.file.bytes = records ∧
      (∃ runtime, (s.runtime.call ⟨5⟩ ⟨107⟩ args).Runs (journalFile writer) s.file (7, runtime)
        s.file) ∧
      ∀ ret runtime final, (s.runtime.call ⟨5⟩ ⟨50⟩ args).Runs (journalFile writer) s.file
        (ret, runtime) final → ret = Errno.esrch.status := by
  intro writer d catalog records args
  let bytes := records.flatMap JournalRecord.encode
  let s : Shared := { start none writer.path catalog Native.unsupported with file := some bytes }
  have hsteps : Steps writer (start none writer.path catalog Native.unsupported) s :=
    .single (.grow List.nil_prefix)
  have hknown (grate : GrateId) (d' : Dispatcher) (hd' : catalog grate = some d') :
      grate = ⟨2⟩ ∧ d' = d := by
    by_cases hgrate : grate = ⟨2⟩
    · have hsome : catalog grate = some d := if_pos hgrate
      exact ⟨hgrate, Option.some.inj (hd'.symm.trans hsome)⟩
    · have hnone : catalog grate = none := if_neg hgrate
      exact absurd (hnone.symm.trans hd') (by simp)
  have keyed : ∀ grate d', catalog grate = some d' → d'.grate = grate := by
    intro grate d' hd'
    obtain ⟨rfl, rfl⟩ := hknown grate d' hd'
    rfl
  have readable : JournalRecord.Readable s.file.bytes :=
    JournalRecord.readable_flatMap_encode records
  have hrecords : JournalRecord.recordsOf s.file.bytes = records :=
    JournalRecord.recordsOf_flatMap_encode records
  -- the owner attaches the grate of the catalog at the start
  let ops : List Operation := .attach d :: records.map JournalRecord.operation
  have hdirect : Direct catalog (JournalRecord.recordsOf s.file.bytes) ops := by
    have hattached (later : List Operation) (r : JournalRecord) :
        ∀ grate ∈ r.grate?, ∀ d', catalog grate = some d' → .attach d' ∈ .attach d :: later := by
      intro grate _ d' hd'
      rw [(hknown grate d' hd').2]
      exact List.mem_cons_self
    rw [hrecords]
    exact (((Direct.nothing.attach (d := d) (if_pos rfl)).record (hattached _ _)).record
      (hattached _ _)).record (hattached _ _)
  obtain ⟨-, hcalls⟩ :=
    (calls_route_as_direct writer none catalog Native.unsupported keyed hsteps).2.2 rfl readable
  have hshows := journalFile_shows writer s.file
  refine ⟨s, hsteps, hrecords, ?_, ?_⟩
  · obtain ⟨followed, -, -, hruns⟩ := hcalls ops hdirect ⟨5⟩ ⟨107⟩ args
    have hreply : (((InterceptionTable.new Native.unsupported).after ops).call ⟨5⟩ ⟨107⟩ args).1 =
        .value 7 := by decide +kernel
    refine ⟨_, ((hruns _ _ _ hshows).2 _ _ _).mpr ⟨rfl, ?_⟩⟩
    rw [hreply]
    exact ⟨rfl, rfl⟩
  · intro ret runtime final hrun
    obtain ⟨followed, -, -, hruns⟩ := hcalls ops hdirect ⟨5⟩ ⟨50⟩ args
    have hreply : (((InterceptionTable.new Native.unsupported).after ops).call ⟨5⟩ ⟨50⟩ args).1 =
        .value Errno.esrch.status := by decide +kernel
    obtain ⟨-, hperform⟩ := ((hruns _ _ _ hshows).2 _ _ _).mp hrun
    rw [hreply] at hperform
    exact hperform.1

end LoopbackRuntime

end Interposition
