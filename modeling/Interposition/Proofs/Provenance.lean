/-
  Whose words a handler is given.

  A word means something only in the address space of its owner, and a handler that uses a word of
  its caller checks the tag beside it.  The check is worth nothing if the tag can change on the way:
  tags are interleaved with the words on the wire, two kinds of channels put them there, and a table
  and a dispatcher pass them on before a handler reads them.

  1. **Words** (`toWords_ofWords`, `ofWords_toWords`, `ownedValue_ofWords`): twelve words and six
     tagged arguments are the same thing, and the check reads a word by the tag right after it.

  2. **Runs** (`given_of_service`): the handler that answers a call is run with the caller and the
     arguments of the call, which on a channel are the six words sent, all owned by the cage at its
     other end.

  3. **Nothing else is asked of a handler** (`call_withHandlers`): two tables whose handlers do the
     same for this caller and these arguments do the same with the call, whatever their handlers
     would do for any other.  A handler run for somebody else, or with a word or a tag changed, would
     tell the two apart.  A runtime that follows a journal takes further handlers from its catalog
     (`runs_call_withHandlers`).

  4. **Foreign words** (`reply_of_serves`): by whatever way arguments reach the handler that opens
     a file, a first word of somebody else's opens nothing.
-/
import Interposition.Proofs.Table.Service
import Interposition.Proofs.Loopback.Calls

namespace Interposition

variable {caller : CageId} {args : ArgumentVector} {World : Type} {os : OperatingSystem World}
  {world final : World}

/-! ## Words -/

namespace ArgumentVector

theorem get?_of_lt (args : ArgumentVector) {position : Nat} (h : position < 6) :
    args.get? position = some args.slots[position] := Vector.getElem?_eq_getElem h

theorem get?_of_le (args : ArgumentVector) {position : Nat} (h : 6 ≤ position) :
    args.get? position = none := Vector.getElem?_eq_none h

/-- **The check**: a word is given out for its owner alone. -/
theorem ownedValue_eq (args : ArgumentVector) (position : Nat) (trusted : CageId) :
    args.ownedValue position trusted =
      if h : position < 6 then
        if args.slots[position].cage = trusted then .ok args.slots[position].value
        else .error (.foreignOwner position args.slots[position].cage trusted)
      else .error (.badPosition position) := by
  unfold ownedValue
  by_cases h : position < 6
  · rw [dif_pos h, args.get?_of_lt h]
  · rw [dif_neg h, args.get?_of_le (Nat.le_of_not_lt h)]

theorem toWords_ofWords (words : Vector Word 12) : (ofWords words).toWords = words := by
  apply Vector.ext
  intro i hi
  unfold toWords ofWords
  rw [Vector.getElem_ofFn]
  simp only [Vector.getElem_ofFn]
  -- an even place holds the word of its argument, and an odd one the tag
  rcases Nat.mod_two_eq_zero_or_one i with heven | hodd
  · rw [if_pos heven]
    have hplace : 2 * (i / 2) = i := by omega
    simp only [hplace]
  · rw [if_neg (by omega)]
    have hplace : 2 * (i / 2) + 1 = i := by omega
    simp only [hplace]

theorem ofWords_toWords (args : ArgumentVector) : ofWords args.toWords = args := by
  suffices hslots : (ofWords args.toWords).slots = args.slots from congrArg ArgumentVector.mk hslots
  apply Vector.ext
  intro i hi
  have hword : (2 * i) / 2 = i := by omega
  have htag : (2 * i + 1) / 2 = i := by omega
  have hodd : ¬ (2 * i + 1) % 2 = 0 := by omega
  unfold ofWords toWords
  simp only [Vector.getElem_ofFn, hword, htag, Nat.mul_mod_right, if_true, if_neg hodd]

theorem ownedValue_ofWords (words : Vector Word 12) (position : Nat) (trusted : CageId) :
    (ofWords words).ownedValue position trusted =
      if h : position < 6 then
        if words[2 * position + 1] = trusted.raw then .ok words[2 * position]
        else .error (.foreignOwner position ⟨words[2 * position + 1]⟩ trusted)
      else .error (.badPosition position) := by
  rw [ownedValue_eq]
  by_cases h : position < 6
  · rw [dif_pos h, dif_pos h]
    have hslot : (ofWords words).slots[position] =
        ⟨words[2 * position], ⟨words[2 * position + 1]⟩⟩ := Vector.getElem_ofFn h
    have howner : CageId.mk words[2 * position + 1] = trusted ↔
        words[2 * position + 1] = trusted.raw :=
      ⟨congrArg CageId.raw, congrArg CageId.mk⟩
    simp only [hslot, howner]
  · rw [dif_neg h, dif_neg h]

/-- Arguments that are six given words, all of them a cage's own. -/
def AreOwn (args : ArgumentVector) (owner : CageId) (words : Vector Word 6) : Prop :=
  args.values = words ∧
    ∀ (position : Nat) (h : position < 6), args.ownedValue position owner = .ok words[position]

theorem ofOwner_areOwn (owner : CageId) (words : Vector Word 6) :
    (ofOwner owner words).AreOwn owner words := by
  have hslot (position : Nat) (h : position < 6) :
      (ofOwner owner words).slots[position] = ⟨words[position], owner⟩ := Vector.getElem_map _ h
  constructor
  · apply Vector.ext
    intro position h
    exact (Vector.getElem_map _ h).trans (congrArg Argument.value (hslot position h))
  · intro position h
    rw [ownedValue_eq, dif_pos h, hslot position h, if_pos rfl]

end ArgumentVector

/-! ## Handlers that do the same for one call -/

/-- A change of handlers that keeps what they do for one caller and its arguments. -/
def KeepsAt (change : Handler → Handler) (caller : CageId) (args : ArgumentVector) : Prop :=
  ∀ handler : Handler, (change handler).run caller args = handler.run caller args

namespace Dispatcher

variable {change : Handler → Handler}

/-- A dispatcher with every handler changed. -/
def withHandlers (change : Handler → Handler) (d : Dispatcher) : Dispatcher :=
  { d with table := d.table.map change }

theorem get?_withHandlers (d : Dispatcher) (index : HandlerIndex) :
    (d.withHandlers change).table.get? index = (d.table.get? index).map change :=
  List.getElem?_map

theorem counting_withHandlers (d : Dispatcher) (index : HandlerIndex) :
    (d.withHandlers change).counting index = (d.counting index).withHandlers change := by
  unfold counting
  rw [get?_withHandlers, Option.isSome_map]
  split <;> rfl

/-- **Dispatch** asks its handler for this caller and these arguments, and nothing else. -/
theorem dispatch_withHandlers (h : KeepsAt change caller args) (d : Dispatcher)
    (index : HandlerIndex) :
    (d.withHandlers change).dispatch index caller args =
      ((d.dispatch index caller args).1, (d.dispatch index caller args).2.withHandlers change) := by
  rw [dispatch_eq, dispatch_eq, counting_withHandlers, get?_withHandlers]
  cases d.table.get? index with
  | none => rfl
  | some handler => exact congrArg (·, _) (h handler)

end Dispatcher

namespace InterceptionTable

variable {change : Handler → Handler} {table : InterceptionTable} {syscall : SyscallNumber}

/-- A table with every handler of its grates changed. -/
def withHandlers (change : Handler → Handler) (table : InterceptionTable) : InterceptionTable :=
  { table with attached := table.attached.map fun entry => (entry.1, entry.2.withHandlers change) }

theorem dispatcher?_withHandlers (table : InterceptionTable) (grate : GrateId) :
    (table.withHandlers change).dispatcher? grate =
      (table.dispatcher? grate).map (Dispatcher.withHandlers change) := by
  show (table.attached.map _).lookup grate = (table.attached.lookup grate).map _
  induction table.attached with
  | nil => rfl
  | cons entry rest ih =>
    obtain ⟨key, d⟩ := entry
    rw [List.map_cons, lookup_cons_eq_ite, lookup_cons_eq_ite, ih]
    split <;> rfl

theorem setDispatcher_withHandlers (d : Dispatcher) (attached : List (GrateId × Dispatcher)) :
    setDispatcher (d.withHandlers change)
        (attached.map fun entry => (entry.1, entry.2.withHandlers change)) =
      (setDispatcher d attached).map fun entry => (entry.1, entry.2.withHandlers change) := by
  induction attached with
  | nil => rfl
  | cons entry rest ih =>
    obtain ⟨key, other⟩ := entry
    show (if key = d.grate then _ else _) = (if key = d.grate then _ else _ : List _).map _
    split
    · rfl
    · exact congrArg _ ih

theorem attach_withHandlers (table : InterceptionTable) (d : Dispatcher) :
    ((table.withHandlers change).attach (d.withHandlers change)).2 =
      (table.attach d).2.withHandlers change :=
  congrArg (fun attached => { table with attached }) (setDispatcher_withHandlers d table.attached)

/-- Registering looks at no handler. -/
theorem register_withHandlers (table : InterceptionTable) (r : Registration) :
    (table.withHandlers change).register r =
      ((table.register r).1, (table.register r).2.withHandlers change) := by
  have hrefusal : (table.withHandlers change).refusal? r = table.refusal? r := rfl
  rw [register_eq, register_eq, hrefusal]
  cases table.refusal? r <;> rfl

theorem revoke_withHandlers (table : InterceptionTable) (cage : CageId) (syscall : SyscallNumber) :
    ((table.withHandlers change).revoke cage syscall).2 =
      (table.revoke cage syscall).2.withHandlers change := by
  rw [revoke_eq, revoke_eq]
  rfl

theorem grateExited_withHandlers (table : InterceptionTable) (grate : GrateId) :
    ((table.withHandlers change).grateExited grate).2 =
      (table.grateExited grate).2.withHandlers change := by
  have hkept : (table.withHandlers change).attached.filter (fun entry => entry.1 ≠ grate) =
      (table.attached.filter fun entry => entry.1 ≠ grate).map
        fun entry => (entry.1, entry.2.withHandlers change) := List.filter_map
  exact congrArg (fun attached => { (table.grateExited grate).2 with attached }) hkept

/-- **Routes** ask a handler for this caller and these arguments, and nothing else. -/
theorem route_withHandlers (h : KeepsAt change caller args) (table : InterceptionTable)
    (syscall : SyscallNumber) :
    (table.withHandlers change).route caller syscall args =
      ((table.route caller syscall args).1,
        (table.route caller syscall args).2.withHandlers change) := by
  have hlookup : (table.withHandlers change).lookup caller syscall = table.lookup caller syscall := rfl
  unfold route
  rw [hlookup]
  cases table.lookup caller syscall with
  | none => rfl
  | some binding =>
    simp only [dispatcher?_withHandlers]
    cases table.dispatcher? binding.grate with
    | none => rfl
    | some d =>
      simp only [Option.map_some, d.dispatch_withHandlers h]
      exact congrArg (fun attached => (_, { table with attached }))
        (setDispatcher_withHandlers _ table.attached)

/-- **Calls** ask a handler for this caller and these arguments, and nothing else. -/
theorem call_withHandlers (h : KeepsAt change caller args) (table : InterceptionTable)
    (syscall : SyscallNumber) :
    (table.withHandlers change).call caller syscall args =
      ((table.call caller syscall args).1,
        (table.call caller syscall args).2.withHandlers change) := by
  unfold call
  show (if table.hasExited caller ∧ syscall ≠ Syscall.exit then _ else _) = _
  split
  · rfl
  · split
    · rw [register_withHandlers]
      rcases table.register (.ofWords args.values) with ⟨_ | _, _⟩ <;> rfl
    · rw [route_withHandlers h]
      rcases table.route caller syscall args with ⟨_ | _, _⟩ <;> rfl

/-- The handler that answers a call is run with the caller and the arguments of the call. -/
theorem given_of_service {run : HandlerRun} (h : table.service caller syscall args = .handler run) :
    run.caller = caller ∧ run.args = args := by
  unfold service at h
  split at h
  · contradiction
  · split at h
    · contradiction
    · unfold routed? at h
      cases hlookup : table.lookup caller syscall with
      | none =>
        rw [hlookup] at h
        contradiction
      | some binding =>
        rw [hlookup] at h
        have h : table.serviceOf caller args binding = .handler run := h
        unfold serviceOf at h
        split at h
        · contradiction
        · split at h
          · contradiction
          · obtain rfl := Service.handler.inj h
            exact ⟨rfl, rfl⟩

/-- A call through the channel of a cage brings about what the table answers it. -/
theorem runs_channel {words : Vector Word 6} {ret : Int64} {after : InterceptionTable} :
    (channel caller syscall words table).Runs os world (ret, after) final ↔
      after = (table.makeSyscall caller syscall words).2 ∧
      (Program.perform (table.makeSyscall caller syscall words).1).Runs os world ret final := by
  show ((Program.perform (table.makeSyscall caller syscall words).1) >>= fun ret =>
    pure (ret, (table.makeSyscall caller syscall words).2) : Program _).Runs os world _ final ↔ _
  rw [Program.runs_bind]
  constructor
  · rintro ⟨ret', between, hrun, hreturned⟩
    obtain ⟨hsame, rfl⟩ := hreturned
    obtain ⟨rfl, rfl⟩ := Prod.mk.inj hsame
    exact ⟨rfl, hrun⟩
  · rintro ⟨rfl, hrun⟩
    exact ⟨ret, final, hrun, rfl, rfl⟩

theorem runs_channel_withHandlers {words : Vector Word 6}
    (h : KeepsAt change caller (.ofOwner caller words)) {ret : Int64} {after : InterceptionTable} :
    (channel caller syscall words (table.withHandlers change)).Runs os world (ret, after) final ↔
      ∃ plain, after = plain.withHandlers change ∧
        (channel caller syscall words table).Runs os world (ret, plain) final := by
  have hcall : (table.withHandlers change).makeSyscall caller syscall words =
      ((table.makeSyscall caller syscall words).1,
        (table.makeSyscall caller syscall words).2.withHandlers change) :=
    table.call_withHandlers h syscall
  rw [runs_channel, hcall]
  constructor
  · rintro ⟨rfl, hruns⟩
    exact ⟨_, rfl, runs_channel.mpr ⟨rfl, hruns⟩⟩
  · rintro ⟨plain, rfl, hplain⟩
    obtain ⟨rfl, hruns⟩ := runs_channel.mp hplain
    exact ⟨rfl, hruns⟩

end InterceptionTable

/-! ## Following a journal -/

namespace LoopbackRuntime

open InterceptionTable (withHandlers)

variable {change : Handler → Handler} {runtime : LoopbackRuntime} {syscall : SyscallNumber}

/-- A runtime with every handler changed, those its catalog has in store included. -/
def withHandlers (change : Handler → Handler) (runtime : LoopbackRuntime) : LoopbackRuntime :=
  { runtime with
    table := runtime.table.withHandlers change
    catalog := fun grate => (runtime.catalog grate).map (Dispatcher.withHandlers change) }

theorem ensureAttached_withHandlers (catalog : GrateCatalog) (grate : GrateId)
    (table : InterceptionTable) :
    ensureAttached (fun grate => (catalog grate).map (Dispatcher.withHandlers change)) grate
        (table.withHandlers change) =
      (ensureAttached catalog grate table).withHandlers change := by
  have hattached : (table.withHandlers change).isAttached grate = table.isAttached grate := by
    unfold InterceptionTable.isAttached
    rw [InterceptionTable.dispatcher?_withHandlers, Option.isSome_map]
  unfold ensureAttached
  rw [hattached]
  show (if (table.isAttached grate || table.hasExited grate.asCage) = true then _ else _) = _
  split
  · rfl
  · cases hentry : catalog grate with
    | none => simp only [hentry, Option.map_none]
    | some d =>
      simp only [hentry, Option.map_some]
      exact table.attach_withHandlers d

/-- **One record** is applied without looking at a handler. -/
theorem applyRecord_withHandlers (catalog : GrateCatalog) (table : InterceptionTable)
    (r : JournalRecord) :
    applyRecord (fun grate => (catalog grate).map (Dispatcher.withHandlers change))
        (table.withHandlers change) r =
      (applyRecord catalog table r).withHandlers change := by
  cases r with
  | register registration =>
    show ((ensureAttached _ registration.grate _).register registration).2 = _
    rw [ensureAttached_withHandlers, InterceptionTable.register_withHandlers]
    rfl
  | revoke cage syscall => exact table.revoke_withHandlers cage syscall
  | grateExit grate => exact table.grateExited_withHandlers grate
  | cageExit cage => rfl

/-- **And so are all.** -/
theorem absorb_withHandlers (runtime : LoopbackRuntime) (records : List JournalRecord) :
    (runtime.withHandlers change).absorb records =
      (runtime.absorb records).withHandlers change := by
  have htable (table : InterceptionTable) :
      records.foldl (applyRecord (runtime.withHandlers change).catalog) (table.withHandlers change) =
        (records.foldl (applyRecord runtime.catalog) table).withHandlers change := by
    induction records generalizing table with
    | nil => rfl
    | cons r rest ih =>
      rw [List.foldl_cons, List.foldl_cons, ← ih]
      exact congrArg (rest.foldl _) (applyRecord_withHandlers runtime.catalog table r)
  unfold absorb
  exact congrArg (fun table => LoopbackRuntime.mk table _ _ _) (htable runtime.table)

theorem afterReading_withHandlers (runtime : LoopbackRuntime)
    (read : Except JournalError (List JournalRecord)) :
    (runtime.withHandlers change).afterReading read =
      (runtime.afterReading read).withHandlers change := by
  cases read with
  | ok records => exact runtime.absorb_withHandlers records
  | error e => rfl

theorem runs_sync_withHandlers {outcome : Except JournalError Nat} {synced : LoopbackRuntime} :
    (runtime.withHandlers change).sync.Runs os world (outcome, synced) final ↔
      ∃ plain, synced = plain.withHandlers change ∧
        runtime.sync.Runs os world (outcome, plain) final := by
  rw [runs_sync]
  constructor
  · rintro ⟨read, hread, hsame⟩
    obtain ⟨rfl, rfl⟩ := Prod.mk.inj hsame
    exact ⟨_, runtime.afterReading_withHandlers read, runs_sync.mpr ⟨read, hread, rfl⟩⟩
  · rintro ⟨plain, rfl, hsync⟩
    obtain ⟨read, hread, hsame⟩ := runs_sync.mp hsync
    obtain ⟨rfl, rfl⟩ := Prod.mk.inj hsame
    exact ⟨read, hread, congrArg _ (runtime.afterReading_withHandlers read).symm⟩

/-- **Calls through the journal** ask a handler for this caller and these arguments, and nothing
    else. -/
theorem runs_call_withHandlers (h : KeepsAt change caller args) {ret : Int64}
    {after : LoopbackRuntime} :
    ((runtime.withHandlers change).call caller syscall args).Runs os world (ret, after) final ↔
      ∃ plain, after = plain.withHandlers change ∧
        (runtime.call caller syscall args).Runs os world (ret, plain) final := by
  have hresponded (synced : LoopbackRuntime) :
      (synced.withHandlers change).respondSynced caller syscall args =
        ((synced.respondSynced caller syscall args).1,
          (synced.respondSynced caller syscall args).2.withHandlers change) :=
    congrArg (fun called : Reply × InterceptionTable =>
      (called.1, { synced.withHandlers change with table := called.2 }))
      (synced.table.call_withHandlers h syscall)
  rw [runs_call]
  constructor
  · rintro ⟨outcome, synced, between, hsync, rfl, hrun⟩
    obtain ⟨plain, rfl, hplain⟩ := runs_sync_withHandlers.mp hsync
    rw [hresponded] at hrun ⊢
    exact ⟨_, rfl, runs_call.mpr ⟨outcome, plain, between, hplain, rfl, hrun⟩⟩
  · rintro ⟨plain, rfl, hcall⟩
    obtain ⟨outcome, synced, between, hsync, rfl, hrun⟩ := runs_call.mp hcall
    refine ⟨outcome, synced.withHandlers change, between,
      runs_sync_withHandlers.mpr ⟨synced, rfl, hsync⟩, ?_, ?_⟩
    · rw [hresponded]
    · rw [hresponded]
      exact hrun

/-- The only request of a sync is for the journal. -/
theorem reads_of_runs_sync {synced : Except JournalError Nat × LoopbackRuntime}
    (h : runtime.sync.Runs os world synced final) :
    ∃ given, os.answers world (.readFile runtime.journal) given final := by
  obtain ⟨read, hread, -⟩ := runs_sync.mp h
  rw [Journal.readFrom_eq, Program.runs_request_bind] at hread
  obtain ⟨given, between, hgiven, -, rfl⟩ := hread
  exact ⟨given, hgiven⟩

end LoopbackRuntime

/-! ## Foreign words -/

/-- The binding of a call, and the dispatcher it names, lead to a handler. -/
def InterceptionTable.LeadsTo (table : InterceptionTable) (caller : CageId)
    (syscall : SyscallNumber) (handler : Handler) : Prop :=
  ∃ binding d, table.lookup caller syscall = some binding ∧
    table.dispatcher? binding.grate = some d ∧ d.table.get? binding.handler = some handler

/-- A caller that may make a call which is not the table's own to answer. -/
def InterceptionTable.Forwards (table : InterceptionTable) (caller : CageId)
    (syscall : SyscallNumber) : Prop :=
  (table.hasExited caller = true → syscall = Syscall.exit) ∧ syscall ≠ Syscall.registerHandler

/-- The ways to a handler: what reaches it, for whom, and what is answered there. -/
inductive Handler.Serves (handler : Handler) : CageId → ArgumentVector → Reply → Prop where
  | dispatch {d : Dispatcher} {index : HandlerIndex} (h : d.table.get? index = some handler)
      (caller : CageId) (args : ArgumentVector) :
      Handler.Serves handler caller args (d.dispatch index caller args).1
  | dispatchWords {d : Dispatcher} {index : Word} (h : d.table.get? ⟨index⟩ = some handler)
      (caller : Word) (words : Vector Word 12) :
      Handler.Serves handler ⟨caller⟩ (.ofWords words) (d.dispatchWords index caller words).1
  | route {table : InterceptionTable} {caller : CageId} {syscall : SyscallNumber}
      (h : table.LeadsTo caller syscall handler) (args : ArgumentVector) {reply : Reply}
      (hreply : (table.route caller syscall args).1 = some reply) :
      Handler.Serves handler caller args reply
  | call {table : InterceptionTable} {caller : CageId} {syscall : SyscallNumber}
      (h : table.LeadsTo caller syscall handler) (hforwards : table.Forwards caller syscall)
      (args : ArgumentVector) :
      Handler.Serves handler caller args (table.call caller syscall args).1

theorem InterceptionTable.routed?_of_leadsTo {table : InterceptionTable} {syscall : SyscallNumber}
    {handler : Handler} (h : table.LeadsTo caller syscall handler) (args : ArgumentVector) :
    ∃ run : HandlerRun, table.routed? caller syscall args = some (.handler run) ∧
      run.reply = handler.run caller args := by
  obtain ⟨binding, d, hlookup, hd, hhandler⟩ := h
  refine ⟨⟨binding.grate, binding.handler, handler, caller, args⟩, ?_, rfl⟩
  unfold routed? serviceOf
  rw [hlookup, Option.map_some]
  simp only [hd, hhandler]

theorem InterceptionTable.call_of_leadsTo {table : InterceptionTable} {syscall : SyscallNumber}
    {handler : Handler} (h : table.LeadsTo caller syscall handler)
    (hforwards : table.Forwards caller syscall) (args : ArgumentVector) :
    (table.call caller syscall args).1 = handler.run caller args := by
  obtain ⟨run, hrouted, hreply⟩ := routed?_of_leadsTo h args
  have hlives : ¬ (table.hasExited caller = true ∧ syscall ≠ Syscall.exit) :=
    fun hdead => hdead.2 (hforwards.1 hdead.1)
  have hservice : table.service caller syscall args = .handler run := by
    unfold service
    rw [if_neg hlives, if_neg hforwards.2, hrouted]
    rfl
  rw [call_eq, hservice]
  exact hreply

/-- **Every way** to a handler hands it the caller and the arguments, and answers what it answers. -/
theorem reply_of_serves {handler : Handler} {reply : Reply}
    (h : Handler.Serves handler caller args reply) : reply = handler.run caller args := by
  cases h with
  | dispatch h => rw [Dispatcher.dispatch_eq, h]
  | dispatchWords h words =>
    show (Dispatcher.dispatch _ _ _ _).1 = _
    rw [Dispatcher.dispatch_eq, h]
  | route h args hreply =>
    obtain ⟨run, hrouted, hrun⟩ := InterceptionTable.routed?_of_leadsTo h args
    rw [InterceptionTable.route_eq, hrouted] at hreply
    exact (Option.some.inj hreply).symm.trans hrun
  | call h hforwards => exact InterceptionTable.call_of_leadsTo h hforwards args

/-- A nonzero first argument of somebody else's. -/
def ArgumentVector.StartsForeign (args : ArgumentVector) (caller : CageId) : Prop :=
  ∃ argument, args.slots[0]? = some argument ∧ argument.value ≠ 0 ∧ argument.cage ≠ caller

theorem Handler.openFixed_of_foreign (h : args.StartsForeign caller) (name : String) (path : Path) :
    (openFixed name path).run caller args = .value Errno.eperm.status := by
  obtain ⟨argument, hfirst, hvalue, hforeign⟩ := h
  obtain rfl : args.slots[0] = argument :=
    Option.some.inj ((Vector.getElem?_eq_getElem (by decide)).symm.trans hfirst)
  have hvalue : args.value 0 ≠ 0 := hvalue
  have hrefused : args.ownedValue 0 caller =
      .error (.foreignOwner 0 args.slots[0].cage caller) := by
    rw [ArgumentVector.ownedValue_eq, dif_pos (by decide), if_neg hforeign]
  show (if args.value 0 = 0 then _ else _) = _
  rw [if_neg hvalue, hrefused]

/-! ## The whole way -/

/-- A handler that is run for a cage, with words of the cage's own. -/
structure InterceptionTable.HandlerRun.Given (run : InterceptionTable.HandlerRun) (caller : CageId)
    (words : Vector Word 6) : Prop where
  forCaller : run.caller = caller
  own : run.args.AreOwn caller words

theorem InterceptionTable.given_own {table : InterceptionTable} {syscall : SyscallNumber}
    {words : Vector Word 6} {run : HandlerRun}
    (h : table.service caller syscall (.ofOwner caller words) = .handler run) :
    run.Given caller words := by
  obtain ⟨hcaller, hargs⟩ := given_of_service h
  exact ⟨hcaller, hargs ▸ ArgumentVector.ofOwner_areOwn caller words⟩

/-- The reply of the handler that answers a call is what the call comes to. -/
theorem InterceptionTable.call_of_service {table : InterceptionTable} {syscall : SyscallNumber}
    {run : HandlerRun} (h : table.service caller syscall args = .handler run) :
    (table.call caller syscall args).1 = run.reply := by
  rw [call_eq, h]
  rfl

/-- Words keep their owners from a channel to the handler that trusts them, and a handler that opens
    a file trusts no other. -/
theorem arguments_keep_their_owners :
    -- the two forms of an argument vector, and the check of an owner
    ((∀ words, (ArgumentVector.ofWords words).toWords = words) ∧
      (∀ args, ArgumentVector.ofWords args.toWords = args) ∧
      ∀ (words : Vector Word 12) (position : Nat) (trusted : CageId),
        (ArgumentVector.ofWords words).ownedValue position trusted =
          if h : position < 6 then
            if words[2 * position + 1] = trusted.raw then .ok words[2 * position]
            else .error (.foreignOwner position ⟨words[2 * position + 1]⟩ trusted)
          else .error (.badPosition position)) ∧
    -- the channel of a cage to a table
    (∀ (table : InterceptionTable) (caller : CageId) (syscall : SyscallNumber)
        (words : Vector Word 6) (World : Type) (os : OperatingSystem World) (world : World),
      (∀ run, table.service caller syscall (.ofOwner caller words) = .handler run →
        run.Given caller words ∧
        ∀ ret after final,
          (InterceptionTable.channel caller syscall words table).Runs os world (ret, after) final →
          (Program.perform run.reply).Runs os world ret final) ∧
      ∀ change, KeepsAt change caller (.ofOwner caller words) → ∀ ret after final,
        (InterceptionTable.channel caller syscall words (table.withHandlers change)).Runs os world
            (ret, after) final ↔
          ∃ plain, after = plain.withHandlers change ∧
            (InterceptionTable.channel caller syscall words table).Runs os world (ret, plain)
              final) ∧
    -- the channel of a cage to a runtime that follows a journal
    (∀ (runtime : LoopbackRuntime) (caller : CageId) (syscall : SyscallNumber)
        (words : Vector Word 6) (World : Type) (os : OperatingSystem World) (world : World),
      (∀ ret after final,
        (runtime.makeSyscall caller syscall words).Runs os world (ret, after) final →
        ∃ outcome synced between, runtime.sync.Runs os world (outcome, synced) between ∧
          ∀ run, synced.table.service caller syscall (.ofOwner caller words) = .handler run →
            run.Given caller words ∧ (Program.perform run.reply).Runs os between ret final) ∧
      ∀ change, KeepsAt change caller (.ofOwner caller words) → ∀ ret after final,
        ((runtime.withHandlers change).makeSyscall caller syscall words).Runs os world (ret, after)
            final ↔
          ∃ plain, after = plain.withHandlers change ∧
            (runtime.makeSyscall caller syscall words).Runs os world (ret, plain) final) ∧
    -- the handler that opens a file, given a first argument of somebody else's
    ∀ (name : String) (path : Path) (caller : CageId) (args : ArgumentVector),
      args.StartsForeign caller → ∀ (World : Type) (os : OperatingSystem World) (world : World),
        (∀ reply, Handler.Serves (.openFixed name path) caller args reply → ∀ ret final,
          (Program.perform reply).Runs os world ret final ↔
            ret = Errno.eperm.status ∧ final = world) ∧
        ∀ (runtime : LoopbackRuntime) (syscall : SyscallNumber) ret after final,
          (runtime.call caller syscall args).Runs os world (ret, after) final →
          ∃ outcome synced between given, runtime.sync.Runs os world (outcome, synced) between ∧
            os.answers world (.readFile runtime.journal) given between ∧
            (synced.table.LeadsTo caller syscall (.openFixed name path) →
              synced.table.Forwards caller syscall → ret = Errno.eperm.status ∧ final = between) := by
  refine ⟨⟨ArgumentVector.toWords_ofWords, ArgumentVector.ofWords_toWords,
    ArgumentVector.ownedValue_ofWords⟩, ?table, ?runtime, ?foreign⟩
  case table =>
    intro table caller syscall words World os world
    constructor
    · intro run hrun
      refine ⟨InterceptionTable.given_own hrun, fun ret after final hruns => ?_⟩
      rw [← InterceptionTable.call_of_service hrun]
      exact (InterceptionTable.runs_channel.mp hruns).2
    · intro change hchange ret after final
      exact InterceptionTable.runs_channel_withHandlers hchange
  case runtime =>
    intro runtime caller syscall words World os world
    constructor
    · intro ret after final hruns
      obtain ⟨outcome, synced, between, hsync, -, hperform⟩ := LoopbackRuntime.runs_call.mp hruns
      refine ⟨outcome, synced, between, hsync, fun run hrun => ?_⟩
      refine ⟨InterceptionTable.given_own hrun, ?_⟩
      rw [← InterceptionTable.call_of_service hrun]
      exact hperform
    · intro change hchange ret after final
      exact LoopbackRuntime.runs_call_withHandlers hchange
  case foreign =>
    intro name path caller args hforeign World os world
    constructor
    · intro reply hserves ret final
      rw [reply_of_serves hserves, Handler.openFixed_of_foreign hforeign]
      exact Iff.rfl
    · intro runtime syscall ret after final hruns
      obtain ⟨outcome, synced, between, hsync, -, hperform⟩ := LoopbackRuntime.runs_call.mp hruns
      obtain ⟨given, hgiven⟩ := LoopbackRuntime.reads_of_runs_sync hsync
      refine ⟨outcome, synced, between, given, hsync, hgiven, fun hleads hforwards => ?_⟩
      have hreply : (synced.respondSynced caller syscall args).1 = .value Errno.eperm.status :=
        (InterceptionTable.call_of_leadsTo hleads hforwards args).trans
          (Handler.openFixed_of_foreign hforeign name path)
      rw [hreply] at hperform
      exact hperform

/-- A cage whose calls of one number open a file: a mode of its own is honoured, and one that belongs
    to another cage is refused. -/
theorem arguments_keep_their_owners_opening :
    let opening : Handler := .openFixed "open" (.ofText "testfile.txt")
    let attached := ((InterceptionTable.new Native.unsupported).attach (.new ⟨2⟩ [opening])).2
    let table := (attached.register ⟨⟨5⟩, ⟨2⟩, ⟨0⟩, ⟨2⟩⟩).2
    let own : Vector Word 6 := #v[0o600, 0, 0, 0, 0, 0]
    let foreign : ArgumentVector := .ofWords #v[0o600, 77, 0, 5, 0, 5, 0, 5, 0, 5, 0, 5]
    foreign.StartsForeign ⟨5⟩ ∧ table.LeadsTo ⟨5⟩ ⟨2⟩ opening ∧ table.Forwards ⟨5⟩ ⟨2⟩ ∧
    (∃ run : InterceptionTable.HandlerRun,
      table.service ⟨5⟩ ⟨2⟩ (.ofOwner ⟨5⟩ own) = .handler run ∧ run.Given ⟨5⟩ own ∧
      run.reply = .openFile (.ofText "testfile.txt") 0o600) ∧
    ∀ (World : Type) (os : OperatingSystem World) (world : World) ret final,
      (Program.perform (table.call ⟨5⟩ ⟨2⟩ foreign).1).Runs os world ret final ↔
        ret = Errno.eperm.status ∧ final = world := by
  intro opening attached table own foreign
  have hforeign : foreign.StartsForeign ⟨5⟩ := ⟨_, rfl, by decide, by decide⟩
  have hleads : table.LeadsTo ⟨5⟩ ⟨2⟩ opening := ⟨⟨⟨0⟩, ⟨2⟩⟩, .new ⟨2⟩ [opening], rfl, rfl, rfl⟩
  have hforwards : table.Forwards ⟨5⟩ ⟨2⟩ := ⟨fun hdead => absurd hdead (by decide), by decide⟩
  obtain ⟨-, hchannel, -, hopening⟩ := arguments_keep_their_owners
  have hservice : table.service ⟨5⟩ ⟨2⟩ (.ofOwner ⟨5⟩ own) =
      .handler ⟨⟨2⟩, ⟨0⟩, opening, ⟨5⟩, .ofOwner ⟨5⟩ own⟩ := rfl
  refine ⟨hforeign, hleads, hforwards, ⟨_, hservice, ?_, by decide +kernel⟩,
    fun World os world => ?_⟩
  · exact ((hchannel table ⟨5⟩ ⟨2⟩ own Unit ⟨fun _ _ _ _ => True, fun _ _ _ _ _ _ => True⟩ ()).1 _
      hservice).1
  · exact (hopening _ _ ⟨5⟩ foreign hforeign World os world).1 _ (.call hleads hforwards foreign)

end Interposition
