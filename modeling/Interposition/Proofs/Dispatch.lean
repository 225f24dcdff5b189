/-
  Which handlers a dispatcher runs.

  A dispatcher is asked in three ways, through any of its clones, and what its handlers do is left
  open: they may have effects of any kind (a monad), and the effects of a row of calls say which
  handlers were run, with what, and in which order.

  1. **Calls** (`Call`): the three ways to ask, each with an index, a caller and arguments, and what
     each makes of a handler's reply and of an index without a handler (`Call.answered`).

  2. **Clones** (`Handle`, `Handle.IsClone`): a clone shares the table with the dispatcher it was made
     of, and counts where it counts.

  3. **Any calls** (`serveAll_eq`): the handler inserted at the index is run, once, and nobody else;
     an index that is too large runs nobody.  All three ways to ask are one (`serve_eq_attempt`).  The
     induction is on the calls, and one call moves one of the two counters that all clones share
     (`serve_eq`, `foldl_tallied`).

  4. **What was run** (`Call.mapM_served_noted`): when a handler that is run leaves a note, the notes
     are one for each call in range, in the order of the calls.

  5. **The dispatcher itself** (`askAll_eq`): where handlers do nothing but reply, a dispatcher that
     is asked in its three ways answers with the reply at each index, and counts.
-/
import Mathlib.Logic.Function.Basic
import Interposition.Dispatch

namespace Interposition

/-- Handlers are numbered in the order they are inserted in. -/
theorem HandlerTable.build_eq (handlers : List Handler) : build handlers = handlers := by
  have hfold (table : HandlerTable) : handlers.foldl add table = table ++ handlers := by
    induction handlers generalizing table with
    | nil => exact (List.append_nil table).symm
    | cons handler handlers ih =>
      calc handlers.foldl add (add table handler) = add table handler ++ handlers := ih _
        _ = table ++ handler :: handlers := List.append_assoc table [handler] handlers
  exact hfold []

namespace Dispatcher

/-! ## Calls -/

/-- A way to ask a dispatcher. -/
inductive Call where
  /-- Asks, and wants to be told of an index without a handler. -/
  | attempt (index : HandlerIndex) (caller : CageId) (args : ArgumentVector)
  | route (index : HandlerIndex) (caller : CageId) (args : ArgumentVector)
  /-- Asks in the raw calling convention. -/
  | raw (index caller : Word) (words : Vector Word 12)

/-- What a dispatcher answers. -/
inductive Answer where
  | attempted (result : Except DispatchError Reply)
  | replied (reply : Reply)

namespace Call

/-- The index of the handler asked for. -/
def index : Call → HandlerIndex
  | attempt index _ _ | route index _ _ => index
  | raw index _ _ => ⟨index⟩

/-- For whom. -/
def caller : Call → CageId
  | attempt _ caller _ | route _ caller _ => caller
  | raw _ caller _ => ⟨caller⟩

/-- With what. -/
def args : Call → ArgumentVector
  | attempt _ _ args | route _ _ args => args
  | raw _ _ words => .ofWords words

/-- Whether a table of so many handlers has the one asked for. -/
def InRange (len : Nat) (call : Call) : Prop := call.index.raw.toNat < len

instance (len : Nat) : DecidablePred (InRange len) := fun call =>
  inferInstanceAs (Decidable (call.index.raw.toNat < len))

/-- What the call is answered, by what came of it; only an attempt is told of an error. -/
def answered (result : Except DispatchError Reply) : Call → Answer
  | attempt _ _ _ => .attempted result
  | route _ _ _ | raw _ _ _ =>
    match result with
    | .ok reply => .replied reply
    | .error _ => .replied (.value refusal)

section

variable {m : Type → Type} [Monad m] (run : Handler → CageId → ArgumentVector → m Reply)

/-- What is to come of a call when handlers have been inserted: the one at the index is run, if there
    is one. -/
def served (inserted : List Handler) (call : Call) : m Answer :=
  match inserted[call.index.raw.toNat]? with
  | some handler => do return call.answered (.ok (← run handler call.caller call.args))
  | none => return call.answered (.error (.indexOutOfRange call.index.raw inserted.length))

end

end Call

/-! ## Clones -/

/-- The counters of all dispatchers, each pair in a place of its own. -/
abbrev Counters := Nat → DispatchStats

/-- A dispatcher as its clones hold it: they share the table, and the place they count in. -/
structure Handle where
  grate : GrateId
  table : HandlerTable
  place : Nat

namespace Handle

/-- One more handle on the same dispatcher. -/
def clone (h : Handle) : Handle := ⟨h.grate, h.table, h.place⟩

/-- A handle made of the first by cloning. -/
inductive IsClone (first : Handle) : Handle → Prop where
  | first : IsClone first first
  | clone {h : Handle} (made : IsClone first h) : IsClone first h.clone

/-- The handles on one dispatcher. -/
abbrev Clones (first : Handle) := { h : Handle // first.IsClone h }

/-- Clones are as good as the first. -/
theorem IsClone.eq {first h : Handle} (made : first.IsClone h) : h = first := by
  induction made with
  | first => rfl
  | clone _ ih => exact ih

/-- The counters as a handle shows them. -/
def stats (h : Handle) (counters : Counters) : DispatchStats := counters h.place

/-- The dispatcher behind a handle. -/
def dispatcher (h : Handle) (counters : Counters) : Dispatcher :=
  ⟨h.grate, h.table, h.stats counters⟩

section

variable {m : Type → Type} [Monad m] (run : Handler → CageId → ArgumentVector → m Reply)

/-- One call through a handle. -/
def serve (h : Handle) (call : Call) (counters : Counters) : m (Answer × Counters) := do
  match call with
  | .attempt index caller args =>
    let (result, d) ← (h.dispatcher counters).tryDispatchBy run index caller args
    return (.attempted result, Function.update counters h.place d.stats)
  | .route index caller args =>
    let (reply, d) ← (h.dispatcher counters).dispatchBy run index caller args
    return (.replied reply, Function.update counters h.place d.stats)
  | .raw index caller words =>
    let (reply, d) ← (h.dispatcher counters).dispatchWordsBy run index caller words
    return (.replied reply, Function.update counters h.place d.stats)

/-- Calls one after another, each through a clone of its own. -/
def serveAll {first : Handle} :
    List (first.Clones × Call) → Counters → m (List Answer × Counters)
  | [], counters => return ([], counters)
  | (h, call) :: rest, counters => do
    let (answer, counters) ← h.val.serve run call counters
    let (answers, counters) ← serveAll rest counters
    return (answer :: answers, counters)

end

end Handle

/-! ## Any calls -/

/-- The counters of a dispatcher with so many handlers after one more call. -/
def tallied (len : Nat) (stats : DispatchStats) (call : Call) : DispatchStats :=
  if call.InRange len then { stats with dispatched := stats.dispatched + 1 }
  else { stats with rejected := stats.rejected + 1 }

/-- The counters of all after a call to one that counts in a place. -/
def counted (place len : Nat) (counters : Counters) (call : Call) : Counters :=
  Function.update counters place (tallied len (counters place) call)

section

variable {m : Type → Type} [Monad m] {run : Handler → CageId → ArgumentVector → m Reply}
  {d : Dispatcher} {index : HandlerIndex} {caller : CageId} {args : ArgumentVector}
  {handler : Handler}

theorem tryDispatchBy_of_some (h : d.table.get? index = some handler) :
    d.tryDispatchBy run index caller args = do
      return (.ok (← run handler caller args),
        { d with stats.dispatched := d.stats.dispatched + 1 }) := by
  unfold tryDispatchBy
  rw [h]

theorem tryDispatchBy_of_none (h : d.table.get? index = none) :
    d.tryDispatchBy run index caller args =
      pure (.error (.indexOutOfRange index.raw d.table.length),
        { d with stats.rejected := d.stats.rejected + 1 }) := by
  unfold tryDispatchBy
  rw [h]

variable [LawfulMonad m]

/-- However a dispatcher is asked, it makes one attempt, and an answer of what came of it. -/
theorem serve_eq_attempt (h : Handle) (call : Call) (counters : Counters) :
    h.serve run call counters = do
      let (result, d) ← (h.dispatcher counters).tryDispatchBy run call.index call.caller call.args
      return (call.answered result, Function.update counters h.place d.stats) := by
  have hroute (index : HandlerIndex) (caller : CageId) (args : ArgumentVector) :
      (do let (reply, d) ← (h.dispatcher counters).dispatchBy run index caller args
          return (Answer.replied reply, Function.update counters h.place d.stats)) = do
        let (result, d) ← (h.dispatcher counters).tryDispatchBy run index caller args
        return ((Call.route index caller args).answered result,
          Function.update counters h.place d.stats) := by
    unfold dispatchBy
    rw [bind_assoc]
    refine bind_congr fun outcome => ?_
    obtain ⟨_ | reply, d⟩ := outcome <;> exact pure_bind _ _
  cases call with
  | attempt index caller args => rfl
  | route index caller args => exact hroute index caller args
  | raw index caller words => exact hroute ⟨index⟩ ⟨caller⟩ (.ofWords words)

/-- **One call** runs the handler at its index, or nobody, and is counted. -/
theorem serve_eq (h : Handle) (call : Call) (counters : Counters) :
    h.serve run call counters = do
      return (← call.served run h.table, counted h.place h.table.length counters call) := by
  rw [serve_eq_attempt]
  unfold Call.served counted tallied
  cases hget : h.table[call.index.raw.toNat]? with
  | some handler =>
    have hfound : (h.dispatcher counters).table.get? call.index = some handler := hget
    have hrange : call.InRange h.table.length := (List.getElem?_eq_some_iff.mp hget).1
    simp only [tryDispatchBy_of_some hfound, if_pos hrange, bind_assoc, pure_bind]
    rfl
  | none =>
    have hmissing : (h.dispatcher counters).table.get? call.index = none := hget
    have hrange : ¬call.InRange h.table.length := Nat.not_lt.mpr (List.getElem?_eq_none_iff.mp hget)
    simp only [tryDispatchBy_of_none hmissing, if_neg hrange, pure_bind]
    rfl

/-- **Any calls** run the handlers at their indices, one after another, and are counted. -/
theorem serveAll_eq {first : Handle} (calls : List (first.Clones × Call)) (counters : Counters) :
    Handle.serveAll run calls counters = do
      return (← calls.mapM fun c => c.2.served run first.table,
        (calls.map Prod.snd).foldl (counted first.place first.table.length) counters) := by
  induction calls generalizing counters with
  | nil => simp [Handle.serveAll]
  | cons c calls ih =>
    obtain ⟨⟨h, made⟩, call⟩ := c
    obtain rfl := made.eq
    simp only [Handle.serveAll, serve_eq, ih, List.mapM_cons, List.map_cons, List.foldl_cons,
      bind_assoc, pure_bind]

end

/-! ## Counters -/

/-- **Every call is counted** in one of the two counters. -/
theorem foldl_tallied (len : Nat) (stats : DispatchStats) (calls : List Call) :
    calls.foldl (tallied len) stats =
      ⟨stats.dispatched + UInt64.ofNat (calls.countP (·.InRange len)),
        stats.rejected + UInt64.ofNat (calls.countP (¬·.InRange len))⟩ := by
  -- The counters are words: one more call is one more at either end of the sum, and they wrap alike.
  have hsucc (a : UInt64) (n : Nat) : a + 1 + UInt64.ofNat n = a + UInt64.ofNat (n + 1) := by
    rw [UInt64.ofNat_add, UInt64.add_assoc, UInt64.add_comm 1]
    rfl
  induction calls generalizing stats with
  | nil => simp
  | cons call calls ih =>
    rw [List.foldl_cons, ih]
    by_cases hrange : call.InRange len
    · simp [tallied, hrange, hsucc]
    · simp [tallied, hrange, hsucc]

/-- Clones count in their place, and nowhere else. -/
theorem foldl_counted (place len : Nat) (counters : Counters) (calls : List Call) :
    calls.foldl (counted place len) counters place =
      calls.foldl (tallied len) (counters place) := by
  induction calls generalizing counters with
  | nil => rfl
  | cons call calls ih => rw [List.foldl_cons, ih, counted, Function.update_self, List.foldl_cons]

/-! ## What was run -/

/-- A handler that was run, for whom and with what. -/
structure Invocation where
  handler : Handler
  caller : CageId
  args : ArgumentVector

/-- Runs a handler and writes down that it did. -/
def noted (handler : Handler) (caller : CageId) (args : ArgumentVector) :
    StateM (List Invocation) Reply := do
  modify (· ++ [⟨handler, caller, args⟩])
  return handler.run caller args

namespace Call

variable (inserted : List Handler) (call : Call)

/-- What comes of a call when handlers have been inserted that do nothing but reply. -/
def result : Except DispatchError Reply :=
  match inserted[call.index.raw.toNat]? with
  | some handler => .ok (handler.run call.caller call.args)
  | none => .error (.indexOutOfRange call.index.raw inserted.length)

/-- The handler a call is to run, when handlers have been inserted. -/
def invocation? : Option Invocation :=
  inserted[call.index.raw.toNat]?.map fun handler => ⟨handler, call.caller, call.args⟩

/-- What is to come of a call is written down as one invocation, if it is in range. -/
theorem served_noted (log : List Invocation) :
    (call.served noted inserted).run log =
      (call.answered (call.result inserted), log ++ (call.invocation? inserted).toList) := by
  unfold served result invocation?
  cases inserted[call.index.raw.toNat]? with
  | some handler => rfl
  | none => simp; rfl

/-- What is to come of calls is written down in their order. -/
theorem mapM_served_noted (calls : List Call) (log : List Invocation) :
    (calls.mapM (served noted inserted)).run log =
      (calls.map fun call => call.answered (call.result inserted),
        log ++ calls.filterMap (invocation? inserted)) := by
  induction calls generalizing log with
  | nil => simp; rfl
  | cons call calls ih =>
    have hlog : log ++ (call.invocation? inserted).toList ++ calls.filterMap (invocation? inserted) =
        log ++ (call :: calls).filterMap (invocation? inserted) := by
      rw [List.append_assoc, List.filterMap_cons]
      cases call.invocation? inserted <;> rfl
    rw [List.mapM_cons, List.map_cons, ← hlog]
    simp only [StateT.run_bind, served_noted, ih]
    rfl

end Call

/-! ## The dispatcher itself -/

/-- Asks a dispatcher whose handlers do nothing but reply. -/
def ask (d : Dispatcher) : Call → Answer × Dispatcher
  | .attempt index caller args => (d.tryDispatch index caller args).map .attempted id
  | .route index caller args => (d.dispatch index caller args).map .replied id
  | .raw index caller words => (d.dispatchWords index caller words).map .replied id

/-- Asks it one call after another. -/
def askAll (d : Dispatcher) : List Call → List Answer × Dispatcher
  | [] => ([], d)
  | call :: calls =>
    let (answer, d) := d.ask call
    let (answers, d) := d.askAll calls
    (answer :: answers, d)

/-- **An attempt** comes to the reply of the handler at its index, or to nobody's. -/
theorem tryDispatch_eq (d : Dispatcher) (index : HandlerIndex) (caller : CageId)
    (args : ArgumentVector) :
    d.tryDispatch index caller args = ((Call.attempt index caller args).result d.table,
      { d with stats := tallied d.table.length d.stats (.attempt index caller args) }) := by
  unfold tryDispatch Call.result tallied
  cases hget : d.table[index.raw.toNat]? with
  | some handler =>
    have hrange : (Call.attempt index caller args).InRange d.table.length :=
      (List.getElem?_eq_some_iff.mp hget).1
    rw [tryDispatchBy_of_some hget, if_pos hrange]
    simp only [Call.index, hget]
    rfl
  | none =>
    have hrange : ¬(Call.attempt index caller args).InRange d.table.length :=
      Nat.not_lt.mpr (List.getElem?_eq_none_iff.mp hget)
    rw [tryDispatchBy_of_none hget, if_neg hrange]
    simp only [Call.index, hget]
    rfl

/-- Routing is an attempt that is answered with a reply whatever comes of it. -/
theorem dispatch_eq_tryDispatch (d : Dispatcher) (index : HandlerIndex) (caller : CageId)
    (args : ArgumentVector) :
    (d.dispatch index caller args).map .replied id =
      (d.tryDispatch index caller args).map (Call.route index caller args).answered id := by
  unfold dispatch dispatchBy tryDispatch
  rw [Id.run_bind]
  obtain ⟨_ | reply, d'⟩ := Id.run (d.tryDispatchBy _ index caller args) <;> rfl

/-- **One call**, in whichever way, is an attempt, and an answer of what came of it. -/
theorem ask_eq (d : Dispatcher) (call : Call) :
    d.ask call = (call.answered (call.result d.table),
      { d with stats := tallied d.table.length d.stats call }) := by
  cases call with
  | attempt index caller args =>
    rw [ask, tryDispatch_eq]
    rfl
  | route index caller args =>
    rw [ask, dispatch_eq_tryDispatch, tryDispatch_eq]
    rfl
  | raw index caller words =>
    show Prod.map Answer.replied id (d.dispatch ⟨index⟩ ⟨caller⟩ (.ofWords words)) = _
    rw [dispatch_eq_tryDispatch, tryDispatch_eq]
    rfl

theorem askAll_eq (d : Dispatcher) (calls : List Call) :
    d.askAll calls = (calls.map fun call => call.answered (call.result d.table),
      { d with stats := calls.foldl (tallied d.table.length) d.stats }) := by
  induction calls generalizing d with
  | nil => rfl
  | cons call calls ih => simp only [askAll, ask_eq, ih, List.map_cons, List.foldl_cons]

/-- **A new dispatcher**, over whatever handlers have been inserted, answers any calls with the
    replies of the handlers at their indices, and with a refusal where there is none.  It counts
    both kinds. -/
theorem askAll_new (grate : GrateId) (inserted : List Handler) (calls : List Call) :
    (Dispatcher.new grate (HandlerTable.build inserted)).askAll calls =
      (calls.map fun call => call.answered (call.result inserted), ⟨grate, inserted,
        ⟨UInt64.ofNat (calls.countP (·.InRange inserted.length)),
          UInt64.ofNat (calls.countP (¬·.InRange inserted.length))⟩⟩) := by
  rw [HandlerTable.build_eq, askAll_eq, foldl_tallied]
  simp only [Dispatcher.new, UInt64.zero_add]
  rfl

/-! ## One handler, or none -/

/-- A handle on a new dispatcher, which counts in a place of its own. -/
def Handle.new (grate : GrateId) (table : HandlerTable) (place : Nat) (counters : Counters) :
    Handle × Counters :=
  (⟨grate, table, place⟩, Function.update counters place (Dispatcher.new grate table).stats)

/-- **Dispatch runs exactly one handler or none.**  Whatever handlers have been inserted, and
    whatever calls are made through clones of a dispatcher over them, the handler inserted at the
    index is run for each call in range, with its caller and its arguments, and its reply is the
    answer; any other call runs nobody and is answered so.  Every clone counts both kinds. -/
theorem runs_exactly_one_or_none (grate : GrateId) (inserted : List Handler) (place : Nat)
    (others : Counters) :
    let (first, counters) := Handle.new grate (HandlerTable.build inserted) place others
    ∀ calls : List (first.Clones × Call),
      let asked := calls.map Prod.snd
      ∃ after : Counters,
        (∀ (m : Type → Type) [Monad m] [LawfulMonad m]
          (run : Handler → CageId → ArgumentVector → m Reply),
          Handle.serveAll run calls counters = do
            return (← asked.mapM (Call.served run inserted), after)) ∧
        (Handle.serveAll noted calls counters).run [] =
          ((asked.map fun call => call.answered (call.result inserted), after),
            asked.filterMap (Call.invocation? inserted)) ∧
        ∀ clone : first.Clones, clone.val.stats after =
          ⟨UInt64.ofNat (asked.countP (·.InRange inserted.length)),
            UInt64.ofNat (asked.countP (¬·.InRange inserted.length))⟩ := by
  rw [HandlerTable.build_eq]
  intro calls asked
  let counters := Function.update others place (Dispatcher.new grate inserted).stats
  have hall {m : Type → Type} [Monad m] [LawfulMonad m]
      (run : Handler → CageId → ArgumentVector → m Reply) :
      Handle.serveAll run calls counters = do
        return (← asked.mapM (Call.served run inserted),
          asked.foldl (counted place inserted.length) counters) := by
    rw [serveAll_eq, List.mapM_map]
    rfl
  refine ⟨asked.foldl (counted place inserted.length) counters, fun m _ _ run => hall run, ?_, ?_⟩
  · -- What was run is read off the notes.
    rw [hall, StateT.run_bind, Call.mapM_served_noted]
    rfl
  · rintro ⟨clone, made⟩
    obtain rfl := made.eq
    have hzero : counters place = ⟨0, 0⟩ := Function.update_self ..
    show asked.foldl (counted place inserted.length) counters place = _
    rw [foldl_counted, hzero, foldl_tallied]
    simp only [UInt64.zero_add]

end Dispatcher

end Interposition
