/-
  Dispatch: routing an intercepted call to one handler of a grate by its index.

  The handler table of a grate never changes once the grate serves calls; a dispatcher adds to it
  only two counters, of the calls it ran a handler for and of the calls whose index it refused.
-/
import Interposition.Handler
import Interposition.Text.Case

namespace Interposition

/-- The handlers of a grate in order of their index. -/
abbrev HandlerTable := List Handler

namespace HandlerTable

/-- The table with one more handler, which gets the next free index. -/
def add (table : HandlerTable) (handler : Handler) : HandlerTable := table ++ [handler]

/-- The table of handlers inserted one after another. -/
def build (handlers : List Handler) : HandlerTable := handlers.foldl add []

/-- The handler with an index. -/
def get? (table : HandlerTable) (index : HandlerIndex) : Option Handler :=
  table[index.position]?

/-- The names of the handlers. -/
def names (table : HandlerTable) : List String := table.map Handler.name

/-- The index of the first handler with a name. -/
def indexOf? (table : HandlerTable) (name : String) : Option HandlerIndex :=
  (table.findIdx? fun handler => handler.name == name).map fun i => ⟨UInt64.ofNat i⟩

end HandlerTable

/-- Why no handler was run. -/
inductive DispatchError where
  | indexOutOfRange (index : Word) (len : Nat)
deriving DecidableEq

instance : Diagnostic DispatchError where
  message
    | .indexOutOfRange index len =>
      s!"handler index {index} out of range for a {len}-entry table"
  code _ := "dispatch::index_out_of_range"
  help _ := some "The registration names a handler this grate does not provide."

/-- How many calls a dispatcher ran a handler for, and how many it refused. -/
structure DispatchStats where
  dispatched : UInt64
  rejected : UInt64
deriving DecidableEq, Inhabited

/-- A grate's routing function: its identity, its handlers, and its counters. -/
structure Dispatcher where
  grate : GrateId
  table : HandlerTable
  stats : DispatchStats

namespace Dispatcher

/-- A dispatcher that has not been asked anything yet. -/
def new (grate : GrateId) (table : HandlerTable) : Dispatcher := ⟨grate, table, ⟨0, 0⟩⟩

/-- The result of a call that no handler serves. -/
def refusal : Int64 := -1

section

variable {m : Type → Type} [Monad m] (run : Handler → CageId → ArgumentVector → m Reply)

/-- Has the handler with an index run, or says why there is none; either way one counter moves.
    Running a handler may be more than a function of the arguments. -/
def tryDispatchBy (d : Dispatcher) (index : HandlerIndex) (caller : CageId)
    (args : ArgumentVector) : m (Except DispatchError Reply × Dispatcher) :=
  match d.table.get? index with
  | none =>
    return (.error (.indexOutOfRange index.raw d.table.length),
      { d with stats.rejected := d.stats.rejected + 1 })
  | some handler => do
    let reply ← run handler caller args
    return (.ok reply, { d with stats.dispatched := d.stats.dispatched + 1 })

/-- Has the handler with an index run; an index without a handler answers `refusal`. -/
def dispatchBy (d : Dispatcher) (index : HandlerIndex) (caller : CageId) (args : ArgumentVector) :
    m (Reply × Dispatcher) := do
  match ← d.tryDispatchBy run index caller args with
  | (.ok reply, d') => return (reply, d')
  | (.error _, d') => return (.value refusal, d')

/-- The raw calling convention: index, caller, and the twelve words of the arguments. -/
def dispatchWordsBy (d : Dispatcher) (index caller : Word) (words : Vector Word 12) :
    m (Reply × Dispatcher) :=
  d.dispatchBy run ⟨index⟩ ⟨caller⟩ (.ofWords words)

end

/-- Runs the handler with an index, or says why there is none. -/
def tryDispatch (d : Dispatcher) (index : HandlerIndex) (caller : CageId)
    (args : ArgumentVector) : Except DispatchError Reply × Dispatcher :=
  Id.run (d.tryDispatchBy (fun handler caller args => pure (handler.run caller args)) index caller
    args)

/-- Runs the handler with an index; an index without a handler answers `refusal`. -/
def dispatch (d : Dispatcher) (index : HandlerIndex) (caller : CageId) (args : ArgumentVector) :
    Reply × Dispatcher :=
  Id.run (d.dispatchBy (fun handler caller args => pure (handler.run caller args)) index caller args)

/-- The raw calling convention. -/
def dispatchWords (d : Dispatcher) (index caller : Word) (words : Vector Word 12) :
    Reply × Dispatcher :=
  Id.run (d.dispatchWordsBy (fun handler caller args => pure (handler.run caller args)) index caller
    words)

end Dispatcher

/-! ## Written form -/

namespace DispatchError

instance : Encode DispatchError where
  toJson
    | .indexOutOfRange index len => .object
      [ ("error_type", .text "index_out_of_range"),
        ("details", .object [("index", toJson index), ("len", .number len)]) ]

/-- The variants of a dispatch error. -/
def cases : Cases DispatchError :=
  [ ("index_out_of_range", .record
      (Fields.done indexOutOfRange |>.required "index" |>.field "len" Decoder.size .required)) ]

instance : Decode DispatchError :=
  ⟨Decoder.taggedBeside "DispatchError" "error_type" "details" Text.camelCase cases⟩

end DispatchError

namespace DispatchStats

instance : Encode DispatchStats where
  toJson stats :=
    .object [("dispatched", toJson stats.dispatched), ("rejected", toJson stats.rejected)]

/-- The fields of the counters. -/
def fields : Fields DispatchStats :=
  Fields.done DispatchStats.mk |>.required "dispatched" |>.required "rejected"

instance : Decode DispatchStats := ⟨fields.decoder "DispatchStats"⟩

end DispatchStats

end Interposition
