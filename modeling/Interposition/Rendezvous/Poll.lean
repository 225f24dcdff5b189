/-
  Waiting for something another process does, by looking again and again.

  Looks are first close together and then further apart.  The wait ends when the thing is there,
  when looking fails, when the peer that should bring it about is gone, or when time is up.  The
  peer is asked for only after a look found nothing, and once it is gone there is one last look, so
  a peer that does the thing and exits is not taken for one that exited without doing it.
-/
import Interposition.Host.Program
import Interposition.Rendezvous.Error

namespace Interposition.Poll

/-- The pause after the first look, in nanoseconds. -/
def shortestPause : Nat := 1000000

/-- The longest pause between looks, in nanoseconds. -/
def longestPause : Nat := 50000000

/-- The pause after a pause. -/
def nextPause (pause : Nat) : Nat := min (pause * 2) longestPause

variable {σ β : Type}

/-- One look, and what to do when it finds nothing; `pause` is how long to wait before the next. -/
def round (what peer : String) (timeout : Duration) (started : Nat)
    (alive : σ → Program (Bool × σ)) (check : Program (Except GateError (Option β)))
    (pause : Nat) (s : σ) : Program ((Nat × σ) ⊕ (Except GateError β × σ)) := do
  match ← check with
  | .error e => return .inr (.error e, s)
  | .ok (some found) => return .inr (.ok found, s)
  | .ok none =>
    let (living, s) ← alive s
    if living then
      let now ← Program.request .now
      if now - started ≥ timeout.nanoseconds then
        return .inr (.error (.timeout what timeout), s)
      else
        Program.request (.sleep pause)
        return .inl (nextPause pause, s)
    else
      match ← check with
      | .error e => return .inr (.error e, s)
      | .ok (some found) => return .inr (.ok found, s)
      | .ok none => return .inr (.error (.peerExited what peer), s)

/-- Looks until something is found.  `alive` asks for the peer and may keep a state of its own. -/
def wait (what peer : String) (timeout : Duration) (alive : σ → Program (Bool × σ))
    (check : Program (Except GateError (Option β))) (s : σ) :
    Program (Except GateError β × σ) := do
  let started ← Program.request .now
  Program.iterate (shortestPause, s) fun (pause, s) =>
    round what peer timeout started alive check pause s

end Interposition.Poll
