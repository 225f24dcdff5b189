/-
  Collecting every child.

  Children are looked at over and over, and one that has ended leaves the row: the last of the row
  takes its place.  Who is looked at when is of no concern to what is collected, so the row is
  known up to its order only.

  1. **Rows** (`Collecting`): an assertion about the children still waited for, the records
     collected, and the executor.  It must not depend on the order, and a look at the first child
     must keep it, or move that child from the row to the records.

  2. **Sweeps and sweeps of sweeps** (`meets_sweep`, `meets_reapThese`): such an assertion is so
     throughout, and at the end with nobody waited for.
-/
import Mathlib.Data.List.Basic
import Interposition.Proofs.Host.Alone

namespace Interposition.Executor

variable {World : Type} {os : OperatingSystem World} {invariant : World → Prop}

/-- An assertion about the row of children waited for that looks and pauses keep; `bad` is what is so
    when a look fails. -/
structure Collecting (os : OperatingSystem World) (invariant : World → Prop)
    (row : List Pid → List ProcessRecord → Executor → World → Prop)
    (bad : ProcessError → Executor → World → Prop) : Prop where
  perm : ∀ {waiting waiting' finished e world}, waiting.Perm waiting' →
    row waiting finished e world → row waiting' finished e world
  look : ∀ {pid rest finished e world}, row (pid :: rest) finished e world →
    (tryReap pid e).Meets os (.alone invariant) (fun outcome now =>
      match outcome.1 with
      | .ok none => row (pid :: rest) finished outcome.2 now
      | .ok (some _) => ∃ r, outcome.2.record? pid = some r ∧ row rest (finished ++ [r]) outcome.2 now
      | .error cause => bad cause outcome.2 now) world
  pause : ∀ {waiting finished e world next nanoseconds}, invariant world →
    row waiting finished e world → os.answers world (.sleep nanoseconds) () next →
    invariant next ∧ row waiting finished e next

variable {row : List Pid → List ProcessRecord → Executor → World → Prop}
  {bad : ProcessError → Executor → World → Prop} {e : Executor} {world : World}

/-- **One sweep** along the row. -/
theorem meets_sweep (h : Collecting os invariant row bad) {count : Nat} {kept rest : List Pid}
    {finished : List ProcessRecord} (hrow : row (kept ++ rest) finished e world) :
    (sweep count kept rest finished e).Meets os (.alone invariant) (fun outcome now =>
      match outcome.1 with
      | .ok (left, met) => row left met outcome.2 now
      | .error cause => bad cause outcome.2 now) world := by
  induction count generalizing kept rest finished e world with
  | zero => exact hrow
  | succ count ih =>
    cases rest with
    | nil => exact h.perm (by rw [List.append_nil]) hrow
    | cons pid rest =>
      refine Supervised.meets_bind ((h.look (h.perm List.perm_middle hrow)).mono ?_)
      rintro ⟨_ | _ | t, after⟩ now hnow
      · exact hnow
      · -- the child goes on, and so does the sweep
        have hrow : row ((kept ++ [pid]) ++ rest) finished after now := by
          rw [List.append_assoc]
          exact h.perm List.perm_middle.symm hnow
        exact ih hrow
      · obtain ⟨r, hr, hrow⟩ := hnow
        refine Supervised.meets_get ?_
        simp only [hr]
        cases hlast : rest.getLast? with
        | none =>
          rw [List.getLast?_eq_none_iff.mp hlast] at hrow
          exact ih hrow
        | some last =>
          refine ih (h.perm (List.Perm.append_left kept ?_) hrow)
          have hrest := List.dropLast_append_getLast? last hlast
          calc rest = rest.dropLast ++ [last] := hrest.symm
            _ |>.Perm (last :: rest.dropLast) := List.perm_append_singleton ..

/-- **Sweeps** until nobody is waited for. -/
theorem meets_reapThese (h : Collecting os invariant row bad) {pids : List Pid}
    (hrow : row pids [] e world) :
    (reapThese pids e).Meets os (.alone invariant) (fun outcome now =>
      match outcome.1 with
      | .ok records => row [] records outcome.2 now
      | .error cause => bad cause outcome.2 now) world := by
  refine Program.meets_rounds (fun state => row state.1 state.2.1 state.2.2.2) hrow ?_
  rintro ⟨waiting, finished, pause, e⟩ world hinv hrow
  show (if waiting.isEmpty = true then _ else _ : Program _).Meets _ _ _ _
  split
  · next hnobody =>
    rw [List.isEmpty_iff.mp hnobody] at hrow
    exact hrow
  · refine Program.Meets.bind (meets_sweep h hrow) ?_
    rintro ⟨_ | ⟨left, met⟩, after⟩ now hnow
    · exact hnow
    · show (if left.length < waiting.length then _ else _ : Program _).Meets _ _ _ _
      split
      · exact hnow
      · exact Program.meets_request_bind fun hinv _ between hsleep => h.pause hinv hnow hsleep

end Interposition.Executor
