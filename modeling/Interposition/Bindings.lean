/-
  The bindings of an interception table: at most one registration for each pair of a cage and a
  call, in order of the pair.

  The order is kept as a proof beside the list, so listing the bindings in order is reading the
  list, and that no pair is bound twice needs no check anywhere else.
-/
import Interposition.Registration

namespace Interposition

namespace Registration

/-- Order by cage, then by call. -/
def Before (a b : Registration) : Prop :=
  a.targetCage.raw < b.targetCage.raw
    ∨ a.targetCage.raw = b.targetCage.raw ∧ a.syscall.raw < b.syscall.raw

instance (a b : Registration) : Decidable (Before a b) :=
  inferInstanceAs (Decidable (_ ∨ _ ∧ _))

theorem Before.trans {a b c : Registration} (hab : a.Before b) (hbc : b.Before c) :
    a.Before c := by
  rcases hab with h | ⟨h, h'⟩ <;> rcases hbc with k | ⟨k, k'⟩
  · exact .inl (UInt64.lt_trans h k)
  · exact .inl (k ▸ h)
  · exact .inl (h ▸ k)
  · exact .inr ⟨h.trans k, UInt64.lt_trans h' k'⟩

/-- Whether a registration is for a pair. -/
def isFor (r : Registration) (cage : CageId) (syscall : SyscallNumber) : Bool :=
  r.targetCage = cage && r.syscall = syscall

end Registration

/-- The bindings of a table, in order of cage and call. -/
structure Bindings where
  entries : List Registration
  ordered : entries.Pairwise Registration.Before

namespace Bindings

/-- Nothing is bound. -/
def empty : Bindings := ⟨[], .nil⟩

instance : Inhabited Bindings := ⟨empty⟩

/-! ## Insertion -/

/-- Puts a registration at its place, in place of the one for the same pair. -/
def insertOrdered (r : Registration) : List Registration → List Registration
  | [] => [r]
  | x :: xs =>
    if r.Before x then r :: x :: xs
    else if x.Before r then x :: insertOrdered r xs
    else r :: xs

theorem mem_of_mem_insertOrdered {r y : Registration} {l : List Registration}
    (h : y ∈ insertOrdered r l) : y = r ∨ y ∈ l := by
  induction l with
  | nil => simpa [insertOrdered] using h
  | cons x xs ih =>
    unfold insertOrdered at h
    split at h
    · simpa using h
    · split at h
      · rcases List.mem_cons.mp h with h | h
        · exact .inr (h ▸ List.mem_cons_self)
        · exact (ih h).imp id (List.mem_cons_of_mem x)
      · rcases List.mem_cons.mp h with h | h
        · exact .inl h
        · exact .inr (List.mem_cons_of_mem x h)

/-- Neither registration comes before the other exactly when they are for the same pair. -/
theorem same_of_not_before {a b : Registration} (hab : ¬ a.Before b) (hba : ¬ b.Before a) :
    a.targetCage.raw = b.targetCage.raw ∧ a.syscall.raw = b.syscall.raw := by
  simp only [Registration.Before, not_or, not_and, UInt64.not_lt] at hab hba
  have hc := UInt64.le_antisymm hba.1 hab.1
  exact ⟨hc, UInt64.le_antisymm (hba.2 hc.symm) (hab.2 hc)⟩

theorem insertOrdered_pairwise {r : Registration} {l : List Registration}
    (h : l.Pairwise Registration.Before) :
    (insertOrdered r l).Pairwise Registration.Before := by
  induction l with
  | nil => simp [insertOrdered]
  | cons x xs ih =>
    rw [List.pairwise_cons] at h
    unfold insertOrdered
    split
    case isTrue hrx =>
      refine List.pairwise_cons.mpr ⟨fun y hy => ?_, List.pairwise_cons.mpr h⟩
      rcases List.mem_cons.mp hy with hy | hy
      · exact hy ▸ hrx
      · exact hrx.trans (h.1 y hy)
    case isFalse hrx =>
      split
      case isTrue hxr =>
        refine List.pairwise_cons.mpr ⟨fun y hy => ?_, ih h.2⟩
        rcases mem_of_mem_insertOrdered hy with hy | hy
        · exact hy ▸ hxr
        · exact h.1 y hy
      case isFalse hxr =>
        have hsame := same_of_not_before hrx hxr
        refine List.pairwise_cons.mpr ⟨fun y hy => ?_, h.2⟩
        have := h.1 y hy
        simpa only [Registration.Before, hsame.1, hsame.2] using this

/-- The bindings with one registration made. -/
def insert (bindings : Bindings) (r : Registration) : Bindings :=
  ⟨insertOrdered r bindings.entries, insertOrdered_pairwise bindings.ordered⟩

/-! ## Lookup and removal -/

/-- The binding of a pair. -/
def lookup (bindings : Bindings) (cage : CageId) (syscall : SyscallNumber) : Option Binding :=
  (bindings.entries.find? fun r => r.isFor cage syscall).map Registration.binding

/-- The bindings that satisfy a condition. -/
def filter (bindings : Bindings) (keep : Registration → Bool) : Bindings :=
  ⟨bindings.entries.filter keep, bindings.ordered.filter keep⟩

/-- How many pairs are bound. -/
def size (bindings : Bindings) : Nat := bindings.entries.length

end Bindings

end Interposition
