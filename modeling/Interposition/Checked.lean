/-
  Sums of numbers of a fixed width, where the programs check that they fit.

  A program that comes to a sum that does not fit stops there and then, whatever it was doing.  Such
  a sum is no number, and what depends on it is nothing either.
-/

namespace Interposition.Checked

/-- The sum of two half words, if it is one. -/
def unsigned? (a b : UInt32) : Option UInt32 :=
  if a.toNat + b.toNat < UInt32.size then some (a + b) else none

/-- The sum of two signed half words, if it is one. -/
def signed? (a b : Int32) : Option Int32 :=
  if Int32.minValue.toInt ≤ a.toInt + b.toInt ∧ a.toInt + b.toInt ≤ Int32.maxValue.toInt then
    some (a + b)
  else none

/-- **A sum of half words** is the sum of the numbers. -/
theorem unsigned?_eq_some_iff {a b c : UInt32} :
    unsigned? a b = some c ↔ c.toNat = a.toNat + b.toNat := by
  unfold unsigned?
  have hc := c.toNat_lt_size
  split
  · next hfits =>
    rw [Option.some.injEq, ← UInt32.toNat_inj, UInt32.toNat_add, Nat.mod_eq_of_lt hfits]
    exact eq_comm
  · exact iff_of_false nofun (by omega)

theorem unsigned?_eq_none_iff {a b : UInt32} :
    unsigned? a b = none ↔ UInt32.size ≤ a.toNat + b.toNat := by
  simp [unsigned?]

/-- **A sum of signed half words** is the sum of the numbers. -/
theorem signed?_eq_some_iff {a b c : Int32} :
    signed? a b = some c ↔ c.toInt = a.toInt + b.toInt := by
  unfold signed?
  have hlow := c.minValue_le_toInt
  have hhigh := c.toInt_le
  split
  · next hfits =>
    rw [Int32.toInt_minValue, Int32.toInt_maxValue] at hfits
    have hsum : (a + b).toInt = a.toInt + b.toInt :=
      (Int32.toInt_add a b).trans (Int.bmod_eq_of_le_mul_two (by omega) (by omega))
    rw [Option.some.injEq, ← Int32.toInt_inj, hsum]
    exact eq_comm
  · exact iff_of_false nofun (by omega)

theorem signed?_eq_none_iff {a b : Int32} :
    signed? a b = none ↔
      a.toInt + b.toInt < Int32.minValue.toInt ∨ Int32.maxValue.toInt < a.toInt + b.toInt := by
  unfold signed?
  split
  · exact iff_of_false nofun (by omega)
  · exact iff_of_true rfl (by omega)

end Interposition.Checked
