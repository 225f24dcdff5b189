/-
  Written numbers are read back.

  A number is written with its decimal digits, and a run of digits is worth what it was written for
  (`digitsValue?_toDigits`).
-/
import Interposition.Text.Number

namespace Interposition.Text

variable {digits : List Char} {n : Nat}

theorem digitValue?_of_isDigit {c : Char} (h : c.isDigit = true) :
    digitValue? c = some (c.toNat - '0'.toNat) := if_pos h

/-- **Digits** are worth what they are worth to the library. -/
theorem foldlM_digits (h : ∀ c ∈ digits, c.isDigit = true) (value : Nat) :
    digits.foldlM (fun value c => (digitValue? c).map (value * 10 + ·)) value =
      some (Nat.ofDigitChars 10 digits value) := by
  induction digits generalizing value with
  | nil => rfl
  | cons c digits ih =>
    rw [List.foldlM_cons, digitValue?_of_isDigit (h c List.mem_cons_self)]
    show digits.foldlM _ (value * 10 + (c.toNat - '0'.toNat)) = _
    rw [ih (fun d hd => h d (List.mem_cons_of_mem c hd)), Nat.mul_comm]
    rfl

theorem isDigit_of_mem_toDigits {c : Char} (h : c ∈ Nat.toDigits 10 n) : c.isDigit = true :=
  Nat.isDigit_of_mem_toDigits (by decide) (Nat.le_refl _) h

theorem digitsValue?_toDigits (n : Nat) : digitsValue? (Nat.toDigits 10 n) = some n := by
  unfold digitsValue?
  rw [foldlM_digits fun _ => isDigit_of_mem_toDigits]
  exact congrArg some (Nat.ofDigitChars_toDigits (by decide) (Nat.le_refl _))

/-- **A written number** is read back exactly if it is within the limit. -/
theorem naturalUpTo?_toString_eq (limit n : Nat) :
    naturalUpTo? limit (toString n) = if n ≤ limit then some n else none := by
  have hlist : (toString n).toList = Nat.toDigits 10 n := Nat.toList_repr
  unfold naturalUpTo?
  rw [hlist]
  split
  · next heq =>
    have hplus : '+' ∈ Nat.toDigits 10 n := heq ▸ List.mem_cons_self
    exact absurd (isDigit_of_mem_toDigits hplus) (by decide)
  · rw [if_neg (by simp [Nat.toDigits_ne_nil]), digitsValue?_toDigits, Option.filter_some]
    simp only [decide_eq_true_eq]

theorem naturalUpTo?_toString {limit : Nat} (h : n ≤ limit) :
    naturalUpTo? limit (toString n) = some n := by
  rw [naturalUpTo?_toString_eq, if_pos h]

theorem halfWord?_toString (n : UInt32) : halfWord? (toString n) = some n := by
  have hfits : n.toNat ≤ UInt32.size - 1 := Nat.le_pred_of_lt n.toNat_lt_size
  have htext : toString n = toString n.toNat := rfl
  unfold halfWord?
  rw [htext, naturalUpTo?_toString hfits]
  exact congrArg some UInt32.ofNat_toNat

end Interposition.Text
