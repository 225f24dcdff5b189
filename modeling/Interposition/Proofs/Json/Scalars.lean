/-
  Written numbers and texts, as they are read.

  1. **Numbers** (`scanValue_number`): a number is written without zeros in front, so its digits are
     taken one after another and add up to it again.  What stops it must be seen: the character
     behind it is no digit, and begins neither a fraction nor an exponent (`Stops`).

  2. **Texts** (`scanText_textChars`): a character is written as itself or as an escape, and either
     way it is read as one character (`scanText_escapedChar`).
-/
import Mathlib.Data.List.Basic
import Interposition.Json.Reading
import Interposition.Json.Value

namespace Interposition

/-! ## Numbers -/

namespace Numeral

/-- What may stand behind a number that has neither fraction nor exponent. -/
def Stops (rest : List Char) : Prop :=
  ∀ c more, rest = c :: more → c.isDigit = false ∧ c ≠ '.' ∧ c ≠ 'e' ∧ c ≠ 'E'

/-- The value of a digit. -/
def digit (c : Char) : Nat := c.toNat - '0'.toNat

theorem spanDigits_append {digits rest : List Char} (hdigits : ∀ c ∈ digits, c.isDigit = true)
    (hrest : Stops rest) : spanDigits (digits ++ rest) = (digits.map digit, rest) := by
  induction digits with
  | nil =>
    cases rest with
    | nil => rfl
    | cons c more =>
      have hc : Text.digitValue? c = none := by
        unfold Text.digitValue?
        rw [if_neg (by simp [(hrest c more rfl).1])]
      rw [List.nil_append, spanDigits, hc]
      rfl
  | cons c digits ih =>
    have hc : Text.digitValue? c = some (digit c) := if_pos (hdigits c (List.mem_cons_self ..))
    rw [List.cons_append, spanDigits, hc,
      ih fun c hmem => hdigits c (List.mem_cons_of_mem _ hmem)]
    rfl

/-- The value of digits behind a significand. -/
def valueBehind (significand : Nat) (digits : List Nat) : Nat :=
  digits.foldl (fun value d => 10 * value + d) significand

theorem le_valueBehind (significand : Nat) (digits : List Nat) :
    significand ≤ valueBehind significand digits := by
  induction digits generalizing significand with
  | nil => exact Nat.le_refl _
  | cons d digits ih =>
    calc significand ≤ 10 * significand + d := by omega
      _ ≤ valueBehind significand (d :: digits) := ih (10 * significand + d)

/-- Digits of a value that fits a word are all taken. -/
theorem appendDigits_eq {significand : Nat} {digits : List Nat}
    (h : valueBehind significand digits < UInt64.size) :
    appendDigits significand digits = (valueBehind significand digits, digits.length) := by
  induction digits generalizing significand with
  | nil => rfl
  | cons d digits ih =>
    have hfits : significand * 10 + d < UInt64.size := by
      have hle := le_valueBehind (10 * significand + d) digits
      have h : valueBehind (10 * significand + d) digits < UInt64.size := h
      omega
    have hcomm : significand * 10 + d = 10 * significand + d := by omega
    rw [appendDigits, if_pos hfits, hcomm, ih h]
    rfl

/-- **Reading a whole number**: no zero in front of other digits, and a value that fits a word. -/
theorem scan_digits {digits rest : List Char} (below : Bool)
    (hdigits : ∀ c ∈ digits, c.isDigit = true) (hne : digits ≠ [])
    (hzero : ∀ c more, digits = c :: more → digit c = 0 → more = [])
    (hfits : valueBehind 0 (digits.map digit) < UInt64.size) (hrest : Stops rest) :
    scan below (digits ++ rest) =
      .ok (ofSignificand below (valueBehind 0 (digits.map digit)), rest) := by
  have hspan := spanDigits_append hdigits hrest
  have happend := appendDigits_eq hfits
  unfold scan
  rw [hspan]
  cases digits with
  | nil => exact absurd rfl hne
  | cons c more =>
    split
    · next hspan => exact absurd (Prod.mk.inj hspan).1 (List.cons_ne_nil _ _)
    · next hspan => exact absurd (Prod.mk.inj hspan).1 (List.cons_ne_nil _ _)
    · next hspan =>
      obtain ⟨hc, hmore⟩ := List.cons.inj (Prod.mk.inj hspan).1
      rw [hzero c more rfl hc] at hmore
      contradiction
    · next hspan =>
      obtain ⟨rfl, rfl⟩ := Prod.mk.inj hspan
      rw [happend]
      simp only [Nat.sub_self]
      cases rest with
      | nil => rfl
      | cons d behind =>
        obtain ⟨-, hpoint, he, hE⟩ := hrest d behind rfl
        split
        · next heq => exact absurd (List.cons.inj heq).1 hpoint
        · next heq =>
          obtain ⟨rfl, rfl⟩ := List.cons.inj heq
          rw [if_neg (by simp [he, hE])]
        · contradiction

/-! ### Written numbers -/

theorem isDigit_of_mem_toDigits {n : Nat} {c : Char} (h : c ∈ Nat.toDigits 10 n) :
    c.isDigit = true := Nat.isDigit_of_mem_toDigits (by decide) (Nat.le_refl _) h

theorem valueBehind_toDigits (n : Nat) :
    valueBehind 0 ((Nat.toDigits 10 n).map digit) = n := by
  unfold valueBehind
  rw [List.foldl_map]
  exact Nat.ofDigitChars_ten_toDigits

/-- The first digit of a number that has more is not zero. -/
theorem toDigits_head {n : Nat} {c : Char} {more : List Char} (h : Nat.toDigits 10 n = c :: more)
    (hzero : digit c = 0) : more = [] := by
  by_cases hn : n < 10
  · rw [Nat.toDigits_of_lt_base hn] at h
    exact (List.cons.inj h).2.symm
  · rw [Nat.toDigits_of_base_le (by decide) (by omega)] at h
    cases hfront : Nat.toDigits 10 (n / 10) with
    | nil => exact absurd hfront Nat.toDigits_ne_nil
    | cons d ds =>
      rw [hfront, List.cons_append] at h
      obtain ⟨rfl, rfl⟩ := List.cons.inj h
      have hds : ds = [] := toDigits_head hfront hzero
      have hvalue := valueBehind_toDigits (n / 10)
      rw [hfront, hds, List.map_cons, hzero] at hvalue
      have hvalue : 0 = n / 10 := hvalue
      omega
termination_by n
decreasing_by omega

end Numeral

namespace Numeral

/-- The number an integer is read as. -/
def ofInt : Int → Numeral
  | .ofNat n => ofSignificand false n
  | .negSucc n => ofSignificand true (n + 1)

/-- **A written number** is read as the number, whatever stands behind it that stops it. -/
theorem scan_toDigits {n : Nat} {rest : List Char} (below : Bool) (hfits : n < UInt64.size)
    (hrest : Stops rest) :
    scan below (Nat.toDigits 10 n ++ rest) = .ok (ofSignificand below n, rest) := by
  have hvalue := valueBehind_toDigits n
  have hscan := scan_digits below (fun c => isDigit_of_mem_toDigits) Nat.toDigits_ne_nil
    (fun c more => toDigits_head (n := n)) (hvalue.symm ▸ hfits) hrest
  rwa [hvalue] at hscan

end Numeral

/-! ## Texts -/

namespace Reading

open Json (escapedChar textChars)

/-- The code of a control character is read back. -/
theorem quadValue?_hexQuad {n : Nat} (h : n < 32) :
    quadValue? (Text.hexDigit (n / 4096 % 16)) (Text.hexDigit (n / 256 % 16))
      (Text.hexDigit (n / 16 % 16)) (Text.hexDigit (n % 16)) = some n := by
  revert n
  decide

/-- **One written character** is read as the character. -/
theorem scanText_escapedChar (done : List Char) (c : Char) (rest : List Char) :
    scanText done none false (escapedChar c ++ rest) = scanText (c :: done) none false rest := by
  unfold escapedChar
  split_ifs with h1 h2 h3 h4 h5 h6 h7 h8
  · rw [h1]; rfl
  · rw [h2]; rfl
  · rw [h3]; rfl
  · rw [h4]; rfl
  · rw [h5]; rfl
  · rw [h6]; rfl
  · rw [h7]; rfl
  · show scanText done none false ('\\' :: 'u' :: Text.hexDigit (c.toNat / 4096 % 16) ::
      Text.hexDigit (c.toNat / 256 % 16) :: Text.hexDigit (c.toNat / 16 % 16) ::
      Text.hexDigit (c.toNat % 16) :: rest) = _
    rw [scanText, quadValue?_hexQuad h8]
    simp only
    rw [if_neg (by omega), if_neg (by omega), Char.ofNat_toNat]
  · rw [List.singleton_append, scanText]
    · rw [if_neg h8]
      rfl
    all_goals simp_all

theorem scanText_append (done : List Char) (cs rest : List Char) :
    scanText done none false (cs.flatMap escapedChar ++ '"' :: rest) =
      .ok (some (String.ofList (done.reverse ++ cs)), rest) := by
  induction cs generalizing done with
  | nil =>
    rw [List.flatMap_nil, List.nil_append, List.append_nil]
    rfl
  | cons c cs ih =>
    rw [List.flatMap_cons, List.append_assoc, scanText_escapedChar, ih, List.reverse_cons,
      List.append_assoc]
    rfl

/-- **A written text** is read as the text. -/
theorem scanText_textChars (s : String) (rest : List Char) :
    scanText [] none false (s.toList.flatMap escapedChar ++ '"' :: rest) = .ok (some s, rest) := by
  rw [scanText_append, List.reverse_nil, List.nil_append, String.ofList_toList]

/-! ## Space -/

/-- Whether nothing but space stands in a text. -/
def IsBlank (space : List Char) : Prop := ∀ c ∈ space, isSpace c = true

theorem skipSpace_append {space : List Char} (h : IsBlank space) (source : List Char) :
    skipSpace (space ++ source) = skipSpace source := List.dropWhile_append_of_pos h

theorem skipSpace_cons {c : Char} (h : isSpace c = false) (source : List Char) :
    skipSpace (c :: source) = c :: source := List.dropWhile_cons_of_neg (by simp [h])

theorem scanValue_append {space : List Char} (h : IsBlank space) (fuel depth : Nat)
    (source : List Char) : scanValue fuel depth (space ++ source) = scanValue fuel depth source := by
  cases fuel with
  | zero => rfl
  | succ fuel => rw [scanValue, scanValue, skipSpace_append h]

theorem scanItems_append {space : List Char} (h : IsBlank space) (fuel depth : Nat) (first : Bool)
    (source : List Char) :
    scanItems fuel depth first (space ++ source) = scanItems fuel depth first source := by
  cases fuel with
  | zero => rfl
  | succ fuel => rw [scanItems, scanItems, skipSpace_append h]

theorem scanMembers_append {space : List Char} (h : IsBlank space) (fuel depth : Nat)
    (first : Bool) (source : List Char) :
    scanMembers fuel depth first (space ++ source) = scanMembers fuel depth first source := by
  cases fuel with
  | zero => rfl
  | succ fuel => rw [scanMembers, scanMembers, skipSpace_append h]

theorem isBlank_nil : IsBlank [] := by
  intro c h
  contradiction

/-! ## Values -/

theorem literal_append (value : Reading) (name rest : List Char) :
    literal value name (name ++ rest) = (value, rest) := by
  induction name with
  | nil => rfl
  | cons c name ih => rw [List.cons_append, literal, if_pos rfl, ih]

theorem ne_of_isDigit {c d : Char} (hc : c.isDigit = true) (hd : d.isDigit = false) : c ≠ d := by
  rintro rfl
  rw [hc] at hd
  contradiction

theorem isSpace_of_isDigit {c : Char} (hc : c.isDigit = true) : isSpace c = false := by
  simp [isSpace, ne_of_isDigit hc (d := ' ') rfl, ne_of_isDigit hc (d := '\n') rfl,
    ne_of_isDigit hc (d := '\t') rfl, ne_of_isDigit hc (d := '\r') rfl]

/-- A value that begins with a digit is a number. -/
theorem scanValue_digit {c : Char} (hc : c.isDigit = true) {n : Numeral} {more rest : List Char}
    (h : Numeral.scan false (c :: more) = .ok (n, rest)) (fuel depth : Nat) :
    scanValue (fuel + 1) depth (c :: more) = (.number n, rest) := by
  have hne {d : Char} (hd : d.isDigit = false) : c ≠ d := ne_of_isDigit hc hd
  rw [scanValue, skipSpace_cons (isSpace_of_isDigit hc)]
  simp only [if_neg (hne (d := 'n') rfl), if_neg (hne (d := 't') rfl), if_neg (hne (d := 'f') rfl),
    if_neg (hne (d := '"') rfl), if_neg (hne (d := '[') rfl), if_neg (hne (d := '\x7b') rfl),
    if_neg (hne (d := '-') rfl), if_pos hc, h]

/-- A value that begins with a minus sign is a number. -/
theorem scanValue_minus {n : Numeral} {more rest : List Char}
    (h : Numeral.scan true more = .ok (n, rest)) (fuel depth : Nat) :
    scanValue (fuel + 1) depth ('-' :: more) = (.number n, rest) := by
  rw [scanValue, skipSpace_cons rfl]
  simp only [h]
  rfl

theorem toList_toString_ofNat (n : Nat) : (toString (Int.ofNat n)).toList = Nat.toDigits 10 n :=
  Nat.toList_repr

theorem toList_toString_negSucc (n : Nat) :
    (toString (Int.negSucc n)).toList = '-' :: Nat.toDigits 10 (n + 1) := by
  show ("-" ++ (n + 1).repr).toList = _
  rw [String.toList_append, Nat.toList_repr]
  rfl

/-- **A written number** is read as the number. -/
theorem scanValue_number {n : Int} (hfits : n.natAbs < UInt64.size)
    {rest : List Char} (hrest : Numeral.Stops rest) (fuel depth : Nat) :
    scanValue (fuel + 1) depth ((toString n).toList ++ rest) = (.number (.ofInt n), rest) := by
  cases n with
  | ofNat n =>
    have hscan := Numeral.scan_toDigits (n := n) false hfits hrest
    rw [toList_toString_ofNat]
    cases hdigits : Nat.toDigits 10 n with
    | nil => exact absurd hdigits Nat.toDigits_ne_nil
    | cons c more =>
      have hc : c.isDigit = true :=
        Numeral.isDigit_of_mem_toDigits (n := n) (hdigits ▸ List.mem_cons_self ..)
      rw [hdigits, List.cons_append] at hscan
      rw [List.cons_append, scanValue_digit hc hscan]
      rfl
  | negSucc n =>
    rw [toList_toString_negSucc, List.cons_append,
      scanValue_minus (Numeral.scan_toDigits (n := n + 1) true hfits hrest)]
    rfl

/-- A written number begins with a digit or a minus sign. -/
theorem exists_toString_eq (n : Int) :
    ∃ c more, (toString n).toList = c :: more ∧ isSpace c = false ∧ c ≠ ']' := by
  cases n with
  | ofNat n =>
    cases hdigits : Nat.toDigits 10 n with
    | nil => exact absurd hdigits Nat.toDigits_ne_nil
    | cons c more =>
      have hc : c.isDigit = true :=
        Numeral.isDigit_of_mem_toDigits (n := n) (hdigits ▸ List.mem_cons_self ..)
      exact ⟨c, more, (toList_toString_ofNat n).trans hdigits, isSpace_of_isDigit hc,
        ne_of_isDigit hc rfl⟩
  | negSucc n => exact ⟨_, _, toList_toString_negSucc n, by decide⟩

/-- **A written text** is read as the text. -/
theorem scanValue_text (s : String) (rest : List Char) (fuel depth : Nat) :
    scanValue (fuel + 1) depth (textChars s ++ rest) = (.text (some s), rest) := by
  have hchars : textChars s ++ rest = '"' :: (s.toList.flatMap escapedChar ++ '"' :: rest) := by
    simp [textChars]
  rw [hchars, scanValue, skipSpace_cons rfl]
  simp only [scanText_textChars]
  rfl

end Reading

end Interposition
