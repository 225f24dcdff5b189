/-
  Bytes and text, there and back.

  1. **There** (`ofText_eq`): the bytes of a text are those of its characters, one after another.

  2. **One character** (`Spells`): a lead byte and the bytes behind it, each in its range, spell a
     value.  Writing a character gives bytes that spell it (`spells_utf8EncodeChar`), and bytes
     that spell a value are what its character is written as (`Spells.utf8EncodeChar_eq`): the
     narrowed ranges are exactly those that leave one spelling of every character.

  3. **Back** (`decode_ofText`): bytes that spell a character are read as one piece, so the bytes of
     a text are read as its characters and nothing is ill-formed in them.

  4. **Bytes that are text** (`ofText_of_toText?`): what reads as a text is what the text is written
     as.
-/
import Mathlib.Data.List.Basic
import Interposition.Text.Utf8

namespace Interposition.Utf8

/-! ## The bytes of a text -/

/-- **The bytes of a text** are those of its characters. -/
theorem ofText_eq (text : String) : ofText text = text.toList.flatMap String.utf8EncodeChar := by
  unfold ofText
  rw [String.toUTF8_eq_toByteArray, ← String.utf8Encode_toList, List.utf8Encode,
    List.toList_data_toByteArray]

theorem ofText_append (text more : String) : ofText (text ++ more) = ofText text ++ ofText more := by
  rw [ofText_eq, ofText_eq, ofText_eq, String.toList_append, List.flatMap_append]

/-! ## One character -/

theorem toNat_ofNat {n : Nat} (h : n.isValidChar) : (Char.ofNat n).val.toNat = n := by
  unfold Char.ofNat
  rw [dif_pos h]
  exact UInt32.toNat_ofNatLT

/-- The least byte that may follow a lead byte: overlong forms are ruled out. -/
def lowBehind (lead : UInt8) : UInt8 :=
  if lead.toNat = 0xE0 then 0xA0 else if lead.toNat = 0xF0 then 0x90 else 0x80

/-- The greatest byte that may follow a lead byte: surrogates and values beyond the last character
    are ruled out. -/
def highBehind (lead : UInt8) : UInt8 :=
  if lead.toNat = 0xED then 0x9F else if lead.toNat = 0xF4 then 0x8F else 0xBF

/-- What a lead byte asks for, by the number of bytes of its character. -/
theorem expectation?_eq (lead : UInt8) :
    expectation? lead =
      if lead.toNat < 0xC2 then none
      else if lead.toNat < 0xE0 then
        some ⟨1, lead.toNat - 0xC0, lowBehind lead, highBehind lead⟩
      else if lead.toNat < 0xF0 then
        some ⟨2, lead.toNat - 0xE0, lowBehind lead, highBehind lead⟩
      else if lead.toNat < 0xF5 then
        some ⟨3, lead.toNat - 0xF0, lowBehind lead, highBehind lead⟩
      else none := by
  simp only [expectation?, UInt8.lt_iff_toNat_lt, ← UInt8.toNat_inj, UInt8.reduceToNat, lowBehind,
    highBehind]
  grind

/-- Whether a byte lies between two others. -/
def Between (low high byte : UInt8) : Prop := low.toNat ≤ byte.toNat ∧ byte.toNat ≤ high.toNat

theorem between_iff {low high byte : UInt8} :
    Between low high byte ↔ low ≤ byte ∧ byte ≤ high := by
  rw [UInt8.le_iff_toNat_le, UInt8.le_iff_toNat_le]
  rfl

theorem between_tail_iff {byte : UInt8} :
    Between 0x80 0xBF byte ↔ 0x80 ≤ byte.toNat ∧ byte.toNat ≤ 0xBF := Iff.rfl

theorem between_behind_iff {lead byte : UInt8} :
    Between (lowBehind lead) (highBehind lead) byte ↔
      (0x80 ≤ byte.toNat ∧ byte.toNat ≤ 0xBF) ∧
      (lead.toNat = 0xE0 → 0xA0 ≤ byte.toNat) ∧ (lead.toNat = 0xF0 → 0x90 ≤ byte.toNat) ∧
      (lead.toNat = 0xED → byte.toNat ≤ 0x9F) ∧ (lead.toNat = 0xF4 → byte.toNat ≤ 0x8F) := by
  unfold Between lowBehind highBehind
  split_ifs <;> simp only [UInt8.reduceToNat] <;> omega

/-- Bytes that spell a character of a value, from its lead byte on. -/
inductive Spells : List UInt8 → Nat → Prop where
  | one {a : UInt8} (ha : a.toNat < 0x80) : Spells [a] a.toNat
  | two {a b : UInt8} (ha : 0xC2 ≤ a.toNat ∧ a.toNat < 0xE0)
      (hb : Between (lowBehind a) (highBehind a) b) :
      Spells [a, b] ((a.toNat - 0xC0) * 64 + (b.toNat - 0x80))
  | three {a b c : UInt8} (ha : 0xE0 ≤ a.toNat ∧ a.toNat < 0xF0)
      (hb : Between (lowBehind a) (highBehind a) b) (hc : Between 0x80 0xBF c) :
      Spells [a, b, c] (((a.toNat - 0xE0) * 64 + (b.toNat - 0x80)) * 64 + (c.toNat - 0x80))
  | four {a b c d : UInt8} (ha : 0xF0 ≤ a.toNat ∧ a.toNat < 0xF5)
      (hb : Between (lowBehind a) (highBehind a) b) (hc : Between 0x80 0xBF c)
      (hd : Between 0x80 0xBF d) :
      Spells [a, b, c, d] ((((a.toNat - 0xF0) * 64 + (b.toNat - 0x80)) * 64 + (c.toNat - 0x80))
        * 64 + (d.toNat - 0x80))

/-! ### Writing -/

theorem Spells.of_eq {bytes : List UInt8} {m n : Nat} (h : Spells bytes m) (heq : m = n) :
    Spells bytes n := heq ▸ h

/-- The bytes a character is written as spell it. -/
theorem spells_utf8EncodeChar (c : Char) : Spells (String.utf8EncodeChar c) c.toNat := by
  have hvalid : c.val.toNat < 0xD800 ∨ 0xDFFF < c.val.toNat ∧ c.val.toNat < 0x110000 := c.valid
  unfold String.utf8EncodeChar
  show Spells _ c.val.toNat
  generalize c.val.toNat = n at hvalid ⊢
  simp only
  split_ifs with h1 h2 h3
  · refine .of_eq (.one ?_) ?_ <;> rw [UInt8.toNat_ofNat'] <;> omega
  · refine .of_eq (.two ?_ ?_) ?_ <;>
      simp only [between_behind_iff, UInt8.toNat_ofNat'] <;> omega
  · refine .of_eq (.three ?_ ?_ ?_) ?_ <;>
      simp only [between_behind_iff, between_tail_iff, UInt8.toNat_ofNat'] <;> omega
  · refine .of_eq (.four ?_ ?_ ?_ ?_) ?_ <;>
      simp only [between_behind_iff, between_tail_iff, UInt8.toNat_ofNat'] <;> omega

/-- Bytes that spell a character are what it is written as. -/
theorem Spells.utf8EncodeChar_eq {bytes : List UInt8} {n : Nat} (h : Spells bytes n) :
    String.utf8EncodeChar (Char.ofNat n) = bytes := by
  have hvalid : n.isValidChar := by
    unfold Nat.isValidChar
    cases h with
    | one ha => omega
    | two ha hb =>
      rw [between_behind_iff] at hb
      omega
    | three ha hb hc =>
      rw [between_behind_iff] at hb
      rw [between_tail_iff] at hc
      omega
    | four ha hb hc hd =>
      rw [between_behind_iff] at hb
      rw [between_tail_iff] at hc hd
      omega
  have byte_eq (byte : UInt8) {m : Nat} (h : m = byte.toNat) : UInt8.ofNat m = byte := by
    rw [h, UInt8.ofNat_toNat]
  unfold String.utf8EncodeChar
  rw [toNat_ofNat hvalid]
  cases h with
  | one ha =>
    rw [if_pos (by omega), UInt8.ofNat_toNat]
  | @two a b ha hb =>
    rw [between_behind_iff] at hb
    rw [if_neg (by omega), if_pos (by omega), byte_eq a (by omega), byte_eq b (by omega)]
  | @three a b c ha hb hc =>
    rw [between_behind_iff] at hb
    rw [between_tail_iff] at hc
    rw [if_neg (by omega), if_neg (by omega), if_pos (by omega), byte_eq a (by omega),
      byte_eq b (by omega), byte_eq c (by omega)]
  | @four a b c d ha hb hc hd =>
    rw [between_behind_iff] at hb
    rw [between_tail_iff] at hc hd
    rw [if_neg (by omega), if_neg (by omega), if_neg (by omega), byte_eq a (by omega),
      byte_eq b (by omega), byte_eq c (by omega), byte_eq d (by omega)]

/-! ### Reading -/

theorem pieces_single {byte : UInt8} (h : byte.toNat < 0x80) (rest : List UInt8) :
    pieces none (byte :: rest) = some (Char.ofNat byte.toNat) :: pieces none rest := by
  have h : byte < 0x80 := by rwa [UInt8.lt_iff_toNat_lt]
  rw [pieces]
  simp only [if_pos h]

theorem pieces_lead {lead : UInt8} {e : Expectation} (h : expectation? lead = some e)
    (rest : List UInt8) : pieces none (lead :: rest) = pieces (some e) rest := by
  have hlead : ¬ lead < 0x80 := by
    rw [expectation?_eq] at h
    rw [UInt8.lt_iff_toNat_lt]
    show ¬ lead.toNat < 0x80
    split at h
    · contradiction
    · omega
  rw [pieces]
  simp only [if_neg hlead, h]

/-- The last byte of a character. -/
theorem pieces_last {e : Expectation} {byte : UInt8} (h : Between e.low e.high byte)
    (hremaining : e.remaining = 1) (rest : List UInt8) :
    pieces (some e) (byte :: rest) =
      some (Char.ofNat (e.value * 64 + (byte.toNat - 0x80))) :: pieces none rest := by
  have hdone : (e.accept byte).remaining = 0 := by
    show e.remaining - 1 = 0
    omega
  rw [pieces]
  simp only [if_pos (between_iff.mp h), if_pos hdone]
  rfl

/-- A byte of a character that is not its last. -/
theorem pieces_more {e : Expectation} {byte : UInt8} (h : Between e.low e.high byte)
    (hremaining : 1 < e.remaining) (rest : List UInt8) :
    pieces (some e) (byte :: rest) = pieces (some (e.accept byte)) rest := by
  have hgoes : ¬(e.accept byte).remaining = 0 := by
    show ¬ e.remaining - 1 = 0
    omega
  rw [pieces]
  simp only [if_pos (between_iff.mp h), if_neg hgoes]

/-- **Reading one character**: bytes that spell it are one piece. -/
theorem Spells.pieces_append {bytes : List UInt8} {n : Nat} (h : Spells bytes n)
    (rest : List UInt8) :
    pieces none (bytes ++ rest) = some (Char.ofNat n) :: pieces none rest := by
  cases h with
  | one ha => exact pieces_single ha rest
  | @two a b ha hb =>
    have hlead : expectation? a = some ⟨1, a.toNat - 0xC0, lowBehind a, highBehind a⟩ := by
      rw [expectation?_eq, if_neg (by omega), if_pos (by omega)]
    rw [List.cons_append, pieces_lead hlead]
    exact pieces_last hb rfl rest
  | @three a b c ha hb hc =>
    have hlead : expectation? a = some ⟨2, a.toNat - 0xE0, lowBehind a, highBehind a⟩ := by
      rw [expectation?_eq, if_neg (by omega), if_neg (by omega), if_pos (by omega)]
    rw [List.cons_append, pieces_lead hlead, List.cons_append,
      pieces_more hb (Nat.lt_succ_self 1)]
    exact pieces_last hc rfl rest
  | @four a b c d ha hb hc hd =>
    have hlead : expectation? a = some ⟨3, a.toNat - 0xF0, lowBehind a, highBehind a⟩ := by
      rw [expectation?_eq, if_neg (by omega), if_neg (by omega), if_neg (by omega),
        if_pos (by omega)]
    rw [List.cons_append, pieces_lead hlead, List.cons_append,
      pieces_more hb (Nat.lt_of_sub_eq_succ rfl), List.cons_append,
      pieces_more hc (Nat.lt_succ_self 1)]
    exact pieces_last hd rfl rest

/-- A character that has begun is ended by no byte but one in its range. -/
theorem exists_between {e : Expectation} {bytes : List UInt8} (h : none ∉ pieces (some e) bytes) :
    ∃ byte rest, bytes = byte :: rest ∧ Between e.low e.high byte ∧
      (1 < e.remaining → none ∉ pieces (some (e.accept byte)) rest) := by
  cases bytes with
  | nil => exact absurd (List.mem_singleton.mpr rfl) h
  | cons byte rest =>
    by_cases hrange : e.low ≤ byte ∧ byte ≤ e.high
    · refine ⟨byte, rest, rfl, between_iff.mpr hrange, fun hremaining => ?_⟩
      rwa [pieces_more (between_iff.mpr hrange) hremaining] at h
    · rw [pieces] at h
      simp only [if_neg hrange] at h
      exact absurd (List.mem_cons_self ..) h

/-- Bytes in which nothing is ill-formed begin with bytes that spell a character. -/
theorem exists_spells {byte : UInt8} {bytes : List UInt8} (h : none ∉ pieces none (byte :: bytes)) :
    ∃ front n rest, byte :: bytes = front ++ rest ∧ Spells front n := by
  by_cases hsingle : byte.toNat < 0x80
  · exact ⟨[byte], byte.toNat, bytes, rfl, .one hsingle⟩
  · cases hlead : expectation? byte with
    | none =>
      have hsingle : ¬ byte < 0x80 := by rwa [UInt8.lt_iff_toNat_lt]
      rw [pieces] at h
      simp only [if_neg hsingle, hlead] at h
      exact absurd (List.mem_cons_self ..) h
    | some e =>
      rw [pieces_lead hlead] at h
      obtain ⟨b, bytes, rfl, hb, h⟩ := exists_between h
      rw [expectation?_eq] at hlead
      split_ifs at hlead with h1 h2 h3 h4 <;> cases hlead
      · exact ⟨[byte, b], _, bytes, rfl, .two ⟨by omega, h2⟩ hb⟩
      · obtain ⟨c, bytes, rfl, hc, -⟩ := exists_between (h (Nat.lt_succ_self 1))
        exact ⟨[byte, b, c], _, bytes, rfl, .three ⟨by omega, h3⟩ hb hc⟩
      · obtain ⟨c, bytes, rfl, hc, h⟩ := exists_between (h (Nat.lt_of_sub_eq_succ rfl))
        obtain ⟨d, bytes, rfl, hd, -⟩ := exists_between (h (Nat.lt_succ_self 1))
        exact ⟨[byte, b, c, d], _, bytes, rfl, .four ⟨by omega, h4⟩ hb hc hd⟩

/-! ## Texts -/

/-- **There and back**: the bytes of a text are read as its characters. -/
theorem decode_ofText (text : String) : decode (ofText text) = text.toList.map some := by
  rw [ofText_eq]
  unfold decode
  induction text.toList with
  | nil => rfl
  | cons c cs ih =>
    rw [List.flatMap_cons, (spells_utf8EncodeChar c).pieces_append, Char.ofNat_toNat, ih,
      List.map_cons]

theorem wellFormedPart_ofText (text : String) :
    wellFormedPart (ofText text) = (text.toList, false) := by
  have hfront (cs : List Char) :
      ((cs.map some).takeWhile Option.isSome).filterMap id = cs := by
    induction cs with
    | nil => rfl
    | cons c cs ih =>
      rw [List.map_cons, List.takeWhile_cons_of_pos rfl]
      exact congrArg (c :: ·) ih
  have hany (cs : List Char) : (cs.map some).any Option.isNone = false := by simp
  unfold wellFormedPart
  rw [decode_ofText]
  simp only [hfront, hany]

theorem toText?_ofText (text : String) : toText? (ofText text) = some text := by
  have hall (cs : List Char) : (cs.map some).mapM id = some cs := by
    induction cs with
    | nil => rfl
    | cons c cs ih => simp [ih]
  unfold toText?
  rw [decode_ofText, hall, Option.map_some, String.ofList_toList]

/-- Bytes in which nothing is ill-formed are what some characters are written as. -/
theorem exists_flatMap_eq {bytes : List UInt8} (h : none ∉ decode bytes) :
    ∃ cs : List Char, bytes = cs.flatMap String.utf8EncodeChar ∧ decode bytes = cs.map some := by
  induction hlength : bytes.length using Nat.strongRecOn generalizing bytes with
  | ind length ih =>
    cases bytes with
    | nil => exact ⟨[], rfl, rfl⟩
    | cons byte bytes =>
      obtain ⟨front, n, rest, heq, hspells⟩ := exists_spells h
      have hdecode : decode (byte :: bytes) = some (Char.ofNat n) :: decode rest := by
        rw [heq]
        exact hspells.pieces_append rest
      have hshorter : rest.length < length := by
        have hfront : 0 < front.length := by cases hspells <;> exact Nat.succ_pos _
        rw [← hlength, heq, List.length_append]
        omega
      rw [hdecode] at h
      obtain ⟨cs, hrest, hcs⟩ := ih _ hshorter (fun hmem => h (List.mem_cons_of_mem _ hmem)) rfl
      refine ⟨Char.ofNat n :: cs, ?_, ?_⟩
      · rw [heq, List.flatMap_cons, hspells.utf8EncodeChar_eq, ← hrest]
      · rw [hdecode, hcs, List.map_cons]

/-- **Back and there**: bytes that read as a text are the bytes of the text. -/
theorem ofText_of_toText? {bytes : List UInt8} {text : String} (h : toText? bytes = some text) :
    ofText text = bytes := by
  have hnone : none ∉ decode bytes := by
    intro hmem
    have hfail (pieces : List (Option Char)) (hmem : none ∈ pieces) : pieces.mapM id = none := by
      induction pieces with
      | nil => contradiction
      | cons piece pieces ih =>
        cases piece with
        | none => rfl
        | some c =>
          have hmem : none ∈ pieces := by simpa using hmem
          simp [ih hmem]
    unfold toText? at h
    rw [hfail _ hmem] at h
    contradiction
  obtain ⟨cs, hbytes, hdecode⟩ := exists_flatMap_eq hnone
  have htext : ofText (String.ofList cs) = bytes := by
    rw [ofText_eq, String.toList_ofList, hbytes]
  rw [← htext, toText?_ofText] at h
  rw [← Option.some.inj h, htext]

end Interposition.Utf8
