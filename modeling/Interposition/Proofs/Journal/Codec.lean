/-
  The coding of journal records is faithful, both ways.

  A record is written by one function and read by another, over four layouts of five words.  That
  what is written is read back is one half (`ofBytes?_encode`); here is the other half, which
  forty bytes read as a record and what they say:

  1. **Words** (`wordBytes_ofWordBytes`): eight bytes are the only spelling of their word, because
     digits in base 256 are determined by their number (`littleEndian_inj`).

  2. **Rows of words** (`flatMap_wordAt`): the words at the front of some bytes, written one after
     another, are those bytes.

  3. **Layouts** (`words_of_ofBytes?`): a record that was read consists of the words which its
     operation uses, taken from the front, and of zeros.  This is the only place where the four
     layouts are told apart.

  So bytes that read as a record are written again as they were, except that the words nobody looks
  at have become zero (`encode_eq_cleared`).
-/
import Interposition.Proofs.Journal.Bytes

namespace Interposition.JournalRecord

variable {bytes : List UInt8} {number : Nat} {r : JournalRecord}

/-! ## Words -/

/-- As many digits make a number in one way only. -/
theorem littleEndian_inj {bytes bytes' : List UInt8} (hlength : bytes.length = bytes'.length)
    (h : littleEndian bytes = littleEndian bytes') : bytes = bytes' := by
  induction bytes generalizing bytes' with
  | nil => exact (List.length_eq_zero_iff.mp hlength.symm).symm
  | cons byte bytes ih =>
    cases bytes' with
    | nil => contradiction
    | cons byte' bytes' =>
      have hbyte : byte.toNat < 256 := byte.toNat_lt
      have hbyte' : byte'.toNat < 256 := byte'.toNat_lt
      rw [littleEndian_cons, littleEndian_cons] at h
      -- the least digits agree modulo 256, and the others are the quotients
      have hdigit : byte.toNat = byte'.toNat := by omega
      have hrest : littleEndian bytes = littleEndian bytes' := by omega
      rw [UInt8.toNat_inj.mp hdigit, ih (Nat.succ.inj hlength) hrest]

theorem littleEndian_wordBytes (word : Word) : littleEndian (wordBytes word) = word.toNat := by
  have hlength : (wordBytes word).length ≤ 8 := Nat.le_of_eq (length_wordBytes word)
  rw [← toNat_ofWordBytes hlength, ofWordBytes_wordBytes]

/-- **Eight bytes are written back** from the word they are read as. -/
theorem wordBytes_ofWordBytes (h : bytes.length = 8) : wordBytes (ofWordBytes bytes) = bytes := by
  apply littleEndian_inj
  · rw [length_wordBytes, h]
  · rw [littleEndian_wordBytes, toNat_ofWordBytes (Nat.le_of_eq h)]

/-- The number that the word at a position is. -/
theorem toNat_wordAt (bytes : List UInt8) (position : Nat) :
    (wordAt bytes position).toNat = littleEndian ((bytes.drop (8 * position)).take 8) :=
  toNat_ofWordBytes (List.length_take_le 8 _)

/-! ## Rows of words -/

/-- **The words at the front** of some bytes are the front of the bytes. -/
theorem flatMap_wordAt {count : Nat} (h : 8 * count ≤ bytes.length) :
    ((List.range count).map (wordAt bytes)).flatMap wordBytes = bytes.take (8 * count) := by
  induction count with
  | zero => rfl
  | succ count ih =>
    have hfront : 8 * count ≤ bytes.length := by omega
    have hword : ((bytes.drop (8 * count)).take 8).length = 8 := by
      rw [List.length_take, List.length_drop]
      omega
    have hlast : wordBytes (wordAt bytes count) = (bytes.drop (8 * count)).take 8 :=
      wordBytes_ofWordBytes hword
    rw [List.range_succ, List.map_append, List.flatMap_append, ih hfront]
    show _ ++ (wordBytes (wordAt bytes count) ++ []) = bytes.take (8 * count + 8)
    rw [List.append_nil, hlast, List.take_add]

/-- Words of zero are bytes of zero. -/
theorem flatMap_replicate_zero (count : Nat) :
    (List.replicate count (0 : Word)).flatMap wordBytes = List.replicate (8 * count) 0 := by
  have hzero : wordBytes 0 = List.replicate 8 0 := by decide
  rw [List.flatMap_replicate, hzero, List.flatten_replicate_replicate, Nat.mul_comm]

/-! ## Layouts -/

/-- How many of its five words an operation uses, the operation word among them: all for a
    registration, three for a revocation, two for an exit. -/
def wordsUsed (operation : Nat) : Nat :=
  if operation = 1 then 5 else if operation = 2 then 3 else 2

theorem wordsUsed_le (operation : Nat) : wordsUsed operation ≤ 5 := by
  unfold wordsUsed
  split
  · omega
  · split <;> omega

/-- The bytes of a record, with zero in the words that its operation does not use. -/
def cleared (bytes : List UInt8) : List UInt8 :=
  let used := 8 * wordsUsed (littleEndian (bytes.take 8))
  bytes.take used ++ List.replicate (byteLength - used) 0

/-- **The layout** of a record that was read. -/
theorem words_of_ofBytes? (h : ofBytes? bytes = some r) :
    let used := wordsUsed (wordAt bytes 0).toNat
    r.words = (List.range used).map (wordAt bytes) ++ List.replicate (5 - used) 0 := by
  unfold ofBytes? ofWords? at h
  split at h
  case isTrue hop =>
    obtain rfl := Option.some.inj h
    rw [hop]
    show [1, _, _, _, _] = [wordAt bytes 0, _, _, _, _]
    rw [hop]
  case isFalse =>
    split at h
    case isTrue hop =>
      obtain rfl := Option.some.inj h
      rw [hop]
      show [2, _, _, 0, 0] = [wordAt bytes 0, _, _, 0, 0]
      rw [hop]
    case isFalse =>
      split at h
      case isTrue hop =>
        obtain rfl := Option.some.inj h
        rw [hop]
        show [3, _, 0, 0, 0] = [wordAt bytes 0, _, 0, 0, 0]
        rw [hop]
      case isFalse =>
        split at h
        case isTrue hop =>
          obtain rfl := Option.some.inj h
          rw [hop]
          show [4, _, 0, 0, 0] = [wordAt bytes 0, _, 0, 0, 0]
          rw [hop]
        case isFalse => contradiction

/-! ## Records -/

theorem decode_eq_ok_iff : decode bytes number = .ok r ↔ ofBytes? bytes = some r := by
  rw [decode_eq]
  cases ofBytes? bytes <;> simp

/-- The operation word means something when it is one, two, three or four. -/
theorem knownOperation_iff :
    KnownOperation bytes ↔ littleEndian (bytes.take 8) ∈ [1, 2, 3, 4] := by
  have hword : (wordAt bytes 0).toNat = littleEndian (bytes.take 8) := toNat_wordAt bytes 0
  unfold KnownOperation
  rw [← hword]
  simp only [List.mem_cons, List.not_mem_nil, or_false, ← UInt64.toNat_inj]
  rfl

theorem exists_decode_iff : (∃ r, decode bytes number = .ok r) ↔ KnownOperation bytes := by
  simp only [decode_eq_ok_iff, ← isSome_ofBytes?_iff, Option.isSome_iff_exists]

theorem decode_of_not_known (h : ¬ KnownOperation bytes) :
    decode bytes number = .error ⟨wordAt bytes 0, number⟩ := by
  rw [decode_eq]
  cases hread : ofBytes? bytes with
  | none => rfl
  | some r => exact absurd (isSome_ofBytes?_iff.mp (by rw [hread]; rfl)) h

/-- **What was read is written again**, with the words that were not looked at cleared. -/
theorem encode_eq_cleared (hlength : bytes.length = byteLength) (h : ofBytes? bytes = some r) :
    r.encode = cleared bytes := by
  have hwords := words_of_ofBytes? h
  have hword : (wordAt bytes 0).toNat = littleEndian (bytes.take 8) := toNat_wordAt bytes 0
  have hused := wordsUsed_le (littleEndian (bytes.take 8))
  unfold encode cleared
  rw [hwords, hword, List.flatMap_append, flatMap_replicate_zero]
  generalize wordsUsed (littleEndian (bytes.take 8)) = used at hused
  have hfront : 8 * used ≤ bytes.length := by
    rw [hlength]
    unfold byteLength
    omega
  have hrest : 8 * (5 - used) = byteLength - 8 * used := by
    unfold byteLength
    omega
  rw [flatMap_wordAt hfront, hrest]

/-- **The coding of records.**

    * A record is read back from its bytes, under whatever number.
    * Forty bytes stand for a record exactly when their operation word is one, two, three or four.
      The record is then written as the same bytes, with zero in the words that the operation does
      not use.  Otherwise the failure says the operation word and the number.
    * The words of a request are read back as the registration they were made from, whatever the
      two words at their end are. -/
theorem coding_is_faithful :
    (∀ (r : JournalRecord) (number : Nat), decode r.encode number = .ok r) ∧
    (∀ (bytes : List UInt8) (number : Nat), bytes.length = byteLength →
      let operation := littleEndian (bytes.take 8)
      ((∃ r, decode bytes number = .ok r) ↔ operation ∈ [1, 2, 3, 4]) ∧
      (∀ r, decode bytes number = .ok r → r.encode = cleared bytes) ∧
      (operation ∉ [1, 2, 3, 4] →
        ∃ word : Word, word.toNat = operation ∧ decode bytes number = .error ⟨word, number⟩)) ∧
    (∀ r : Registration, Registration.ofWords r.toWords = r) ∧
    ∀ (words : Vector Word 6) (fifth sixth : Word),
      Registration.ofWords ((words.set 4 fifth).set 5 sixth) = Registration.ofWords words := by
  refine ⟨fun r number => decode_eq_ok_iff.mpr (ofBytes?_encode r), ?_, fun r => rfl, ?_⟩
  · intro bytes number hlength operation
    refine ⟨exists_decode_iff.trans knownOperation_iff, ?_, ?_⟩
    · intro r hr
      exact encode_eq_cleared hlength (decode_eq_ok_iff.mp hr)
    · intro hunknown
      have hnot : ¬ KnownOperation bytes := fun h => hunknown (knownOperation_iff.mp h)
      exact ⟨wordAt bytes 0, toNat_wordAt bytes 0, decode_of_not_known hnot⟩
  · intro words fifth sixth
    simp [Registration.ofWords]

/-- A revocation with something in the two words that it does not use. -/
theorem coding_is_faithful_to_revocation :
    let row := [2, 5, 107, 1, 2].flatMap wordBytes
    row.length = byteLength ∧ decode row 3 = .ok (.revoke ⟨5⟩ ⟨107⟩) ∧
      (JournalRecord.revoke ⟨5⟩ ⟨107⟩).encode = cleared row ∧
      cleared row = [2, 5, 107, 0, 0].flatMap wordBytes := by
  intro row
  have hlength : row.length = byteLength := by decide
  have hread : decode row 3 = .ok (.revoke ⟨5⟩ ⟨107⟩) := by decide +kernel
  have hwritten := (coding_is_faithful.2.1 row 3 hlength).2.1 _ hread
  exact ⟨hlength, hread, hwritten, hwritten.symm⟩

end Interposition.JournalRecord
