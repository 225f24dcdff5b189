/-
  What the bytes of a journal stand for.

  A journal is a file of records of 40 bytes, and it is written by processes that may be stopped in
  the middle of a record.  So there are three layers to it, and one theorem about each:

  1. **Words** (`ofWordBytes_wordBytes`): eight bytes, least significant first, read back as the
     word they were written for.  The argument is about numbers in base 256 (`littleEndian`); that
     the arithmetic of words wraps is dealt with once, by the bound that eight digits obey.

  2. **Records** (`ofBytes?_encode`): five words in a row, each found again at its position.

  3. **Files** (`chunks_flatMap_encode`, `chunks_isPrefix`): complete records one after another.
     A file that grows keeps the records it has, wherever the growth stops.

  What a reader gets is then an equation between two lists (`readFrom_eq_ok_iff`): the records are
  read when every complete one from the skipped ones on stands for one, in order.
-/
import Mathlib.Algebra.Ring.Nat
import Interposition.Journal.Record

namespace Interposition.JournalRecord

/-! ## Words -/

/-- The number that bytes are the digits of, least significant first. -/
def littleEndian (bytes : List UInt8) : Nat :=
  bytes.foldr (fun byte value => value * 256 + byte.toNat) 0

theorem littleEndian_cons (byte : UInt8) (bytes : List UInt8) :
    littleEndian (byte :: bytes) = littleEndian bytes * 256 + byte.toNat := rfl

theorem littleEndian_lt (bytes : List UInt8) : littleEndian bytes < 256 ^ bytes.length := by
  induction bytes with
  | nil => exact Nat.one_pos
  | cons byte bytes ih =>
    have hbyte : byte.toNat < 256 := byte.toNat_lt
    rw [littleEndian_cons, List.length_cons, Nat.pow_succ]
    omega

/-- Eight digits are a word, so reading them as one does not wrap. -/
theorem toNat_ofWordBytes {bytes : List UInt8} (h : bytes.length ≤ 8) :
    (ofWordBytes bytes).toNat = littleEndian bytes := by
  induction bytes with
  | nil => rfl
  | cons byte bytes ih =>
    have hlength : bytes.length + 1 ≤ 8 := h
    have hvalue : (ofWordBytes bytes).toNat = littleEndian bytes := ih (by omega)
    have hfits : littleEndian (byte :: bytes) < 2 ^ 64 :=
      calc littleEndian (byte :: bytes)
        _ < 256 ^ (bytes.length + 1) := littleEndian_lt (byte :: bytes)
        _ ≤ 256 ^ 8 := Nat.pow_le_pow_right (by decide) hlength
        _ = 2 ^ 64 := by decide
    show (ofWordBytes bytes * 256 + byte.toUInt64).toNat = _
    rw [littleEndian_cons] at hfits ⊢
    rw [UInt64.toNat_add, UInt64.toNat_mul, hvalue, UInt8.toNat_toUInt64]
    show (littleEndian bytes * 256 % 2 ^ 64 + byte.toNat) % 2 ^ 64 = _
    omega

/-- The digits of a number, as many as it takes, make the number. -/
theorem foldr_digits (count n : Nat) (h : n < 256 ^ count) :
    ((List.range count).map fun i => n / 256 ^ i % 256).foldr
      (fun digit value => value * 256 + digit) 0 = n := by
  induction count generalizing n with
  | zero => exact (Nat.lt_one_iff.mp h).symm
  | succ count ih =>
    -- the least digit aside, these are the digits of `n / 256`
    have hrest : n / 256 < 256 ^ count := by
      rw [Nat.pow_succ] at h
      omega
    have hdigits : (fun i : Nat => n / 256 ^ (i + 1) % 256) =
        fun i : Nat => n / 256 / 256 ^ i % 256 := by
      funext i
      rw [Nat.pow_succ, Nat.mul_comm, Nat.div_div_eq_div_mul]
    rw [List.range_succ_eq_map, List.map_cons, List.map_map, List.foldr_cons]
    show List.foldr (fun digit value => value * 256 + digit) 0
      ((List.range count).map fun i : Nat => n / 256 ^ (i + 1) % 256) * 256 + n / 256 ^ 0 % 256 = n
    rw [hdigits, ih (n / 256) hrest, Nat.pow_zero, Nat.div_one]
    omega

theorem toNat_wordBytes (word : Word) :
    (wordBytes word).map UInt8.toNat = (List.range 8).map fun i => word.toNat / 256 ^ i % 256 := by
  unfold wordBytes
  rw [List.map_map]
  refine List.map_congr_left fun i hi => ?_
  have hi : i < 8 := List.mem_range.mp hi
  show (word >>> UInt64.ofNat (8 * i)).toUInt8.toNat = _
  have hshift : (UInt64.ofNat (8 * i)).toNat % 64 = 8 * i := by
    rw [UInt64.toNat_ofNat_of_lt' (by show 8 * i < 2 ^ 64; omega)]
    omega
  rw [UInt64.toNat_toUInt8, UInt64.toNat_shiftRight, hshift, Nat.shiftRight_eq_div_pow, Nat.pow_mul]

/-- **A word is read back** from its bytes. -/
theorem ofWordBytes_wordBytes (word : Word) : ofWordBytes (wordBytes word) = word := by
  apply UInt64.toNat.inj
  have hfold : littleEndian (wordBytes word) = ((wordBytes word).map UInt8.toNat).foldr
      (fun digit value => value * 256 + digit) 0 := by
    rw [List.foldr_map]
    rfl
  have hfits : word.toNat < 256 ^ 8 := word.toNat_lt
  have hlength : (wordBytes word).length ≤ 8 := Nat.le_refl 8
  rw [toNat_ofWordBytes hlength, hfold, toNat_wordBytes, foldr_digits 8 _ hfits]

theorem length_wordBytes (word : Word) : (wordBytes word).length = 8 := rfl

/-! ## Records -/

/-- Words written one after another are found again at their positions. -/
theorem wordAt_flatMap {words : List Word} {position : Nat} (h : position < words.length) :
    wordAt (words.flatMap wordBytes) position = words[position] := by
  unfold wordAt
  induction words generalizing position with
  | nil => exact absurd h (Nat.not_lt_zero position)
  | cons word words ih =>
    rw [List.flatMap_cons]
    cases position with
    | zero =>
      rw [Nat.mul_zero, List.drop_zero, List.take_left' (length_wordBytes word)]
      exact ofWordBytes_wordBytes word
    | succ position =>
      have hskip : 8 * (position + 1) = (wordBytes word).length + 8 * position := by
        rw [length_wordBytes]
        omega
      rw [hskip, List.drop_length_add_append]
      exact ih (Nat.lt_of_succ_lt_succ h)

/-- The record that bytes stand for, if they stand for one. -/
def ofBytes? (bytes : List UInt8) : Option JournalRecord :=
  ofWords? (wordAt bytes 0) (wordAt bytes 1) (wordAt bytes 2) (wordAt bytes 3) (wordAt bytes 4)

theorem decode_eq (bytes : List UInt8) (number : Nat) :
    decode bytes number =
      match ofBytes? bytes with
      | some r => .ok r
      | none => .error ⟨wordAt bytes 0, number⟩ := rfl

/-- The operation word of a record is one that means something. -/
def KnownOperation (bytes : List UInt8) : Prop := wordAt bytes 0 ∈ ([1, 2, 3, 4] : List Word)

instance (bytes : List UInt8) : Decidable (KnownOperation bytes) :=
  inferInstanceAs (Decidable (wordAt bytes 0 ∈ ([1, 2, 3, 4] : List Word)))

/-- **Whether bytes stand for a record** is a matter of the operation word alone. -/
theorem isSome_ofBytes?_iff {bytes : List UInt8} :
    (ofBytes? bytes).isSome ↔ KnownOperation bytes := by
  unfold ofBytes? ofWords? KnownOperation
  simp only [List.mem_cons, List.not_mem_nil, or_false]
  split
  case isTrue h => simp [h]
  case isFalse h₁ =>
    split
    case isTrue h => simp [h]
    case isFalse h₂ =>
      split
      case isTrue h => simp [h]
      case isFalse h₃ =>
        split
        case isTrue h => simp [h]
        case isFalse h₄ => simp [h₁, h₂, h₃, h₄]

theorem length_encode (r : JournalRecord) : r.encode.length = byteLength := by
  cases r <;> rfl

/-- **A record is read back** from its bytes. -/
theorem ofBytes?_encode (r : JournalRecord) : ofBytes? r.encode = some r := by
  have hword (position : Nat) (h : position < r.words.length) :
      wordAt r.encode position = r.words[position] := wordAt_flatMap h
  have hlength : r.words.length = 5 := by cases r <;> rfl
  unfold ofBytes?
  rw [hword 0 (by omega), hword 1 (by omega), hword 2 (by omega), hword 3 (by omega),
    hword 4 (by omega)]
  cases r <;> rfl

/-! ## Files -/

theorem chunks_of_short {bytes : List UInt8} (h : bytes.length < byteLength) :
    chunks bytes = [] := by
  rw [chunks, dif_pos h]

theorem chunks_of_long {bytes : List UInt8} (h : byteLength ≤ bytes.length) :
    chunks bytes = bytes.take byteLength :: chunks (bytes.drop byteLength) := by
  rw [chunks, dif_neg (Nat.not_lt.mpr h)]

theorem chunks_append {record rest : List UInt8} (h : record.length = byteLength) :
    chunks (record ++ rest) = record :: chunks rest := by
  have hlong : byteLength ≤ (record ++ rest).length := by
    rw [List.length_append, h]
    exact Nat.le_add_right _ _
  rw [chunks_of_long hlong, List.take_left' h, List.drop_left' h]

/-- A file has as many complete records as its length has room for. -/
theorem length_chunks (bytes : List UInt8) : (chunks bytes).length = bytes.length / byteLength := by
  induction bytes using chunks.induct with
  | case1 bytes short => rw [chunks_of_short short, List.length_nil, Nat.div_eq_of_lt short]
  | case2 bytes long ih =>
    have hlong : byteLength ≤ bytes.length := Nat.not_lt.mp long
    rw [chunks_of_long hlong, List.length_cons, ih, List.length_drop,
      Nat.div_eq_sub_div (by decide) hlong]

/-- Records that were written one after another are told apart again. -/
theorem chunks_flatMap_encode (records : List JournalRecord) :
    chunks (records.flatMap encode) = records.map encode := by
  induction records with
  | nil => exact chunks_of_short (by decide)
  | cons r records ih =>
    rw [List.flatMap_cons, chunks_append (length_encode r), ih, List.map_cons]

/-- **Growth keeps the records**: what was complete before stays, wherever the file was cut. -/
theorem chunks_isPrefix {bytes more : List UInt8} (h : bytes <+: more) :
    chunks bytes <+: chunks more := by
  induction bytes using chunks.induct generalizing more with
  | case1 bytes short =>
    rw [chunks_of_short short]
    exact List.nil_prefix
  | case2 bytes long ih =>
    have hlong : byteLength ≤ bytes.length := Nat.not_lt.mp long
    -- the first record lies within the old file, and what is behind it grew by the same bytes
    obtain ⟨rest, rfl⟩ := h
    have hmore : byteLength ≤ (bytes ++ rest).length := by
      rw [List.length_append]
      omega
    rw [chunks_of_long hlong, chunks_of_long hmore, List.take_append_of_le_length hlong,
      List.drop_append_of_le_length hlong]
    exact List.prefix_cons_iff.mpr (.inr ⟨_, rfl, ih (List.prefix_append _ rest)⟩)

/-- What is behind a whole number of records is told apart by itself. -/
theorem chunks_append_of_whole {bytes more : List UInt8} (h : byteLength ∣ bytes.length) :
    chunks (bytes ++ more) = chunks bytes ++ chunks more := by
  induction bytes using chunks.induct with
  | case1 bytes short =>
    obtain rfl : bytes = [] := List.length_eq_zero_iff.mp (Nat.eq_zero_of_dvd_of_lt h short)
    rw [chunks_of_short short, List.nil_append, List.nil_append]
  | case2 bytes long ih =>
    have hlong : byteLength ≤ bytes.length := Nat.not_lt.mp long
    have hrest : byteLength ∣ (bytes.drop byteLength).length := by
      rw [List.length_drop]
      exact Nat.dvd_sub h (Nat.dvd_refl _)
    have hsplit : bytes ++ more = bytes.take byteLength ++ (bytes.drop byteLength ++ more) := by
      rw [← List.append_assoc, List.take_append_drop]
    rw [hsplit, chunks_append (List.length_take_of_le hlong), ih hrest, chunks_of_long hlong,
      List.cons_append]

/-! ## Reading -/

/-- The complete records of a file that stand for one. -/
def recordsOf (bytes : List UInt8) : List JournalRecord := (chunks bytes).filterMap ofBytes?

/-- Every complete record of a file has an operation that means something. -/
def Readable (bytes : List UInt8) : Prop := ∀ record ∈ chunks bytes, KnownOperation record

theorem decodeAll_cons_eq_ok_iff {bytes : List UInt8} {number : Nat}
    {numbered : List (List UInt8 × Nat)} {records : List JournalRecord} :
    decodeAll ((bytes, number) :: numbered) = .ok records ↔
      ∃ r rest, records = r :: rest ∧ ofBytes? bytes = some r ∧ decodeAll numbered = .ok rest := by
  show (decode bytes number >>= fun r =>
    decodeAll numbered >>= fun rest => pure (r :: rest)) = _ ↔ _
  rw [decode_eq]
  cases ofBytes? bytes with
  | none => simp [bind, Except.bind]
  | some r =>
    cases decodeAll numbered with
    | error e => simp [bind, Except.bind]
    | ok rest => simp [bind, Except.bind, pure, Except.pure, eq_comm]

theorem decodeAll_eq_ok_iff {numbered : List (List UInt8 × Nat)} {records : List JournalRecord} :
    decodeAll numbered = .ok records ↔
      (numbered.map Prod.fst).map ofBytes? = records.map some := by
  induction numbered generalizing records with
  | nil =>
    constructor
    · intro h
      rw [← Except.ok.inj h]
      rfl
    · intro h
      rw [List.map_eq_nil_iff.mp h.symm]
      rfl
  | cons entry numbered ih =>
    rw [decodeAll_cons_eq_ok_iff]
    constructor
    · rintro ⟨r, rest, rfl, hr, hrest⟩
      rw [List.map_cons, List.map_cons, List.map_cons, hr, ih.mp hrest]
    · intro h
      cases records with
      | nil => exact absurd h (by simp)
      | cons r rest =>
        obtain ⟨hr, hrest⟩ := List.cons.inj h
        exact ⟨r, rest, rfl, hr, ih.mpr hrest⟩

/-- **What a reader gets**: the records it has not skipped, if each of them stands for one. -/
theorem readFrom_eq_ok_iff {bytes : List UInt8} {skip : Nat} {records : List JournalRecord} :
    readFrom bytes skip = .ok records ↔
      ((chunks bytes).drop skip).map ofBytes? = records.map some := by
  unfold readFrom
  rw [decodeAll_eq_ok_iff, List.map_drop, List.zipIdx_map_fst]

namespace Readable

variable {bytes more : List UInt8}

theorem map_chunks (h : Readable bytes) :
    (chunks bytes).map ofBytes? = (recordsOf bytes).map some := by
  unfold recordsOf
  unfold Readable at h
  generalize chunks bytes = complete at h ⊢
  induction complete with
  | nil => rfl
  | cons record records ih =>
    obtain ⟨r, hr⟩ := Option.isSome_iff_exists.mp
      (isSome_ofBytes?_iff.mpr (h record List.mem_cons_self))
    have hrest := ih fun record' h' => h record' (List.mem_cons_of_mem record h')
    rw [List.filterMap_cons_some hr, List.map_cons, List.map_cons, hr, hrest]

/-- A readable file is read, from whatever record on. -/
theorem readFrom (h : Readable bytes) (skip : Nat) :
    readFrom bytes skip = .ok ((recordsOf bytes).drop skip) := by
  rw [readFrom_eq_ok_iff, List.map_drop, h.map_chunks, List.map_drop]

theorem length_recordsOf (h : Readable bytes) :
    (recordsOf bytes).length = bytes.length / byteLength := by
  rw [← length_chunks, ← List.length_map some, ← h.map_chunks, List.length_map]

/-- The front of a readable file is readable. -/
theorem of_isPrefix (h : Readable more) (hgrowth : bytes <+: more) : Readable bytes :=
  fun record hrecord => h record ((chunks_isPrefix hgrowth).subset hrecord)

end Readable

theorem recordsOf_isPrefix {bytes more : List UInt8} (h : bytes <+: more) :
    recordsOf bytes <+: recordsOf more :=
  (chunks_isPrefix h).filterMap ofBytes?

theorem recordsOf_append_of_whole {bytes more : List UInt8} (h : byteLength ∣ bytes.length) :
    recordsOf (bytes ++ more) = recordsOf bytes ++ recordsOf more := by
  unfold recordsOf
  rw [chunks_append_of_whole h, List.filterMap_append]

/-- A file of nothing but records. -/
theorem readable_flatMap_encode (records : List JournalRecord) :
    Readable (records.flatMap encode) := by
  intro record hrecord
  rw [chunks_flatMap_encode] at hrecord
  obtain ⟨r, -, rfl⟩ := List.mem_map.mp hrecord
  exact isSome_ofBytes?_iff.mp (by rw [ofBytes?_encode]; rfl)

/-- Records are read back from the file they were written to, in order. -/
theorem recordsOf_flatMap_encode (records : List JournalRecord) :
    recordsOf (records.flatMap encode) = records := by
  have hdecoded : ofBytes? ∘ encode = some := funext ofBytes?_encode
  unfold recordsOf
  rw [chunks_flatMap_encode, List.filterMap_map, hdecoded, List.filterMap_some]

/-- A file of nothing but records is a whole number of records. -/
theorem dvd_length_flatMap_encode (records : List JournalRecord) :
    byteLength ∣ (records.flatMap encode).length := by
  induction records with
  | nil => exact Nat.dvd_zero _
  | cons r records ih =>
    rw [List.flatMap_cons, List.length_append, length_encode]
    exact Nat.dvd_add (Nat.dvd_refl _) ih

end Interposition.JournalRecord
