/-
  Reading a journal, byte for byte.

  A reader takes any bytes for a journal.  What it makes of them is said here of the bytes alone:
  record `i` is the forty bytes from `40 * i` on (`recordAt`), there are as many as fit, and the
  bytes behind the last of them are a write in flight.

  1. **Cutting** (`chunks_eq_map`, `drop_zipIdx_chunks`): what is decoded are the records that are
     not skipped, each under the number it has in the file and not under the one it has in the
     reading.

  2. **Decoding** (`decodeAll_numbered_ok_iff`, `decodeAll_numbered_error_iff`): records are decoded
     one after another, and the first that means nothing ends it.  Both are inductions on how many
     there are, over any first number, so the skipped records do not occur in them at all.

  3. **Reading** (`exists_reading_ok_iff`, `reading_eq_error_iff`, `reads_iff`): when a file is read
     and when it is not, with the same outcome in every world in which it has these bytes.

  A journal that was written by appending and then torn is a case of it (`appends_iff`).
-/
import Mathlib.Data.List.Forall2
import Mathlib.Data.Nat.Find
import Interposition.Proofs.Journal.Codec
import Interposition.Proofs.Journal.File

namespace Interposition

namespace JournalRecord

/-! ## Cutting -/

/-- The bytes of a record of a file, by its number. -/
def recordAt (bytes : List UInt8) (number : Nat) : List UInt8 :=
  (bytes.drop (byteLength * number)).take byteLength

/-- How many complete records a file has. -/
def recordCount (bytes : List UInt8) : Nat := bytes.length / byteLength

/-- **Cutting** a file into records finds each at its place. -/
theorem chunks_eq_map (bytes : List UInt8) :
    chunks bytes = (List.range (recordCount bytes)).map (recordAt bytes) := by
  induction bytes using chunks.induct with
  | case1 bytes short =>
    have hcount : recordCount bytes = 0 := Nat.div_eq_of_lt short
    rw [chunks_of_short short, hcount]
    rfl
  | case2 bytes long ih =>
    have hlong : byteLength ≤ bytes.length := Nat.not_lt.mp long
    have hcount : recordCount bytes = recordCount (bytes.drop byteLength) + 1 := by
      unfold recordCount
      rw [List.length_drop, Nat.div_eq_sub_div (by decide) hlong]
    -- the records behind the first one are those of the rest, one number earlier
    have hshift : recordAt bytes ∘ Nat.succ = recordAt (bytes.drop byteLength) := by
      funext number
      show (bytes.drop (byteLength * (number + 1))).take byteLength = _
      unfold recordAt
      rw [List.drop_drop, Nat.mul_add, Nat.mul_one, Nat.add_comm]
    rw [chunks_of_long hlong, ih, hcount, List.range_succ_eq_map, List.map_cons, List.map_map,
      hshift]
    rfl

/-- A file, cut behind some of its complete records. -/
theorem chunks_split {bytes : List UInt8} {count : Nat} (h : byteLength * count ≤ bytes.length) :
    chunks bytes =
        chunks (bytes.take (byteLength * count)) ++ chunks (bytes.drop (byteLength * count)) ∧
      (chunks (bytes.take (byteLength * count))).length = count := by
  have hlength : (bytes.take (byteLength * count)).length = byteLength * count :=
    List.length_take_of_le h
  constructor
  · have hwhole : byteLength ∣ (bytes.take (byteLength * count)).length := by
      rw [hlength]
      exact Nat.dvd_mul_right _ _
    rw [← chunks_append_of_whole hwhole, List.take_append_drop]
  · rw [length_chunks, hlength, Nat.mul_div_cancel_left _ (by decide)]

/-- The first records of a file. -/
theorem chunks_take {bytes : List UInt8} {count : Nat} (h : byteLength * count ≤ bytes.length) :
    chunks (bytes.take (byteLength * count)) = (chunks bytes).take count := by
  obtain ⟨hsplit, hcount⟩ := chunks_split h
  rw [hsplit, List.take_left' hcount]

/-- The records of a file but for the first ones. -/
theorem chunks_drop (bytes : List UInt8) (count : Nat) :
    chunks (bytes.drop (byteLength * count)) = (chunks bytes).drop count := by
  by_cases hlong : byteLength * count ≤ bytes.length
  · obtain ⟨hsplit, hcount⟩ := chunks_split hlong
    rw [hsplit, List.drop_left' hcount]
  · have hnone : (chunks bytes).length ≤ count := by
      rw [length_chunks]
      exact Nat.div_le_of_le_mul (by omega)
    rw [List.drop_eq_nil_of_le (by omega), List.drop_eq_nil_of_le hnone]
    exact chunks_of_short (by decide)

/-- Behind whole records, a readable file adds its own. -/
theorem Readable.append {bytes more : List UInt8} (h : Readable bytes) (hmore : Readable more)
    (hwhole : byteLength ∣ bytes.length) : Readable (bytes ++ more) := by
  intro record hrecord
  rw [chunks_append_of_whole hwhole] at hrecord
  rcases List.mem_append.mp hrecord with hold | hnew
  · exact h record hold
  · exact hmore record hnew

/-- So many records from a first one on, each with its number. -/
def numbered (record : Nat → List UInt8) (first count : Nat) : List (List UInt8 × Nat) :=
  (List.range' first count).map fun i => (record i, i)

theorem numbered_succ (record : Nat → List UInt8) (first count : Nat) :
    numbered record first (count + 1) =
      (record first, first) :: numbered record (first + 1) count :=
  rfl

/-- **The records that are not skipped** keep the numbers they have in the file. -/
theorem drop_zipIdx_chunks (bytes : List UInt8) (skip : Nat) :
    (chunks bytes).zipIdx.drop skip =
      numbered (recordAt bytes) skip (recordCount bytes - skip) := by
  unfold numbered
  rw [chunks_eq_map]
  apply List.ext_getElem
  · simp
  · intro i h h'
    simp

/-! ## Decoding -/

variable {record : Nat → List UInt8} {first count : Nat}

/-- Decoding fails at the first record, or fails at another one behind it. -/
theorem decodeAll_cons_eq_error_iff {bytes : List UInt8} {number : Nat}
    {rest : List (List UInt8 × Nat)} {e : UnknownOperation} :
    decodeAll ((bytes, number) :: rest) = .error e ↔
      (¬ KnownOperation bytes ∧ e = ⟨wordAt bytes 0, number⟩) ∨
      (KnownOperation bytes ∧ decodeAll rest = .error e) := by
  show (decode bytes number >>= fun r => decodeAll rest >>= fun rs => pure (r :: rs)) = _ ↔ _
  by_cases hknown : KnownOperation bytes
  · obtain ⟨r, hr⟩ := exists_decode_iff.mpr hknown
    rw [hr]
    cases decodeAll rest <;> simp [bind, Except.bind, pure, Except.pure, hknown]
  · rw [decode_of_not_known hknown]
    simp [bind, Except.bind, hknown, eq_comm]

/-- **Decoding succeeds** with what each record stands for. -/
theorem decodeAll_numbered_ok_iff {records : List JournalRecord} :
    decodeAll (numbered record first count) = .ok records ↔
      List.Forall₂ (fun i r => decode (record i) i = .ok r) (List.range' first count) records := by
  induction count generalizing first records with
  | zero =>
    show Except.ok [] = Except.ok records ↔ List.Forall₂ _ [] records
    rw [List.forall₂_nil_left_iff, Except.ok.injEq, eq_comm]
  | succ count ih =>
    rw [numbered_succ, decodeAll_cons_eq_ok_iff, List.range'_succ, List.forall₂_cons_left_iff]
    constructor
    · rintro ⟨r, rest, rfl, hr, hrest⟩
      exact ⟨r, rest, decode_eq_ok_iff.mpr hr, ih.mp hrest, rfl⟩
    · rintro ⟨r, rest, hr, hrest, rfl⟩
      exact ⟨r, rest, rfl, decode_eq_ok_iff.mp hr, ih.mpr hrest⟩

/-- The first record that means nothing: it is not skipped, and all before it mean something. -/
def FirstUnknown (record : Nat → List UInt8) (first count i : Nat) : Prop :=
  first ≤ i ∧ i < first + count ∧ ¬ KnownOperation (record i) ∧
    ∀ j, first ≤ j → j < i → KnownOperation (record j)

/-- The first unknown record of some is the first of them all, or one of the others behind a first
    one that means something. -/
theorem firstUnknown_succ_iff {i : Nat} :
    FirstUnknown record first (count + 1) i ↔
      (i = first ∧ ¬ KnownOperation (record first)) ∨
      (KnownOperation (record first) ∧ FirstUnknown record (first + 1) count i) := by
  constructor
  · rintro ⟨hle, hlt, hunknown, hbefore⟩
    rcases Nat.eq_or_lt_of_le hle with rfl | hlater
    · exact .inl ⟨rfl, hunknown⟩
    · refine .inr ⟨hbefore first (Nat.le_refl _) hlater, hlater, by omega, hunknown, ?_⟩
      intro j hj hji
      exact hbefore j (by omega) hji
  · rintro (⟨rfl, hunknown⟩ | ⟨hknown, hle, hlt, hunknown, hbefore⟩)
    · refine ⟨Nat.le_refl _, by omega, hunknown, ?_⟩
      intro j hj hji
      omega
    · refine ⟨by omega, by omega, hunknown, ?_⟩
      intro j hj hji
      rcases Nat.eq_or_lt_of_le hj with rfl | hlater
      · exact hknown
      · exact hbefore j hlater hji

/-- **Decoding fails** at the first record that means nothing, and says which one it is. -/
theorem decodeAll_numbered_error_iff {e : UnknownOperation} :
    decodeAll (numbered record first count) = .error e ↔
      ∃ i, FirstUnknown record first count i ∧ e = ⟨wordAt (record i) 0, i⟩ := by
  induction count generalizing first with
  | zero =>
    constructor
    · intro h
      contradiction
    · rintro ⟨i, ⟨hle, hlt, -⟩, -⟩
      omega
  | succ count ih =>
    rw [numbered_succ, decodeAll_cons_eq_error_iff, ih]
    simp only [firstUnknown_succ_iff]
    constructor
    · rintro (⟨hunknown, rfl⟩ | ⟨hknown, i, hi, rfl⟩)
      · exact ⟨first, .inl ⟨rfl, hunknown⟩, rfl⟩
      · exact ⟨i, .inr ⟨hknown, hi⟩, rfl⟩
    · rintro ⟨i, ⟨rfl, hunknown⟩ | ⟨hknown, hi⟩, rfl⟩
      · exact .inl ⟨hunknown, rfl⟩
      · exact .inr ⟨hknown, i, hi, rfl⟩

/-- Either every record means something, or one of those that do not is the first. -/
theorem exists_firstUnknown_iff :
    (∃ i, FirstUnknown record first count i) ↔
      ¬ ∀ i, first ≤ i → i < first + count → KnownOperation (record i) := by
  constructor
  · rintro ⟨i, hle, hlt, hunknown, -⟩ hall
    exact hunknown (hall i hle hlt)
  · intro hnot
    classical
    have hsome : ∃ i, first ≤ i ∧ i < first + count ∧ ¬ KnownOperation (record i) := by
      simpa using hnot
    obtain ⟨hle, hlt, hunknown⟩ := Nat.find_spec hsome
    refine ⟨Nat.find hsome, hle, hlt, hunknown, ?_⟩
    intro j hj hbefore
    by_contra hj'
    exact Nat.find_min hsome hbefore ⟨hj, by omega, hj'⟩

/-- **Decoding succeeds exactly** when every record means something. -/
theorem exists_decodeAll_numbered_iff :
    (∃ records, decodeAll (numbered record first count) = .ok records) ↔
      ∀ i, first ≤ i → i < first + count → KnownOperation (record i) := by
  rw [← not_iff_not, ← exists_firstUnknown_iff]
  constructor
  · intro hnone
    cases hread : decodeAll (numbered record first count) with
    | ok records => exact absurd ⟨records, hread⟩ hnone
    | error e =>
      obtain ⟨i, hi, -⟩ := decodeAll_numbered_error_iff.mp hread
      exact ⟨i, hi⟩
  · rintro ⟨i, hi⟩ ⟨records, hread⟩
    have hfails := decodeAll_numbered_error_iff.mpr ⟨i, hi, rfl⟩
    rw [hread] at hfails
    contradiction

end JournalRecord

/-! ## Reading -/

namespace Journal

open JournalRecord

variable {bytes : List UInt8} {contents : JournalContents} {skip : Nat}

/-- In every world in which a file has some contents, reading it as a journal from a record on comes
    to an outcome, and does nothing else. -/
def Reads (contents : JournalContents) (skip : Nat)
    (outcome : Except JournalError (List JournalRecord)) : Prop :=
  ∀ (World : Type) (os : OperatingSystem World) (world : World) (path : Path),
    os.Shows world path contents → ∀ other final,
      (Journal.readFrom path skip).Runs os world other final ↔ other = outcome ∧ final = world

/-- **Reading has one outcome**, whichever system does it. -/
theorem reads_iff {outcome : Except JournalError (List JournalRecord)} :
    Reads contents skip outcome ↔ outcome = reading contents.bytes skip := by
  constructor
  · intro h
    -- there is a system to ask
    let writer : JournalWriter := ⟨⟨0⟩, ⟨[]⟩⟩
    have hruns := (h _ _ contents writer.path (journalFile_shows writer contents)
      (reading contents.bytes skip) contents).mp (Journal.runs_readFrom.mpr ⟨rfl, rfl⟩)
    exact hruns.1.symm
  · rintro rfl World os world path hshows other final
    exact Journal.runs_readFrom_of_shows hshows

/-- What is decoded when a file is read. -/
theorem reading_eq (bytes : List UInt8) (skip : Nat) :
    reading bytes skip =
      match decodeAll (numbered (recordAt bytes) skip (recordCount bytes - skip)) with
      | .ok records => .ok records
      | .error e => .error (.unknownOperation e.operation e.record) := by
  have hread : reading bytes skip =
      match JournalRecord.readFrom bytes skip with
      | .ok records => .ok records
      | .error e => .error (.unknownOperation e.operation e.record) := rfl
  have hcut : JournalRecord.readFrom bytes skip =
      decodeAll (numbered (recordAt bytes) skip (recordCount bytes - skip)) :=
    congrArg decodeAll (drop_zipIdx_chunks bytes skip)
  rw [hread, hcut]

/-- A record that is not skipped, by its number. -/
theorem lt_add_sub_iff {i : Nat} (hle : skip ≤ i) :
    i < skip + (recordCount bytes - skip) ↔ i < recordCount bytes := by omega

/-- **Success**: every complete record that is not skipped means something. -/
theorem exists_reading_ok_iff :
    (∃ records, reading bytes skip = .ok records) ↔
      ∀ i, skip ≤ i → i < recordCount bytes → KnownOperation (recordAt bytes i) := by
  have hread (records : List JournalRecord) : reading bytes skip = .ok records ↔
      decodeAll (numbered (recordAt bytes) skip (recordCount bytes - skip)) = .ok records := by
    rw [reading_eq]
    cases decodeAll (numbered (recordAt bytes) skip (recordCount bytes - skip)) <;> simp
  simp only [hread, exists_decodeAll_numbered_iff]
  constructor
  · intro hall i hle hlt
    exact hall i hle ((lt_add_sub_iff hle).mpr hlt)
  · intro hall i hle hlt
    exact hall i hle ((lt_add_sub_iff hle).mp hlt)

/-- What is read is what the records stand for. -/
theorem forall₂_of_reading {records : List JournalRecord}
    (h : reading bytes skip = .ok records) :
    List.Forall₂ (fun i r => JournalRecord.decode (recordAt bytes i) i = .ok r)
      (List.range' skip (recordCount bytes - skip)) records := by
  rw [← decodeAll_numbered_ok_iff]
  rw [reading_eq] at h
  cases hread : decodeAll (numbered (recordAt bytes) skip (recordCount bytes - skip)) with
  | ok read =>
    rw [hread] at h
    rw [Except.ok.inj h]
  | error e =>
    rw [hread] at h
    contradiction

/-- **Failure**: the first complete record that is not skipped and means nothing. -/
theorem reading_eq_error_iff {e : JournalError} :
    reading bytes skip = .error e ↔
      ∃ i, skip ≤ i ∧ i < recordCount bytes ∧ ¬ KnownOperation (recordAt bytes i) ∧
        (∀ j, skip ≤ j → j < i → KnownOperation (recordAt bytes j)) ∧
        e = .unknownOperation (wordAt (recordAt bytes i) 0) i := by
  have hread : reading bytes skip = .error e ↔
      ∃ unknown, decodeAll (numbered (recordAt bytes) skip (recordCount bytes - skip)) =
        .error unknown ∧ e = .unknownOperation unknown.operation unknown.record := by
    rw [reading_eq]
    cases decodeAll (numbered (recordAt bytes) skip (recordCount bytes - skip)) <;>
      simp [eq_comm]
  rw [hread]
  simp only [decodeAll_numbered_error_iff]
  constructor
  · rintro ⟨_, ⟨i, ⟨hle, hlt, hunknown, hbefore⟩, rfl⟩, rfl⟩
    exact ⟨i, hle, (lt_add_sub_iff hle).mp hlt, hunknown, hbefore, rfl⟩
  · rintro ⟨i, hle, hlt, hunknown, hbefore, rfl⟩
    exact ⟨_, ⟨i, ⟨hle, (lt_add_sub_iff hle).mpr hlt, hunknown, hbefore⟩, rfl⟩, rfl⟩

/-- Records that are not read, and bytes behind the last record, do not matter. -/
theorem reads_congr {bytes' : List UInt8} (hcount : recordCount bytes' = recordCount bytes)
    (hrecords : ∀ i, skip ≤ i → i < recordCount bytes → recordAt bytes' i = recordAt bytes i)
    (outcome : Except JournalError (List JournalRecord)) :
    Reads (some bytes') skip outcome ↔ Reads (some bytes) skip outcome := by
  have hnumbered : numbered (recordAt bytes') skip (recordCount bytes' - skip) =
      numbered (recordAt bytes) skip (recordCount bytes - skip) := by
    rw [hcount]
    refine List.map_congr_left fun i hi => ?_
    obtain ⟨hle, hlt⟩ := List.mem_range'_1.mp hi
    rw [hrecords i hle (by omega)]
  rw [reads_iff, reads_iff]
  show _ = reading bytes' skip ↔ _ = reading bytes skip
  rw [reading_eq, reading_eq, hnumbered]

/-- Behind whole records, the front of a record is not there yet. -/
theorem reading_torn {tail : List UInt8} (hwhole : byteLength ∣ bytes.length)
    (htail : tail.length < byteLength) (skip : Nat) :
    reading (bytes ++ tail) skip = reading bytes skip := by
  unfold reading JournalRecord.readFrom
  rw [chunks_append_of_whole hwhole, chunks_of_short htail, List.append_nil]

/-- Records behind whole records are read behind them. -/
theorem reading_append {earlier : List JournalRecord} (hwhole : byteLength ∣ bytes.length)
    (hskip : skip ≤ recordCount bytes) (h : reading bytes skip = .ok earlier)
    (records : List JournalRecord) :
    reading (bytes ++ records.flatMap encode) skip = .ok (earlier ++ records) := by
  have hlength : skip ≤ (chunks bytes).length := by
    rw [length_chunks]
    exact hskip
  have hback : ofBytes? ∘ encode = some := funext ofBytes?_encode
  rw [reading_eq_ok_iff] at h ⊢
  rw [chunks_append_of_whole hwhole, chunks_flatMap_encode, List.drop_append_of_le_length hlength,
    List.map_append, h, List.map_map, hback, List.map_append]

/-- Whoever has read all records finds no other. -/
theorem reading_recordCount (bytes : List UInt8) : reading bytes (recordCount bytes) = .ok [] := by
  have hnone : (chunks bytes).drop (recordCount bytes) = [] :=
    List.drop_of_length_le (Nat.le_of_eq (length_chunks bytes))
  rw [reading_eq_ok_iff, hnone]
  rfl

end Journal

/-! ## Appending -/

/-- A writer appends records, one after another, and every time with success. -/
inductive JournalWriter.Appends (writer : JournalWriter) :
    List JournalRecord → JournalContents → JournalContents → Prop where
  | nothing {contents : JournalContents} : Appends writer [] contents contents
  | more {r : JournalRecord} {records : List JournalRecord}
      {contents between final : JournalContents}
      (h : (writer.append r).Runs (journalFile writer) contents (.ok ()) between)
      (rest : Appends writer records between final) :
      Appends writer (r :: records) contents final

/-- **Appending records** puts them behind the others, in order. -/
theorem JournalWriter.appends_iff {writer : JournalWriter} {records : List JournalRecord}
    {contents final : JournalContents} :
    writer.Appends records contents final ↔
      final = contents.extended (records.flatMap JournalRecord.encode) := by
  induction records generalizing contents with
  | nil =>
    rw [List.flatMap_nil, JournalContents.extended_nil]
    constructor
    · rintro ⟨⟩
      rfl
    · rintro rfl
      exact .nothing
  | cons r records ih =>
    rw [List.flatMap_cons, ← JournalContents.extended_extended]
    constructor
    · rintro (_ | ⟨h, rest⟩)
      rw [← JournalWriter.runs_append_iff.mp h]
      exact ih.mp rest
    · intro hfinal
      exact .more (JournalWriter.runs_append_iff.mpr rfl) (ih.mpr hfinal)

/-! ## What is read -/

namespace Journal

open JournalRecord

/-- **Reading a journal at the level of its bytes.**  Of a file of any bytes, read from any record
    on:

    * It is read with success exactly when each of its complete records that are not skipped has an
      operation that means something, and then as what these records stand for, in order.
    * It is not read exactly when one of them has none, and the failure names the operation word and
      the number in the file of the first such record.
    * Files with as many complete records that differ in skipped records only, or behind the last
      complete record, are read alike.

    A missing file is read as no records.  Records that a writer has appended to an empty journal
    are read back, those that are skipped aside, also with the front of another one behind them. -/
theorem reads_complete_records (skip : Nat) :
    (∀ bytes : List UInt8,
      ((∃ records, Reads (some bytes) skip (.ok records)) ↔
        ∀ i, skip ≤ i → i < recordCount bytes → KnownOperation (recordAt bytes i)) ∧
      (∀ records, Reads (some bytes) skip (.ok records) →
        List.Forall₂ (fun i r => JournalRecord.decode (recordAt bytes i) i = .ok r)
          (List.range' skip (recordCount bytes - skip)) records) ∧
      (∀ e, Reads (some bytes) skip (.error e) ↔
        ∃ i, skip ≤ i ∧ i < recordCount bytes ∧ ¬ KnownOperation (recordAt bytes i) ∧
          (∀ j, skip ≤ j → j < i → KnownOperation (recordAt bytes j)) ∧
          e = .unknownOperation (wordAt (recordAt bytes i) 0) i) ∧
      ∀ bytes', recordCount bytes' = recordCount bytes →
        (∀ i, skip ≤ i → i < recordCount bytes → recordAt bytes' i = recordAt bytes i) →
        ∀ outcome, Reads (some bytes') skip outcome ↔ Reads (some bytes) skip outcome) ∧
    Reads none skip (.ok []) ∧
    ∀ (writer : JournalWriter) (records : List JournalRecord) (final : JournalContents)
      (tail : List UInt8), writer.Appends records (some []) final → tail.length < byteLength →
      Reads (final.extended tail) skip (.ok (records.drop skip)) := by
  refine ⟨fun bytes => ⟨?_, ?_, ?_, ?_⟩, ?_, ?_⟩
  · -- success
    have hreads (records : List JournalRecord) :
        Reads (some bytes) skip (.ok records) ↔ reading bytes skip = .ok records :=
      reads_iff.trans eq_comm
    simp only [hreads, exists_reading_ok_iff]
  · -- what is read
    intro records hreads
    exact forall₂_of_reading (reads_iff.mp hreads).symm
  · -- failure
    intro e
    rw [reads_iff, eq_comm]
    exact reading_eq_error_iff
  · -- influence
    intro bytes' hcount hrecords outcome
    exact reads_congr hcount hrecords outcome
  · -- no file
    exact reads_iff.mpr (reading_nil skip).symm
  · -- a journal that was written
    intro writer records final tail happends htail
    obtain rfl := JournalWriter.appends_iff.mp happends
    rw [reads_iff]
    show _ = reading (records.flatMap encode ++ tail) skip
    rw [reading_torn (dvd_length_flatMap_encode records) htail,
      reading_of_readable (readable_flatMap_encode records), recordsOf_flatMap_encode]

/-- Two records that a writer has appended, with half of a third behind them, and a file whose
    skipped record means nothing. -/
theorem reads_complete_records_torn :
    let writer : JournalWriter := ⟨⟨3⟩, .ofText "journal"⟩
    let bound : JournalRecord := .register ⟨⟨5⟩, ⟨107⟩, ⟨1⟩, ⟨2⟩⟩
    let tail := bound.encode.take 20
    let spoilt := List.replicate byteLength 0 ++ bound.encode
    (∃ final, writer.Appends [bound, .cageExit ⟨5⟩] (some []) final ∧ tail.length < byteLength ∧
      Reads (final.extended tail) 1 (.ok [.cageExit ⟨5⟩])) ∧
    (∃ records, Reads (some spoilt) 1 (.ok records)) ∧
    Reads (some spoilt) 0 (.error (.unknownOperation 0 0)) := by
  intro writer bound tail spoilt
  have htail : tail.length < byteLength := by decide
  refine ⟨⟨_, JournalWriter.appends_iff.mpr rfl, htail, ?_⟩, ?_, ?_⟩
  · exact (reads_complete_records 1).2.2 writer [bound, .cageExit ⟨5⟩] _ tail
      (JournalWriter.appends_iff.mpr rfl) htail
  · refine ((reads_complete_records 1).1 spoilt).1.mpr fun i hle hlt => ?_
    have hcount : recordCount spoilt = 2 := by decide
    obtain rfl : i = 1 := by omega
    show wordAt (recordAt spoilt 1) 0 ∈ _
    decide +kernel
  · refine (((reads_complete_records 0).1 spoilt).2.2.1 _).mpr ⟨0, ?_, ?_, ?_, ?_, ?_⟩
    · exact Nat.le_refl 0
    · decide
    · show ¬ wordAt (recordAt spoilt 0) 0 ∈ _
      decide +kernel
    · intro j _ hj
      omega
    · have hword : wordAt (recordAt spoilt 0) 0 = 0 := by decide +kernel
      rw [hword]

end Journal

end Interposition
