/-
  Enumerations as they are written, read by whoever comes across them.

  What is written as a document is read back from it; and since a document may have been copied by a
  program that keeps its members in an order of its own, or adds some, it is read back from every
  variation of it (`Faithful`).

  The counts in the audit trail, and the length of a handler table, are natural numbers here; they
  are written and read back as long as a word can hold them.
-/
import Interposition.Audit
import Interposition.Dispatch
import Interposition.Journal.Record
import Interposition.Process.Record
import Interposition.Proofs.Json.Documents
import Interposition.Proofs.Json.Tagged

namespace Interposition

/-! ## What the fields hold -/

theorem Json.isScalar_natural {n : Nat} (h : n < UInt64.size) : (Json.number n).IsScalar := by
  have h : n < 2 ^ 64 := h
  constructor <;> omega

theorem Json.isScalar_signed {n : Int} (h : -0x8000000000000000 ≤ n ∧ n < 0x8000000000000000) :
    (Json.number n).IsScalar := ⟨h.1, by omega⟩

section fields

variable (room : Nat)

theorem endures_cageId (cage : CageId) : (toJson cage).Endures (decode (α := CageId)) room cage :=
  (standsFor_cageId room cage).endures (Json.isScalar_natural (UInt64.toNat_lt cage.raw))

theorem endures_grateId (grate : GrateId) :
    (toJson grate).Endures (decode (α := GrateId)) room grate :=
  (standsFor_grateId room grate).endures (Json.isScalar_natural (UInt64.toNat_lt grate.raw))

theorem endures_syscallNumber (number : SyscallNumber) :
    (toJson number).Endures (decode (α := SyscallNumber)) room number :=
  (standsFor_syscallNumber room number).endures
    (Json.isScalar_natural (UInt64.toNat_lt number.raw))

theorem endures_handlerIndex (index : HandlerIndex) :
    (toJson index).Endures (decode (α := HandlerIndex)) room index :=
  (standsFor_handlerIndex room index).endures (Json.isScalar_natural (UInt64.toNat_lt index.raw))

theorem endures_word (n : UInt64) : (toJson n).Endures (decode (α := UInt64)) room n :=
  (standsFor_word room n).endures (Json.isScalar_natural (UInt64.toNat_lt n))

/-- A count that a word can hold. -/
theorem endures_size {n : Nat} (h : n < UInt64.size) :
    (Json.number n).Endures Decoder.size room n :=
  (standsFor_natural (UInt64.size - 1) (by decide) (Nat.le_sub_one_of_lt h) "usize" room).endures
    (Json.isScalar_natural h)

/-- The status of a refusal. -/
theorem endures_signed (n : Int64) : (toJson n).Endures (decode (α := Int64)) room n :=
  (standsFor_signed room n).endures
    (Json.isScalar_signed ⟨Int64.le_toInt n, Int64.toInt_lt n⟩)

/-- The code or the signal that a process has ended with. -/
theorem endures_signedHalf (n : Int32) : (toJson n).Endures (decode (α := Int32)) room n := by
  have hlow := Int32.le_toInt n
  have hhigh := Int32.toInt_lt n
  have h := (standsFor_integer (by decide) (by decide)
    ⟨Int32.minValue_le_toInt n, Int32.toInt_le n⟩ "i32" room).map Int32.ofInt
  rw [Int32.ofInt_toInt] at h
  exact h.endures (Json.isScalar_signed ⟨by omega, by omega⟩)

/-- The fields of a registration. -/
theorem endure_registration (r : Registration) :
    Registration.fields.Endure room
      [ ("target_cage", toJson r.targetCage), ("syscall", toJson r.syscall),
        ("handler", toJson r.handler), ("grate", toJson r.grate) ] r :=
  Fields.Endure.done Registration.mk
    |>.field (endures_cageId room r.targetCage) |>.field (endures_syscallNumber room r.syscall)
    |>.field (endures_handlerIndex room r.handler) |>.field (endures_grateId room r.grate)

theorem endures_registration (r : Registration) :
    (toJson r).Endures (decode (α := Registration)) (room + 1) r :=
  (endure_registration room r).endures_decodeAs (by decide) _ _

theorem endures_binding (b : Binding) :
    (toJson b).Endures (decode (α := Binding)) (room + 1) b :=
  (Fields.Endure.done Binding.mk
    |>.field (endures_handlerIndex room b.handler) |>.field (endures_grateId room b.grate))
    |>.endures_decodeAs (by decide) _ _

end fields

/-! ## The tag among the fields -/

variable {room : Nat} {j : Json}

/-- **Records of the journal.**  The members beside the tag of a registration are those of the
    registration. -/
theorem standsFor_journalRecord {record : JournalRecord} (h : Json.Varies [] (toJson record) j) :
    j.StandsFor (decode (α := JournalRecord)) (room + 1) record := by
  cases record with
  | register r =>
    refine standsFor_taggedInside (endure_registration room r) (by decide) rfl ?_ h
    intro members hmembers
    show (Registration.fields.ofMembers members false).map _ = _
    rw [hmembers]
    rfl
  | revoke cage syscall =>
    exact standsFor_taggedInside_record (by rfl)
      (.field (.field (.done JournalRecord.revoke) (endures_cageId room cage))
        (endures_syscallNumber room syscall)) (by decide) h
  | grateExit grate =>
    exact standsFor_taggedInside_record (by rfl)
      (.field (.done JournalRecord.grateExit) (endures_grateId room grate)) (by decide) h
  | cageExit cage =>
    exact standsFor_taggedInside_record (by rfl)
      (.field (.done JournalRecord.cageExit) (endures_cageId room cage)) (by decide) h

/-- A word can hold the number of bindings that were removed. -/
def AuditEvent.IsCountable : AuditEvent → Prop
  | .grateDetached _ removed => removed < UInt64.size
  | .cageExited _ removed => removed < UInt64.size
  | _ => True

/-- **Events of the audit trail.** -/
theorem standsFor_auditEvent {event : AuditEvent} (hcount : event.IsCountable)
    (h : Json.Varies [] (toJson event) j) :
    j.StandsFor (decode (α := AuditEvent)) (room + 2) event := by
  cases event with
  | installed r =>
    exact standsFor_taggedInside_record (by rfl)
      (.field (.done AuditEvent.installed) (endures_registration room r)) (by decide) h
  | replaced r previous =>
    exact standsFor_taggedInside_record (by rfl)
      (.field (.field (.done AuditEvent.replaced) (endures_registration room r))
        (endures_binding room previous)) (by decide) h
  | revoked cage syscall binding =>
    exact standsFor_taggedInside_record (by rfl)
      (.field (.field (.field (.done AuditEvent.revoked) (endures_cageId (room + 1) cage))
        (endures_syscallNumber (room + 1) syscall)) (endures_binding room binding)) (by decide) h
  | grateDetached grate removed =>
    exact standsFor_taggedInside_record (by rfl)
      (.field (.field (.done AuditEvent.grateDetached) (endures_grateId (room + 1) grate))
        (endures_size (room + 1) hcount)) (by decide) h
  | cageExited cage removed =>
    exact standsFor_taggedInside_record (by rfl)
      (.field (.field (.done AuditEvent.cageExited) (endures_cageId (room + 1) cage))
        (endures_size (room + 1) hcount)) (by decide) h

/-- **Ends of processes.** -/
theorem standsFor_termination {termination : Termination}
    (h : Json.Varies [] (toJson termination) j) :
    j.StandsFor (decode (α := Termination)) (room + 1) termination := by
  cases termination with
  | exited code =>
    exact standsFor_taggedInside_record (by rfl)
      (.field (.done Termination.exited) (endures_signedHalf room code)) (by decide) h
  | signaled signal =>
    exact standsFor_taggedInside_record (by rfl)
      (.field (.done Termination.signaled) (endures_signedHalf room signal)) (by decide) h
  | vanished =>
    exact standsFor_taggedInside (.done ()) (by decide) (by rfl) (fun _ _ => rfl) h

/-! ## The tag beside the content -/

/-- **Outcomes of registrations.** -/
theorem standsFor_registrationOutcome {outcome : RegistrationOutcome}
    (h : Json.Varies ["previous"] (toJson outcome) j) :
    j.StandsFor (decode (α := RegistrationOutcome)) (room + 2) outcome := by
  cases outcome with
  | installed => exact standsFor_taggedBeside_bare (by rfl) h
  | replaced previous =>
    exact standsFor_taggedBeside_value (by decide) (by rfl) (endures_binding room previous) h
  | unchanged => exact standsFor_taggedBeside_bare (by rfl) h

/-- **Refusals of registrations.** -/
theorem standsFor_registrationError {refusal : RegistrationError}
    (h : Json.Varies ["details"] (toJson refusal) j) :
    j.StandsFor (decode (α := RegistrationError)) (room + 2) refusal := by
  cases refusal with
  | invalid r =>
    exact standsFor_taggedBeside_value (by decide) (by rfl) (endures_registration room r) h
  | reserved syscall =>
    exact standsFor_taggedBeside_value (by decide) (by rfl) (endures_syscallNumber _ syscall) h
  | exited cage =>
    exact standsFor_taggedBeside_value (by decide) (by rfl) (endures_cageId _ cage) h
  | unsupported => exact standsFor_taggedBeside_bare (by rfl) h
  | io => exact standsFor_taggedBeside_bare (by rfl) h
  | rejected status =>
    exact standsFor_taggedBeside_value (by decide) (by rfl) (endures_signed _ status) h

/-- A word can hold the number of handlers. -/
def DispatchError.IsCountable : DispatchError → Prop
  | .indexOutOfRange _ len => len < UInt64.size

/-- **Calls without a handler.** -/
theorem standsFor_dispatchError {error : DispatchError} (hcount : error.IsCountable)
    (h : Json.Varies ["details"] (toJson error) j) :
    j.StandsFor (decode (α := DispatchError)) (room + 2) error := by
  obtain ⟨index, len⟩ := error
  exact standsFor_taggedBeside_record (by decide) (by rfl)
    (.field (.field (.done DispatchError.indexOutOfRange) (endures_word room index))
      (endures_size room hcount)) (by decide) h

/-! ## Faithful encodings -/

/-- The values of a type that hold no more than can be written are read back from every variation
    of their documents in which no reserved key is added, however the text is laid out; and they are
    told apart by their texts. -/
structure Faithful (α : Type) [Encode α] [Decode α] (reserved : List String) (Writable : α → Prop) :
    Prop where
  decodes : ∀ a j, Writable a → Json.Varies reserved (toJson a) j → decodeText α j.compact = .ok a
  decodes_form : ∀ a j (layout : Layout), Writable a → Json.Varies reserved (toJson a) j →
    decodeText α (String.ofList (layout.form 0 j)) = .ok a
  separates : ∀ a b, Writable a → Writable b → a ≠ b → (toJson a).compact ≠ (toJson b).compact

/-- An encoding is faithful if every variation of a document stands for the value. -/
theorem Faithful.of_standsFor {α : Type} [Encode α] [Decode α] {reserved : List String}
    {Writable : α → Prop}
    (h : ∀ a j, Writable a → Json.Varies reserved (toJson a) j →
      j.StandsFor (decode (α := α)) (Reading.depthLimit - 1) a) : Faithful α reserved Writable where
  decodes a j ha hvaries := decodeText_compact (h a j ha hvaries)
  decodes_form a j layout ha hvaries := decodeText_form (h a j ha hvaries) layout
  separates a b ha hb hne htext := by
    have hread := decodeText_compact (h a _ ha (.same reserved _))
    rw [htext, decodeText_compact (h b _ hb (.same reserved _))] at hread
    exact hne (Except.ok.inj hread).symm

/-- **Tagged encodings** decode to what was encoded, wherever the tag stands and whatever else stands
    beside the fields. -/
theorem tagged_encodings_decode :
    Faithful JournalRecord [] (fun _ => True) ∧
    Faithful AuditEvent [] AuditEvent.IsCountable ∧
    Faithful Termination [] (fun _ => True) ∧
    Faithful RegistrationOutcome ["previous"] (fun _ => True) ∧
    Faithful RegistrationError ["details"] (fun _ => True) ∧
    Faithful DispatchError ["details"] DispatchError.IsCountable := by
  refine ⟨?journal, ?audit, ?termination, ?outcome, ?refusal, ?dispatch⟩
  case journal => exact .of_standsFor fun record j _ h => standsFor_journalRecord h
  case audit => exact .of_standsFor fun event j hcount h => standsFor_auditEvent hcount h
  case termination => exact .of_standsFor fun termination j _ h => standsFor_termination h
  case outcome => exact .of_standsFor fun outcome j _ h => standsFor_registrationOutcome h
  case refusal => exact .of_standsFor fun refusal j _ h => standsFor_registrationError h
  case dispatch => exact .of_standsFor fun error j hcount h => standsFor_dispatchError hcount h

/-- A registration with its tag last and a note in front, an event with the greatest count, and an
    outcome behind its content, which is backwards too. -/
theorem tagged_encodings_decode_backwards :
    decodeText JournalRecord (Json.object
        [ ("note", .bool true), ("grate", .number 4), ("handler", .number 3),
          ("syscall", .number 2), ("target_cage", .number 1), ("op", .text "register") ]).compact =
      .ok (.register ⟨⟨1⟩, ⟨2⟩, ⟨3⟩, ⟨4⟩⟩) ∧
    decodeText AuditEvent (Json.object
        [ ("removed", .number 18446744073709551615), ("grate", .number 7),
          ("event", .text "grate_detached") ]).compact =
      .ok (.grateDetached ⟨7⟩ 18446744073709551615) ∧
    decodeText RegistrationOutcome (Json.object
        [ ("previous", .object [("grate", .number 4), ("handler", .number 3)]),
          ("outcome", .text "replaced") ]).compact =
      .ok (.replaced ⟨⟨3⟩, ⟨4⟩⟩) := by
  obtain ⟨journal, audit, -, outcome, -, -⟩ := tagged_encodings_decode
  have hcount : AuditEvent.IsCountable (.grateDetached ⟨7⟩ 18446744073709551615) := by
    show 18446744073709551615 < UInt64.size
    decide
  have hbinding : Json.Varies [] (toJson (Binding.mk ⟨3⟩ ⟨4⟩))
      (.object [("grate", .number 4), ("handler", .number 3)]) :=
    @Json.Varies.of_perm _ _ [] _ nofun (List.reverse_perm _).symm
  refine ⟨journal.decodes _ _ trivial ?_, audit.decodes _ _ hcount ?_,
    outcome.decodes _ _ trivial ?_⟩
  · refine @Json.Varies.of_perm _ _ [("note", .bool true)] _ ?_ (List.reverse_perm _).symm
    simp [Json.IsScalar]
  · exact @Json.Varies.of_perm _ _ [] _ nofun (List.reverse_perm _).symm
  · refine @Json.Varies.object _ _ [("outcome", .text "replaced"), ("previous", .object
      [("grate", .number 4), ("handler", .number 3)])] [] _ rfl ?_ nofun (List.reverse_perm _).symm
    exact .cons (.same [] _) (.cons hbinding .nil)

end Interposition
