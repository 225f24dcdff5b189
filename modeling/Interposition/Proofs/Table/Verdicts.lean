/-
  What a client is told of a table's verdict.

  The verdict on a registration reaches the client as a status word, which the client reads with its
  own request beside it.  The word is one of three and does not tell four refusals apart, so the
  client goes by the request alone:

  1. **Refused for its words** (`check_einval`): the client looks whether the number is reserved.
     The table looks at the ids first, so a request that is wrong in both ways is invalid to the
     table and reserved to the client.

  2. **Refused for the dead** (`check_esrch`): the client takes it that the target has exited, and
     nothing in the request could tell it that the grate has.

  `refusal_cases` lists the refusals with what they rest on.  The client is told something else than
  the table found for a request that is wrong twice (`Registration.WrongTwice`) and when only the
  grate has exited (`OnlyGrateExited`); that it is not otherwise is `client_reports_verdict`.
-/
import Interposition.Loopback
import Interposition.Proofs.Host.Execution
import Interposition.Proofs.Table.Sequences

namespace Interposition

/-- An id of the request is zero, and its number is the reserved one. -/
def Registration.WrongTwice (r : Registration) : Prop :=
  r.namesProcesses = false ∧ Syscall.isReserved r.syscall = true

/-! ## Reading a status word -/

namespace RegistrationError

/-- A malformed request is reserved or else invalid. -/
theorem check_einval (r : Registration) :
    check Errno.einval.status r =
      .error (if Syscall.isReserved r.syscall then .reserved r.syscall else .invalid r) := by
  have hrefused : Errno.einval.status ≠ accepted := by decide
  unfold check ofStatus?
  rw [if_neg hrefused, if_pos rfl]

/-- The dead are taken to be the target. -/
theorem check_esrch (r : Registration) :
    check Errno.esrch.status r = .error (.exited r.targetCage) := by
  have hrefused : Errno.esrch.status ≠ accepted := by decide
  have hwellFormed : Errno.esrch.status ≠ Errno.einval.status := by decide
  unfold check ofStatus?
  rw [if_neg hrefused, if_neg hwellFormed, if_pos rfl]

end RegistrationError

namespace InterceptionTable

variable {table : InterceptionTable} {r : Registration}

/-! ## The verdicts of a table -/

/-- The request is well-formed and its target lives, but its grate does not. -/
def OnlyGrateExited (table : InterceptionTable) (r : Registration) : Prop :=
  r.WellFormed ∧ table.hasExited r.targetCage = false ∧ table.hasExited r.grate.asCage = true

/-- **Refusals**, and what they rest on, in the order in which the table looks for them. -/
theorem refusal_cases {e : RegistrationError} (h : table.refusal? r = some e) :
    (r.namesProcesses = false ∧ e = .invalid r) ∨
    (r.namesProcesses = true ∧ Syscall.isReserved r.syscall = true ∧ e = .reserved r.syscall) ∨
    (r.WellFormed ∧ table.hasExited r.targetCage = true ∧ e = .exited r.targetCage) ∨
    (table.OnlyGrateExited r ∧ e = .exited r.grate.asCage) := by
  unfold refusal? at h
  cases hnames : r.namesProcesses with
  | false =>
    rw [hnames] at h
    exact .inl ⟨rfl, (Option.some.inj h).symm⟩
  | true =>
    cases hreserved : Syscall.isReserved r.syscall with
    | true =>
      rw [hnames, hreserved] at h
      exact .inr (.inl ⟨rfl, rfl, (Option.some.inj h).symm⟩)
    | false =>
      have hwellFormed : r.WellFormed := r.wellFormed_iff.mpr ⟨hnames, hreserved⟩
      cases htarget : table.hasExited r.targetCage with
      | true =>
        rw [hnames, hreserved, htarget] at h
        exact .inr (.inr (.inl ⟨hwellFormed, rfl, (Option.some.inj h).symm⟩))
      | false =>
        cases hgrate : table.hasExited r.grate.asCage with
        | true =>
          rw [hnames, hreserved, htarget, hgrate] at h
          exact .inr (.inr (.inr ⟨⟨hwellFormed, htarget, hgrate⟩, (Option.some.inj h).symm⟩))
        | false =>
          rw [hnames, hreserved, htarget, hgrate] at h
          contradiction

/-- What the client of a channel makes of a refusal of the table. -/
theorem check_of_refusal? {e : RegistrationError} (h : table.refusal? r = some e) :
    (RegistrationError.check e.toStatus r = .error e ↔
      ¬ r.WrongTwice ∧ ¬ table.OnlyGrateExited r) ∧
    (r.WrongTwice → e = .invalid r ∧
      RegistrationError.check e.toStatus r = .error (.reserved r.syscall)) ∧
    (table.OnlyGrateExited r → e = .exited r.grate.asCage ∧
      RegistrationError.check e.toStatus r = .error (.exited r.targetCage)) := by
  rw [toStatus_of_refusal? h]
  unfold Registration.WrongTwice
  rcases refusal_cases h with ⟨hnames, rfl⟩ | ⟨hnames, hreserved, rfl⟩ |
      ⟨hwellFormed, htarget, rfl⟩ | ⟨⟨hwellFormed, htarget, hexited⟩, rfl⟩
  · have hmalformed : ¬ r.WellFormed := by
      rw [r.wellFormed_iff, hnames]
      simp
    rw [if_neg hmalformed, RegistrationError.check_einval]
    cases hreserved : Syscall.isReserved r.syscall <;>
      simp [hnames, OnlyGrateExited, hmalformed]
  · have hmalformed : ¬ r.WellFormed := by
      rw [r.wellFormed_iff, hreserved]
      simp
    rw [if_neg hmalformed, RegistrationError.check_einval]
    simp [hnames, hreserved, OnlyGrateExited, hmalformed]
  · have hnames := (r.wellFormed_iff.mp hwellFormed).1
    rw [if_pos hwellFormed, RegistrationError.check_esrch]
    simp [hnames, OnlyGrateExited, htarget]
  · have hnames := (r.wellFormed_iff.mp hwellFormed).1
    -- the target lives and the grate does not, so the client names somebody else
    have hother : r.targetCage ≠ r.grate.asCage := by
      intro heq
      rw [heq, hexited] at htarget
      contradiction
    rw [if_pos hwellFormed, RegistrationError.check_esrch]
    simp [hnames, OnlyGrateExited, hwellFormed, htarget, hexited, hother]

/-! ## The client -/

/-- The words of a request carry it, whoever owns them. -/
theorem ofWords_values_ofOwner (caller : CageId) (r : Registration) :
    Registration.ofWords (ArgumentVector.ofOwner caller r.toWords).values = r := by
  have hvalues : (ArgumentVector.ofOwner caller r.toWords).values = r.toWords := by
    unfold ArgumentVector.ofOwner ArgumentVector.values
    rw [Vector.map_map]
    exact Vector.map_id _
  rw [hvalues]
  rfl

/-- A request by a cage that lives is answered by the status word of the table's verdict, and leaves
    the table as the registration itself would. -/
theorem makeSyscall_registerHandler {caller : CageId} (lives : table.hasExited caller = false)
    (r : Registration) :
    table.makeSyscall caller Syscall.registerHandler r.toWords =
      (.value (statusOf (table.register r).1), (table.register r).2) := by
  have hcall := call_registerHandler (.ofOwner caller r.toWords) lives
  rw [ofWords_values_ofOwner] at hcall
  exact hcall

/-- **The client** reads this status word, and asks nobody else. -/
theorem run_register {caller : CageId} (lives : table.hasExited caller = false)
    (r : Registration) :
    ((channel caller).register r).run table =
      pure (RegistrationError.check (statusOf (table.register r).1) r, (table.register r).2) := by
  unfold Channel.register Channel.registerRaw channel
  simp only [StateT.run_bind, StateT.run_modifyGet, makeSyscall_registerHandler lives r]
  rfl

/-- **The client reports the table's verdict**, with two exceptions.  Whoever requests a
    registration of a table through a channel of its own, and lives, is told one thing, in any
    world, and the table is left as by the registration itself.

    * The client reports success exactly when the registration is accepted.
    * It reports the refusal of the table, with all it carries, unless the request is wrong twice,
      or the grate has exited and nothing else is wrong.
    * A request that is wrong twice is invalid to the table, and the client reports the number.
    * If only the grate has exited, the client reports that the target has. -/
theorem client_reports_verdict (table : InterceptionTable) {caller : CageId}
    (lives : table.hasExited caller = false) (r : Registration) :
    ∃ reported : Except RegistrationError Unit,
      (∀ (World : Type) (os : OperatingSystem World) (world : World) outcome final,
        (((channel caller).register r).run table).Runs os world outcome final ↔
          outcome = (reported, (table.register r).2) ∧ final = world) ∧
      (reported = .ok () ↔ ∃ outcome, (table.register r).1 = .ok outcome) ∧
      ∀ e, (table.register r).1 = .error e →
        (reported = .error e ↔ ¬ r.WrongTwice ∧ ¬ table.OnlyGrateExited r) ∧
        (r.WrongTwice → e = .invalid r ∧ reported = .error (.reserved r.syscall)) ∧
        (table.OnlyGrateExited r →
          e = .exited r.grate.asCage ∧ reported = .error (.exited r.targetCage)) := by
  refine ⟨RegistrationError.check (statusOf (table.register r).1) r, ?_, ?_⟩
  · intro World os world outcome final
    rw [run_register lives r]
    exact Program.runs_pure
  · rw [register_eq]
    cases hrefusal : table.refusal? r with
    | none =>
      refine ⟨iff_of_true rfl ⟨table.outcome r, rfl⟩, fun e he => ?_⟩
      contradiction
    | some e =>
      obtain ⟨hsame, hwrong, hgone⟩ := check_of_refusal? hrefusal
      have hrefused : RegistrationError.check e.toStatus r ≠ .ok () := by
        rw [toStatus_of_refusal? hrefusal]
        split
        · simp [RegistrationError.check_esrch]
        · simp [RegistrationError.check_einval]
      refine ⟨iff_of_false hrefused (fun ⟨outcome, hok⟩ => ?_), fun e' he => ?_⟩
      · contradiction
      · obtain rfl := Except.error.inj he
        exact ⟨hsame, hwrong, hgone⟩

/-- A table in which grate 2 has exited, and a request to let it handle calls of cage 5. -/
theorem client_reports_verdict_grate_exited :
    let table := (new Native.unsupported).after [.grateExited ⟨2⟩]
    let r : Registration := ⟨⟨5⟩, ⟨50⟩, ⟨1⟩, ⟨2⟩⟩
    table.hasExited ⟨7⟩ = false ∧ table.OnlyGrateExited r ∧
    ∃ reported : Except RegistrationError Unit,
      (table.register r).1 = .error (.exited ⟨2⟩) ∧ reported = .error (.exited ⟨5⟩) ∧
      ∀ (World : Type) (os : OperatingSystem World) (world : World) outcome final,
        (((channel ⟨7⟩).register r).run table).Runs os world outcome final ↔
          outcome = (reported, (table.register r).2) ∧ final = world := by
  intro table r
  have lives : table.hasExited ⟨7⟩ = false := by decide
  have hgone : table.OnlyGrateExited r := ⟨by decide, by decide, by decide⟩
  have hverdict : (table.register r).1 = .error (.exited ⟨2⟩) := rfl
  obtain ⟨reported, hruns, -, hreported⟩ := client_reports_verdict table lives r
  exact ⟨lives, hgone, reported, hverdict, ((hreported _ hverdict).2.2 hgone).2, hruns⟩

/-- The table and its client disagree: the table finds that grate 2 has exited, and the client
    reports that cage 5 has, which lives; the table finds a zero id, and the client reports the
    number. -/
theorem client_reports_other_verdict :
    let table := (new Native.unsupported).after [.grateExited ⟨2⟩]
    let late : Registration := ⟨⟨5⟩, ⟨50⟩, ⟨1⟩, ⟨2⟩⟩
    let wrong : Registration := ⟨⟨0⟩, ⟨400⟩, ⟨1⟩, ⟨3⟩⟩
    table.hasExited ⟨7⟩ = false ∧ table.hasExited ⟨5⟩ = false ∧
    (table.register late).1 = .error (.exited ⟨2⟩) ∧
    ((channel ⟨7⟩).register late).run table = pure (.error (.exited ⟨5⟩), table) ∧
    (table.register wrong).1 = .error (.invalid wrong) ∧
    ((channel ⟨7⟩).register wrong).run table = pure (.error (.reserved ⟨400⟩), table) := by
  intro table late wrong
  have lives : table.hasExited ⟨7⟩ = false := by decide
  refine ⟨lives, by decide, rfl, ?_, rfl, ?_⟩
  · rw [run_register lives late]
    rfl
  · rw [run_register lives wrong]
    rfl

end InterceptionTable

end Interposition
