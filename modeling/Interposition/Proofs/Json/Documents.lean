/-
  The documents that processes hand to one another, there and back.

  A type is read back as it was written when its fields are, and the proof names them in the order
  they are declared.  Most values can be written; the settings of a session can when the state
  directory is text.
-/
import Interposition.Proofs.Json.RoundTrip
import Interposition.Process.Plan

namespace Interposition

variable (room : Nat)

theorem standsFor_cageId (cage : CageId) :
    (toJson cage).StandsFor (decode (α := CageId)) room cage :=
  (standsFor_word room cage.raw).map CageId.mk

theorem standsFor_grateId (grate : GrateId) :
    (toJson grate).StandsFor (decode (α := GrateId)) room grate :=
  (standsFor_word room grate.raw).map GrateId.mk

theorem standsFor_syscallNumber (number : SyscallNumber) :
    (toJson number).StandsFor (decode (α := SyscallNumber)) room number :=
  (standsFor_word room number.raw).map SyscallNumber.mk

theorem standsFor_handlerIndex (index : HandlerIndex) :
    (toJson index).StandsFor (decode (α := HandlerIndex)) room index :=
  (standsFor_word room index.raw).map HandlerIndex.mk

/-- **A registration** is read back as it was written. -/
theorem standsFor_registration (r : Registration) :
    (toJson r).StandsFor (decode (α := Registration)) (room + 1) r :=
  (Fields.Makes.done Registration.mk
    |>.field (standsFor_cageId room r.targetCage) |>.field (standsFor_syscallNumber room r.syscall)
    |>.field (standsFor_handlerIndex room r.handler) |>.field (standsFor_grateId room r.grate))
    |>.standsFor (by decide) _ _ _

/-- **A ready marker** is read back as it was written. -/
theorem standsFor_readyMarker (marker : ReadyMarker) :
    (toJson marker).StandsFor (decode (α := ReadyMarker)) (room + 3) marker :=
  (Fields.Makes.done ReadyMarker.mk
    |>.field (standsFor_grateId _ marker.grate) |>.field (standsFor_cageId _ marker.targetCage)
    |>.field (standsFor_list fun r _ => standsFor_registration room r))
    |>.standsFor (by decide) _ _ _

/-- A word that counts things. -/
theorem standsFor_index (n : UInt64) :
    (toJson n).StandsFor (fun reading => (Decoder.size reading).map UInt64.ofNat) room n := by
  have h := (standsFor_natural (UInt64.size - 1) (by decide)
    (Nat.le_sub_one_of_lt (UInt64.toNat_lt n)) "usize" room).map UInt64.ofNat
  rwa [UInt64.ofNat_toNat] at h

/-- **What a cage saw** is read back as it was written. -/
theorem standsFor_callRecord (call : CallRecord) :
    (toJson call).StandsFor (decode (α := CallRecord)) (room + 1) call :=
  (Fields.Makes.done CallRecord.mk
    |>.field (standsFor_syscallNumber room call.syscall) |>.field (standsFor_text room call.name)
    |>.field (standsFor_signed room call.ret) |>.field (standsFor_index room call.thread))
    |>.standsFor (by decide) _ _ _

/-- **An outcome** is read back as it was written. -/
theorem standsFor_cageOutcome (outcome : CageOutcome) :
    (toJson outcome).StandsFor (decode (α := CageOutcome)) (room + 3) outcome :=
  (Fields.Makes.done CageOutcome.mk
    |>.field (standsFor_cageId _ outcome.cage)
    |>.field (standsFor_list fun call _ => standsFor_callRecord room call))
    |>.standsFor (by decide) _ _ _

/-- A span of time carries nothing. -/
theorem carrying?_eq (d : Duration) : Duration.carrying? d.secs d.nanos = some d := by
  obtain ⟨secs, nanos, hbelow⟩ := d
  have hnanos : nanos.toNat < 1000000000 := UInt32.lt_iff_toNat_lt.mp hbelow
  have hsecs : secs.toNat < 2 ^ 64 := UInt64.toNat_lt secs
  have hfits : secs.toNat * 1000000000 + nanos.toNat < UInt64.size * 1000000000 := by
    show _ < 2 ^ 64 * 1000000000
    omega
  have hdiv : (secs.toNat * 1000000000 + nanos.toNat) / 1000000000 = secs.toNat := by omega
  have hmod : (secs.toNat * 1000000000 + nanos.toNat) % 1000000000 = nanos.toNat := by omega
  unfold Duration.carrying? Duration.ofNanoseconds
  simp only [if_pos hfits, hdiv, hmod, UInt64.ofNat_toNat, UInt32.ofNat_toNat]

/-- A span of time out of its fields, whatever the way to carry: the test on the number of
    nanoseconds is not there to be evaluated. -/
theorem carried_of_fields {secs : UInt64} {nanos : UInt32} {d : Duration} {e : Failure}
    {read : Except Failure (UInt64 × UInt32)} {carry : UInt64 → UInt32 → Option Duration}
    (hread : read = .ok (secs, nanos)) (hcarried : carry secs nanos = some d) :
    (do
      let (secs, nanos) ← read
      match carry secs nanos with
      | some d => return d
      | none => .error e) = Except.ok d := by
  subst hread
  show (match carry secs nanos with | some d => _ | none => _) = _
  rw [hcarried]
  rfl

/-- **A span of time** is read back as it was written. -/
theorem standsFor_duration (d : Duration) :
    (toJson d).StandsFor (decode (α := Duration)) (room + 1) d := by
  have hmakes : Duration.fields.Makes room [("secs", toJson d.secs), ("nanos", toJson d.nanos)]
      (d.secs, d.nanos) :=
    .field (.field (.done Prod.mk) (standsFor_word room d.secs)) (standsFor_halfWord room d.nanos)
  have h := hmakes.standsFor (by decide) "struct Duration" "struct Duration" true
  refine ⟨h.fits, ?_⟩
  exact carried_of_fields h.decode_eq (carrying?_eq d)

/-- A path that is text. -/
theorem standsFor_path {path : Path} {text : String} (h : path.toText? = some text) :
    (Json.text text).StandsFor (decode (α := Path)) room path where
  fits := trivial
  decode_eq := by
    show Except.ok (Path.ofText text) = .ok path
    unfold Path.ofText
    rw [Utf8.ofText_of_toText? h]

/-- **Settings** are read back as they were written, if they could be written. -/
theorem standsFor_runtimeConfig {config : RuntimeConfig} {j : Json} (h : config.toJson? = .ok j) :
    j.StandsFor (decode (α := RuntimeConfig)) (room + 2) config := by
  unfold RuntimeConfig.toJson? at h
  cases hdir : config.stateDir.toText? with
  | none =>
    rw [hdir] at h
    contradiction
  | some dir =>
    rw [hdir] at h
    cases h
    exact (Fields.Makes.done RuntimeConfig.mk
      |>.field (standsFor_path _ hdir) |>.field (standsFor_duration room config.readyTimeout)
      |>.field (standsFor_duration room config.armTimeout)
      |>.field (standsFor_halfWord _ config.maxChainDepth))
      |>.standsFor (by decide) _ _ _

/-- **The settings of a cage** are read back as they were written. -/
theorem standsFor_cageLaunch {launch : CageLaunch} {j : Json}
    (h : LaunchSettings.document launch = .ok j) :
    j.StandsFor (decode (α := CageLaunch)) (room + 3) launch := by
  have h : (do
    let runtime ← launch.runtime.toJson?
    return Json.object [("gated", .bool launch.gated), ("runtime", runtime)]) = Except.ok j := h
  cases hruntime : launch.runtime.toJson? with
  | error e =>
    rw [hruntime] at h
    contradiction
  | ok runtime =>
    rw [hruntime] at h
    cases h
    exact (Fields.Makes.done CageLaunch.mk
      |>.field (standsFor_bool _ launch.gated)
      |>.field (standsFor_runtimeConfig room hruntime))
      |>.standsFor (by decide) _ _ _

/-- **The settings of a grate** are read back as they were written. -/
theorem standsFor_grateLaunch {launch : GrateLaunch} {j : Json}
    (h : LaunchSettings.document launch = .ok j) :
    j.StandsFor (decode (α := GrateLaunch)) (room + 3) launch := by
  have h : (do
    let runtime ← launch.runtime.toJson?
    return Json.object [("target_cage", toJson launch.targetCage), ("runtime", runtime)]) =
      Except.ok j := h
  cases hruntime : launch.runtime.toJson? with
  | error e =>
    rw [hruntime] at h
    contradiction
  | ok runtime =>
    rw [hruntime] at h
    cases h
    exact (Fields.Makes.done GrateLaunch.mk
      |>.field (standsFor_cageId _ launch.targetCage)
      |>.field (standsFor_runtimeConfig room hruntime))
      |>.standsFor (by decide) _ _ _

/-! ## Settings in an environment -/

/-- Settings are read from the written form of a document that stands for them. -/
theorem LaunchSettings.ofValue_compact {α : Type} [LaunchSettings α] {settings : α} {j : Json}
    (h : j.StandsFor (decode (α := α)) (Reading.depthLimit - 1) settings) :
    ofValue α j.compact = .ok settings := by
  unfold ofValue
  rw [decodeText_compact h]

/-- **Launch settings** in the environment of a child are those that its parent put there. -/
theorem ofEnvironment_eq {α : Type} [LaunchSettings α] {settings : α} {entry : String × String}
    (hread : ∀ {j}, LaunchSettings.document settings = .ok j →
      j.StandsFor (decode (α := α)) (Reading.depthLimit - 1) settings)
    (h : LaunchSettings.toEnvironment settings = .ok entry) {lookup : String → Option String}
    (hlookup : lookup entry.1 = some entry.2) :
    LaunchSettings.ofEnvironment α lookup = .ok (some settings) := by
  unfold LaunchSettings.toEnvironment at h
  cases hdocument : LaunchSettings.document settings with
  | error e =>
    rw [hdocument] at h
    contradiction
  | ok j =>
    rw [hdocument] at h
    cases h
    unfold LaunchSettings.ofEnvironment
    rw [hlookup]
    exact congrArg (Except.map some) (LaunchSettings.ofValue_compact (hread hdocument))

end Interposition
