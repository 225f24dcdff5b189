/-
  What a child makes of the settings it is handed.

  The variables for a child hold less than the settings do: a path as it is shown to people, and
  timeouts in whole milliseconds.  And their reader takes less than they can hold: the milliseconds
  must fit a word, and a chain must allow for a grate.

  1. **The reading** (`RuntimeConfig.inherited`): what every child finds, whatever becomes of it
     (`fromLookup_childEnvironment`).  Printing and parsing meet in one equation for each variable
     (`numberIn_toString_eq`), limit included.

  2. **The boundary** (`inherited_eq_ok_iff`): the settings that survive are those that nothing is
     cut from (`truncated_eq_iff`), nothing is replaced in (`ofText_display_eq_iff`) and nothing is
     refused of.

  3. **What was read once** (`isExpressible_of_fromLookup`) is inside the boundary.
-/
import Interposition.Proofs.Config
import Interposition.Proofs.Json.Handover

namespace Interposition

/-! ## Values -/

/-- What a path is shown as spells the path exactly if the path is text. -/
theorem Path.ofText_display_eq_iff {path : Path} : ofText path.display = path ↔ path.IsText := by
  constructor
  · intro h
    exact ⟨path.display, h.symm⟩
  · rintro ⟨text, rfl⟩
    rw [display_ofText]

namespace Duration

/-- A span of whole milliseconds. -/
def IsWhole (d : Duration) : Prop := d.nanos.toNat % 1000000 = 0

/-- A span without what it has below a millisecond. -/
def truncated (d : Duration) : Duration :=
  ⟨d.secs, UInt32.ofNat (d.nanos.toNat - d.nanos.toNat % 1000000), by
    have hbelow : d.nanos.toNat < 1000000000 := UInt32.lt_iff_toNat_lt.mp d.below
    rw [UInt32.lt_iff_toNat_lt, UInt32.toNat_ofNat_of_lt' (by simp only [UInt32.size]; omega)]
    exact Nat.lt_of_le_of_lt (Nat.sub_le ..) hbelow⟩

theorem toNat_nanos_truncated (d : Duration) :
    d.truncated.nanos.toNat = d.nanos.toNat - d.nanos.toNat % 1000000 := by
  have hbelow : d.nanos.toNat < 1000000000 := UInt32.lt_iff_toNat_lt.mp d.below
  exact UInt32.toNat_ofNat_of_lt' (by simp only [UInt32.size]; omega)

theorem truncated_eq_iff {d : Duration} : d.truncated = d ↔ d.IsWhole := by
  have hnanos := d.toNat_nanos_truncated
  unfold IsWhole
  constructor
  · intro h
    rw [h] at hnanos
    omega
  · intro h
    have heq : d.truncated.nanos = d.nanos := UInt32.toNat_inj.mp (by omega)
    exact (Duration.mk.injEq ..).mpr ⟨rfl, heq⟩

/-- Milliseconds that fit a word are read as the span they were written for, cut off. -/
theorem milliseconds_inMilliseconds {d : Duration} (h : d.inMilliseconds < UInt64.size) :
    milliseconds (UInt64.ofNat d.inMilliseconds) = d.truncated := by
  have hword : (UInt64.ofNat d.inMilliseconds).toNat = d.inMilliseconds := UInt64.toNat_ofNat_of_lt' h
  have hsecs : d.inMilliseconds * 1000000 / 1000000000 = d.secs.toNat := by
    have hbelow : d.nanos.toNat < 1000000000 := UInt32.lt_iff_toNat_lt.mp d.below
    unfold inMilliseconds nanoseconds
    omega
  have hnanos : d.inMilliseconds * 1000000 % 1000000000 = d.truncated.nanos.toNat := by
    have hbelow : d.nanos.toNat < 1000000000 := UInt32.lt_iff_toNat_lt.mp d.below
    rw [toNat_nanos_truncated]
    unfold inMilliseconds nanoseconds
    omega
  unfold milliseconds ofNanoseconds
  simp only [hword, hsecs, hnanos, UInt64.ofNat_toNat, UInt32.ofNat_toNat]
  rfl

theorem isWhole_milliseconds (n : UInt64) : (milliseconds n).IsWhole := by
  unfold IsWhole milliseconds ofNanoseconds
  rw [UInt32.toNat_ofNat_of_lt' (by simp only [UInt32.size]; omega)]
  omega

end Duration

/-! ## The reading -/

namespace RuntimeConfig

/-- What a child makes of the settings it is handed: more milliseconds than a word holds are refused,
    of the ready timeout before the arm timeout, and then a chain that allows for no grate.
    Otherwise what is no text in the path is replaced, and parts of milliseconds are cut off. -/
def inherited (config : RuntimeConfig) : Except ConfigError RuntimeConfig :=
  if UInt64.size ≤ config.readyTimeout.inMilliseconds then
    .error (.invalidNumber readyTimeoutVariable (toString config.readyTimeout.inMilliseconds))
  else if UInt64.size ≤ config.armTimeout.inMilliseconds then
    .error (.invalidNumber armTimeoutVariable (toString config.armTimeout.inMilliseconds))
  else if config.maxChainDepth = 0 then .error (.zero maxChainDepthVariable)
  else .ok
    { stateDir := .ofText config.stateDir.display
      readyTimeout := config.readyTimeout.truncated
      armTimeout := config.armTimeout.truncated
      maxChainDepth := config.maxChainDepth }

/-- A written number is read exactly if it fits a word; the text of the others is in the refusal. -/
theorem numberIn_toString_eq {lookup : String → Option String} {setting : String} {n : Nat}
    (h : lookup setting = some (toString n)) :
    numberIn lookup setting =
      if UInt64.size ≤ n then .error (.invalidNumber setting (toString n))
      else .ok (some (UInt64.ofNat n)) := by
  have hword : Text.word? (toString n) = if UInt64.size ≤ n then none else some (UInt64.ofNat n) := by
    unfold Text.word?
    rw [Text.naturalUpTo?_toString_eq]
    by_cases hn : UInt64.size ≤ n
    · rw [if_pos hn, if_neg (by simp only [UInt64.size] at hn ⊢; omega)]
      rfl
    · rw [if_neg hn, if_pos (by omega)]
      rfl
  unfold numberIn
  rw [h]
  simp only [Text.trimBlank_toString, hword]
  by_cases hn : UInt64.size ≤ n
  · simp only [if_pos hn]
  · simp only [if_neg hn]

theorem toUInt64_eq_zero_iff (depth : UInt32) : depth.toUInt64 = 0 ↔ depth = 0 := by
  constructor
  · intro h
    rw [← UInt32.toUInt32_toUInt64 depth, h]
    rfl
  · rintro rfl
    rfl

/-- **A child reads** what there is to inherit, and nothing of its own. -/
theorem fromLookup_childEnvironment (config : RuntimeConfig) (fresh : Path) :
    fromLookup fresh (fun name => config.childEnvironment.lookup name) = config.inherited := by
  have hready : numberIn (fun name => config.childEnvironment.lookup name) readyTimeoutVariable = _ :=
    numberIn_toString_eq (n := config.readyTimeout.inMilliseconds) rfl
  have harm : numberIn (fun name => config.childEnvironment.lookup name) armTimeoutVariable = _ :=
    numberIn_toString_eq (n := config.armTimeout.inMilliseconds) rfl
  have hdepth : numberIn (fun name => config.childEnvironment.lookup name) maxChainDepthVariable = _ :=
    numberIn_toString (n := config.maxChainDepth.toUInt64) (by rw [UInt32.toNat_toUInt64]; rfl)
  have hdir : config.childEnvironment.lookup stateDirVariable = some config.stateDir.display := rfl
  unfold fromLookup inherited
  rw [hready, harm, hdepth]
  by_cases hlong : UInt64.size ≤ config.readyTimeout.inMilliseconds
  · rw [if_pos hlong, if_pos hlong]
    rfl
  · rw [if_neg hlong, if_neg hlong]
    by_cases hlate : UInt64.size ≤ config.armTimeout.inMilliseconds
    · rw [if_pos hlate, if_pos hlate]
      rfl
    · rw [if_neg hlate, if_neg hlate]
      simp only [bind, Except.bind, Option.some_inj, toUInt64_eq_zero_iff, hdir, Option.map_some,
        Option.getD_some, saturatedDepth_toUInt64]
      rw [Duration.milliseconds_inMilliseconds (Nat.lt_of_not_le hlong),
        Duration.milliseconds_inMilliseconds (Nat.lt_of_not_le hlate)]
      rfl

/-! ## The boundary -/

/-- Settings that the variables can express and their reader takes. -/
structure IsExpressible (config : RuntimeConfig) : Prop where
  stateDir : config.stateDir.IsText
  ready_whole : config.readyTimeout.IsWhole
  ready_fits : config.readyTimeout.inMilliseconds ≤ UInt64.size - 1
  arm_whole : config.armTimeout.IsWhole
  arm_fits : config.armTimeout.inMilliseconds ≤ UInt64.size - 1
  depth : 1 ≤ config.maxChainDepth

theorem inherited_eq_ok_iff {config : RuntimeConfig} :
    config.inherited = .ok config ↔ config.IsExpressible := by
  have hdepth : 1 ≤ config.maxChainDepth ↔ config.maxChainDepth ≠ 0 := by
    rw [UInt32.le_iff_toNat_le, ne_eq, ← UInt32.toNat_inj]
    exact Nat.one_le_iff_ne_zero
  unfold inherited
  constructor
  · intro h
    by_cases hlong : UInt64.size ≤ config.readyTimeout.inMilliseconds
    · rw [if_pos hlong] at h
      contradiction
    · rw [if_neg hlong] at h
      by_cases hlate : UInt64.size ≤ config.armTimeout.inMilliseconds
      · rw [if_pos hlate] at h
        contradiction
      · rw [if_neg hlate] at h
        by_cases hzero : config.maxChainDepth = 0
        · rw [if_pos hzero] at h
          contradiction
        · rw [if_neg hzero] at h
          have h := Except.ok.inj h
          exact
            { stateDir := Path.ofText_display_eq_iff.mp (congrArg RuntimeConfig.stateDir h)
              ready_whole := Duration.truncated_eq_iff.mp (congrArg RuntimeConfig.readyTimeout h)
              ready_fits := Nat.le_sub_one_of_lt (Nat.lt_of_not_le hlong)
              arm_whole := Duration.truncated_eq_iff.mp (congrArg RuntimeConfig.armTimeout h)
              arm_fits := Nat.le_sub_one_of_lt (Nat.lt_of_not_le hlate)
              depth := hdepth.mpr hzero }
  · intro h
    have hlong := h.ready_fits
    have hlate := h.arm_fits
    rw [if_neg (by simp only [UInt64.size] at hlong ⊢; omega),
      if_neg (by simp only [UInt64.size] at hlate ⊢; omega), if_neg (hdepth.mp h.depth),
      Path.ofText_display_eq_iff.mpr h.stateDir, Duration.truncated_eq_iff.mpr h.ready_whole,
      Duration.truncated_eq_iff.mpr h.arm_whole]

/-- A depth that is not zero is kept as one that is not. -/
theorem saturatedDepth_pos {depth : UInt64} (h : depth ≠ 0) : 1 ≤ saturatedDepth depth := by
  have hpos : depth.toNat ≠ 0 := fun hzero => h (UInt64.toNat_inj.mp hzero)
  unfold saturatedDepth
  rw [UInt32.le_iff_toNat_le]
  split
  · next hfits =>
    rw [UInt64.toNat_toUInt32, Nat.mod_eq_of_lt hfits]
    exact Nat.one_le_iff_ne_zero.mpr hpos
  · decide

/-- Settings that were read themselves can be handed down, if the state directory was named. -/
theorem isExpressible_of_fromLookup {fresh : Path} {lookup : String → Option String}
    {dir : String} {config : RuntimeConfig} (hdir : lookup stateDirVariable = some dir)
    (h : fromLookup fresh lookup = .ok config) : config.IsExpressible := by
  have htimeout (read : Option UInt64) {absent : UInt64} (habsent : absent = 5 ∨ absent = 30) :
      ((read.map Duration.milliseconds).getD (.seconds absent)).IsWhole ∧
        ((read.map Duration.milliseconds).getD (.seconds absent)).inMilliseconds ≤
          UInt64.size - 1 := by
    cases read with
    | none => rcases habsent with rfl | rfl <;> exact ⟨rfl, by decide⟩
    | some n =>
      refine ⟨Duration.isWhole_milliseconds n, ?_⟩
      show (Duration.milliseconds n).inMilliseconds ≤ _
      rw [Duration.inMilliseconds_milliseconds]
      exact Nat.le_sub_one_of_lt n.toNat_lt_size
  unfold fromLookup at h
  cases hready : numberIn lookup readyTimeoutVariable with
  | error e => rw [hready] at h; contradiction
  | ok ready =>
    cases harm : numberIn lookup armTimeoutVariable with
    | error e => rw [hready, harm] at h; contradiction
    | ok arm =>
      cases hdepth : numberIn lookup maxChainDepthVariable with
      | error e => rw [hready, harm, hdepth] at h; contradiction
      | ok depth =>
        rw [hready, harm, hdepth, hdir] at h
        simp only [bind, Except.bind] at h
        split at h
        · contradiction
        · next hzero =>
          obtain rfl := Except.ok.inj h
          exact
            { stateDir := ⟨dir, rfl⟩
              ready_whole := (htimeout ready (.inl rfl)).1
              ready_fits := (htimeout ready (.inl rfl)).2
              arm_whole := (htimeout arm (.inr rfl)).1
              arm_fits := (htimeout arm (.inr rfl)).2
              depth := by
                cases depth with
                | none => exact (by decide : (1 : UInt32) ≤ 8)
                | some n => exact saturatedDepth_pos fun hn => hzero (congrArg some hn) }

/-- **Settings survive the environment of a child exactly when it can express them.**  Whatever the
    settings are, the child reads from the variables made for it what `inherited` says; this is
    the settings themselves exactly if the state directory is text, both timeouts are whole
    milliseconds that fit a word, and a chain may have a grate.  So what was read from variables,
    with the state directory among them, is read again from the variables made of it. -/
theorem survive_exactly_when_expressible (fresh : Path) :
    (∀ config : RuntimeConfig,
      let received := fromLookup fresh fun name => config.childEnvironment.lookup name
      received = config.inherited ∧ (received = .ok config ↔ config.IsExpressible)) ∧
    ∀ (earlier : Path) (lookup : String → Option String) (dir : String) (config : RuntimeConfig),
      lookup stateDirVariable = some dir → fromLookup earlier lookup = .ok config →
        fromLookup fresh (fun name => config.childEnvironment.lookup name) = .ok config := by
  refine ⟨fun config => ?_, fun earlier lookup dir config hdir h => ?_⟩
  · intro received
    have hreceived : received = config.inherited := config.fromLookup_childEnvironment fresh
    exact ⟨hreceived, by rw [hreceived]; exact inherited_eq_ok_iff⟩
  · rw [config.fromLookup_childEnvironment fresh]
    exact inherited_eq_ok_iff.mpr (isExpressible_of_fromLookup hdir h)

/-- Settings read from an environment with a number that is trimmed, one with a sign, and a depth
    that saturates are handed down as they were read. -/
theorem survive_exactly_when_expressible_saturated :
    let lookup : String → Option String := fun name =>
      [(stateDirVariable, "run"), (readyTimeoutVariable, " 250 "),
        (maxChainDepthVariable, "+18446744073709551615")].lookup name
    let config : RuntimeConfig := ⟨.ofText "run", .milliseconds 250, .seconds 30, 4294967295⟩
    fromLookup (.ofText "new") lookup = .ok config ∧
      fromLookup (.ofText "newer") (fun name => config.childEnvironment.lookup name) =
        .ok config := by
  intro lookup config
  have hread : fromLookup (.ofText "new") lookup = .ok config := by decide +kernel
  exact ⟨hread, (survive_exactly_when_expressible (.ofText "newer")).2 (.ofText "new") lookup "run"
    config rfl hread⟩

end RuntimeConfig

end Interposition
