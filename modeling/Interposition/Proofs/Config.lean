/-
  Settings that are handed down.

  Settings are written into the environment of a child, which reads them with all it has from its
  parent.  They survive this (`RuntimeConfig.Survives`) if the state directory is text, the timeouts
  are whole milliseconds, and a chain may have a grate at all (`RuntimeConfig.survives`).
-/
import Interposition.Config
import Interposition.Proofs.Text.Decimal
import Interposition.Proofs.Text.Utf8

namespace Interposition

/-! ## Values -/

namespace Text

theorem isBlank_of_isDigit {c : Char} (h : c.isDigit = true) : isBlank c = false := by
  simp only [Char.isDigit, Bool.and_eq_true, decide_eq_true_iff, ge_iff_le,
    UInt32.le_iff_toNat_le] at h
  have hlow : 48 ≤ c.toNat := h.1
  have hhigh : c.toNat ≤ 57 := h.2
  simp [isBlank]
  omega

/-- There is no white space around a written number. -/
theorem trimBlank_toString (n : Nat) : trimBlank (toString n) = toString n := by
  have hlist : (toString n).toList = Nat.toDigits 10 n := Nat.toList_repr
  have hkept (cs : List Char) (h : ∀ c ∈ cs, c.isDigit = true) : cs.dropWhile isBlank = cs := by
    cases cs with
    | nil => rfl
    | cons c cs =>
      exact List.dropWhile_cons_of_neg
        (by rw [isBlank_of_isDigit (h c List.mem_cons_self)]; exact Bool.false_ne_true)
  have hdigits : ∀ c ∈ Nat.toDigits 10 n, c.isDigit = true := fun _ => isDigit_of_mem_toDigits
  unfold trimBlank
  rw [hlist, hkept _ hdigits, hkept _ (by simpa using hdigits), List.reverse_reverse, ← hlist,
    String.ofList_toList]

end Text

/-- The text of a path that is text. -/
theorem Path.display_ofText (text : String) : (Path.ofText text).display = text := by
  show Utf8.toTextLossy (Utf8.ofText text) = text
  unfold Utf8.toTextLossy
  rw [Utf8.decode_ofText, List.map_map]
  exact (congrArg String.ofList (List.map_id _)).trans String.ofList_toList

namespace Duration

theorem inMilliseconds_milliseconds (n : UInt64) : (milliseconds n).inMilliseconds = n.toNat := by
  have hsize : n.toNat < 2 ^ 64 := n.toNat_lt_size
  simp only [inMilliseconds, nanoseconds, milliseconds, ofNanoseconds]
  rw [UInt64.toNat_ofNat_of_lt' (by simp only [UInt64.size]; omega),
    UInt32.toNat_ofNat_of_lt' (by simp only [UInt32.size]; omega)]
  omega

end Duration

/-! ## Settings -/

namespace RuntimeConfig

/-- Whoever finds the variables for a child takes the same settings from them. -/
def Survives (config : RuntimeConfig) : Prop :=
  ∀ (fresh : Path) (lookup : String → Option String),
    (∀ entry ∈ config.childEnvironment, lookup entry.1 = some entry.2) →
      fromLookup fresh lookup = .ok config

/-- A number is read as it is written. -/
theorem numberIn_toString {lookup : String → Option String} {setting : String} {n : UInt64}
    (h : lookup setting = some (toString n.toNat)) : numberIn lookup setting = .ok (some n) := by
  have hfits : n.toNat ≤ UInt64.size - 1 := Nat.le_pred_of_lt n.toNat_lt_size
  have hread : Text.word? (toString n.toNat) = some n := by
    unfold Text.word?
    rw [Text.naturalUpTo?_toString hfits]
    exact congrArg some UInt64.ofNat_toNat
  unfold numberIn
  rw [h]
  simp only [Text.trimBlank_toString, hread]

theorem saturatedDepth_toUInt64 (depth : UInt32) : saturatedDepth depth.toUInt64 = depth := by
  unfold saturatedDepth
  rw [UInt32.toNat_toUInt64, if_pos depth.toNat_lt_size]
  exact UInt32.toUInt32_toUInt64 depth

/-- **Settings survive** that environments can express. -/
theorem survives {dir : String} {ready arm : UInt64} {depth : UInt32} (hdepth : depth ≠ 0) :
    (RuntimeConfig.mk (.ofText dir) (.milliseconds ready) (.milliseconds arm) depth).Survives := by
  intro fresh lookup hlookup
  simp only [childEnvironment, List.mem_cons, List.not_mem_nil, or_false, forall_eq_or_imp,
    forall_eq] at hlookup
  obtain ⟨hdir, hready, harm, hlimit⟩ := hlookup
  rw [Path.display_ofText] at hdir
  rw [Duration.inMilliseconds_milliseconds] at hready harm
  have hlimit : lookup maxChainDepthVariable = some (toString depth.toUInt64.toNat) := by
    rw [UInt32.toNat_toUInt64]
    exact hlimit
  have hsome : some depth.toUInt64 ≠ some 0 := by
    intro hzero
    refine hdepth ?_
    rw [← UInt32.toUInt32_toUInt64 depth, Option.some.inj hzero]
    rfl
  unfold fromLookup
  rw [numberIn_toString hready, numberIn_toString harm, numberIn_toString hlimit]
  simp only [bind, Except.bind, if_neg hsome, hdir, Option.map_some, Option.getD_some,
    saturatedDepth_toUInt64]
  rfl

end RuntimeConfig

end Interposition
