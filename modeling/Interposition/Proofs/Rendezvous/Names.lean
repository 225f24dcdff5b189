/-
  The names of markers.

  A marker is named by its kind and an id, and its draft by the marker.  The last byte of a path tells
  the kinds apart, and drafts from markers; ids of one kind are told apart by their decimal digits,
  which are read back (`naturalUpTo?_toString`).  So no two markers have one name in any directory,
  and no draft has the name of a marker (`path_injective`, `temporary_ne_path`).  The journal beside them
  ends in a byte of its own.
-/
import Interposition.Config
import Interposition.Rendezvous.Directory
import Interposition.Proofs.Text.Decimal
import Interposition.Proofs.Text.Utf8

namespace Interposition

/-! ## Texts and paths -/

theorem Utf8.ofText_injective {text other : String} (h : ofText text = ofText other) :
    text = other := by
  have hread := congrArg toText? h
  rw [toText?_ofText, toText?_ofText] at hread
  exact Option.some.inj hread

theorem Text.toString_injective {m n : Nat} (h : toString m = toString n) : m = n := by
  have hm := naturalUpTo?_toString (Nat.le_max_left m n)
  have hn := naturalUpTo?_toString (Nat.le_max_right m n)
  rw [h, hn] at hm
  exact (Option.some.inj hm).symm

theorem Utf8.getLast?_ofText_append (front : String) {name : String} {byte : UInt8}
    (h : (ofText name).getLast? = some byte) : (ofText (front ++ name)).getLast? = some byte := by
  rw [ofText_append, List.getLast?_append, h]
  rfl

namespace Path

theorem getLast?_child (base : Path) {name : String} {byte : UInt8}
    (h : (Utf8.ofText name).getLast? = some byte) :
    (base.child name).bytes.getLast? = some byte := by
  have happend (front : List UInt8) : (front ++ Utf8.ofText name).getLast? = some byte := by
    rw [List.getLast?_append, h]
    rfl
  unfold Path.child Path.join
  split
  · exact h
  · split
    · exact happend base.bytes
    · have hcons : base.bytes ++ Path.separator :: (Path.ofText name).bytes =
          (base.bytes ++ [Path.separator]) ++ Utf8.ofText name := by
        rw [List.append_assoc]
        rfl
      show (base.bytes ++ Path.separator :: (Path.ofText name).bytes).getLast? = _
      rw [hcons]
      exact happend _

/-- Relative names below one directory. -/
theorem child_injective {base : Path} {name other : String}
    (hname : (ofText name).isAbsolute = false) (hother : (ofText other).isAbsolute = false)
    (h : base.child name = base.child other) : name = other := by
  unfold child join at h
  rw [hname, hother, Bool.false_or] at h
  refine Utf8.ofText_injective ?_
  split at h
  · exact Path.mk.inj h
  · split at h
    · exact List.append_cancel_left (Path.mk.inj h)
    · exact (List.cons.inj (List.append_cancel_left (Path.mk.inj h))).2

end Path

namespace Rendezvous

theorem temporary_injective {p q : Path} (h : temporary p = temporary q) : p = q := by
  cases p
  cases q
  exact congrArg Path.mk (List.append_cancel_right (Path.mk.inj h))

/-! ## Markers -/

/-- A marker, by its kind and id. -/
inductive MarkerName where
  | armed (cage : CageId)
  | ready (grate : GrateId)
  | outcome (cage : CageId)
deriving DecidableEq

variable {rendezvous : Rendezvous} {name other : MarkerName}

/-- The path of a marker. -/
def path (rendezvous : Rendezvous) : MarkerName → Path
  | .armed cage => rendezvous.armedPath cage
  | .ready grate => rendezvous.readyPath grate
  | .outcome cage => rendezvous.outcomePath cage

namespace MarkerName

/-- What comes before the id in the name of the file. -/
def front : MarkerName → String
  | armed _ | outcome _ => "cage-"
  | ready _ => "grate-"

/-- The id. -/
def id : MarkerName → Word
  | armed cage | outcome cage => cage.raw
  | ready grate => grate.raw

/-- What comes behind the id. -/
def back : MarkerName → String
  | armed _ => ".armed"
  | ready _ => ".ready"
  | outcome _ => ".outcome.json"

/-- The name of the file. -/
def fileName (name : MarkerName) : String := name.front ++ toString name.id ++ name.back

/-- The last byte of the name. -/
def lastByte : MarkerName → UInt8
  | armed _ => 0x64
  | ready _ => 0x79
  | outcome _ => 0x6E

theorem getLast?_fileName (name : MarkerName) :
    (Utf8.ofText name.fileName).getLast? = some name.lastByte := by
  refine Utf8.getLast?_ofText_append _ ?_
  cases name <;> simp only [back, lastByte, Utf8.ofText_eq] <;> rfl

theorem isAbsolute_fileName (name : MarkerName) :
    (Path.ofText name.fileName).isAbsolute = false := by
  have hfirst : (Utf8.ofText name.front).head? = some 0x63 ∨
      (Utf8.ofText name.front).head? = some 0x67 := by
    cases name <;> simp only [front, Utf8.ofText_eq] <;> decide
  unfold Path.isAbsolute Path.ofText fileName
  rw [Utf8.ofText_append, Utf8.ofText_append, List.append_assoc, List.head?_append]
  rcases hfirst with h | h <;> rw [h] <;> rfl

/-- The ids of two markers that differ only there. -/
theorem id_eq_of_fileName (h : name.fileName = other.fileName) (hfront : name.front = other.front)
    (hback : name.back = other.back) : name.id = other.id := by
  unfold fileName at h
  rw [hfront, hback] at h
  have hlist := congrArg String.toList h
  simp only [String.toList_append] at hlist
  have hdigits := List.append_cancel_left (List.append_cancel_right hlist)
  exact UInt64.toNat_inj.mp (Text.toString_injective (String.toList_inj.mp hdigits))

/-- **A name** tells its kind by its last byte, and its id by its digits. -/
theorem fileName_injective (h : name.fileName = other.fileName) : name = other := by
  have hlast := name.getLast?_fileName
  rw [h, other.getLast?_fileName] at hlast
  have hbyte := Option.some.inj hlast
  cases name <;> cases other <;> try (simp [lastByte] at hbyte)
  case armed.armed =>
    have hid := id_eq_of_fileName h rfl rfl
    exact congrArg (fun raw => armed ⟨raw⟩) hid
  case ready.ready =>
    have hid := id_eq_of_fileName h rfl rfl
    exact congrArg (fun raw => ready ⟨raw⟩) hid
  case outcome.outcome =>
    have hid := id_eq_of_fileName h rfl rfl
    exact congrArg (fun raw => outcome ⟨raw⟩) hid

end MarkerName

theorem path_eq_child (rendezvous : Rendezvous) (name : MarkerName) :
    rendezvous.path name = rendezvous.dir.child name.fileName := by
  cases name <;> rfl

theorem getLast?_path (rendezvous : Rendezvous) (name : MarkerName) :
    (rendezvous.path name).bytes.getLast? = some name.lastByte := by
  rw [path_eq_child]
  exact Path.getLast?_child _ name.getLast?_fileName

theorem getLast?_temporary (path : Path) : (temporary path).bytes.getLast? = some 0x70 := by
  have hlast : (Utf8.ofText ".tmp").getLast? = some 0x70 := by
    rw [Utf8.ofText_eq]
    rfl
  show (path.bytes ++ Utf8.ofText ".tmp").getLast? = _
  rw [List.getLast?_append, hlast]
  rfl

/-- **No two markers** have one name. -/
theorem path_injective (h : rendezvous.path name = rendezvous.path other) : name = other := by
  rw [path_eq_child, path_eq_child] at h
  exact MarkerName.fileName_injective
    (Path.child_injective name.isAbsolute_fileName other.isAbsolute_fileName h)

/-- **No draft** has the name of a marker. -/
theorem temporary_ne_path (p : Path) (name : MarkerName) : temporary p ≠ rendezvous.path name := by
  intro h
  have hlast := getLast?_temporary p
  rw [h, getLast?_path] at hlast
  cases name <;> simp [MarkerName.lastByte] at hlast

end Rendezvous

/-! ## The journal beside the markers -/

namespace RuntimeConfig

theorem getLast?_journalPath (config : RuntimeConfig) :
    config.journalPath.bytes.getLast? = some 0x6C := by
  refine Path.getLast?_child _ ?_
  rw [Utf8.ofText_eq]
  rfl

/-- The journal has the name of no marker, in any directory. -/
theorem journalPath_ne_path (config : RuntimeConfig) (rendezvous : Rendezvous)
    (name : Rendezvous.MarkerName) : config.journalPath ≠ rendezvous.path name := by
  intro h
  have hlast := config.getLast?_journalPath
  rw [h, Rendezvous.getLast?_path] at hlast
  cases name <;> simp [Rendezvous.MarkerName.lastByte] at hlast

/-- The journal has the name of no draft. -/
theorem journalPath_ne_temporary (config : RuntimeConfig) (p : Path) :
    config.journalPath ≠ Rendezvous.temporary p := by
  intro h
  have hlast := config.getLast?_journalPath
  rw [h, Rendezvous.getLast?_temporary] at hlast
  simp at hlast

end RuntimeConfig

end Interposition
