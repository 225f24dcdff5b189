/-
  The files of a session.

  The journal, the three markers and their drafts are seven different files (`path_injective`).  The
  paths are made of the settings and the process numbers, so the proof looks at their ends only:
  the last byte tells them apart, up to the drafts, and drafts are as different as their markers.
-/
import Interposition.Proofs.Rendezvous.Names
import Interposition.Proofs.Session.World

namespace Interposition.Session

/-! ## The files of a session -/

/-- What a marker says. -/
inductive Marker where
  | armed
  | ready
  | outcome
deriving DecidableEq

/-- Who writes a marker. -/
def Marker.author : Marker → Party
  | armed => .cage
  | ready => .grate
  | outcome => .cage

/-- The files of a session.  A marker is a draft before it has its name. -/
inductive Name where
  | journal
  | marker (marker : Marker)
  | draft (marker : Marker)
deriving DecidableEq

/-- Whether nobody else writes a file while a child is alive. -/
def Name.OwnedBy (party : Party) : Name → Prop
  | journal => party = .grate
  | marker m => party = m.author
  | draft m => party = m.author

namespace Setting

variable (setting : Setting)

/-- The path of a marker. -/
def markerPath : Marker → Path
  | .armed => setting.armed
  | .ready => setting.ready
  | .outcome => setting.outcome

/-- The path of a file. -/
def path : Name → Path
  | .journal => setting.journal
  | .marker m => setting.markerPath m
  | .draft m => Rendezvous.temporary (setting.markerPath m)

/-- The last byte of a path. -/
def lastByte : Name → UInt8
  | .journal => 0x6C
  | .marker .armed => 0x64
  | .marker .ready => 0x79
  | .marker .outcome => 0x6E
  | .draft _ => 0x70

theorem getLast?_path (name : Name) : (setting.path name).bytes.getLast? = some (lastByte name) := by
  cases name with
  | journal => exact setting.config.getLast?_journalPath
  | marker m =>
    cases m with
    | armed => exact Rendezvous.getLast?_path setting.rendezvous (.armed setting.cageId)
    | ready => exact Rendezvous.getLast?_path setting.rendezvous (.ready setting.grateId)
    | outcome => exact Rendezvous.getLast?_path setting.rendezvous (.outcome setting.cageId)
  | draft m => exact Rendezvous.getLast?_temporary _

/-- Only drafts have the same last byte. -/
theorem eq_or_drafts_of_lastByte {a b : Name} (h : lastByte a = lastByte b) :
    a = b ∨ ∃ m m', a = .draft m ∧ b = .draft m' := by
  cases a with
  | journal =>
    cases b with
    | journal => exact .inl rfl
    | marker m => cases m <;> simp [lastByte] at h
    | draft m => simp [lastByte] at h
  | marker m =>
    cases b with
    | journal => cases m <;> simp [lastByte] at h
    | marker m' => cases m <;> cases m' <;> first | exact .inl rfl | simp [lastByte] at h
    | draft m' => cases m <;> simp [lastByte] at h
  | draft m =>
    cases b with
    | journal => simp [lastByte] at h
    | marker m' => cases m' <;> simp [lastByte] at h
    | draft m' => exact .inr ⟨m, m', rfl, rfl⟩

theorem lastByte_of_path_eq {a b : Name} (h : setting.path a = setting.path b) :
    lastByte a = lastByte b := by
  have hlast := setting.getLast?_path a
  rw [h, setting.getLast?_path] at hlast
  exact (Option.some.inj hlast).symm

/-- **The files are different ones.** -/
theorem path_injective : Function.Injective setting.path := by
  intro a b h
  rcases eq_or_drafts_of_lastByte (setting.lastByte_of_path_eq h) with heq | ⟨m, m', rfl, rfl⟩
  · exact heq
  · have hmarker : setting.path (.marker m) = setting.path (.marker m') := Rendezvous.temporary_injective h
    rcases eq_or_drafts_of_lastByte (setting.lastByte_of_path_eq hmarker) with heq | ⟨_, _, heq, _⟩
    · rw [Name.marker.inj heq]
    · cases heq

end Setting

end Interposition.Session
