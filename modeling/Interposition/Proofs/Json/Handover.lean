/-
  What is handed from one process to another arrives.

  1. **Through the environment** (`LaunchSettings.Arrive`): settings can be put into a variable
     exactly when their state directory is text (`Path.IsText`), and whoever reads the variable then
     has them as they were.

  2. **Through a file** (`Rendezvous.Arrives`): what is published under a name is what a reader makes
     of the bytes under that name, however many registrations or calls there are and whatever
     characters the texts have.

  That the documents stand for their values has been proved field by field; here is what writer and
  reader make of it.
-/
import Interposition.Proofs.Json.Documents
import Interposition.Rendezvous.Directory

namespace Interposition

/-! ## Through the environment -/

/-- A path is text if its bytes are those of some text. -/
def Path.IsText (path : Path) : Prop := ∃ text, path = Path.ofText text

theorem Path.isText_iff {path : Path} : path.IsText ↔ ∃ text, path.toText? = some text := by
  constructor
  · rintro ⟨text, rfl⟩
    exact ⟨text, Utf8.toText?_ofText text⟩
  · rintro ⟨text, htext⟩
    exact ⟨text, congrArg Path.mk (Utf8.ofText_of_toText? htext).symm⟩

/-- A document with settings in it can be written exactly when the state directory is text. -/
theorem RuntimeConfig.exists_document_iff (config : RuntimeConfig) (around : Json → Json) :
    (∃ j, (do let runtime ← config.toJson?; return around runtime) = Except.ok j) ↔
      config.stateDir.IsText := by
  rw [Path.isText_iff]
  unfold toJson?
  cases config.stateDir.toText? with
  | none => exact iff_of_false nofun nofun
  | some dir => exact iff_of_true ⟨_, rfl⟩ ⟨dir, rfl⟩

namespace LaunchSettings

variable {α : Type} [LaunchSettings α] {settings : α} {dir : Path}

/-- Settings cannot be handed down exactly when a path is no text; otherwise they are handed down in
    the variable for settings of their kind, and its value is read as the settings. -/
structure Arrive (settings : α) (dir : Path) : Prop where
  refused_iff : (∃ cause, toEnvironment settings = .error cause) ↔ ¬dir.IsText
  received : dir.IsText → ∃ value,
    toEnvironment settings = .ok (setting α, value) ∧ ofValue α value = .ok settings

/-- Settings arrive if their document, which there is when the state directory is text, stands for
    them. -/
theorem arrive (hdocument : (∃ j, document settings = .ok j) ↔ dir.IsText)
    (hread : ∀ {j}, document settings = .ok j →
      j.StandsFor (decode (α := α)) (Reading.depthLimit - 1) settings) : Arrive settings dir := by
  cases hj : document settings with
  | error e =>
    have hdir : ¬dir.IsText := fun htext => by
      obtain ⟨j, hok⟩ := hdocument.mpr htext
      rw [hj] at hok
      contradiction
    exact ⟨iff_of_true ⟨_, by rw [toEnvironment, hj]⟩ hdir, fun htext => absurd htext hdir⟩
  | ok j =>
    have htext : dir.IsText := hdocument.mp ⟨j, hj⟩
    have hwritten : toEnvironment settings = .ok (setting α, j.compact) := by
      rw [toEnvironment, hj]
    refine ⟨iff_of_false ?_ (not_not_intro htext), fun _ => ⟨_, hwritten, ofValue_compact (hread hj)⟩⟩
    rintro ⟨cause, hrefused⟩
    rw [hwritten] at hrefused
    contradiction

end LaunchSettings

/-! ## Through a file -/

namespace Rendezvous

variable {α : Type} [Encode α] [Decode α]

/-- A writer publishes bytes under a name; a reader asks for the bytes under that name and nothing
    else, and of those that were published it makes the value. -/
def Arrives (path : Path) (writer : Program (Except GateError Unit))
    (reader : Program (Except GateError (Option α))) (a : α) : Prop :=
  ∃ bytes next, writer = publish path bytes ∧ reader = .ask (.readFile path) next ∧
    next (.ok bytes) = .pure (.ok (some a))

/-- A value arrives in the indented form of a document that stands for it. -/
theorem arrives {path : Path} {a : α}
    (h : (toJson a).StandsFor (decode (α := α)) (Reading.depthLimit - 1) a) :
    Arrives path (publish path (Utf8.ofText (toJson a).indented)) (readMarker α path) a := by
  refine ⟨_, _, rfl, rfl, ?_⟩
  simp only [Program.bind, decodeBytes_indented h]
  rfl

end Rendezvous

/-! ## Everything that is handed over -/

/-- **Documents survive**: the settings of cages and grates on their way through the environment, if
    and only if the state directory is text; markers and outcomes on their way through a file, always. -/
theorem handed_over_documents_survive :
    (∀ launch : CageLaunch, LaunchSettings.Arrive launch launch.runtime.stateDir) ∧
      (∀ launch : GrateLaunch, LaunchSettings.Arrive launch launch.runtime.stateDir) ∧
      (∀ (rendezvous : Rendezvous) (marker : ReadyMarker),
        Rendezvous.Arrives (rendezvous.readyPath marker.grate) (rendezvous.markReady marker)
          (rendezvous.readReady marker.grate) marker) ∧
      ∀ (rendezvous : Rendezvous) (outcome : CageOutcome),
        Rendezvous.Arrives (rendezvous.outcomePath outcome.cage) (rendezvous.writeOutcome outcome)
          (rendezvous.readOutcome outcome.cage) outcome := by
  refine ⟨fun launch => ?_, fun launch => ?_, fun rendezvous marker => ?_,
    fun rendezvous outcome => ?_⟩
  · exact LaunchSettings.arrive (launch.runtime.exists_document_iff _) (standsFor_cageLaunch _)
  · exact LaunchSettings.arrive (launch.runtime.exists_document_iff _) (standsFor_grateLaunch _)
  · exact Rendezvous.arrives (standsFor_readyMarker _ marker)
  · exact Rendezvous.arrives (standsFor_cageOutcome _ outcome)

end Interposition
