/-
  What a process is started with: an executable and its arguments, and the settings that a loader
  hands to the cages and grates it starts, as documents in their environment.
-/
import Interposition.Config
import Interposition.Id
import Interposition.Process.Error

namespace Interposition

/-! ## Images -/

/-- An executable and its arguments. -/
structure ImageSpec where
  program : Path
  args : List String
deriving DecidableEq, Inhabited

namespace ImageSpec

/-- The same image with one more argument in front. -/
def withLeadingArg (image : ImageSpec) (token : String) : ImageSpec :=
  { image with args := token :: image.args }

/-- The name of the image in records. -/
def name (image : ImageSpec) : String := image.program.display

/-- The document of an image, if its program is text. -/
def toJson? (image : ImageSpec) : Except Failure Json :=
  match image.program.toText? with
  | none => .error (.data "path contains invalid UTF-8 characters")
  | some program =>
    .ok (.object (("program", .text program) ::
      if image.args.isEmpty then [] else [("args", toJson image.args)]))

/-- The fields of an image. -/
def fields : Fields ImageSpec :=
  Fields.done ImageSpec.mk |>.required "program" |>.field "args" decode (.defaulted [])

instance : Decode ImageSpec := ⟨fields.decoder "ImageSpec"⟩

end ImageSpec

/-! ## Launch settings -/

/-- The first argument of a cage that must wait for its release. -/
def gatedToken : String := "wait"

/-- The variable that says how deep in a chain a grate stands; the first grate stands at one. -/
def chainDepthVariable : String := "LIND_CHAIN_DEPTH"

/-- A kind of settings handed to a child in one variable. -/
class LaunchSettings (α : Type) extends Decode α where
  /-- The variable that carries the settings. -/
  setting : String
  /-- The document of the settings, if it has one. -/
  document : α → Except Failure Json

namespace LaunchSettings

/-- The variable and its value that hand settings to a child. -/
def toEnvironment {α : Type} [LaunchSettings α] (settings : α) :
    Except ProcessError (String × String) :=
  match document settings with
  | .ok json => .ok (setting α, json.compact)
  | .error e => .error (.badLaunchConfig (setting α) e)

/-- The settings a variable's value holds. -/
def ofValue (α : Type) [LaunchSettings α] (value : String) : Except ProcessError α :=
  match decodeText α value with
  | .ok settings => .ok settings
  | .error e => .error (.badLaunchConfig (setting α) e)

/-- The settings in an environment, if it has any. -/
def ofEnvironment (α : Type) [LaunchSettings α] (lookup : String → Option String) :
    Except ProcessError (Option α) :=
  match lookup (setting α) with
  | none => .ok none
  | some value => (ofValue α value).map some

end LaunchSettings

/-- What a loader hands to a cage. -/
structure CageLaunch where
  gated : Bool
  runtime : RuntimeConfig
deriving DecidableEq

/-- The fields of a cage's settings. -/
def CageLaunch.fields : Fields CageLaunch :=
  Fields.done CageLaunch.mk |>.required "gated" |>.required "runtime"

instance : LaunchSettings CageLaunch where
  decode := CageLaunch.fields.decoder "CageLaunch"
  setting := "LIND_CAGE_LAUNCH"
  document launch := do
    let runtime ← launch.runtime.toJson?
    return .object [("gated", .bool launch.gated), ("runtime", runtime)]

/-- What a loader hands to a grate. -/
structure GrateLaunch where
  targetCage : CageId
  runtime : RuntimeConfig
deriving DecidableEq

/-- The fields of a grate's settings. -/
def GrateLaunch.fields : Fields GrateLaunch :=
  Fields.done GrateLaunch.mk |>.required "target_cage" |>.required "runtime"

instance : LaunchSettings GrateLaunch where
  decode := GrateLaunch.fields.decoder "GrateLaunch"
  setting := "LIND_GRATE_LAUNCH"
  document launch := do
    let runtime ← launch.runtime.toJson?
    return .object [("target_cage", toJson launch.targetCage), ("runtime", runtime)]

end Interposition
