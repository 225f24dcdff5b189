/-
  Files as texts: what programs do with whole files and whole directories.
-/
import Interposition.Host.Program

namespace Interposition.Program

/-! ## Files -/

/-- The bytes of a file, if it can be read. -/
def bytesOf? (path : Path) : Program (Option (List UInt8)) := do
  match ← request (.readFile path) with
  | .ok bytes => return some bytes
  | .error _ => return none

/-- The text of a file, if it can be read. -/
def textOf? (path : Path) : Program (Option String) := do
  return (← bytesOf? path).map Utf8.toTextLossy

/-- Puts a text in a file of its own. -/
def writeText (path : Path) (text : String) : Program (Except IoError Unit) :=
  writeFile path (Utf8.ofText text)

/-- Puts bytes behind those of a file. -/
def appendFile (path : Path) (bytes : List UInt8) : Program (Except IoError Unit) := do
  fill (← request (.openAppending path)) bytes

/-- Puts a text in a file of given permissions, and makes the directory it lies in. -/
def placeText (path : Path) (mode : UInt32) (text : String) : Program (Except IoError Unit) := do
  match ← (path.parent?.map makeTree).getD (pure (.ok ())) with
  | .error e => return .error e
  | .ok () => fill (← request (.openWriting path mode)) (Utf8.ofText text)

/-! ## Directories -/

/-- Every file below a directory, down to a depth. -/
def filesBelow : Nat → Path → Program (List Path)
  | 0, _ => pure []
  | depth + 1, directory => do
    match ← request (.listDirectory directory) with
    | .error _ => return []
    | .ok names =>
      let found ← names.mapM fun name => do
        let path := directory.join name
        if ← request (.isDirectory path) then filesBelow depth path else return [path]
      return found.flatten

end Interposition.Program
