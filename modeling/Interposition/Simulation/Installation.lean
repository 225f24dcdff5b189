/-
  A freshly installed machine: the usual directories and devices, and its executables.
-/
import Interposition.Simulation.Schedule

namespace Interposition.Simulation

namespace FileSystem

/-- A directory below another that the user may not change. -/
def closedDirectory (parent : Nat) : Node := .directory parent [] 0o555

/-- Puts what `make` gives for its directory under names below a directory, and the directories it
    lies in. -/
def installBelow (fs : FileSystem) (directory : Nat) (make : Nat → Node) :
    List (List UInt8) → FileSystem
  | [] => fs
  | [name] => (fs.add directory name (make directory)).2
  | name :: rest =>
    match fs.lookup directory name with
    | .ok next => fs.installBelow next make rest
    | .error _ =>
      let (next, fs) := fs.add directory name (closedDirectory directory)
      fs.installBelow next make rest

/-- Puts a node at a path, and the directories it lies in. -/
def install (fs : FileSystem) (path : String) (make : Nat → Node) : FileSystem :=
  fs.installBelow 0 make (names (.ofText path))

/-- Directories, devices and files of a machine without executables; one directory is open to its
    user. -/
def base : FileSystem :=
  let root : FileSystem := ⟨#[closedDirectory 0]⟩
  let directories := ["/bin", "/usr/bin", "/proc", "/sys"]
  (directories.foldl (fun fs path => fs.install path closedDirectory) root)
    |>.install "/tmp" (fun parent => .directory parent [] 0o777)
    |>.install "/dev/null" (fun _ => .null)
    |>.install "/dev/full" (fun _ => .full)
    |>.install "/etc/passwd" fun _ => .file (Utf8.ofText "root:x:0:0::/root:/bin/sh\n") 0o444

end FileSystem

/-- An executable of a machine: where it lies, and what it does with its arguments, its name
    first. -/
structure Installed where
  path : String
  run : List String → Program Int32

namespace Machine

/-- The variables every process of a freshly started machine gets. -/
def standardVariables : List (String × String) := [("PATH", "/usr/local/bin:/usr/bin:/bin")]

/-- The number the first of our processes gets. -/
def startingPid : Nat := 1000

/-- A machine with executables on which nothing runs yet. -/
def installed (executables : List Installed) : Machine where
  fs := executables.foldl (fun fs e => fs.install e.path fun _ => .binary e.path) FileSystem.base
  files := []
  processes := []
  now := 0
  nextPid := startingPid
  nextHandle := 3
  nextName := 1
  channels := []
  binaries name args := (executables.find? fun e => e.path = name).map fun e => e.run args
  user := 1000
  effectiveUser := 1000

end Machine

end Interposition.Simulation
