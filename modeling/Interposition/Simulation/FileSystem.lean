/-
  The file system of the simulated machine.

  Files, directories and devices are nodes, and a directory gives names to nodes, so a file that is
  open stays what it is when its name goes to another one.  Names are resolved one part at a time
  from the root or from a working directory, and every operation fails with the error number a
  system of this kind gives.  There is one user, who owns everything, so of the permission bits only
  the owner's matter.
-/
import Interposition.IoError
import Interposition.Path

namespace Interposition.Simulation

/-- What a node of the file system is. -/
inductive Node where
  | file (bytes : List UInt8) (mode : UInt32)
  | directory (parent : Nat) (entries : List (List UInt8 × Nat)) (mode : UInt32)
  /-- Takes everything and gives nothing. -/
  | null
  /-- Has no space left. -/
  | full
  /-- An executable of the machine itself, by name. -/
  | binary (name : String)
deriving Inhabited

/-- A file as opened: its node, where the next write goes, or that it goes to the end. -/
structure OpenFile where
  node : Nat
  offset : Nat
  appending : Bool
deriving Inhabited

/-- The nodes by number; the root is number zero. -/
structure FileSystem where
  nodes : Array Node

namespace FileSystem

/-- Permission bits of the owner. -/
def mayRead : UInt32 := 0o400
def mayWrite : UInt32 := 0o200
def mayExecute : UInt32 := 0o100

/-- Longest name of one part of a path. -/
def longestName : Nat := 255

/-- A file system with an empty root. -/
def empty : FileSystem := ⟨#[.directory 0 [] 0o777]⟩

/-- The node with a number. -/
def node (fs : FileSystem) (number : Nat) : Node := (fs.nodes[number]?).getD .null

/-- The file system with a node changed. -/
def setNode (fs : FileSystem) (number : Nat) (node : Node) : FileSystem :=
  ⟨fs.nodes.setIfInBounds number node⟩

/-- Whether an owner's permission bit is set. -/
def allows (mode bit : UInt32) : Bool := mode &&& bit != 0

/-! ## Names -/

/-- The node a name leads to from a node. -/
def lookup (fs : FileSystem) (number : Nat) (name : List UInt8) : Except Errno Nat :=
  match fs.node number with
  | .directory parent entries mode =>
    if !allows mode mayExecute then .error .eacces
    else if name = [Path.dot] then .ok number
    else if name = [Path.dot, Path.dot] then .ok parent
    else if name.length > longestName then .error .enametoolong
    else
      match entries.lookup name with
      | some found => .ok found
      | none => .error .enoent
  | _ => .error .enotdir

/-- The parts of a path that are names. -/
def names (path : Path) : List (List UInt8) := path.parts.filter fun part => !part.isEmpty

/-- Where the resolution of a path starts. -/
def start (cwd : Nat) (path : Path) : Nat := if path.isAbsolute then 0 else cwd

/-- Follows names from a node. -/
def walk (fs : FileSystem) (number : Nat) : List (List UInt8) → Except Errno Nat
  | [] => .ok number
  | name :: rest => do walk fs (← fs.lookup number name) rest

/-- Whether a node is a directory. -/
def isDirectoryNode (fs : FileSystem) (number : Nat) : Bool :=
  match fs.node number with
  | .directory _ _ _ => true
  | _ => false

/-- Whether a path ends with a separator, so that it can only name a directory. -/
def endsInSeparator (path : Path) : Bool := path.bytes.getLast? = some Path.separator

/-- The node a path names. -/
def resolve (fs : FileSystem) (cwd : Nat) (path : Path) : Except Errno Nat :=
  if path.bytes.isEmpty then .error .enoent
  else do
    let number ← fs.walk (start cwd path) (names path)
    if endsInSeparator path && !fs.isDirectoryNode number then .error .enotdir
    else return number

/-- The directory the last name of a path lies in, and that name; no name for the root. -/
def resolveLast (fs : FileSystem) (cwd : Nat) (path : Path) :
    Except Errno (Nat × Option (List UInt8)) :=
  if path.bytes.isEmpty then .error .enoent
  else do
    let all := names path
    let directory ← fs.walk (start cwd path) all.dropLast
    if !fs.isDirectoryNode directory then .error .enotdir
    else return (directory, all.getLast?)

/-- A path as the system takes it: one with a zero byte is none. -/
def guarded {α : Type} (path : Path) (result : Except Errno α) : Except IoError α :=
  if path.hasNul then .error .nulInPath
  else
    match result with
    | .ok a => .ok a
    | .error errno => .error (.os errno)

/-! ## Directories -/

/-- Gives a name in a directory to a node; nothing happens elsewhere. -/
def link (fs : FileSystem) (directory : Nat) (name : List UInt8) (number : Nat) : FileSystem :=
  match fs.node directory with
  | .directory parent entries mode =>
    fs.setNode directory
      (.directory parent ((entries.filter fun entry => entry.1 ≠ name) ++ [(name, number)]) mode)
  | _ => fs

/-- Takes a name out of a directory. -/
def unlink (fs : FileSystem) (directory : Nat) (name : List UInt8) : FileSystem :=
  match fs.node directory with
  | .directory parent entries mode =>
    fs.setNode directory (.directory parent (entries.filter fun entry => entry.1 ≠ name) mode)
  | _ => fs

/-- Adds a node under a name of a directory. -/
def add (fs : FileSystem) (directory : Nat) (name : List UInt8) (node : Node) :
    Nat × FileSystem :=
  let number := fs.nodes.size
  (number, link ⟨fs.nodes.push node⟩ directory name number)

/-- Whether names may be given and taken in a directory. -/
def mayChange (fs : FileSystem) (directory : Nat) : Except Errno Unit :=
  match fs.node directory with
  | .directory _ _ mode =>
    if allows mode mayWrite && allows mode mayExecute then .ok () else .error .eacces
  | _ => .error .enotdir

/-- Makes one directory. -/
def makeDirectory (fs : FileSystem) (cwd : Nat) (path : Path) (mode : UInt32) :
    Except Errno FileSystem := do
  let (directory, name) ← fs.resolveLast cwd path
  match name with
  | none => .error .eexist
  | some name =>
    match fs.lookup directory name with
    | .ok _ => .error .eexist
    | .error errno =>
      if errno ≠ .enoent then .error errno
      else
        fs.mayChange directory
        return (fs.add directory name (.directory directory [] mode)).2

/-- The names in a directory, in the order they were given. -/
def list (fs : FileSystem) (cwd : Nat) (path : Path) : Except Errno (List Path) := do
  match fs.node (← fs.resolve cwd path) with
  | .directory _ entries mode =>
    if allows mode mayRead then return entries.map fun entry => ⟨entry.1⟩ else .error .eacces
  | _ => .error .enotdir

/-- Takes the name of a file away. -/
def remove (fs : FileSystem) (cwd : Nat) (path : Path) : Except Errno FileSystem := do
  let (directory, name) ← fs.resolveLast cwd path
  match name with
  | none => .error .eisdir
  | some name =>
    let number ← fs.lookup directory name
    if fs.isDirectoryNode number then .error .eisdir
    else if endsInSeparator path then .error .enotdir
    else
      fs.mayChange directory
      return fs.unlink directory name

/-- Gives a node a new name in place of an old one. -/
def rename (fs : FileSystem) (cwd : Nat) (source target : Path) : Except Errno FileSystem := do
  let (fromDirectory, fromName) ← fs.resolveLast cwd source
  let (toDirectory, toName) ← fs.resolveLast cwd target
  match fromName, toName with
  | some fromName, some toName =>
    let number ← fs.lookup fromDirectory fromName
    let isDirectory := fs.isDirectoryNode number
    if endsInSeparator source && !isDirectory then .error .enotdir
    else
      fs.mayChange fromDirectory
      fs.mayChange toDirectory
      let moved := (fs.unlink fromDirectory fromName).link toDirectory toName number
      match fs.lookup toDirectory toName with
      | .ok other =>
        if other = number then return fs
        else
          match fs.node other with
          | .directory _ entries _ =>
            if !isDirectory then .error .eisdir
            else if !entries.isEmpty then .error .enotempty
            else return moved
          | _ => if isDirectory then .error .enotdir else return moved
      | .error errno =>
        if errno ≠ .enoent then .error errno
        else if endsInSeparator target && !isDirectory then .error .enotdir
        else return moved
  | _, _ => .error .ebusy

/-! ## Files -/

/-- Opens a file for writing, new with the given permissions if need be, emptied if `afresh`. -/
def openToWrite (fs : FileSystem) (cwd : Nat) (path : Path) (mode : UInt32) (afresh : Bool) :
    Except Errno (Nat × FileSystem) := do
  let (directory, name) ← fs.resolveLast cwd path
  match name with
  | none => .error .eisdir
  | some name =>
    match fs.lookup directory name with
    | .ok number =>
      match fs.node number with
      | .directory _ _ _ => .error .eisdir
      | .file _ held =>
        if endsInSeparator path then .error .enotdir
        else if !allows held mayWrite then .error .eacces
        else if afresh then return (number, fs.setNode number (.file [] held))
        else return (number, fs)
      | .binary _ => .error .eacces
      | _ => return (number, fs)
    | .error errno =>
      if errno ≠ .enoent then .error errno
      else if endsInSeparator path then .error .eisdir
      else
        fs.mayChange directory
        return fs.add directory name (.file [] mode)

/-- The bytes of a file. -/
def read (fs : FileSystem) (cwd : Nat) (path : Path) : Except Errno (List UInt8) := do
  let number ← fs.resolve cwd path
  match fs.node number with
  | .file bytes mode => if allows mode mayRead then return bytes else .error .eacces
  | .directory _ _ mode => .error (if allows mode mayRead then .eisdir else .eacces)
  | .null => return []
  | .full => return []
  | .binary _ => return []

/-- The permission bits of what a path names. -/
def permissions? (fs : FileSystem) (cwd : Nat) (path : Path) : Option UInt32 :=
  match fs.resolve cwd path with
  | .error _ => none
  | .ok number =>
    match fs.node number with
    | .file _ mode => some mode
    | .directory _ _ mode => some mode
    | .binary _ => some 0o755
    | _ => some 0o666

/-- Bytes put over others from an offset on; a gap is filled with zeros. -/
def overwrite (old : List UInt8) (offset : Nat) (bytes : List UInt8) : List UInt8 :=
  old.take offset ++ List.replicate (offset - old.length) 0 ++ bytes
    ++ old.drop (offset + bytes.length)

/-- Writes to an open file.  The answer is how many bytes were written and where the next write
    goes. -/
def write (fs : FileSystem) (file : OpenFile) (bytes : List UInt8) :
    Except Errno (Nat × Nat × FileSystem) :=
  match fs.node file.node with
  | .file old mode =>
    let offset := if file.appending then old.length else file.offset
    .ok (bytes.length, offset + bytes.length,
      fs.setNode file.node (.file (overwrite old offset bytes) mode))
  | .null => .ok (bytes.length, file.offset, fs)
  | .full => .error .enospc
  | _ => .error .ebadf

/-! ## Executables -/

/-- An executable that can be run: the machine's own, and the arguments it gets, its name first. -/
structure Executable where
  binary : String
  args : List String

/-- How many interpreters may call for one another. -/
def interpreterLimit : Nat := 4

/-- The interpreter and its one argument that the first line of a script names. -/
def interpreter? (bytes : List UInt8) : Option (List UInt8 × Option (List UInt8)) :=
  let isSpace (byte : UInt8) : Bool := byte = 0x20 || byte = 0x09
  match bytes with
  | 0x23 :: 0x21 :: rest =>
    let line := (rest.takeWhile (· ≠ 0x0A)).dropWhile isSpace
    let name := line.takeWhile fun byte => !isSpace byte
    let more := (line.drop name.length).dropWhile isSpace
    let argument := (more.reverse.dropWhile isSpace).reverse
    if name.isEmpty then none else some (name, if argument.isEmpty then none else some argument)
  | _ => none

/-- What running a file comes to, called by a name and with arguments.  A script is run by its
    interpreter, which gets the script's own path before the arguments. -/
def executable (fs : FileSystem) (cwd : Nat) :
    Nat → String → Path → List String → Except Errno Executable
  | 0, _, _, _ => .error .eloop
  | fuel + 1, called, path, args => do
    let number ← fs.resolve cwd path
    match fs.node number with
    | .binary name => return ⟨name, called :: args⟩
    | .file bytes mode =>
      if !allows mode mayExecute then .error .eacces
      else
        match interpreter? bytes with
        | none => .error .enoexec
        | some (name, argument) =>
          let own := match argument with
            | none => []
            | some argument => [Utf8.toTextLossy argument]
          fs.executable cwd fuel (Utf8.toTextLossy name) ⟨name⟩ (own ++ path.display :: args)
    | _ => .error .eacces

/-- Runs through the directories in which programs are looked for. -/
def searchIn (fs : FileSystem) (cwd : Nat) (name : Path) (args : List String) (denied : Bool) :
    List Path → Except Errno Executable
  | [] => .error (if denied then .eacces else .enoent)
  | directory :: rest =>
    match fs.executable cwd interpreterLimit name.display (directory.join name) args with
    | .ok found => .ok found
    | .error errno =>
      if errno = .eacces then fs.searchIn cwd name args true rest
      else if errno = .enoent ∨ errno = .enotdir then fs.searchIn cwd name args denied rest
      else .error errno

/-- What running a program with arguments comes to; a name without separators is looked for in the
    given directories. -/
def findExecutable (fs : FileSystem) (cwd : Nat) (directories : List Path) (program : Path)
    (args : List String) : Except Errno Executable :=
  if program.bytes.isEmpty then .error .enoent
  else if program.bytes.contains Path.separator then
    fs.executable cwd interpreterLimit program.display program args
  else fs.searchIn cwd program args false directories

end FileSystem

end Interposition.Simulation
