/-
  How the simulated machine answers requests.

  A request is granted once what it waits for is there; most wait for nothing.  One that is not
  granted in time is answered all the same, with the answer that says so.
-/
import Interposition.Simulation.Image

namespace Interposition.Simulation.Machine

/-! ## When a request is answered -/

/-- Whether a process may wait for a child to end, because it has not ended yet. -/
def awaitsChild (m : Machine) (p : Process) (pid : Pid) : Bool :=
  match m.process? pid with
  | some child => child.parent = p.pid && child.ended.isNone
  | none => false

/-- Whether what a request waits for is there. -/
def grants (m : Machine) (p : Process) : Request → Bool
  | .sleep _ => false
  | .wait pid true => !m.awaitsChild p pid
  | .awaitSignal signal _ => p.kept.contains signal
  | .receiveLine number _ =>
    let queue := m.channel number
    !queue.lines.isEmpty || queue.closed
  | _ => true

/-- When a request made at a moment is answered even if it is not granted. -/
def expiry? (moment : Nat) : Request → Option Nat
  | .sleep nanoseconds => some (moment + nanoseconds)
  | .awaitSignal _ nanoseconds => nanoseconds.map (moment + ·)
  | .receiveLine _ nanoseconds => some (moment + nanoseconds)
  | _ => none

/-! ## The answers -/

/-- A result that leaves the machine as it is. -/
def unchanged {α : Type} (m : Machine) (result : α) : α × Machine := (result, m)

/-- The outcome of changing the file system. -/
def changeFiles (m : Machine) (path : Path) (result : Except Errno FileSystem) :
    Except IoError Unit × Machine :=
  match FileSystem.guarded path result with
  | .ok fs => (.ok (), { m with fs })
  | .error e => (.error e, m)

/-- A handle for a file that has been opened. -/
def handleFor (m : Machine) (node : Nat) (appending : Bool) : FileHandle × Machine :=
  (⟨m.nextHandle⟩,
    { m with
      files := (m.nextHandle, ⟨node, 0, appending⟩) :: m.files
      nextHandle := m.nextHandle + 1 })

/-- Opens a file for writing. -/
def openFile (m : Machine) (p : Process) (path : Path) (mode : UInt32)
    (afresh appending : Bool) : Except IoError FileHandle × Machine :=
  match FileSystem.guarded path (m.fs.openToWrite p.cwd path mode afresh) with
  | .error e => (.error e, m)
  | .ok (node, fs) =>
    let (handle, m) := { m with fs }.handleFor node appending
    (.ok handle, m)

/-- Writes bytes to an open file. -/
def writeFile (m : Machine) (file : FileHandle) (bytes : List UInt8) :
    Except IoError Nat × Machine :=
  match m.files.lookup file.number with
  | none => (.error (.os .ebadf), m)
  | some opened =>
    match m.fs.write opened bytes with
    | .error errno => (.error (.os errno), m)
    | .ok (count, offset, fs) =>
      let moved := m.files.map fun entry =>
        if entry.1 = file.number then (entry.1, { entry.2 with offset }) else entry
      (.ok count, { m with fs, files := moved })

/-- Sends a signal to a process.  The first process is not ours to signal. -/
def kill (m : Machine) (pid : Pid) (signal : Signal) : Except Errno Unit × Machine :=
  if pid = firstPid then (.error .eperm, m)
  else if (m.process? pid).isNone then (.error .esrch, m)
  else (.ok (), m.update pid fun p => p.send signal)

/-- Collects the status of a child. -/
def collect (m : Machine) (p : Process) (pid : Pid) : Except Errno WaitStatus × Machine :=
  match m.process? pid with
  | none => (.error .echild, m)
  | some child =>
    if child.parent ≠ p.pid then (.error .echild, m)
    else
      match child.ended with
      | some status => (.ok status, m.forget pid)
      | none => (.ok .alive, m)

/-- Takes a line from a channel. -/
def takeLine (m : Machine) (number : Nat) : LineAnswer × Machine :=
  let queue := m.channel number
  match queue.lines with
  | line :: lines =>
    (.line line, { m with
      channels := (number, { queue with lines }) :: m.channels.filter fun c => c.1 ≠ number })
  | [] => (if queue.closed then .closed else .timedOut, m)

/-- The answer to a request of a process. -/
def answer (m : Machine) (p : Process) : (request : Request) → request.Answer × Machine
  | .now => (m.now, m)
  | .sleep _ => ((), m)
  | .identity =>
    (({ user := m.user, effectiveUser := m.effectiveUser, process := p.pid } : Identity), m)
  | .environment => (p.vars, m)
  | .freshName => (s!"{m.nextName}", { m with nextName := m.nextName + 1 })
  | .choose _ => ((0 : Nat), m)
  | .readFile path => m.unchanged (FileSystem.guarded path (m.fs.read p.cwd path))
  | .createFile path => m.openFile p path 0o666 true false
  | .openAppending path => m.openFile p path 0o666 false true
  | .openWriting path mode => m.openFile p path mode false false
  | .write file bytes => m.writeFile file bytes
  | .close file => ((), { m with files := m.files.filter fun f => f.1 ≠ file.number })
  | .rename source target =>
    if target.hasNul then (.error .nulInPath, m)
    else m.changeFiles source (m.fs.rename p.cwd source target)
  | .remove path => m.changeFiles path (m.fs.remove p.cwd path)
  | .pathExists path => m.unchanged (!path.hasNul && (m.fs.resolve p.cwd path).isOk)
  | .isDirectory path =>
    m.unchanged (match m.fs.resolve p.cwd path with
      | .ok node => !path.hasNul && m.fs.isDirectoryNode node
      | .error _ => false)
  | .permissions path =>
    m.unchanged (if path.hasNul then none else m.fs.permissions? p.cwd path)
  | .makeDirectory path => m.changeFiles path (m.fs.makeDirectory p.cwd path 0o777)
  | .listDirectory path => m.unchanged (FileSystem.guarded path (m.fs.list p.cwd path))
  | .changeDirectory path =>
    match FileSystem.guarded path (m.fs.resolve p.cwd path) with
    | .error e => (.error e, m)
    | .ok node =>
      if m.fs.isDirectoryNode node then
        (.ok (), m.update p.pid fun p => { p with cwd := node })
      else (.error (.os .enotdir), m)
  | .kill pid signal => m.kill pid signal
  | .wait pid _ => m.collect p pid
  | .becomeImage launch =>
    (match m.replacement p launch with
      | .error e => e
      | .ok _ => .os .enoexec, m)
  | .dispose signal disposition =>
    ((), m.update p.pid fun p => p.dispose signal disposition)
  | .takeSignal =>
    match p.kept with
    | [] => (none, m)
    | signal :: rest => (some signal, m.update p.pid fun p => { p with kept := rest })
  | .awaitSignal signal _ =>
    (p.kept.contains signal,
      m.update p.pid fun p => { p with kept := p.kept.filter (· ≠ signal) })
  | .receiveLine number _ => m.takeLine number
  | .print text => ((), m.update p.pid fun p => { p with shown := p.shown ++ [text] })

end Interposition.Simulation.Machine
