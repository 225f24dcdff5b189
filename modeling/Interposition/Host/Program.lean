/-
  Programs: what processes ask of the operating system, and in what order.

  A program is a tree of requests.  Each request has a type of answers, and the rest of the program
  is a function of the answer, so everything an operating system may do is in the answers and
  nothing else.  Loops are part of the tree, with their state made explicit, so a program that polls
  for as long as it takes is still a value of a finite shape.  Starting a process is part of it too:
  what runs in the child before it becomes another image is itself a program.

  What answers a program gets is left open here.  One operating system that answers them is the
  simulated one; theorems may quantify over all of them.
-/
import Interposition.IoError
import Interposition.Handler
import Interposition.Native
import Interposition.Process.Record

namespace Interposition

/-! ## Requests -/

/-- An open file, as a process refers to it. -/
structure FileHandle where
  number : Nat
deriving DecidableEq, Inhabited

/-- What a process does about a signal. -/
inductive Disposition where
  | default
  | ignore
  /-- Keep the signal until the process asks for it. -/
  | keep
deriving DecidableEq

/-- What waiting for a line of input came to. -/
inductive LineAnswer where
  | line (text : String)
  | timedOut
  | closed
deriving DecidableEq

/-- What a process is to become: an executable, its arguments, and the variables it gets beside
    those it has from its parent. -/
structure Launch where
  program : Path
  args : List String
  vars : List (String × String)
deriving DecidableEq, Inhabited

/-- What a process may ask of the operating system. -/
inductive Request where
  /-- Nanoseconds since some fixed moment, never less than an earlier answer. -/
  | now
  /-- Wait for at least so many nanoseconds. -/
  | sleep (nanoseconds : Nat)
  /-- Who the process is. -/
  | identity
  /-- The process's environment. -/
  | environment
  /-- A name nobody has used yet. -/
  | freshName
  /-- One of so many ways to go on that do not depend on the program. -/
  | choose (ways : Nat)
  /-- The bytes of a file. -/
  | readFile (path : Path)
  /-- An empty file to write, in place of any file of that name. -/
  | createFile (path : Path)
  /-- A file to append to, new if need be. -/
  | openAppending (path : Path)
  /-- A file to write from its start, new with the given permissions if need be. -/
  | openWriting (path : Path) (mode : UInt32)
  /-- Write bytes; the answer is how many were written. -/
  | write (file : FileHandle) (bytes : List UInt8)
  /-- Be done with a file. -/
  | close (file : FileHandle)
  /-- Give a file a new name, in place of any file of that name. -/
  | rename (source target : Path)
  /-- Remove a file. -/
  | remove (path : Path)
  /-- Whether there is something under a name. -/
  | pathExists (path : Path)
  /-- Whether there is a directory under a name. -/
  | isDirectory (path : Path)
  /-- The permission bits of a file, if there is one. -/
  | permissions (path : Path)
  /-- Make one directory. -/
  | makeDirectory (path : Path)
  /-- The names in a directory, in some order. -/
  | listDirectory (path : Path)
  /-- Let names be relative to another directory. -/
  | changeDirectory (path : Path)
  /-- Send a signal to a process. -/
  | kill (pid : Pid) (signal : Signal)
  /-- Collect the status of a child, waiting for it to end if asked to. -/
  | wait (pid : Pid) (block : Bool)
  /-- Become another image; there is an answer only if that fails. -/
  | becomeImage (launch : Launch)
  /-- Decide what to do about a signal. -/
  | dispose (signal : Signal) (disposition : Disposition)
  /-- The next signal that was kept, if there is one. -/
  | takeSignal
  /-- Wait until one signal has been kept, for so many nanoseconds at most if bounded. -/
  | awaitSignal (signal : Signal) (nanoseconds : Option Nat)
  /-- Wait for a line on a channel, for so many nanoseconds at most. -/
  | receiveLine (channel : Nat) (nanoseconds : Nat)
  /-- Show a text to whoever started the process. -/
  | print (text : String)
deriving DecidableEq

/-- The type of answers to a request. -/
abbrev Request.Answer : Request → Type
  | now => Nat
  | sleep _ => Unit
  | identity => Identity
  | environment => List (String × String)
  | freshName => String
  | choose _ => Nat
  | readFile _ => Except IoError (List UInt8)
  | createFile _ => Except IoError FileHandle
  | openAppending _ => Except IoError FileHandle
  | openWriting _ _ => Except IoError FileHandle
  | write _ _ => Except IoError Nat
  | close _ => Unit
  | rename _ _ => Except IoError Unit
  | remove _ => Except IoError Unit
  | pathExists _ => Bool
  | isDirectory _ => Bool
  | permissions _ => Option UInt32
  | makeDirectory _ => Except IoError Unit
  | listDirectory _ => Except IoError (List Path)
  | changeDirectory _ => Except IoError Unit
  | kill _ _ => Except Errno Unit
  | wait _ _ => Except Errno WaitStatus
  | becomeImage _ => IoError
  | dispose _ _ => Unit
  | takeSignal => Option Signal
  | awaitSignal _ _ => Bool
  | receiveLine _ _ => LineAnswer
  | print _ => Unit

/-! ## Programs -/

/-- A program that comes to a value of a type. -/
inductive Program : Type → Type 1 where
  | pure {α : Type} (a : α) : Program α
  /-- Ask, and go on with the answer. -/
  | ask {α : Type} (request : Request) (next : request.Answer → Program α) : Program α
  /-- Repeat `body` on a state until it comes to a result. -/
  | loop {σ β α : Type} (state : σ) (body : σ → Program (σ ⊕ β)) (next : β → Program α) :
      Program α
  /-- Start a child: it runs `setup` and, unless that fails, becomes the launched image.  The answer
      comes once it has become the image or has failed to. -/
  | spawn {α : Type} (launch : Launch) (hooked : Bool) (setup : Program (Option Errno))
      (next : Except IoError Pid → Program α) : Program α

namespace Program

/-- One program after another. -/
def bind {α β : Type} : Program α → (α → Program β) → Program β
  | pure a, f => f a
  | ask request next, f => ask request fun answer => (next answer).bind f
  | loop state body next, f => loop state body fun result => (next result).bind f
  | spawn launch hooked setup next, f =>
    spawn launch hooked setup fun answer => (next answer).bind f

instance : Monad Program where
  pure := pure
  bind := bind

instance {α : Type} [Inhabited α] : Inhabited (Program α) := ⟨pure default⟩

/-- One request. -/
def request (r : Request) : Program r.Answer := ask r pure

/-- Repeats a program on a state until it comes to a result. -/
def iterate {σ β : Type} (state : σ) (body : σ → Program (σ ⊕ β)) : Program β :=
  loop state body pure

/-- Starts a child that becomes an image at once. -/
def start (launch : Launch) : Program (Except IoError Pid) :=
  spawn launch false (pure none) pure

/-- Starts a child that runs a program of its own before it becomes an image. -/
def startWith (launch : Launch) (setup : Program (Option Errno)) :
    Program (Except IoError Pid) :=
  spawn launch true setup pure

/-- Starts a child and waits for it to end; nothing if it cannot be started. -/
def complete (launch : Launch) : Program (Option WaitStatus) := do
  match ← start launch with
  | .error _ => return none
  | .ok pid => return (← request (.wait pid true)).toOption

/-- Repeats a check, with so many nanoseconds in between, until it says `wanted` or has been made
    often enough; what it said last. -/
def poll {σ : Type} (wanted : Bool) (times nanoseconds : Nat) (check : StateT σ Program Bool) :
    StateT σ Program Bool := fun state =>
  iterate (times, state) fun (left, state) => do
    let (said, state) ← check state
    if said == wanted || left = 0 then return .inr (said, state)
    else
      request (.sleep nanoseconds)
      return .inl (left - 1, state)

/-! ## Compound operations on files -/

/-- Writes all bytes to a file, in as many writes as it takes. -/
def writeAll (file : FileHandle) (bytes : List UInt8) : Program (Except IoError Unit) :=
  iterate bytes fun rest => do
    if rest.isEmpty then return .inr (.ok ())
    match ← request (.write file rest) with
    | .ok 0 => return .inr (.error .writeZero)
    | .ok n => return .inl (rest.drop n)
    | .error e => return if e.errno? = some .eintr then .inl rest else .inr (.error e)

/-- Puts bytes into what opening a file has come to, and closes it again. -/
def fill (opened : Except IoError FileHandle) (bytes : List UInt8) :
    Program (Except IoError Unit) := do
  match opened with
  | .error e => return .error e
  | .ok file =>
    let result ← writeAll file bytes
    request (.close file)
    return result

/-- Puts bytes in a file of their own. -/
def writeFile (path : Path) (bytes : List UInt8) : Program (Except IoError Unit) := do
  fill (← request (.createFile path)) bytes

/-- Makes the first of a list of directories, each the parent of the one before, and the others
    first where they are missing. -/
def makeDirectories : List Path → Program (Except IoError Unit)
  | [] => pure (.ok ())
  | path :: parents => do
    match ← request (.makeDirectory path) with
    | .ok () => return .ok ()
    | .error e =>
      if e.isNotFound then
        match ← makeDirectories parents with
        | .error e => return .error e
        | .ok () =>
          match ← request (.makeDirectory path) with
          | .ok () => return .ok ()
          | .error e =>
            if ← request (.isDirectory path) then return .ok () else return .error e
      else if ← request (.isDirectory path) then return .ok ()
      else return .error e

/-- Makes a directory and every directory above it. -/
def makeTree (path : Path) : Program (Except IoError Unit) :=
  makeDirectories path.lineage

/-- The file or directory a reply asks to open becomes its descriptor, and a failure its negated
    error number. -/
def perform : Reply → Program Int64
  | .value result => pure result
  | .openFile path mode => do
    match ← request (.openWriting path mode) with
    | .ok file => return Int64.ofNat file.number
    | .error e => return (e.errno?.getD .eio).status

end Program

end Interposition
