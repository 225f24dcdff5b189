/-
  Handlers: what a grate does with an intercepted call.

  A handler is a pure function of the caller and the arguments.  Most answer a result word at once;
  a handler that opens a file answers which file to open and how, and whoever runs the call opens
  it and turns the descriptor or the error number into the result word.
-/
import Interposition.Argument
import Interposition.Errno

namespace Interposition

/-- What a call comes to: a result word, or a file to create (if need be) and open for writing,
    whose descriptor is the result. -/
inductive Reply where
  | value (result : Int64)
  | openFile (path : Path) (mode : UInt32)
deriving DecidableEq

/-- A handler: its name and what it does for a caller and its arguments. -/
structure Handler where
  name : String
  run : CageId → ArgumentVector → Reply

namespace Handler

/-- A handler as shown in diagnostics: its name, and that there is more to it. -/
def described (handler : Handler) : String :=
  "HandlerEntry \x7b name: " ++ Text.quoted handler.name ++ ", .. \x7d"

/-! ## Handlers every grate may use -/

/-- Always answers the same word; the usual stand-in for the calls that ask who the caller is. -/
def identity (name : String) (answer : Int64) : Handler := ⟨name, fun _ _ => .value answer⟩

/-- Permission bits of a file created without any asked for. -/
def defaultFileMode : UInt32 := 0o644

/-- Creates or opens a fixed file for writing.  A nonzero first argument holds the permission bits
    of a new file, and is honoured only if it belongs to the caller. -/
def openFixed (name : String) (path : Path) : Handler where
  name := name
  run caller args :=
    if args.value 0 = 0 then .openFile path defaultFileMode
    else
      match args.ownedValue 0 caller with
      | .ok bits => .openFile path (bits.toUInt32 &&& 0o777)
      | .error _ => .value Errno.eperm.status

/-- The sum of the first two arguments. -/
def add (name : String) : Handler :=
  ⟨name, fun _ args => .value ((args.value 0).toInt64 + (args.value 1).toInt64)⟩

end Handler

end Interposition
