/-
  Paths of the file system: byte sequences that usually, but not always, are text.
-/
import Interposition.Text.Utf8

namespace Interposition

/-- A path, any bytes. -/
structure Path where
  bytes : List UInt8
deriving DecidableEq, Inhabited

namespace Path

/-- The byte that separates the parts of a path. -/
def separator : UInt8 := 0x2F

/-- The path spelled by a text. -/
def ofText (text : String) : Path := ⟨Utf8.ofText text⟩

/-- The path as text, if it is text. -/
def toText? (path : Path) : Option String := Utf8.toText? path.bytes

/-- The path as shown to people, with U+FFFD for what is not text. -/
def display (path : Path) : String := Utf8.toTextLossy path.bytes

instance : ToString Path := ⟨display⟩

/-- Whether a path starts at the root. -/
def isAbsolute (path : Path) : Bool := path.bytes.head? = some separator

/-- A path below another; an absolute one stands for itself. -/
def join (base child : Path) : Path :=
  if child.isAbsolute || base.bytes.isEmpty then child
  else if base.bytes.getLast? = some separator then ⟨base.bytes ++ child.bytes⟩
  else ⟨base.bytes ++ separator :: child.bytes⟩

/-- A path below another, spelled by a text. -/
def child (base : Path) (name : String) : Path := base.join (ofText name)

/-! ## Parts -/

/-- The bytes between separators, empty ones included. -/
def parts (path : Path) : List (List UInt8) :=
  path.bytes.foldr (fun byte parts =>
    if byte = separator then [] :: parts
    else
      match parts with
      | part :: rest => (byte :: part) :: rest
      | [] => [[byte]]) [[]]

/-- The byte of the name that stands for the directory itself. -/
def dot : UInt8 := 0x2E

/-- The bytes without the separators, and the names of the directory itself, at their end. -/
def trimmedEnd (reversed : List UInt8) : List UInt8 :=
  match reversed with
  | byte :: rest =>
    if byte = separator then trimmedEnd rest
    else
      match rest with
      | next :: _ => if byte = dot ∧ next = separator then trimmedEnd rest else reversed
      | [] => reversed
  | [] => []

/-- The directory a path lies in: the path without its last part.  The root and the empty path lie
    in none. -/
def parent? (path : Path) : Option Path :=
  match trimmedEnd path.bytes.reverse with
  | [] => none
  | reversed =>
    let above := reversed.dropWhile (· ≠ separator)
    match trimmedEnd above with
    | [] => some ⟨if above.isEmpty then [] else [separator]⟩
    | kept => some ⟨kept.reverse⟩

/-- A path and the directories above it, nearest first, as far as they have a name.  Every step
    drops at least one byte, so `fuel` may be the number of bytes. -/
def lineageFrom (fuel : Nat) (path : Path) : List Path :=
  if path.bytes.isEmpty then []
  else
    match fuel with
    | 0 => [path]
    | fuel + 1 =>
      match path.parent? with
      | some above => path :: lineageFrom fuel above
      | none => [path]

/-- A path and the directories above it, nearest first. -/
def lineage (path : Path) : List Path := path.lineageFrom path.bytes.length

/-- Whether a path holds a zero byte, which no name of the system may. -/
def hasNul (path : Path) : Bool := path.bytes.contains 0

end Path

end Interposition
