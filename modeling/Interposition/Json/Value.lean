/-
  JSON documents as values, and their two written forms.

  A document written by this library holds integers only, so a number is an integer.  Members of
  an object keep the order they were written in.  The compact form has no white space at all; the
  indented form puts every element and member on a line of its own, two blanks deeper.
-/
import Interposition.Text.Number

namespace Interposition

/-- A JSON document. -/
inductive Json where
  | null
  | bool (b : Bool)
  | number (n : Int)
  | text (s : String)
  | array (elements : List Json)
  | object (members : List (String × Json))
deriving Inhabited

namespace Json

/-! ## Text -/

/-- One character of a text: quotes, backslashes and control characters are escaped, everything
    else stands for itself. -/
def escapedChar (c : Char) : List Char :=
  if c = '"' then ['\\', '"']
  else if c = '\\' then ['\\', '\\']
  else if c = Char.ofNat 8 then ['\\', 'b']
  else if c = Char.ofNat 12 then ['\\', 'f']
  else if c = '\n' then ['\\', 'n']
  else if c = '\r' then ['\\', 'r']
  else if c = '\t' then ['\\', 't']
  else if c.toNat < 32 then ['\\', 'u'] ++ Text.hexQuad c.toNat
  else [c]

/-- A text in quotes. -/
def textChars (s : String) : List Char :=
  '"' :: s.toList.flatMap escapedChar ++ ['"']

/-! ## The compact form -/

mutual

/-- A document without white space. -/
def chars : Json → List Char
  | null => ['n', 'u', 'l', 'l']
  | bool b => if b then ['t', 'r', 'u', 'e'] else ['f', 'a', 'l', 's', 'e']
  | number n => (toString n).toList
  | text s => textChars s
  | array elements => '[' :: elementChars elements ++ [']']
  | object members => '\x7b' :: memberListChars members ++ ['\x7d']
termination_by structural j => j

/-- Elements with commas between them. -/
def elementChars : List Json → List Char
  | [] => []
  | x :: xs => chars x ++ (if xs.isEmpty then [] else [',']) ++ elementChars xs
termination_by structural l => l

/-- Members with commas between them. -/
def memberListChars : List (String × Json) → List Char
  | [] => []
  | m :: ms => memberChars m ++ (if ms.isEmpty then [] else [',']) ++ memberListChars ms
termination_by structural l => l

/-- One member. -/
def memberChars : String × Json → List Char
  | (key, value) => textChars key ++ ':' :: chars value
termination_by structural m => m

end

/-- The compact written form. -/
def compact (j : Json) : String := String.ofList j.chars

/-! ## The indented form -/

/-- A line break and the blanks of a nesting depth. -/
def lineBreak (depth : Nat) : List Char := '\n' :: List.replicate (2 * depth) ' '

mutual

/-- A document with every element and member on its own line. -/
def linesAt (depth : Nat) : Json → List Char
  | null => ['n', 'u', 'l', 'l']
  | bool b => if b then ['t', 'r', 'u', 'e'] else ['f', 'a', 'l', 's', 'e']
  | number n => (toString n).toList
  | text s => textChars s
  | array elements =>
    if elements.isEmpty then ['[', ']']
    else '[' :: elementLines (depth + 1) elements ++ lineBreak depth ++ [']']
  | object members =>
    if members.isEmpty then ['\x7b', '\x7d']
    else '\x7b' :: memberListLines (depth + 1) members ++ lineBreak depth ++ ['\x7d']
termination_by structural j => j

/-- Elements, each after a line break. -/
def elementLines (depth : Nat) : List Json → List Char
  | [] => []
  | x :: xs =>
    lineBreak depth ++ linesAt depth x ++ (if xs.isEmpty then [] else [','])
      ++ elementLines depth xs
termination_by structural l => l

/-- Members, each after a line break. -/
def memberListLines (depth : Nat) : List (String × Json) → List Char
  | [] => []
  | m :: ms =>
    lineBreak depth ++ memberLines depth m ++ (if ms.isEmpty then [] else [','])
      ++ memberListLines depth ms
termination_by structural l => l

/-- One member. -/
def memberLines (depth : Nat) : String × Json → List Char
  | (key, value) => textChars key ++ [':', ' '] ++ linesAt depth value
termination_by structural m => m

end

/-- The indented written form. -/
def indented (j : Json) : String := String.ofList (j.linesAt 0)

/-! ## Lookup -/

/-- The first member with a key. -/
def member? (key : String) : Json → Option Json
  | object members => members.lookup key
  | _ => none

end Json

end Interposition
