/-
  Conditions: what the arguments of a test come to.
-/
import Interposition.Simulation.Shell.Arithmetic
import Interposition.Simulation.Shell.State

namespace Interposition.Simulation.Shell.Condition

/-- A whole number with an optional sign. -/
def integer? (text : String) : Option Int :=
  let natural? (digits : List Char) : Option Int :=
    if digits.isEmpty then none else (Text.digitsValue? digits).map Int.ofNat
  match (text.trimAscii.toString).toList with
  | '-' :: digits => (natural? digits).map (- ·)
  | '+' :: digits => natural? digits
  | digits => natural? digits

/-- What a comparison of two texts comes to; nothing when it is none, or takes numbers and does not
    get them. -/
def compare? (operator a b : String) : Option Bool :=
  let numbers (relation : Int → Int → Bool) : Option Bool := do
    return relation (← integer? a) (← integer? b)
  match operator with
  | "=" | "==" => some (a = b)
  | "!=" => some (a ≠ b)
  | "<" => some (a < b)
  | ">" => some (b < a)
  | "-eq" => numbers fun a b => a = b
  | "-ne" => numbers fun a b => a ≠ b
  | "-lt" => numbers fun a b => a < b
  | "-le" => numbers fun a b => a ≤ b
  | "-gt" => numbers fun a b => b < a
  | "-ge" => numbers fun a b => b ≤ a
  | _ => none

/-- The operators of two texts. -/
def comparisons : List String :=
  ["=", "==", "!=", "<", ">", "-eq", "-ne", "-lt", "-le", "-gt", "-ge"]

/-- The operators of one text. -/
def inquiries : List String :=
  ["-n", "-z", "-e", "-f", "-d", "-r", "-w", "-x", "-s"]

/-- Whether an owner's permission bit of a file is set. -/
def permitted (path : Path) (bit : UInt32) : Action Bool := do
  match ← request (.permissions path) with
  | none => return false
  | some mode => return mode &&& bit != 0

/-- What an operator of one text comes to. -/
def inquire (operator text : String) : Action Bool := do
  let path := Path.ofText text
  match operator with
  | "-n" => return !text.isEmpty
  | "-z" => return text.isEmpty
  | "-e" => request (.pathExists path)
  | "-d" => request (.isDirectory path)
  | "-f" => return (← request (.pathExists path)) && !(← request (.isDirectory path))
  | "-r" => permitted path 0o400
  | "-w" => permitted path 0o200
  | "-x" => permitted path 0o100
  | "-s" =>
    match ← request (.readFile path) with
    | .ok bytes => return !bytes.isEmpty
    | .error _ => return false
  | _ => return false

mutual

/-- Conditions of which one must hold. -/
def anyOf : Nat → List String → Action (Option (Bool × List String))
  | 0, _ => return none
  | fuel + 1, words => do
    match ← allOf fuel words with
    | some (first, "-o" :: rest) =>
      match ← anyOf fuel rest with
      | some (second, rest) => return some (first || second, rest)
      | none => return none
    | found => return found

/-- Conditions which must all hold. -/
def allOf : Nat → List String → Action (Option (Bool × List String))
  | 0, _ => return none
  | fuel + 1, words => do
    match ← primary fuel words with
    | some (first, "-a" :: rest) =>
      match ← allOf fuel rest with
      | some (second, rest) => return some (first && second, rest)
      | none => return none
    | found => return found

/-- One condition. -/
def primary : Nat → List String → Action (Option (Bool × List String))
  | 0, _ => return none
  | fuel + 1, words => do
    match words with
    | [] => return none
    | [text] => return some (!text.isEmpty, [])
    | first :: second :: rest =>
      if comparisons.contains second && !rest.isEmpty then
        return (compare? second first (rest.head?.getD "")).map fun holds => (holds, rest.drop 1)
      else if first = "!" then
        match ← primary fuel (second :: rest) with
        | some (holds, rest) => return some (!holds, rest)
        | none => return none
      else if first = "(" then
        match ← anyOf fuel (second :: rest) with
        | some (holds, ")" :: rest) => return some (holds, rest)
        | _ => return none
      else if inquiries.contains first then return some (← inquire first second, rest)
      else return some (!first.isEmpty, second :: rest)

end

/-- The status of a test: zero if the condition holds, one if not, two if it is none. -/
def status (words : List String) : Action Int32 := do
  if words.isEmpty then return 1
  match ← anyOf (4 * (words.length + 1)) words with
  | some (true, []) => return 0
  | some (false, []) => return 1
  | _ => return 2

end Interposition.Simulation.Shell.Condition
