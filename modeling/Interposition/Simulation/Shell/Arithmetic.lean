/-
  The value of arithmetic expressions over whole numbers of 64 bits.
-/
import Interposition.Text.Number

namespace Interposition.Simulation.Shell.Arithmetic

/-- A token of an expression. -/
inductive Symbol where
  | number (value : Int64)
  | operator (text : String)
deriving DecidableEq

/-- The operators of two operands, in levels from the loosest to the tightest. -/
def levels : List (List String) :=
  [["||"], ["&&"], ["|"], ["^"], ["&"], ["==", "!="], ["<=", ">=", "<", ">"], ["<<", ">>"],
    ["+", "-"], ["*", "/", "%"]]

/-- Every operator, longer ones first. -/
def operators : List String :=
  ["||", "&&", "==", "!=", "<=", ">=", "<<", ">>", "|", "^", "&", "<", ">", "+", "-", "*", "/", "%",
    "(", ")", "!", "~"]

/-- The value of a number as a script spells it: decimal, octal after a zero, hexadecimal after
    `0x`. -/
def literal? (digits : List Char) : Option Int64 :=
  let inBase (base : Nat) (digits : List Char) : Option Nat :=
    if digits.isEmpty then none
    else digits.foldlM (fun value c =>
      (Text.hexValue? c).bind fun d => if d < base then some (value * base + d) else none) 0
  (match digits with
    | '0' :: 'x' :: hex => inBase 16 hex
    | '0' :: octal => if octal.isEmpty then some 0 else inBase 8 octal
    | _ => inBase 10 digits).map Int64.ofNat

/-- The value of a variable; one that is not a number counts as zero. -/
def valueOf (lookup : String → Option String) (name : String) : Int64 :=
  match ((lookup name).getD "").toList with
  | '-' :: digits => -((literal? digits).getD 0)
  | digits => (literal? digits).getD 0

/-- The symbols of an expression. -/
def symbols (lookup : String → Option String) : Nat → List Char → Option (List Symbol)
  | 0, _ => none
  | _ + 1, [] => some []
  | fuel + 1, c :: rest => do
    let inWord (c : Char) : Bool := c.isAlphanum || c = '_'
    let word := (c :: rest).takeWhile inWord
    if c.isWhitespace then symbols lookup fuel rest
    else if c.isDigit then
      return .number (← literal? word) :: (← symbols lookup fuel (rest.drop (word.length - 1)))
    else if inWord c then
      let value := valueOf lookup (String.ofList word)
      return .number value :: (← symbols lookup fuel (rest.drop (word.length - 1)))
    else
      let text := String.ofList ((c :: rest).take 2)
      let operator ← operators.find? fun operator => operator.isPrefixOf text
      return .operator operator :: (← symbols lookup fuel ((c :: rest).drop operator.length))

/-- The truth of a condition as a number. -/
def truth (condition : Bool) : Int64 := if condition then 1 else 0

/-- What an operator of two operands comes to; nothing when it divides by zero. -/
def apply (operator : String) (a b : Int64) : Option Int64 :=
  match operator with
  | "||" => some (truth (a ≠ 0 || b ≠ 0))
  | "&&" => some (truth (a ≠ 0 && b ≠ 0))
  | "|" => some (a ||| b)
  | "^" => some (a ^^^ b)
  | "&" => some (a &&& b)
  | "==" => some (truth (a = b))
  | "!=" => some (truth (a ≠ b))
  | "<=" => some (truth (a ≤ b))
  | ">=" => some (truth (a ≥ b))
  | "<" => some (truth (a < b))
  | ">" => some (truth (a > b))
  | "<<" => some (a <<< b)
  | ">>" => some (a >>> b)
  | "+" => some (a + b)
  | "-" => some (a - b)
  | "*" => some (a * b)
  | "/" => if b = 0 then none else some (a / b)
  | "%" => if b = 0 then none else some (a % b)
  | _ => none

mutual

/-- An expression of the given levels. -/
def expression : Nat → List (List String) → List Symbol → Option (Int64 × List Symbol)
  | 0, _, _ => none
  | fuel + 1, [], input => operand fuel input
  | fuel + 1, level :: tighter, input => do
    let (first, rest) ← expression fuel tighter input
    operands fuel level tighter first rest

/-- The operands behind the first, which an operator of a level joins to it. -/
def operands : Nat → List String → List (List String) → Int64 → List Symbol →
    Option (Int64 × List Symbol)
  | 0, _, _, _, _ => none
  | fuel + 1, level, tighter, first, input => do
    match input with
    | .operator operator :: rest =>
      if level.contains operator then
        let (second, rest) ← expression fuel tighter rest
        operands fuel level tighter (← apply operator first second) rest
      else return (first, input)
    | _ => return (first, input)

/-- A number, an expression in parentheses, or an operator of one operand. -/
def operand : Nat → List Symbol → Option (Int64 × List Symbol)
  | 0, _ => none
  | fuel + 1, input => do
    match input with
    | .number value :: rest => return (value, rest)
    | .operator "(" :: rest =>
      let (value, rest) ← expression fuel levels rest
      match rest with
      | .operator ")" :: rest => return (value, rest)
      | _ => none
    | .operator operator :: rest =>
      let (value, rest) ← operand fuel rest
      match operator with
      | "-" => return (-value, rest)
      | "+" => return (value, rest)
      | "!" => return (truth (value = 0), rest)
      | "~" => return (~~~value, rest)
      | _ => none
    | [] => none

end

/-- The value of an expression over variables, if it is one; an empty one is zero. -/
def value? (lookup : String → Option String) (source : String) : Option Int64 := do
  let found ← symbols lookup (source.length + 1) source.toList
  if found.isEmpty then return 0
  let (value, rest) ← expression ((levels.length + 2) * (found.length + 1)) levels found
  if rest.isEmpty then some value else none

end Interposition.Simulation.Shell.Arithmetic
