/-
  Utilities: the small programs that scripts are made of.

  A utility reads files or its input, writes its output, and comes to a status.
-/
import Interposition.Simulation.Shell.Condition
import Interposition.Simulation.Shell.Format
import Interposition.Simulation.Shell.Pattern

namespace Interposition.Simulation.Shell

/-- A utility: what it does with its arguments. -/
abbrev Utility := List String → Action Int32

namespace Utility

/-! ## Arguments -/

/-- The letters of the options in front of other arguments, and those. -/
def splitOptions : List String → List Char × List String
  | [] => ([], [])
  | argument :: rest =>
    if argument = "--" then ([], rest)
    else if argument.startsWith "-" && argument ≠ "-" then
      let (letters, rest) := splitOptions rest
      (argument.toList.drop 1 ++ letters, rest)
    else ([], argument :: rest)

/-- The lines of a text; a last one need not be ended. -/
def linesOf (text : String) : List String :=
  let parts := text.splitOn "\n"
  if parts.getLast? = some "" then parts.dropLast else parts

/-- The text of lines. -/
def unlines (lines : List String) : String := String.join (lines.map (· ++ "\n"))

/-- All that is left of the input. -/
def takeInput : Action String := do
  let shell ← get
  set { shell with input := "" }
  return shell.input

/-- The texts of files, or the input if none is named; and whether all could be read. -/
def readAll (names : List String) : Action (String × Bool) := do
  if names.isEmpty then return (← takeInput, true)
  let texts ← names.mapM fun name => do
    if name = "-" then return some (← takeInput)
    match ← request (.readFile (.ofText name)) with
    | .ok bytes => return some (Utf8.toTextLossy bytes)
    | .error _ => return none
  return (String.join (texts.filterMap id), texts.all Option.isSome)

/-- The status of something that was to succeed. -/
def statusOf (ok : Bool) : Int32 := if ok then 0 else 1

/-- Does something for every argument; the status is zero if all of it succeeds. -/
def forAll (names : List String) (act : String → Action Bool) : Action Int32 := do
  let results ← names.mapM act
  return statusOf (results.all id)

/-- Whether a request was granted. -/
def succeeded {ε α : Type} : Except ε α → Bool
  | .ok _ => true
  | .error _ => false

/-! ## Names -/

/-- The last part of a path, without an ending if it has one. -/
def baseName (path ending : String) : String :=
  let trimmed := (path.toList.reverse.dropWhile (· = '/')).reverse
  if trimmed.isEmpty then (if path.isEmpty then "" else "/")
  else
    let name := String.ofList (trimmed.reverse.takeWhile (· ≠ '/')).reverse
    if name.endsWith ending && name ≠ ending then (name.dropEnd ending.length).toString else name

/-- A path without its last part. -/
def directoryName (path : String) : String :=
  let trimmed := path.toList.reverse.dropWhile (· = '/')
  if trimmed.isEmpty then (if path.isEmpty then "." else "/")
  else
    let above := (trimmed.dropWhile (· ≠ '/')).dropWhile (· = '/')
    if trimmed.contains '/' then
      if above.isEmpty then "/" else String.ofList above.reverse
    else "."

/-! ## Files -/

/-- A name for a file put at a path, which may be a directory to put it in. -/
def placeAt (source target : String) : Action String := do
  if ← request (.isDirectory (.ofText target)) then return target ++ "/" ++ baseName source ""
  else return target

/-- The sources and the target of a move or a copy. -/
def splitTarget (names : List String) : List String × String :=
  (names.dropLast, names.getLast?.getD "")

/-- Gives files other names. -/
def move : Utility := fun arguments => do
  let (sources, target) := splitTarget (splitOptions arguments).2
  forAll sources fun source => do
    let place ← placeAt source target
    return succeeded (← request (.rename (.ofText source) (.ofText place)))

/-- Copies files. -/
def copy : Utility := fun arguments => do
  let (sources, target) := splitTarget (splitOptions arguments).2
  forAll sources fun source => do
    let place ← placeAt source target
    match ← request (.readFile (.ofText source)) with
    | .error _ => return false
    | .ok bytes => return succeeded (← performing (Program.writeFile (.ofText place) bytes))

/-- Removes files; with the option to force, none need be there. -/
def remove : Utility := fun arguments => do
  let (options, names) := splitOptions arguments
  forAll names fun name => do
    return succeeded (← request (.remove (.ofText name))) || options.contains 'f'

/-- Makes files that are not there. -/
def touch : Utility := fun arguments =>
  forAll (splitOptions arguments).2 fun name => do
    match ← request (.openAppending (.ofText name)) with
    | .error _ => return false
    | .ok handle =>
      request (.close handle)
      return true

/-- Makes directories; with the option for parents, those above them too. -/
def makeDirectory : Utility := fun arguments => do
  let (options, names) := splitOptions arguments
  forAll names fun name => do
    if options.contains 'p' then
      return succeeded (← performing (Program.makeTree (.ofText name)))
    else return succeeded (← request (.makeDirectory (.ofText name)))

/-- Writes the texts of files one after the other. -/
def concatenate : Utility := fun arguments => do
  let (text, ok) ← readAll (splitOptions arguments).2
  emit text
  return statusOf ok

/-! ## Lines -/

/-- Writes the lines in which something is found. -/
def search : Utility := fun arguments => do
  let (options, rest) := splitOptions arguments
  match rest with
  | [] => return 2
  | pattern :: names =>
    let fold (text : String) : String := if options.contains 'i' then text.toLower else text
    let search := if options.contains 'F' then Search.exactly (fold pattern)
      else Search.ofText (fold pattern)
    let (text, ok) ← readAll names
    let found := (linesOf text).filter fun line =>
      search.finds (fold line) != options.contains 'v'
    if options.contains 'c' then emit s!"{found.length}\n"
    else if !options.contains 'q' then emit (unlines found)
    return if found.isEmpty then (if ok then 1 else 2) else 0

/-- Whether a text comes before another: by code points, or by the numbers at their starts. -/
def comesBefore (numeric : Bool) (a b : String) : Bool :=
  let number (text : String) : Int :=
    let chars := text.toList.dropWhile Char.isWhitespace
    let digits (chars : List Char) : Int :=
      ((Text.digitsValue? (chars.takeWhile Char.isDigit)).getD 0 : Nat)
    match chars with
    | '-' :: rest => -(digits rest)
    | _ => digits chars
  if numeric && number a ≠ number b then number a < number b else a ≤ b

/-- Lines without those equal to the one before. -/
def dropRepeated : List String → List String
  | [] => []
  | [line] => [line]
  | first :: second :: rest =>
    if first = second then dropRepeated (second :: rest) else first :: dropRepeated (second :: rest)

/-- Writes lines in order. -/
def sort : Utility := fun arguments => do
  let (options, names) := splitOptions arguments
  let (text, ok) ← readAll names
  let sorted := (linesOf text).mergeSort (comesBefore (options.contains 'n'))
  let sorted := if options.contains 'u' then dropRepeated sorted else sorted
  emit (unlines (if options.contains 'r' then sorted.reverse else sorted))
  return statusOf ok

/-! ## Time and the environment -/

/-- The nanoseconds that a decimal number of seconds spells. -/
def nanosecondsOf? (text : String) : Option Nat :=
  let chars := text.toList
  let whole := chars.takeWhile Char.isDigit
  let rest := chars.drop whole.length
  let fraction := match rest with
    | '.' :: digits => some digits
    | [] => some []
    | _ => none
  match fraction with
  | none => none
  | some digits =>
    if whole.isEmpty && digits.isEmpty then none
    else do
      let seconds ← Text.digitsValue? whole
      let nine := (digits ++ List.replicate 9 '0').take 9
      let _ ← Text.digitsValue? digits
      return seconds * 1000000000 + (← Text.digitsValue? nine)

/-- Waits. -/
def sleep : Utility := fun arguments => do
  match arguments.mapM nanosecondsOf? with
  | some times =>
    if times.isEmpty then return 1
    request (.sleep (times.foldl (· + ·) 0))
    return 0
  | none => return 1

/-- Writes the variables handed to other programs. -/
def showEnvironment : Utility := fun _ => do
  emit (unlines ((← get).environment.map fun entry => entry.1 ++ "=" ++ entry.2))
  return 0

/-! ## All of them -/

/-- The utilities by name. -/
def all : List (String × Utility) :=
  [ ("true", fun _ => return 0),
    ("false", fun _ => return 1),
    ("echo", fun arguments => do
      emit (Format.echo arguments)
      return 0),
    ("printf", fun arguments => do
      match arguments with
      | [] => return 2
      | format :: rest =>
        emit (Format.fillIn format rest)
        return 0),
    ("test", Condition.status),
    ("[", fun arguments =>
      if arguments.getLast? = some "]" then Condition.status arguments.dropLast else return 2),
    ("basename", fun arguments => do
      emit (baseName (arguments.head?.getD "") ((arguments[1]?).getD "") ++ "\n")
      return 0),
    ("dirname", fun arguments => do
      emit (directoryName (arguments.head?.getD "") ++ "\n")
      return 0),
    ("mv", move), ("cp", copy), ("rm", remove), ("touch", touch), ("mkdir", makeDirectory),
    ("cat", concatenate), ("grep", search), ("sort", sort), ("sleep", sleep),
    ("env", showEnvironment) ]

/-- A utility as a program of its own. -/
def program (utility : Utility) (arguments : List String) : Program Int32 := do
  let self ← Program.request .identity
  let environment ← Program.request .environment
  let (status, _) ← utility (arguments.drop 1) (.fresh self.process "" [] environment)
  return status

end Utility

end Interposition.Simulation.Shell
