/-
  Reading command lines word by word.

  Values are collected before they are judged: a flag or a place keeps the words it has been given
  until something else begins or the command line ends, and only then are they looked at.  A word that
  cannot be anything is reported at once, so it is reported before an earlier value that would turn
  out to be bad.
-/
import Interposition.CommandLine.Usage

namespace Interposition.CommandLine

/-- What words are being collected for. -/
inductive Slot where
  | flag (name : String) (kind : ValueKind)
  | place (place : Place)
deriving DecidableEq

namespace Slot

/-- The name values are given under. -/
def name : Slot → String
  | flag name _ => name
  | place p => p.name

/-- What the values must be. -/
def kind : Slot → ValueKind
  | flag _ kind => kind
  | place p => p.kind

/-- Whether words given apart from one another add up. -/
def isMany : Slot → Bool
  | flag _ _ => false
  | place p => p.many

end Slot

/-- How far a command line has been read. -/
structure Progress where
  given : Given
  /-- Words that have been collected and not been judged. -/
  pending : Option (Slot × List String)
  /-- Whether the next word is the value of a flag. -/
  expectsValue : Bool
  /-- Whether the last word went to a place that takes more. -/
  inPlace : Bool
  /-- How many places are full. -/
  filled : Nat
  /-- Whether two dashes have been passed. -/
  trailing : Bool
deriving DecidableEq

namespace Progress

/-- Nothing has been read. -/
def start : Progress := ⟨[], none, false, false, 0, false⟩

/-- Gives values to a slot. -/
def give (p : Progress) (slot : Slot) (values : List String) : Except UsageError Progress := do
  if values.isEmpty then throw .invalidValue
  let earlier := p.given.lookup slot.name
  if earlier.isSome && !slot.isMany then throw .conflict
  match values.findSome? slot.kind.fault? with
  | some fault => throw fault
  | none =>
    let others := p.given.filter fun entry => entry.1 ≠ slot.name
    return { p with given := others ++ [(slot.name, earlier.getD [] ++ values)] }

/-- Judges the words collected so far. -/
def settle (p : Progress) : Except UsageError Progress :=
  match p.pending with
  | none => .ok p
  | some (slot, values) => { p with pending := none }.give slot values

/-- Does what a flag without a value does. -/
def act (p : Progress) (flag : Flag) : Except UsageError Progress := do
  let p ← p.settle
  match flag.kind with
  | .help => throw .help
  | .version => throw .version
  | _ =>
    if (p.given.lookup flag.name).isSome then throw .conflict
    else return { p with
      given := p.given ++ [(flag.name, [])], expectsValue := false, inPlace := false }

/-- Reads a flag written with two dashes, its value behind an equality sign if there is one. -/
def long (p : Progress) (usage : Usage) (name : String) (value : Option String) :
    Except UsageError Progress := do
  match usage.flag? name with
  | none => throw .unknownArgument
  | some flag =>
    match flag.kind, value with
    | .takes kind, some value =>
      let p ← (← p.settle).give (.flag name kind) [value]
      return { p with expectsValue := false, inPlace := false }
    | .takes kind, none =>
      let p ← p.settle
      return { p with pending := some (.flag name kind, []), expectsValue := true, inPlace := false }
    | _, some _ => throw .tooManyValues
    | _, none => p.act flag

/-- Reads flags written as letters behind one dash. -/
def letters (p : Progress) (usage : Usage) : List Char → Except UsageError Progress
  | [] => .ok p
  | letter :: rest =>
    match usage.flagOfLetter? letter with
    | none => .error .unknownArgument
    | some flag => do letters (← p.act flag) usage rest

/-- The place the next word goes to. -/
def nextPlace? (p : Progress) (usage : Usage) : Option (Nat × Place) :=
  let index := if p.trailing && usage.places.any Place.trailing then usage.places.length - 1
    else p.filled
  usage.places[index]?.map fun place => (index, place)

/-- Reads a word that is no flag; nothing when there is no place for it. -/
def word (p : Progress) (usage : Usage) (text : String) :
    Option (Except UsageError Progress) := do
  let (index, place) ← p.nextPlace? usage
  if place.trailing && !p.trailing then return .error .unknownArgument
  return do
    let slot := Slot.place place
    let goesOn := match p.pending with
      | some (other, _) => other = slot && place.many
      | none => false
    let p ← if goesOn then pure p else p.settle
    let collected := match p.pending with
      | some (_, values) => values
      | none => []
    return { p with
      pending := some (slot, collected ++ [text]), expectsValue := false
      inPlace := place.many, filled := if place.many then index else index + 1 }

end Progress

/-! ## Words -/

/-- A word as it is written. -/
inductive WordForm where
  | dashes
  | long (name : String) (value : Option String)
  | letters (letters : List Char)
  | plain

/-- The form of a word. -/
def formOf (text : String) : WordForm :=
  match text.toList with
  | ['-', '-'] => .dashes
  | '-' :: '-' :: rest =>
    let name := String.ofList (rest.takeWhile (· ≠ '='))
    match rest.dropWhile (· ≠ '=') with
    | [] => .long name none
    | _ :: value => .long name (some (String.ofList value))
  | '-' :: letter :: rest => .letters (letter :: rest)
  | _ => .plain

/-- Where reading a command ends: at its end, or at the name of a subcommand. -/
inductive Stop where
  | atEnd
  | subcommand (name : String) (rest : List String)

/-- The subcommand that shows the help of others. -/
def helpCommand : String := "help"

/-- Asks for the help of a subcommand, or of the command itself. -/
def askHelp (subcommands : List String) : List String → UsageError
  | [] => .help
  | [name] =>
    if subcommands.contains name || name = helpCommand then .help else .invalidSubcommand
  | _ => .invalidSubcommand

/-- Reads a command up to its end or a subcommand. -/
def scan (usage : Usage) (subcommands : List String) (p : Progress) :
    List String → Except UsageError (Progress × Stop)
  | [] => .ok (p, .atEnd)
  | text :: rest =>
    let asWord : Except UsageError (Progress × Stop) :=
      if p.expectsValue && !p.trailing then
        let pending := p.pending.map fun (slot, values) => (slot, values ++ [text])
        scan usage subcommands { p with pending, expectsValue := false } rest
      else
        match p.word usage text with
        | some result => do scan usage subcommands (← result) rest
        | none =>
          if subcommands.isEmpty then .error .unknownArgument
          else if p.trailing && (subcommands.contains text || text = helpCommand) then
            .error .unknownArgument
          else .error .invalidSubcommand
    if p.trailing then asWord
    else if !p.expectsValue && !p.inPlace && subcommands.contains text then
      .ok (p, .subcommand text rest)
    else if !p.expectsValue && !p.inPlace && !subcommands.isEmpty && text = helpCommand then
      .error (askHelp subcommands rest)
    else
      match formOf text with
      | .dashes => scan usage subcommands { p with trailing := true } rest
      | .long name value => do scan usage subcommands (← p.long usage name value) rest
      | .letters letters => do scan usage subcommands (← p.letters usage letters) rest
      | .plain => asWord

/-! ## Commands -/

/-- Whether every place that must be filled is. -/
def isComplete (usage : Usage) (given : Given) : Bool :=
  usage.places.all fun place => !place.required || (given.lookup place.name).isSome

/-- What is given to a command without subcommands. -/
def readPlain (usage : Usage) (words : List String) : Except UsageError Given := do
  let (p, _) ← scan usage [] .start words
  let p ← p.settle
  if isComplete usage p.given then return p.given else throw .missingArgument

/-- What is given to a command whose work is done by subcommands: the subcommand, what it is given,
    and what is given to the command itself. -/
def readNested (usage : Usage) (subcommands : List (String × Usage)) (words : List String) :
    Except UsageError (String × Given × Given) := do
  let (p, stop) ← scan usage (subcommands.map Prod.fst) .start words
  match stop with
  | .atEnd =>
    let p ← p.settle
    if p.given.isEmpty then throw .helpInstead else throw .missingSubcommand
  | .subcommand name rest =>
    let inner ← readPlain ((subcommands.lookup name).getD ⟨[], []⟩) rest
    let p ← p.settle
    return (name, inner, p.given)

end Interposition.CommandLine
