/-
  What a command line may hold: flags, places for other words, and subcommands; and in which ways a
  command line can fail to be one.
-/
import Interposition.Text.Number

namespace Interposition.CommandLine

/-- Why a command line says nothing to do.  Asking for help or the version counts as a reason. -/
inductive UsageError where
  /-- Nothing was given where something must be, which shows the help. -/
  | helpInstead
  | help
  | version
  | invalidSubcommand
  | missingSubcommand
  | missingArgument
  | unknownArgument
  /-- A value is missing or empty. -/
  | invalidValue
  /-- A value is not of its kind. -/
  | valueValidation
  /-- A flag was given twice. -/
  | conflict
  /-- A value was given to a flag that takes none. -/
  | tooManyValues
deriving DecidableEq

namespace UsageError

/-- Whether the reason is a request that is answered, and no mistake. -/
def isRequest : UsageError → Bool
  | help => true
  | version => true
  | _ => false

/-- The exit status of a program that is given such a command line. -/
def exitCode (e : UsageError) : Int32 := if e.isRequest then 0 else 2

end UsageError

/-- What a value must be. -/
inductive ValueKind where
  | text
  /-- A text that is not empty. -/
  | path
  /-- A whole number of one word. -/
  | word
  /-- A whole number of half a word, read as a signed one. -/
  | halfWord
deriving DecidableEq

/-- The number a text is, of half a word and read as a signed one. -/
def halfWord? (value : String) : Option UInt32 :=
  (Text.signedUpTo? (UInt32.size - 1) value).map UInt32.ofNat

/-- The fault of a value, if it has one. -/
def ValueKind.fault? (kind : ValueKind) (value : String) : Option UsageError :=
  match kind with
  | text => none
  | path => if value.isEmpty then some .invalidValue else none
  | word => if (Text.word? value).isSome then none else some .valueValidation
  | halfWord => if (halfWord? value).isSome then none else some .valueValidation

/-- What a flag does. -/
inductive FlagKind where
  | help
  | version
  | switch
  | takes (kind : ValueKind)
deriving DecidableEq

/-- A flag, written with two dashes, or with one and a letter. -/
structure Flag where
  name : String
  letter : Option Char
  kind : FlagKind
deriving DecidableEq

/-- A place for words that are no flags. -/
structure Place where
  name : String
  kind : ValueKind
  /-- Whether the place takes more than one word. -/
  many : Bool
  required : Bool
  /-- Whether the place takes only what stands behind two dashes. -/
  trailing : Bool
deriving DecidableEq

/-- What one command takes. -/
structure Usage where
  flags : List Flag
  places : List Place
deriving DecidableEq

/-- The flag every command has. -/
def helpFlag : Flag := ⟨"help", some 'h', .help⟩

/-- The flag that shows the version. -/
def versionFlag : Flag := ⟨"version", some 'V', .version⟩

namespace Usage

/-- The flag of a name. -/
def flag? (usage : Usage) (name : String) : Option Flag :=
  usage.flags.find? fun flag => flag.name = name

/-- The flag of a letter. -/
def flagOfLetter? (usage : Usage) (letter : Char) : Option Flag :=
  usage.flags.find? fun flag => flag.letter = some letter

end Usage

/-- The values given to flags and places, by name. -/
abbrev Given := List (String × List String)

end Interposition.CommandLine
