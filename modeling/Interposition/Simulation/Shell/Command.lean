/-
  Scripts as commands.
-/
import Interposition.Simulation.Shell.Token

namespace Interposition.Simulation.Shell

/-! ## Commands -/

/-- Where a redirection leads. -/
inductive RedirectKind where
  | input
  | output
  | append
  /-- To where another descriptor leads. -/
  | duplicate
deriving DecidableEq

/-- A redirection of a descriptor. -/
structure Redirect where
  descriptor : Nat
  kind : RedirectKind
  target : Word
deriving DecidableEq

mutual

/-- A command. -/
inductive Command where
  | simple (assignments : List (String × Word)) (words : List Word)
  | redirected (body : Command) (redirects : List Redirect)
  /-- The output of the first command is the input of the second. -/
  | pipe (first second : Command)
  | negated (body : Command)
  | andThen (first second : Command)
  | orElse (first second : Command)
  | sequence (first second : Command)
  | branch (condition yes no : Command)
  /-- Runs while the condition comes to `whilst`. -/
  | repeated (whilst : Bool) (condition body : Command)
  | each (name : String) (words : Option (List Word)) (body : Command)
  | choice (subject : Word) (arms : Arms)
  | nothing

/-- What to do for a word, by the patterns it matches. -/
inductive Arms where
  | none
  | arm (patterns : List Word) (body : Command) (rest : Arms)

end

instance : Inhabited Command := ⟨.nothing⟩

/-! ## Reading commands -/

/-- Words that mean something where a command begins. -/
def reservedWords : List String :=
  ["if", "then", "elif", "else", "fi", "while", "until", "for", "in", "do", "done", "case", "esac",
    "!", "\x7b", "\x7d"]

/-- The reserved word a token is. -/
def reserved? : Token → Option String
  | .word word => word.plain?.filter reservedWords.contains
  | _ => none

/-- Whether the next token is a reserved word. -/
def nextIs (text : String) (tokens : List Token) : Bool :=
  (tokens.head?.bind reserved?) = some text

/-- Goes past a reserved word. -/
def expect (text : String) (tokens : List Token) : Option (List Token) :=
  if nextIs text tokens then some (tokens.drop 1) else none

/-- The tokens after any ends of lines. -/
def skipLines (tokens : List Token) : List Token := tokens.dropWhile (· = .newline)

/-- The tokens after one separator and any ends of lines. -/
def skipSeparator (tokens : List Token) : List Token :=
  match tokens with
  | .operator ";" :: rest => skipLines rest
  | _ => skipLines tokens

/-- A redirection whose operator and word are the next tokens. -/
def redirect? (descriptor : Option Nat) : List Token → Option (Redirect × List Token)
  | .operator operator :: .word target :: rest =>
    match operator with
    | "<" => some (⟨descriptor.getD 0, .input, target⟩, rest)
    | ">" => some (⟨descriptor.getD 1, .output, target⟩, rest)
    | ">>" => some (⟨descriptor.getD 1, .append, target⟩, rest)
    | ">&" => some (⟨descriptor.getD 1, .duplicate, target⟩, rest)
    | _ => none
  | _ => none

/-- A redirection, with or without a descriptor in front. -/
def nextRedirect? : List Token → Option (Redirect × List Token)
  | .descriptor number :: rest => redirect? (some number) rest
  | tokens => redirect? none tokens

/-- The redirections that come next. -/
def redirects : Nat → List Token → List Redirect × List Token
  | 0, tokens => ([], tokens)
  | fuel + 1, tokens =>
    match nextRedirect? tokens with
    | none => ([], tokens)
    | some (redirect, rest) =>
      let (more, rest) := redirects fuel rest
      (redirect :: more, rest)

/-- A name and the word assigned to it, if a word is an assignment. -/
def assignment? (word : Word) : Option (String × Word) :=
  match word with
  | ⟨.text content, false⟩ :: rest =>
    let chars := content.toList
    match splitName true chars with
    | some (name, '=' :: value) =>
      if (chars.head?.map startsName).getD false then
        some (name, joined (⟨.text (String.ofList value), false⟩ :: rest))
      else none
    | _ => none
  | _ => none

/-- The parts of a simple command: assignments, words and redirections. -/
def simpleParts : Nat → List Token →
    List (String × Word) × List Word × List Redirect × List Token
  | 0, tokens => ([], [], [], tokens)
  | fuel + 1, tokens =>
    match nextRedirect? tokens with
    | some (redirect, rest) =>
      let (assignments, words, redirects, rest) := simpleParts fuel rest
      (assignments, words, redirect :: redirects, rest)
    | none =>
      match tokens with
      | .word word :: rest =>
        let (assignments, words, redirects, rest) := simpleParts fuel rest
        (assignments, word :: words, redirects, rest)
      | _ => ([], [], [], tokens)

/-- A command with its redirections, if it has any. -/
def withRedirects (body : Command) (redirects : List Redirect) : Command :=
  if redirects.isEmpty then body else .redirected body redirects

/-- A simple command; its leading words may be assignments. -/
def simpleCommand (tokens : List Token) : Option (Command × List Token) :=
  let (_, words, redirects, rest) := simpleParts tokens.length.succ tokens
  let leading := words.map assignment? |>.takeWhile Option.isSome |>.filterMap id
  if words.isEmpty && redirects.isEmpty then none
  else some (withRedirects (.simple leading (words.drop leading.length)) redirects, rest)

/-- The words up to the end of a line or a separator. -/
def wordList : List Token → List Word × List Token
  | .word word :: rest =>
    let (words, rest) := wordList rest
    (word :: words, rest)
  | rest => ([], rest)

/-- The patterns of an arm, up to the parenthesis behind them. -/
def patterns : List Token → Option (List Word × List Token)
  | .word word :: .operator "|" :: rest => (patterns rest).map fun (words, rest) =>
    (word :: words, rest)
  | .word word :: .operator ")" :: rest => some ([word], rest)
  | _ => none

mutual

/-- Commands up to a reserved word that begins none, or the end. -/
def commandList : Nat → List Token → Option (Command × List Token)
  | 0, _ => none
  | fuel + 1, tokens => do
    let tokens := skipLines tokens
    let isOver := match tokens with
      | [] => true
      | .operator ";;" :: _ => true
      | token :: _ =>
        ["then", "elif", "else", "fi", "do", "done", "esac", "\x7d"].contains
          ((reserved? token).getD "")
    if isOver then return (.nothing, tokens)
    let (first, rest) ← conditional fuel tokens
    match rest with
    | .operator ";" :: _ | .newline :: _ =>
      let (more, rest) ← commandList fuel (skipSeparator rest)
      return (.sequence first more, rest)
    | _ => return (first, rest)

/-- Pipelines joined by what depends on their outcome. -/
def conditional : Nat → List Token → Option (Command × List Token)
  | 0, _ => none
  | fuel + 1, tokens => do
    let (first, rest) ← pipeline fuel tokens
    conditionalFrom fuel first rest

/-- The pipelines behind the first. -/
def conditionalFrom : Nat → Command → List Token → Option (Command × List Token)
  | 0, _, _ => none
  | fuel + 1, first, tokens => do
    match tokens with
    | .operator "&&" :: rest =>
      let (second, rest) ← pipeline fuel (skipLines rest)
      conditionalFrom fuel (.andThen first second) rest
    | .operator "||" :: rest =>
      let (second, rest) ← pipeline fuel (skipLines rest)
      conditionalFrom fuel (.orElse first second) rest
    | _ => return (first, tokens)

/-- Commands joined by pipes, or the opposite of their outcome. -/
def pipeline : Nat → List Token → Option (Command × List Token)
  | 0, _ => none
  | fuel + 1, tokens => do
    if nextIs "!" tokens then
      let (body, rest) ← pipeline fuel (tokens.drop 1)
      return (.negated body, rest)
    let (first, rest) ← command fuel tokens
    match rest with
    | .operator "|" :: rest =>
      let (second, rest) ← pipeline fuel (skipLines rest)
      return (.pipe first second, rest)
    | _ => return (first, rest)

/-- One command. -/
def command : Nat → List Token → Option (Command × List Token)
  | 0, _ => none
  | fuel + 1, tokens => do
    let after (body : Command) (rest : List Token) : Command × List Token :=
      let (found, rest) := redirects rest.length.succ rest
      (withRedirects body found, rest)
    match tokens.head?.bind reserved? with
    | some "if" =>
      let (body, rest) ← branches fuel (tokens.drop 1)
      return after body rest
    | some "while" =>
      let (body, rest) ← loop fuel true (tokens.drop 1)
      return after body rest
    | some "until" =>
      let (body, rest) ← loop fuel false (tokens.drop 1)
      return after body rest
    | some "\x7b" =>
      let (body, rest) ← commandList fuel (tokens.drop 1)
      return after body (← expect "\x7d" rest)
    | some "for" =>
      match tokens.drop 1 with
      | .word name :: rest =>
        let name ← name.plain?
        let (words, rest) :=
          if nextIs "in" (skipLines rest) then
            let (words, rest) := wordList ((skipLines rest).drop 1)
            (some words, rest)
          else (none, rest)
        let rest ← expect "do" (skipSeparator rest)
        let (body, rest) ← commandList fuel rest
        return after (.each name words body) (← expect "done" rest)
      | _ => none
    | some "case" =>
      match tokens.drop 1 with
      | .word subject :: rest =>
        let (arms, rest) ← armList fuel (← expect "in" (skipLines rest))
        return after (.choice subject arms) rest
      | _ => none
    | some _ => none
    | none => simpleCommand tokens

/-- What follows the word that begins a branch. -/
def branches : Nat → List Token → Option (Command × List Token)
  | 0, _ => none
  | fuel + 1, tokens => do
    let (condition, rest) ← commandList fuel tokens
    let (yes, rest) ← commandList fuel (← expect "then" rest)
    if nextIs "elif" rest then
      let (no, rest) ← branches fuel (rest.drop 1)
      return (.branch condition yes no, rest)
    else if nextIs "else" rest then
      let (no, rest) ← commandList fuel (rest.drop 1)
      return (.branch condition yes no, ← expect "fi" rest)
    else return (.branch condition yes .nothing, ← expect "fi" rest)

/-- What follows the word that begins a loop. -/
def loop : Nat → Bool → List Token → Option (Command × List Token)
  | 0, _, _ => none
  | fuel + 1, whilst, tokens => do
    let (condition, rest) ← commandList fuel tokens
    let (body, rest) ← commandList fuel (← expect "do" rest)
    return (.repeated whilst condition body, ← expect "done" rest)

/-- The arms of a choice, up to the word that ends it. -/
def armList : Nat → List Token → Option (Arms × List Token)
  | 0, _ => none
  | fuel + 1, tokens => do
    let tokens := skipLines tokens
    if nextIs "esac" tokens then return (.none, tokens.drop 1)
    let opened := match tokens with
      | .operator "(" :: rest => rest
      | _ => tokens
    let (found, rest) ← patterns opened
    let (body, rest) ← commandList fuel rest
    match rest with
    | .operator ";;" :: rest =>
      let (more, rest) ← armList fuel rest
      return (.arm found body more, rest)
    | _ => return (.arm found body .none, ← expect "esac" rest)

end

/-- The commands of a script; nothing when it is not well formed. -/
def Command.ofScript? (script : String) : Option Command := do
  let found ← tokens script
  let (body, rest) ← commandList (10 * (found.length + 1)) found
  if rest.isEmpty then some body else none

end Interposition.Simulation.Shell
