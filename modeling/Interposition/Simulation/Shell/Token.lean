/-
  Scripts as tokens: words, operators, and the ends of lines.

  A word is a list of pieces, each marked with whether it was quoted.  What stands inside an
  expansion is kept as it was written and is read when the expansion is made.
-/
import Interposition.Text.Number

namespace Interposition.Simulation.Shell

/-! ## Words -/

/-- What a piece of a word stands for. -/
inductive PieceKind where
  | text (content : String)
  /-- A parameter, an operator on its value, and the word the operator takes. -/
  | parameter (name operator source : String)
  /-- How long the value of a parameter is. -/
  | length (name : String)
  /-- The output of a script. -/
  | output (source : String)
  /-- The value of an expression. -/
  | arithmetic (source : String)
deriving DecidableEq

/-- A piece of a word. -/
structure Piece where
  kind : PieceKind
  quoted : Bool
deriving DecidableEq

/-- A word before it is expanded. -/
abbrev Word := List Piece

/-- The text of a word that is one unquoted text. -/
def Word.plain? : Word → Option String
  | [⟨.text content, false⟩] => some content
  | _ => none

/-- A token of a script. -/
inductive Token where
  | word (word : Word)
  | operator (text : String)
  /-- A file descriptor in front of a redirection. -/
  | descriptor (number : Nat)
  | newline
deriving DecidableEq

/-! ## Nested text -/

/-- The character that quotes the output of a script in the older form. -/
def backquote : Char := '\x60'

/-- Splits at the character that closes the outermost of the openings, whose closing characters are
    given innermost first; quotes, and further openings, are passed over.  `inside` is what has been
    passed, last first. -/
def closing (inside : List Char) : List Char → List Char → Option (List Char × List Char)
  | _, [] => none
  | [], rest => some (inside.reverse, rest)
  | close :: outer, c :: rest =>
    if c = close then
      match outer with
      | [] => some (inside.reverse, rest)
      | _ => closing (c :: inside) outer rest
    else if close = '\'' then closing (c :: inside) (close :: outer) rest
    else if c = '\\' then
      match rest with
      | [] => none
      | escaped :: rest => closing (escaped :: c :: inside) (close :: outer) rest
    else if c = '"' then closing (c :: inside) ('"' :: close :: outer) rest
    else if c = '\'' ∧ close ≠ '"' then closing (c :: inside) ('\'' :: close :: outer) rest
    else if c = '(' ∧ close ≠ '"' then closing (c :: inside) (')' :: close :: outer) rest
    else if c = '\x7b' ∧ inside.head? = some '$' then
      closing (c :: inside) ('\x7d' :: close :: outer) rest
    else closing (c :: inside) (close :: outer) rest

/-! ## Expansions -/

/-- Whether a character may begin a name. -/
def startsName (c : Char) : Bool := c.isAlpha || c = '_'

/-- Whether a character may go on with a name. -/
def inName (c : Char) : Bool := startsName c || c.isDigit

/-- The parameters whose name is one special character. -/
def specialNames : List Char := ['@', '*', '#', '?', '$', '!', '-']

/-- Splits the name of a parameter off, if there is one. -/
def splitName (braced : Bool) : List Char → Option (String × List Char)
  | [] => none
  | c :: rest =>
    if startsName c then
      some (String.ofList (c :: rest.takeWhile inName), rest.dropWhile inName)
    else if c.isDigit then
      if braced then
        some (String.ofList (c :: rest.takeWhile Char.isDigit), rest.dropWhile Char.isDigit)
      else some (c.toString, rest)
    else if specialNames.contains c then some (c.toString, rest)
    else none

/-- The operators on the value of a parameter, longer ones first. -/
def parameterOperators : List String :=
  [":-", ":=", ":?", ":+", "##", "%%", "-", "=", "?", "+", "#", "%"]

/-- What stands between the braces of an expansion. -/
def bracedKind (inside : List Char) : Option PieceKind :=
  match inside with
  | '#' :: name :: more =>
    match splitName true (name :: more) with
    | some (name, []) => some (.length name)
    | _ => none
  | _ =>
    match splitName true inside with
    | none => none
    | some (name, []) => some (.parameter name "" "")
    | some (name, rest) =>
      let text := String.ofList rest
      (parameterOperators.find? fun operator => operator.isPrefixOf text).map fun operator =>
        .parameter name operator (String.ofList (rest.drop operator.length))

/-- What begins with a dollar sign, after it. -/
def dollar (quoted : Bool) (chars : List Char) : Option (Piece × List Char) :=
  match chars with
  | '(' :: rest => do
    let (inside, rest) ← closing [] [')'] rest
    match inside, inside.getLast? with
    | '(' :: expression, some ')' =>
      return (⟨.arithmetic (String.ofList expression.dropLast), quoted⟩, rest)
    | _, _ => return (⟨.output (String.ofList inside), quoted⟩, rest)
  | '\x7b' :: rest => do
    let (inside, rest) ← closing [] ['\x7d'] rest
    return (⟨← bracedKind inside, quoted⟩, rest)
  | _ =>
    match splitName false chars with
    | some (name, rest) => some (⟨.parameter name "" "", quoted⟩, rest)
    | none => some (⟨.text "$", quoted⟩, chars)

/-! ## Pieces -/

/-- A piece of one character. -/
def single (c : Char) (quoted : Bool) : Piece := ⟨.text c.toString, quoted⟩

/-- The characters a backslash quotes inside double quotes. -/
def escapable : List Char := ['$', backquote, '"', '\\', '\n']

/-- The pieces between double quotes, or up to the end if `toEnd`. -/
def quotedPieces (toEnd : Bool) : Nat → List Char → Option (Word × List Char)
  | 0, _ => none
  | _ + 1, [] => if toEnd then some ([], []) else none
  | fuel + 1, c :: rest => do
    if c = '"' ∧ !toEnd then return ([], rest)
    let (piece, rest) ←
      if c = '\\' then
        match rest with
        | escaped :: after =>
          if escapable.contains escaped then pure ([single escaped true], after)
          else pure ([single '\\' true], rest)
        | [] => pure ([single '\\' true], [])
      else if c = '$' then do
        let (piece, rest) ← dollar true rest
        pure ([piece], rest)
      else if c = backquote then do
        let (inside, rest) ← closing [] [backquote] rest
        pure ([⟨.output (String.ofList inside), true⟩], rest)
      else pure ([single c true], rest)
    let (more, rest) ← quotedPieces toEnd fuel rest
    return (piece ++ more, rest)

/-- The pieces up to the first unquoted character at which a word ends. -/
def pieces (ends : Char → Bool) : Nat → List Char → Option (Word × List Char)
  | 0, _ => none
  | _ + 1, [] => some ([], [])
  | fuel + 1, c :: rest => do
    if ends c then return ([], c :: rest)
    let (here, rest) ←
      if c = '\'' then do
        let (inside, rest) ← closing [] ['\''] rest
        pure ([⟨.text (String.ofList inside), true⟩], rest)
      else if c = '"' then do
        let (inside, rest) ← quotedPieces false rest.length.succ rest
        pure (⟨.text "", true⟩ :: inside, rest)
      else if c = '\\' then
        match rest with
        | '\n' :: rest => pure ([], rest)
        | escaped :: rest => pure ([single escaped true], rest)
        | [] => pure ([single '\\' true], [])
      else if c = '$' then do
        let (piece, rest) ← dollar false rest
        pure ([piece], rest)
      else if c = backquote then do
        let (inside, rest) ← closing [] [backquote] rest
        pure ([⟨.output (String.ofList inside), false⟩], rest)
      else pure ([single c false], rest)
    let (more, rest) ← pieces ends fuel rest
    return (here ++ more, rest)

/-- Joins texts that follow one another and are quoted alike. -/
def joined (word : Word) : Word :=
  word.foldr (fun piece pieces =>
    match piece, pieces with
    | ⟨.text a, q⟩, ⟨.text b, r⟩ :: rest =>
      if q = r then ⟨.text (a ++ b), q⟩ :: rest else piece :: pieces
    | _, _ => piece :: pieces) []

/-- The word a text is, blanks included; quoted as a whole or as it says itself. -/
def Word.ofText (quoted : Bool) (source : String) : Word :=
  let chars := source.toList
  let found := if quoted then quotedPieces true chars.length.succ chars
    else pieces (fun _ => false) chars.length.succ chars
  joined ((found.map Prod.fst).getD [⟨.text source, quoted⟩])

/-! ## Tokens -/

/-- Whether a character ends a word. -/
def endsWord (c : Char) : Bool := " \t\n;&|<>()".toList.contains c

/-- The operators, longer ones first. -/
def operators : List String :=
  ["&&", "||", ";;", ">>", ">&", "<&", ";", "&", "|", "(", ")", "<", ">"]

/-- The tokens of a script; nothing when a quotation or an expansion does not end. -/
def tokensFrom : Nat → List Char → Option (List Token)
  | 0, _ => none
  | _ + 1, [] => some []
  | fuel + 1, c :: rest => do
    if c = ' ' ∨ c = '\t' then tokensFrom fuel rest
    else if c = '\n' then return .newline :: (← tokensFrom fuel rest)
    else if c = '#' then tokensFrom fuel (rest.dropWhile (· ≠ '\n'))
    else if c = '\\' ∧ rest.head? = some '\n' then tokensFrom fuel (rest.drop 1)
    else
      let text := String.ofList ((c :: rest).take 2)
      match operators.find? fun operator => operator.isPrefixOf text with
      | some operator =>
        return .operator operator :: (← tokensFrom fuel ((c :: rest).drop operator.length))
      | none =>
        let (word, rest) ← pieces endsWord (rest.length + 2) (c :: rest)
        let word := joined word
        let token := match word.plain?.bind Text.word?, rest.head? with
          | some number, some next =>
            if next = '<' ∨ next = '>' then Token.descriptor number.toNat else .word word
          | _, _ => .word word
        return token :: (← tokensFrom fuel rest)

/-- The tokens of a script. -/
def tokens (script : String) : Option (List Token) :=
  let chars := script.toList
  tokensFrom chars.length.succ chars

end Interposition.Simulation.Shell
