/-
  Expanding words: putting values in place of parameters, output in place of scripts, and names of
  files in place of patterns.
-/
import Interposition.Simulation.Shell.Arithmetic
import Interposition.Simulation.Shell.Command
import Interposition.Simulation.Shell.Pattern
import Interposition.Simulation.Shell.State

namespace Interposition.Simulation.Shell

/-! ## Marks -/

/-- Where a character of an expanded word comes from. -/
inductive Origin where
  | quoted
  | written
  | expanded
deriving DecidableEq

/-- A part of an expanded word. -/
inductive Mark where
  | char (c : Char) (origin : Origin)
  /-- There is a field here even if no character follows. -/
  | present
  /-- One field ends here and another begins. -/
  | cut
deriving DecidableEq

/-- The characters of a text. -/
def marks (origin : Origin) (text : String) : List Mark :=
  let chars := text.toList.map fun c => Mark.char c origin
  if origin = .quoted then .present :: chars else chars

/-- The origin of a value put in place of a piece. -/
def originOf (quoted : Bool) : Origin := if quoted then .quoted else .expanded

/-- The characters of marks, each with whether it is quoted. -/
def charsOf (found : List Mark) : List (Char × Bool) :=
  found.filterMap fun
    | .char c origin => some (c, decide (origin = .quoted))
    | _ => none

/-- The text of marks. -/
def textOf (found : List Mark) : String := String.ofList ((charsOf found).map Prod.fst)

/-! ## Expanding -/

/-- How many words may be nested in the expansions of one another. -/
def nestingLimit : Nat := 32

/-- The arguments as separate fields. -/
def argumentMarks (origin : Origin) (arguments : List String) : List Mark :=
  ((arguments.map (marks origin)).intersperse [.cut]).flatten

/-- The value of a parameter with an operator applied.  `word` expands the operator's word, to a
    text or to a pattern. -/
def parameterMarks (name operator : String) (quoted : Bool)
    (word : Bool → Action (List Mark)) : Action (List Mark) := do
  let shell ← get
  let value := shell.value? name
  let origin := originOf quoted
  let isSet := if operator.startsWith ":" then value.any fun v => !v.isEmpty else value.isSome
  let own : List Mark :=
    if name = "@" ∨ (name = "*" ∧ !quoted) then argumentMarks origin shell.arguments
    else marks origin (value.getD "")
  let reduced (fromEnd longest : Bool) : Action (List Mark) := do
    let pattern := patternOf (charsOf (← word false))
    return marks origin (without fromEnd longest pattern (value.getD ""))
  match operator with
  | ":-" | "-" => if isSet then return own else word quoted
  | ":=" | "=" =>
    if isSet then return own
    else
      let found ← word quoted
      modify fun shell => shell.assign name (textOf found)
      return marks origin (textOf found)
  | ":+" | "+" => if isSet then word quoted else return marks origin ""
  | "#" => reduced false false
  | "##" => reduced false true
  | "%" => reduced true false
  | "%%" => reduced true true
  | _ => return own

/-- Expands a word.  `output` runs a script and gives its output. -/
def expand (output : String → Action String) : Nat → Word → Action (List Mark)
  | 0, _ => return []
  | fuel + 1, word => do
    let parts ← word.mapM fun piece =>
      match piece.kind with
      | .text content => pure (marks (if piece.quoted then .quoted else .written) content)
      | .parameter name operator source =>
        parameterMarks name operator piece.quoted fun quoted =>
          expand output fuel (.ofText quoted source)
      | .length name => do
        let value := ((← get).value? name).getD ""
        return marks (originOf piece.quoted) (toString value.length)
      | .output source => return marks (originOf piece.quoted) (← output source)
      | .arithmetic source => do
        let expression := textOf (← expand output fuel (.ofText true source))
        let shell ← get
        let value := Arithmetic.value? shell.value? expression
        return marks (originOf piece.quoted) (toString (value.getD 0))
    return parts.flatten

/-- The text of a word. -/
def expandText (output : String → Action String) (word : Word) : Action String := do
  return textOf (← expand output nestingLimit word)

/-! ## Fields -/

/-- The characters that end fields when nothing else is said. -/
def fieldEnds : String := " \t\n"

/-- A field: its characters, each with whether it is quoted. -/
abbrev Field := List (Char × Bool)

/-- Puts one mark behind the fields so far, of which the last may still go on. -/
def addMark (ends : List Char) (fields : List Field × Option Field) (mark : Mark) :
    List Field × Option Field :=
  let (complete, open?) := fields
  let ended := (complete ++ open?.toList, none)
  match mark with
  | .present => (complete, some (open?.getD []))
  | .cut => ended
  | .char c origin =>
    if origin = .expanded ∧ ends.contains c then
      if c.isWhitespace then ended else (complete ++ [open?.getD []], none)
    else (complete, some (open?.getD [] ++ [(c, decide (origin = .quoted))]))

/-- The fields that marks make. -/
def fieldsOf (ends : List Char) (found : List Mark) : List Field :=
  let (complete, open?) := found.foldl (addMark ends) ([], none)
  complete ++ open?.toList

/-! ## Names of files -/

/-- Whether a field holds a character that makes it a pattern. -/
def isPattern (field : Field) : Bool :=
  field.any fun (c, quoted) => !quoted && ['*', '?', '['].contains c

/-- The text of a field. -/
def fieldText (field : Field) : String := String.ofList (field.map Prod.fst)

/-- The parts of a field between separators. -/
def fieldParts (field : Field) : List Field :=
  field.foldr (fun mark parts =>
    if mark.1 = '/' then [] :: parts
    else
      match parts with
      | part :: rest => (mark :: part) :: rest
      | [] => [[mark]]) [[]]

/-- The names of files that parts match below a name already matched, which ends in a separator
    unless it is empty. -/
def matchingNames (base : String) : List Field → Action (List String)
  | [] => return []
  | part :: rest => do
    let found ←
      if isPattern part then
        let directory := if base.isEmpty then "." else base
        match ← request (.listDirectory (.ofText directory)) with
        | .error _ => pure []
        | .ok names =>
          let hidden := (fieldText part).startsWith "."
          let pattern := patternOf part
          pure ((names.map Path.display).filter fun name =>
            matchesName pattern name && (hidden || !name.startsWith "."))
      else pure [fieldText part]
    if rest.isEmpty then
      (found.map (base ++ ·)).filterM fun name => request (.pathExists (.ofText name))
    else
      let lists ← found.mapM fun name => matchingNames (base ++ name ++ "/") rest
      return lists.flatten

/-- The texts a field stands for: the names of files it matches, in order, or itself. -/
def filesOf (field : Field) : Action (List String) := do
  if isPattern field then
    let names ← matchingNames "" (fieldParts field)
    if names.isEmpty then return [fieldText field]
    else return names.mergeSort fun a b => a ≤ b
  else return [fieldText field]

/-- The fields that words expand to. -/
def expandFields (output : String → Action String) (words : List Word) :
    Action (List String) := do
  let lists ← words.mapM fun word => do
    let found ← expand output nestingLimit word
    let ends := ((← get).value? "IFS").getD fieldEnds
    let texts ← (fieldsOf ends.toList found).mapM filesOf
    return texts.flatten
  return lists.flatten

end Interposition.Simulation.Shell
