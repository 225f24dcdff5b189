/-
  Patterns: which texts they match, and what is left of a text without what they match.

  Two notations share the same atoms: the one for names, in which a star stands for any text, and
  the one for searching in lines, in which a star repeats what stands before it.
-/

namespace Interposition.Simulation.Shell

/-- What one character of a text may be. -/
inductive Atom where
  | exactly (c : Char)
  | any
  /-- One of, or none of, the characters in some ranges. -/
  | among (negated : Bool) (ranges : List (Char × Char))
deriving DecidableEq

/-- Whether a character is one an atom allows. -/
def Atom.allows : Atom → Char → Bool
  | exactly expected, c => c = expected
  | any, _ => true
  | among negated ranges, c => (ranges.any fun range => range.1 ≤ c && c ≤ range.2) != negated

/-- The ranges of a bracket expression, and what follows it. -/
def rangesFrom : Bool → List Char → Option (List (Char × Char) × List Char)
  | _, [] => none
  | started, ']' :: rest =>
    if started then some ([], rest)
    else (rangesFrom true rest).map fun (ranges, rest) => ((']', ']') :: ranges, rest)
  | _, low :: '-' :: high :: rest =>
    if high = ']' then
      (rangesFrom true ('-' :: high :: rest)).map fun (ranges, rest) => ((low, low) :: ranges, rest)
    else (rangesFrom true rest).map fun (ranges, rest) => ((low, high) :: ranges, rest)
  | _, c :: rest => (rangesFrom true rest).map fun (ranges, rest) => ((c, c) :: ranges, rest)
termination_by _ chars => chars.length

/-- A bracket expression, after its opening bracket. -/
def bracket? (chars : List Char) : Option (Atom × List Char) :=
  match chars with
  | '!' :: rest | '^' :: rest => (rangesFrom false rest).map fun (r, rest) => (.among true r, rest)
  | _ => (rangesFrom false chars).map fun (r, rest) => (.among false r, rest)

/-! ## Repeated atoms -/

/-- An atom that stands for one character, or for any number of them. -/
structure Step where
  atom : Atom
  many : Bool
deriving DecidableEq

/-- Whether steps match a text from its start; to its end as well if `whole`. -/
def matchSteps (whole : Bool) : List Step → List Char → Bool
  | [], text => !whole || text.isEmpty
  | ⟨atom, false⟩ :: rest, text =>
    match text with
    | [] => false
    | c :: text => atom.allows c && matchSteps whole rest text
  | ⟨atom, true⟩ :: rest, text =>
    matchSteps whole rest text ||
      match text with
      | [] => false
      | c :: text => atom.allows c && matchSteps whole (⟨atom, true⟩ :: rest) text
termination_by steps text => steps.length + text.length

/-! ## Patterns for names -/

/-- The pattern a text spells, each character with whether it was quoted; a quoted one stands for
    itself. -/
def namePattern : Nat → List (Char × Bool) → List Step
  | 0, _ => []
  | _ + 1, [] => []
  | fuel + 1, (c, true) :: rest => ⟨.exactly c, false⟩ :: namePattern fuel rest
  | fuel + 1, (c, false) :: rest =>
    if c = '*' then ⟨.any, true⟩ :: namePattern fuel rest
    else if c = '?' then ⟨.any, false⟩ :: namePattern fuel rest
    else if c = '[' then
      match bracket? (rest.map Prod.fst) with
      | some (atom, after) =>
        ⟨atom, false⟩ :: namePattern fuel (rest.drop (rest.length - after.length))
      | none => ⟨.exactly c, false⟩ :: namePattern fuel rest
    else ⟨.exactly c, false⟩ :: namePattern fuel rest

/-- The pattern a text spells. -/
def patternOf (text : List (Char × Bool)) : List Step := namePattern text.length.succ text

/-- Whether a pattern matches all of a text. -/
def matchesName (pattern : List Step) (text : String) : Bool :=
  matchSteps true pattern text.toList

/-- A text without the part a pattern matches at its start, or its end; the shortest such part or
    the longest.  The whole text if there is none. -/
def without (fromEnd longest : Bool) (pattern : List Step) (text : String) : String :=
  let chars := text.toList
  let sizes := List.range (chars.length + 1)
  let order := if longest then sizes.reverse else sizes
  let part (size : Nat) := if fromEnd then chars.drop (chars.length - size) else chars.take size
  match order.find? fun size => matchSteps true pattern (part size) with
  | none => text
  | some size =>
    String.ofList (if fromEnd then chars.take (chars.length - size) else chars.drop size)

/-! ## Patterns for searching -/

/-- The steps of a search, with whether it is tied to the start and to the end of a line. -/
structure Search where
  atStart : Bool
  atEnd : Bool
  steps : List Step
deriving DecidableEq

/-- The steps a text spells, up to a dollar sign at its very end. -/
def searchSteps : Nat → List Char → List Step × Bool
  | 0, _ => ([], false)
  | _ + 1, [] => ([], false)
  | _ + 1, ['$'] => ([], true)
  | fuel + 1, c :: rest =>
    let (atom, rest) : Atom × List Char :=
      if c = '.' then (.any, rest)
      else if c = '\\' then
        match rest with
        | escaped :: rest => (.exactly escaped, rest)
        | [] => (.exactly c, [])
      else if c = '[' then (bracket? rest).getD (.exactly c, rest)
      else (.exactly c, rest)
    let many := rest.head? = some '*'
    let (steps, atEnd) := searchSteps fuel (if many then rest.drop 1 else rest)
    (⟨atom, many⟩ :: steps, atEnd)

/-- The search a text spells. -/
def Search.ofText (text : String) : Search :=
  let (atStart, chars) := match text.toList with
    | '^' :: rest => (true, rest)
    | chars => (false, chars)
  let (steps, atEnd) := searchSteps chars.length.succ chars
  ⟨atStart, atEnd, steps⟩

/-- The search for a text as it is. -/
def Search.exactly (text : String) : Search :=
  ⟨false, false, text.toList.map fun c => ⟨.exactly c, false⟩⟩

/-- Whether a search finds something in a line. -/
def Search.finds (search : Search) (line : String) : Bool :=
  let chars := line.toList
  let starts := if search.atStart then [chars]
    else (List.range (chars.length + 1)).map fun count => chars.drop count
  starts.any (matchSteps search.atEnd search.steps)

end Interposition.Simulation.Shell
