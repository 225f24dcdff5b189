/-
  A JSON text as it is read.

  Readers of a document stop at the first thing wrong in text order, and what counts as wrong
  depends on what they look for: a member nobody asks for is skipped with fewer checks than one
  that is read.  So reading a text does not fail; it gives a tree that ends where the text stopped
  making sense, with the fault found there.  A decoder that walks the tree in text order meets
  exactly the faults a reader of the text would meet, in the same order.
-/
import Interposition.Json.Numeral

namespace Interposition

/-- How an array or object stands in its document: to be read in place, too deep to be read at
    all, or held back until the tag that says what it is has been read. -/
inductive Standing where
  | direct
  | tooDeep
  | held
deriving DecidableEq

mutual

/-- A value in a text.  A text literal that names half of a surrogate pair has no value but can be
    skipped.  `broken` is where the text stops: the fault when a value is read there, and the one
    when it is skipped. -/
inductive Reading where
  | null
  | truth (b : Bool)
  | number (n : Numeral)
  | text (s : Option String)
  | array (standing : Standing) (items : Items)
  | object (standing : Standing) (members : Members)
  | broken (read skipped : Fault)

/-- The elements of an array; `cut` is a fault where a comma or the end should stand. -/
inductive Items where
  | done
  | cut (fault : Fault)
  | next (value : Reading) (rest : Items)

/-- The members of an object; `cut` is a fault where a comma or the end should stand, `lost` one
    where a key should stand, and `stray` a value that is no key where the first key should. -/
inductive Members where
  | done
  | cut (fault : Fault)
  | lost (read skipped : Fault)
  | stray (value : Reading)
  | next (key : Option String) (value : Reading) (rest : Members)

end

instance : Inhabited Reading := ⟨.null⟩

namespace Reading

/-! ## Pieces of text -/

/-- White space between the pieces of a document. -/
def isSpace (c : Char) : Bool := c = ' ' || c = '\n' || c = '\t' || c = '\r'

/-- A text without the white space in front. -/
def skipSpace (source : List Char) : List Char := source.dropWhile isSpace

/-- The rest of a literal name. -/
def literal (value : Reading) : List Char → List Char → Reading × List Char
  | [], rest => (value, rest)
  | _ :: _, [] => (broken .truncated .truncated, [])
  | e :: expected, c :: rest =>
    if c = e then literal value expected rest else (broken .malformed .malformed, [])

/-- The fault of an escape with no four hexadecimal digits: four more bytes make it wrong, fewer
    make it cut off. -/
def quadFault (rest : List Char) : Fault :=
  if rest.foldl (fun size c => size + c.utf8Size) 0 < 4 then .truncated else .malformed

/-- The value of four hexadecimal digits. -/
def quadValue? (a b c d : Char) : Option Nat := do
  let a ← Text.hexValue? a
  let b ← Text.hexValue? b
  let c ← Text.hexValue? c
  let d ← Text.hexValue? d
  return a * 4096 + b * 256 + c * 16 + d

/-- The character a one-letter escape stands for. -/
def escape? (c : Char) : Option Char :=
  if c = '"' ∨ c = '\\' ∨ c = '/' then some c
  else if c = 'b' then some (Char.ofNat 8)
  else if c = 'f' then some (Char.ofNat 12)
  else if c = 'n' then some '\n'
  else if c = 'r' then some '\r'
  else if c = 't' then some '\t'
  else none

/-- Reads a text literal behind its opening quote.  `high` is the first half of a surrogate pair
    whose second half must follow; `damaged` says that some half has stayed alone, which matters
    only if the literal is read for its value. -/
def scanText (done : List Char) (high : Option Nat) (damaged : Bool) :
    List Char → Numeral.Scan (Option String)
  | [] => .error (if damaged then .malformed else .truncated, .truncated)
  | '"' :: rest =>
    .ok (if damaged || high.isSome then none else some (String.ofList done.reverse), rest)
  | '\\' :: 'u' :: a :: b :: c :: d :: rest =>
    match quadValue? a b c d with
    | none =>
      .error (if damaged then .malformed else quadFault (a :: b :: c :: d :: rest),
        quadFault (a :: b :: c :: d :: rest))
    | some n =>
      match high with
      | some h =>
        if 0xDC00 ≤ n ∧ n ≤ 0xDFFF then
          scanText (Char.ofNat (0x10000 + (h - 0xD800) * 1024 + (n - 0xDC00)) :: done) none
            damaged rest
        else scanText done (if 0xD800 ≤ n ∧ n ≤ 0xDBFF then some n else none) true rest
      | none =>
        if 0xDC00 ≤ n ∧ n ≤ 0xDFFF then scanText done none true rest
        else if 0xD800 ≤ n ∧ n ≤ 0xDBFF then scanText done (some n) damaged rest
        else scanText (Char.ofNat n :: done) none damaged rest
  | '\\' :: 'u' :: rest =>
    .error (if damaged then .malformed else quadFault rest, quadFault rest)
  | ['\\'] => .error (if damaged then .malformed else .truncated, .truncated)
  | '\\' :: c :: rest =>
    match escape? c with
    | none => .error (.malformed, .malformed)
    | some e => scanText (e :: done) none (damaged || high.isSome) rest
  | c :: rest =>
    if c.toNat < 32 then .error (.malformed, .malformed)
    else scanText (c :: done) none (damaged || high.isSome) rest

/-! ## Values -/

/-- Brackets this deep are too deep to be read. -/
def depthLimit : Nat := 128

/-- The standing of a bracket by the number of brackets around it, itself included. -/
def standingAt (depth : Nat) : Standing := if depth < depthLimit then .direct else .tooDeep

/-- Whether a character can begin a value other than a text literal. -/
def beginsStray (c : Char) : Bool :=
  c = 'n' || c = 't' || c = 'f' || c = '-' || c = '[' || c = '\x7b' || c.isDigit

mutual

/-- Reads one value; `depth` counts the brackets around it.  Every call spends one unit of `fuel`
    and every second call consumes text, so twice the length of the text is enough. -/
def scanValue : Nat → Nat → List Char → Reading × List Char
  | 0, _, _ => (broken .truncated .truncated, [])
  | fuel + 1, depth, source =>
    let number (below : Bool) (digits : List Char) : Reading × List Char :=
      match Numeral.scan below digits with
      | .ok (n, rest) => (Reading.number n, rest)
      | .error (read, skipped) => (broken read skipped, [])
    match skipSpace source with
    | [] => (broken .truncated .truncated, [])
    | c :: rest =>
      if c = 'n' then literal null ['u', 'l', 'l'] rest
      else if c = 't' then literal (truth true) ['r', 'u', 'e'] rest
      else if c = 'f' then literal (truth false) ['a', 'l', 's', 'e'] rest
      else if c = '"' then
        match scanText [] none false rest with
        | .ok (s, rest) => (Reading.text s, rest)
        | .error (read, skipped) => (broken read skipped, [])
      else if c = '[' then
        let (items, rest) := scanItems fuel (depth + 1) true rest
        (array (standingAt (depth + 1)) items, rest)
      else if c = '\x7b' then
        let (members, rest) := scanMembers fuel (depth + 1) true rest
        (object (standingAt (depth + 1)) members, rest)
      else if c = '-' then number true rest
      else if c.isDigit then number false (c :: rest)
      else (broken .malformed .malformed, [])

/-- Reads the elements of an array up to its end. -/
def scanItems : Nat → Nat → Bool → List Char → Items × List Char
  | 0, _, _, _ => (.cut .truncated, [])
  | fuel + 1, depth, first, source =>
    let element (source : List Char) : Items × List Char :=
      let (value, rest) := scanValue fuel depth source
      let (items, rest) := scanItems fuel depth false rest
      (.next value items, rest)
    match skipSpace source with
    | [] => (.cut .truncated, [])
    | c :: rest =>
      if c = ']' then (.done, rest)
      else if first then element (c :: rest)
      else if c = ',' then element rest
      else (.cut .malformed, [])

/-- Reads the members of an object up to its end. -/
def scanMembers : Nat → Nat → Bool → List Char → Members × List Char
  | 0, _, _, _ => (.cut .truncated, [])
  | fuel + 1, depth, first, source =>
    let member (source : List Char) : Members × List Char :=
      match scanText [] none false source with
      | .error (read, skipped) => (.lost read skipped, [])
      | .ok (key, rest) =>
        match skipSpace rest with
        | [] => (.next key (broken .truncated .truncated) (.cut .truncated), [])
        | c :: rest =>
          if c = ':' then
            let (value, rest) := scanValue fuel depth rest
            let (members, rest) := scanMembers fuel depth false rest
            (.next key value members, rest)
          else (.next key (broken .malformed .malformed) (.cut .malformed), [])
    match skipSpace source with
    | [] => (.cut .truncated, [])
    | c :: rest =>
      if c = '\x7d' then (.done, rest)
      else if first then
        if c = '"' then member rest
        else if beginsStray c then
          let (value, rest) := scanValue fuel depth (c :: rest)
          (.stray value, rest)
        else (.lost .malformed .malformed, [])
      else if c = ',' then
        match skipSpace rest with
        | [] => (.lost .truncated .truncated, [])
        | '"' :: rest => member rest
        | _ :: _ => (.lost .malformed .malformed, [])
      else (.cut .malformed, [])

end

/-- A whole text: its value, and whether anything but white space stands behind it. -/
def ofChars (source : List Char) : Reading × Bool :=
  let (value, rest) := scanValue (2 * source.length + 2) 0 source
  (value, !(skipSpace rest).isEmpty)

end Reading

/-! ## Skipping and holding -/

mutual

/-- The first fault met when a value is skipped. -/
def Reading.skip : Reading → Except Fault Unit
  | .array _ items => items.skip
  | .object _ members => members.skip
  | .broken _ skipped => .error skipped
  | _ => .ok ()

/-- The first fault met when the rest of an array is skipped. -/
def Items.skip : Items → Except Fault Unit
  | .done => .ok ()
  | .cut fault => .error fault
  | .next value rest => do value.skip; rest.skip

/-- The first fault met when the rest of an object is skipped. -/
def Members.skip : Members → Except Fault Unit
  | .done => .ok ()
  | .cut fault => .error fault
  | .lost _ skipped => .error skipped
  | .stray _ => .error .malformed
  | .next _ value rest => do value.skip; rest.skip

end

mutual

/-- Reads a value of any kind in full and holds it for later. -/
def Reading.hold : Reading → Except Fault Reading
  | .number .unbounded => .error .malformed
  | .text none => .error .malformed
  | .array .tooDeep _ => .error .malformed
  | .object .tooDeep _ => .error .malformed
  | .array _ items => do return .array .held (← items.hold)
  | .object _ members => do return .object .held (← members.hold)
  | .broken read _ => .error read
  | value => .ok value

/-- Reads the rest of an array in full. -/
def Items.hold : Items → Except Fault Items
  | .done => .ok .done
  | .cut fault => .error fault
  | .next value rest => do
    let value ← value.hold
    return .next value (← rest.hold)

/-- Reads the rest of an object in full. -/
def Members.hold : Members → Except Fault Members
  | .done => .ok .done
  | .cut fault => .error fault
  | .lost read _ => .error read
  | .stray _ => .error .malformed
  | .next none _ _ => .error .malformed
  | .next (some key) value rest => do
    let value ← value.hold
    return .next (some key) value (← rest.hold)

end

/-- The number of elements left in an array. -/
def Items.length : Items → Nat
  | .next _ rest => rest.length + 1
  | _ => 0

end Interposition
