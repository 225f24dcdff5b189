/-
  Decoding: from the tree of a read text to a value of a type.

  A decoder walks the tree in text order, so of all the things wrong with a text it reports the
  first.  Records, and enumerations told apart by a tag, are described by data (`Fields`, `Case`)
  and decoded by one walk each: members in any order, unknown ones skipped, each known one at most
  once; or an array of the fields in order.
-/
import Interposition.Json.Reading
import Interposition.Json.Value
import Interposition.Text.Quoted
import Interposition.Path
import Interposition.Duration

namespace Interposition

/-- Why a text does not decode: it is no JSON document, or one of the wrong shape. -/
inductive Failure where
  | fault (f : Fault)
  | data (detail : String)
deriving DecidableEq, Inhabited

/-- What reads a value of a type out of a tree. -/
abbrev Decoder (α : Type) := Reading → Except Failure α

/-- A value of the type has a written form. -/
class Encode (α : Type) where
  /-- The document a value is written as. -/
  toJson : α → Json

/-- A value of the type can be read back. -/
class Decode (α : Type) where
  /-- The decoder of the type. -/
  decode : Decoder α

export Encode (toJson)
export Decode (decode)

namespace Failure

/-- The text stopped being a document. -/
def ofFault {α : Type} : Except Fault α → Except Failure α
  | .ok a => .ok a
  | .error f => .error (.fault f)

/-- A value of a kind that was not expected here.  A broken value is its fault, whatever was
    expected. -/
def mismatch (reading : Reading) (expected : String) : Failure :=
  let found (what : String) : Failure := data s!"invalid type: {what}, expected {expected}"
  match reading with
  | .null => found "null"
  | .truth b => found s!"boolean `{b}`"
  | .number n =>
    match n.described? with
    | some what => found what
    | none => fault .malformed
  | .text (some s) => found s!"string {Text.quoted s}"
  | .text none => fault .malformed
  | .array _ _ => found "sequence"
  | .object _ _ => found "map"
  | .broken read _ => fault read

/-- A number of the right kind outside the range of its type. -/
def outOfRange (shown expected : String) : Failure :=
  data s!"invalid value: {shown}, expected {expected}"

/-- Too few or too many elements. -/
def length (count : Nat) (expected : String) : Failure :=
  data s!"invalid length {count}, expected {expected}"

/-- A field that has to be there is not. -/
def missing (name : String) : Failure := data s!"missing field `{name}`"

/-- A field is there twice. -/
def duplicate (name : String) : Failure := data s!"duplicate field `{name}`"

/-- Names as a choice: "`a`", "`a` or `b`", "one of `a`, `b`, `c`". -/
def choice : List String → String
  | [] => "there are no variants"
  | [a] => s!"`{a}`"
  | [a, b] => s!"`{a}` or `{b}`"
  | names => "one of " ++ ", ".intercalate (names.map fun name => s!"`{name}`")

/-- A name that is none of an enumeration's. -/
def unknownVariant (name : String) (known : List String) : Failure :=
  data s!"unknown variant `{name}`, expected {choice known}"

/-- A name that is none of a closed record's. -/
def unknownField (name : String) (known : List String) : Failure :=
  data s!"unknown field `{name}`, expected {choice known}"

end Failure

namespace Decoder

/-! ## Scalars -/

/-- A non-negative number up to a limit. -/
def natural (limit : Nat) (expected : String) : Decoder Nat
  | .number (.unsigned n) =>
    if n.toNat ≤ limit then .ok n.toNat
    else .error (.outOfRange s!"integer `{n}`" expected)
  | .number (.negative n) => .error (.outOfRange s!"integer `{n}`" expected)
  | other => .error (.mismatch other expected)

/-- A number between two bounds. -/
def integer (low high : Int) (expected : String) : Decoder Int
  | .number (.unsigned n) =>
    if (n.toNat : Int) ≤ high then .ok n.toNat
    else .error (.outOfRange s!"integer `{n}`" expected)
  | .number (.negative n) =>
    if low ≤ n.toInt then .ok n.toInt
    else .error (.outOfRange s!"integer `{n}`" expected)
  | other => .error (.mismatch other expected)

/-- A count of things held in memory. -/
def size : Decoder Nat := natural (UInt64.size - 1) "usize"

/-- A truth value. -/
def bool : Decoder Bool
  | .truth b => .ok b
  | other => .error (.mismatch other "a boolean")

/-- A text, described as `expected` where something else stands. -/
def textAs (expected : String) : Decoder String
  | .text (some s) => .ok s
  | other => .error (.mismatch other expected)

/-- Nothing at all. -/
def unit (expected : String) : Decoder Unit
  | .null => .ok ()
  | other => .error (.mismatch other expected)

/-- Nothing, or a value. -/
def option {α : Type} (decode : Decoder α) : Decoder (Option α)
  | .null => .ok none
  | other => (decode other).map some

/-! ## Arrays -/

/-- What stands behind the elements that were wanted.  In a text that is read in place anything
    but the end is wrong; in a held array the number of elements is. -/
def finish (standing : Standing) (wanted : Nat) (rest : Items) : Except Failure Unit :=
  match rest with
  | .done => .ok ()
  | .cut fault => .error (.fault fault)
  | .next _ _ =>
    match standing with
    | .held =>
      let elements := if wanted = 1 then "1 element" else s!"{wanted} elements"
      .error (.length (wanted + rest.length) s!"{elements} in sequence")
    | _ => .error (.fault .malformed)

/-- Every element of an array. -/
def elements {α : Type} (decode : Decoder α) : Items → Except Failure (List α)
  | .done => .ok []
  | .cut fault => .error (.fault fault)
  | .next value rest => do
    let a ← decode value
    return a :: (← elements decode rest)

/-- An array of any length. -/
def list {α : Type} (decode : Decoder α) : Decoder (List α)
  | .array .tooDeep _ => .error (.fault .malformed)
  | .array _ items => elements decode items
  | other => .error (.mismatch other "a sequence")

end Decoder

/-! ## Records -/

/-- What a field is when its record does not have it. -/
inductive Presence (α : Type) where
  /-- The record is wrong without it. -/
  | required
  /-- An object may leave it out. -/
  | optional (absent : α)
  /-- An object may leave it out and an array may end before it. -/
  | defaulted (absent : α)

/-- The fields of a record in the order they are declared, and what the record is made of them. -/
inductive Fields : Type → Type 1 where
  | done {α : Type} (a : α) : Fields α
  | field {α β : Type} (earlier : Fields (α → β)) (name : String) (decode : Decoder α)
      (presence : Presence α) : Fields β

namespace Fields

/-- One more field, which has to be there. -/
def required {α β : Type} [Decode α] (earlier : Fields (α → β)) (name : String) : Fields β :=
  field earlier name Decode.decode .required

/-- The names of the fields. -/
def names : {α : Type} → Fields α → List String
  | _, done _ => []
  | _, field earlier name _ _ => earlier.names ++ [name]

/-- Whether the value of a field decodes, by the field's name. -/
def check? (key : String) : {α : Type} → Fields α → Option (Decoder Unit)
  | _, done _ => none
  | _, field earlier name decode _ =>
    if key = name then some fun reading => (decode reading).map fun _ => ()
    else earlier.check? key

/-- The record made of the members found in an object. -/
def assemble (found : List (String × Reading)) : {α : Type} → Fields α → Except Failure α
  | _, done a => .ok a
  | _, field earlier name decode presence => do
    let make ← earlier.assemble found
    match found.lookup name with
    | some reading => return make (← decode reading)
    | none =>
      match presence with
      | .required => .error (.missing name)
      | .optional absent => return make absent
      | .defaulted absent => return make absent

/-- The record made of the elements of an array, and what stands behind them. -/
def sequence (lengths : String) : {α : Type} → Fields α → Items → Except Failure (α × Items)
  | _, done a, items => .ok (a, items)
  | _, field earlier _ decode presence, items => do
    let (make, items) ← earlier.sequence lengths items
    match items with
    | .next value rest => return (make (← decode value), rest)
    | .cut fault => .error (.fault fault)
    | .done =>
      match presence with
      | .defaulted absent => return (make absent, .done)
      | _ => .error (.length earlier.names.length lengths)

/-- The known members of an object in text order, each checked as it is met; the others are
    skipped, or refused in a closed record. -/
def members {α : Type} (fields : Fields α) (closed : Bool) (found : List (String × Reading)) :
    Members → Except Failure (List (String × Reading))
  | .done => .ok found
  | .cut fault => .error (.fault fault)
  | .lost read _ => .error (.fault read)
  | .stray _ => .error (.fault .malformed)
  | .next none _ _ => .error (.fault .malformed)
  | .next (some key) value rest =>
    match fields.check? key with
    | none => do
      if closed then .error (.unknownField key fields.names)
      else
        Failure.ofFault value.skip
        members fields closed found rest
    | some check => do
      if (found.lookup key).isSome then .error (.duplicate key)
      else
        check value
        members fields closed ((key, value) :: found) rest

/-- The record written as an object. -/
def ofMembers {α : Type} (fields : Fields α) (all : Members) (closed : Bool) :
    Except Failure α := do
  fields.assemble (← fields.members closed [] all)

/-- The record written as an array. -/
def ofItems {α : Type} (fields : Fields α) (standing : Standing) (lengths : String)
    (items : Items) : Except Failure α := do
  let (a, rest) ← fields.sequence lengths items
  Decoder.finish standing fields.names.length rest
  return a

/-- Either written form; `expected` describes the type where something else stands. -/
def decodeAs {α : Type} (fields : Fields α) (expected lengths : String) (closed : Bool) :
    Decoder α
  | .array .tooDeep _ => .error (.fault .malformed)
  | .object .tooDeep _ => .error (.fault .malformed)
  | .array standing items => fields.ofItems standing lengths items
  | .object _ all => fields.ofMembers all closed
  | other => .error (.mismatch other expected)

/-- A type's name and the number of its fields, as a wrong length is reported. -/
def counted {α : Type} (fields : Fields α) (name : String) : String :=
  let count := fields.names.length
  if count = 1 then s!"{name} with 1 element" else s!"{name} with {count} elements"

/-- The decoder of a record type. -/
def decoder {α : Type} (fields : Fields α) (name : String) : Decoder α :=
  fields.decodeAs s!"struct {name}" (fields.counted s!"struct {name}") false

end Fields

/-! ## Enumerations -/

/-- The value a name stands for. -/
def Failure.ofName {α : Type} (cases : List (String × α)) (name : String) : Except Failure α :=
  match cases.lookup name with
  | some a => .ok a
  | none => .error (.unknownVariant name (cases.map Prod.fst))

/-- One of several names, written as a text or as an object with the name as its only key and
    `null` behind it. -/
def Decoder.oneOf {α : Type} (cases : List (String × α)) : Decoder α
  | .text (some s) => Failure.ofName cases s
  | .broken read _ => .error (.fault read)
  | .object .tooDeep _ => .error (.fault .malformed)
  | .object _ (.cut fault) => .error (.fault fault)
  | .object _ (.lost read _) => .error (.fault read)
  | .object _ (.stray value) => .error (.mismatch value "variant identifier")
  | .object _ (.next (some key) value rest) => do
    let a ← Failure.ofName cases key
    Decoder.unit "unit" value
    match rest with
    | .done => return a
    | .cut fault => .error (.fault fault)
    | _ => .error (.fault .malformed)
  | _ => .error (.fault .malformed)

/-- What a variant of a tagged enumeration holds. -/
inductive Case (α : Type) : Type 1 where
  | bare (a : α)
  | value (decode : Decoder α)
  | record (fields : Fields α)

/-- The variants of an enumeration by name. -/
abbrev Cases (α : Type) := List (String × Case α)

namespace Cases

/-- The names of the variants, each standing for itself. -/
def names {α : Type} (cases : Cases α) : List (String × String) :=
  cases.map fun case => (case.1, case.1)

end Cases

/-! ### The tag among the fields -/

/-- The members of an object split into the variant its tag names, read at once, and the others,
    held until the tag is known. -/
def splitTag (tag : String) (names : List (String × String)) (seen : Option String) :
    Members → Except Failure (Option String × Members)
  | .done => .ok (seen, .done)
  | .cut fault => .error (.fault fault)
  | .lost read _ => .error (.fault read)
  | .stray _ => .error (.fault .malformed)
  | .next none _ _ => .error (.fault .malformed)
  | .next (some key) value rest => do
    if key = tag then
      if seen.isSome then .error (.duplicate tag)
      else
        let name ← Failure.ofName names (← Decoder.textAs "variant identifier" value)
        splitTag tag names (some name) rest
    else
      let value ← Failure.ofFault value.hold
      let (seen, others) ← splitTag tag names seen rest
      return (seen, .next (some key) value others)

/-- Decodes what a variant holds from the members or elements beside its tag. -/
def Case.ofHeld {α : Type} (enum variant : String) : Case α → Decoder α
  | .bare a => fun _ => .ok a
  | .value decode => decode
  | .record fields =>
    let name := s!"struct variant {enum}::{variant}"
    fields.decodeAs name (fields.counted name) false

/-- Decodes what the named variant holds from the members or elements beside its tag. -/
def Cases.ofHeld {α : Type} (cases : Cases α) (enum : String) (spelled : String → String)
    (name : String) : Decoder α :=
  match cases.lookup name with
  | some case => case.ofHeld enum (spelled name)
  | none => fun _ => .error (.unknownVariant name (cases.map Prod.fst))

/-- An enumeration whose tag stands among the fields of the variant.  `spelled` gives the name of a
    variant as diagnostics show it. -/
def Decoder.taggedInside {α : Type} (enum tag : String) (spelled : String → String)
    (cases : Cases α) : Decoder α
  | .array .tooDeep _ => .error (.fault .malformed)
  | .object .tooDeep _ => .error (.fault .malformed)
  | .object _ all => do
    match ← splitTag tag cases.names none all with
    | (none, _) => .error (.missing tag)
    | (some name, others) => cases.ofHeld enum spelled name (.object .held others)
  | .array _ .done => .error (.missing tag)
  | .array _ (.cut fault) => .error (.fault fault)
  | .array _ (.next first rest) => do
    let name ← Failure.ofName cases.names (← Decoder.textAs "variant identifier" first)
    let rest ← Failure.ofFault rest.hold
    cases.ofHeld enum spelled name (.array .held rest)
  | other => .error (.mismatch other s!"internally tagged enum {enum}")

/-! ### The tag beside the content -/

/-- Decodes the content of a variant. -/
def Case.ofContent {α : Type} (enum variant : String) : Case α → Decoder α
  | .bare a => fun reading =>
    (Decoder.unit s!"unit variant {enum}::{variant}" reading).map fun _ => a
  | .value decode => decode
  | .record fields => fun reading =>
    let name := s!"struct variant {enum}::{variant}"
    match reading with
    | .array _ _ => .error (.mismatch reading name)
    | _ => fields.decodeAs name name false reading

/-- Decodes the content of the named variant, or what it is without any. -/
def Cases.ofContent {α : Type} (cases : Cases α) (enum content : String)
    (spelled : String → String) (name : String) : Option Reading → Except Failure α :=
  match cases.lookup name with
  | none => fun _ => .error (.unknownVariant name (cases.map Prod.fst))
  | some case => fun
    | some reading => case.ofContent enum (spelled name) reading
    | none =>
      match case with
      | .bare a => .ok a
      | _ => .error (.missing content)

/-- What the first relevant members of an object say: the tag first, the content first, or
    neither. -/
inductive TagOrContent where
  | tag (value : Reading) (rest : Members)
  | content (value : Reading) (rest : Members)
  | neither

/-- The next member that is the tag or the content; others are skipped. -/
def nextRelevant (tag content : String) : Members → Except Failure TagOrContent
  | .done => .ok .neither
  | .cut fault => .error (.fault fault)
  | .lost read _ => .error (.fault read)
  | .stray _ => .error (.fault .malformed)
  | .next none _ _ => .error (.fault .malformed)
  | .next (some key) value rest => do
    if key = tag then return .tag value rest
    else if key = content then return .content value rest
    else
      Failure.ofFault value.skip
      nextRelevant tag content rest

/-- The rest of an object in which tag and content have both been read. -/
def noneRelevant (tag content : String) (rest : Members) : Except Failure Unit := do
  match ← nextRelevant tag content rest with
  | .tag _ _ => .error (.duplicate tag)
  | .content _ _ => .error (.duplicate content)
  | .neither => return ()

/-- An enumeration written as a tag and a content beside it, in either order; the content of a
    variant that holds nothing may be left out. -/
def Decoder.taggedBeside {α : Type} (enum tag content : String) (spelled : String → String)
    (cases : Cases α) : Decoder α
  | .array .tooDeep _ => .error (.fault .malformed)
  | .object .tooDeep _ => .error (.fault .malformed)
  | .object _ all => do
    match ← nextRelevant tag content all with
    | .neither => .error (.missing tag)
    | .tag value rest =>
      let name ← Decoder.oneOf cases.names value
      match ← nextRelevant tag content rest with
      | .tag _ _ => .error (.duplicate tag)
      | .neither => cases.ofContent enum content spelled name none
      | .content value rest =>
        let a ← cases.ofContent enum content spelled name (some value)
        noneRelevant tag content rest
        return a
    | .content value rest =>
      let held ← Failure.ofFault value.hold
      match ← nextRelevant tag content rest with
      | .neither => .error (.missing tag)
      | .content _ _ => .error (.duplicate content)
      | .tag value rest =>
        let name ← Decoder.oneOf cases.names value
        let a ← cases.ofContent enum content spelled name (some held)
        noneRelevant tag content rest
        return a
  | .array _ .done => .error (.length 0 s!"adjacently tagged enum {enum}")
  | .array _ (.cut fault) => .error (.fault fault)
  | .array standing (.next first rest) => do
    let name ← Decoder.oneOf cases.names first
    match rest with
    | .done => .error (.length 1 s!"adjacently tagged enum {enum}")
    | .cut fault => .error (.fault fault)
    | .next second rest =>
      let a ← cases.ofContent enum content spelled name (some second)
      Decoder.finish standing 2 rest
      return a
  | other => .error (.mismatch other s!"adjacently tagged enum {enum}")

/-! ## Whole texts -/

/-- Decodes a whole text; only white space may stand behind the value. -/
def Decoder.ofChars {α : Type} (decode : Decoder α) (source : List Char) : Except Failure α := do
  let (reading, more) := Reading.ofChars source
  let a ← decode reading
  if more then .error (.fault .malformed) else return a

/-- Decodes a whole text as a value of a type. -/
def decodeText (α : Type) [Decode α] (source : String) : Except Failure α :=
  Decoder.ofChars (decode (α := α)) source.toList

/-- Decodes bytes that should be a text; where they are not, the text is malformed rather than
    cut off. -/
def decodeBytes (α : Type) [Decode α] (bytes : List UInt8) : Except Failure α :=
  let (source, damaged) := Utf8.wellFormedPart bytes
  if damaged then
    match Decoder.ofChars (decode (α := α)) source with
    | .error (.data detail) => .error (.data detail)
    | _ => .error (.fault .malformed)
  else Decoder.ofChars (decode (α := α)) source

/-! ## Scalar types -/

instance : Encode UInt64 := ⟨fun n => .number n.toNat⟩
instance : Decode UInt64 :=
  ⟨fun reading => (Decoder.natural (UInt64.size - 1) "u64" reading).map UInt64.ofNat⟩
instance : Encode UInt32 := ⟨fun n => .number n.toNat⟩
instance : Decode UInt32 :=
  ⟨fun reading => (Decoder.natural (UInt32.size - 1) "u32" reading).map UInt32.ofNat⟩
instance : Encode Int64 := ⟨fun n => .number n.toInt⟩
instance : Decode Int64 :=
  ⟨fun reading =>
    (Decoder.integer Int64.minValue.toInt Int64.maxValue.toInt "i64" reading).map Int64.ofInt⟩
instance : Encode Int32 := ⟨fun n => .number n.toInt⟩
instance : Decode Int32 :=
  ⟨fun reading =>
    (Decoder.integer Int32.minValue.toInt Int32.maxValue.toInt "i32" reading).map Int32.ofInt⟩
instance : Encode Bool := ⟨.bool⟩
instance : Decode Bool := ⟨Decoder.bool⟩
instance : Encode String := ⟨.text⟩
instance : Decode String := ⟨Decoder.textAs "a string"⟩
instance : Decode Path := ⟨fun reading => (Decoder.textAs "path string" reading).map Path.ofText⟩
instance {α : Type} [Encode α] : Encode (List α) := ⟨fun xs => .array (xs.map toJson)⟩
instance {α : Type} [Decode α] : Decode (List α) := ⟨Decoder.list decode⟩

namespace Duration

instance : Encode Duration where
  toJson d := .object [("secs", toJson d.secs), ("nanos", toJson d.nanos)]

/-- A span is written as its seconds and nanoseconds, and nothing else may stand beside them. -/
def fields : Fields (UInt64 × UInt32) :=
  Fields.done Prod.mk |>.required "secs" |>.required "nanos"

instance : Decode Duration where
  decode reading := do
    let (secs, nanos) ← fields.decodeAs "struct Duration" "struct Duration" true reading
    match carrying? secs nanos with
    | some d => return d
    | none => .error (.data "overflow deserializing Duration")

end Duration

end Interposition
