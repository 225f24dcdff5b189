/-
  Whole documents: reading any JSON text whose numbers are whole, and what can be said of a document
  without knowing its type.
-/
import Interposition.Json.Decode

namespace Interposition

/-! ## Reading -/

namespace Json

mutual

/-- The document that has been read. -/
def ofReading : Reading → Except Failure Json
  | .null => .ok .null
  | .truth b => .ok (.bool b)
  | .number (.unsigned n) => .ok (.number n.toNat)
  | .number (.negative n) => .ok (.number n.toInt)
  | .number n => .error (.mismatch (.number n) "a whole number")
  | .text (some s) => .ok (.text s)
  | .text none => .error (.fault .malformed)
  | .array .tooDeep _ => .error (.fault .malformed)
  | .array _ items => (ofItems items).map .array
  | .object .tooDeep _ => .error (.fault .malformed)
  | .object _ all => (ofMembers all).map .object
  | .broken read _ => .error (.fault read)
termination_by structural reading => reading

/-- The elements that have been read. -/
def ofItems : Items → Except Failure (List Json)
  | .done => .ok []
  | .cut fault => .error (.fault fault)
  | .next value rest => do
    let j ← ofReading value
    return j :: (← ofItems rest)
termination_by structural items => items

/-- The members that have been read. -/
def ofMembers : Members → Except Failure (List (String × Json))
  | .done => .ok []
  | .cut fault => .error (.fault fault)
  | .lost read _ => .error (.fault read)
  | .stray _ => .error (.fault .malformed)
  | .next none _ _ => .error (.fault .malformed)
  | .next (some key) value rest => do
    let j ← ofReading value
    return (key, j) :: (← ofMembers rest)
termination_by structural members => members

end

end Json

instance : Decode Json := ⟨Json.ofReading⟩
instance : Encode Json := ⟨id⟩

/-- The document a text is; nothing where it is none. -/
def Json.ofText (source : String) : Json :=
  match decodeText Json source with
  | .ok j => j
  | .error _ => .null

/-- The value a document stands for. -/
def decodeJson (α : Type) [Decode α] (j : Json) : Except Failure α := decodeText α j.compact

namespace Json

/-! ## Parts -/

/-- The member with a key; nothing where there is none. -/
def part (j : Json) (key : String) : Json := (j.member? key).getD .null

/-- Whether a member is there and is something. -/
def has (j : Json) (key : String) : Bool :=
  match j.part key with
  | null => false
  | _ => true

/-- The value a document stands for; the default one where it stands for none. -/
def as (α : Type) [Decode α] [Inhabited α] (j : Json) : α :=
  match decodeJson α j with
  | .ok a => a
  | .error _ => default

/-- The value a member stands for. -/
def get {α : Type} [Decode α] [Inhabited α] (j : Json) (key : String) : α := as α (j.part key)

/-- The elements of an array; anything else has none. -/
def elements : Json → List Json
  | array xs => xs
  | _ => []

/-- The element at a position; nothing where there is none. -/
def nth (j : Json) (i : Nat) : Json := (j.elements[i]?).getD .null

/-- The members of an object; anything else has none. -/
def members : Json → List (String × Json)
  | object ms => ms
  | _ => []

/-! ## Every part at once -/

mutual

/-- A document with every text that is a value changed by `onText`, and the members of every
    object by `onMembers`, innermost first. -/
def rebuild (onText : String → String)
    (onMembers : List (String × Json) → List (String × Json)) : Json → Json
  | text s => text (onText s)
  | array xs => array (rebuildElements onText onMembers xs)
  | object ms => object (onMembers (rebuildMembers onText onMembers ms))
  | other => other
termination_by structural j => j

/-- The same for elements. -/
def rebuildElements (onText : String → String)
    (onMembers : List (String × Json) → List (String × Json)) : List Json → List Json
  | [] => []
  | x :: xs => rebuild onText onMembers x :: rebuildElements onText onMembers xs
termination_by structural l => l

/-- The same for the values of members. -/
def rebuildMembers (onText : String → String)
    (onMembers : List (String × Json) → List (String × Json)) :
    List (String × Json) → List (String × Json)
  | [] => []
  | m :: ms => rebuildMember onText onMembers m :: rebuildMembers onText onMembers ms
termination_by structural l => l

/-- The same for the value of one member. -/
def rebuildMember (onText : String → String)
    (onMembers : List (String × Json) → List (String × Json)) : String × Json → String × Json
  | (key, value) => (key, rebuild onText onMembers value)
termination_by structural m => m

end

/-- A document with every text in it changed, keys included. -/
def mapTexts (f : String → String) : Json → Json :=
  rebuild f fun ms => ms.map fun (key, value) => (f key, value)

/-- A document with the value of every member changed, by its key and innermost first. -/
def mapMembers (f : String → Json → Json) : Json → Json :=
  rebuild id fun ms => ms.map fun (key, value) => (key, f key value)

/-- A document with the members of every object in the order of their keys. -/
def sorted : Json → Json := rebuild id fun ms => ms.mergeSort fun a b => a.1 ≤ b.1

/-- Documents in the order of their texts, the members of objects being sorted. -/
def inOrder (js : List Json) : List Json :=
  js.mergeSort fun a b => a.sorted.compact ≤ b.sorted.compact

end Json

/-! ## Values without a type of their own -/

instance : Encode Nat := ⟨fun n => .number n⟩
instance : Encode Int := ⟨.number⟩
instance : Decode Nat := ⟨Decoder.size⟩
instance : Encode (List (String × Json)) := ⟨.object⟩
instance {α : Type} [Encode α] : Encode (Option α) := ⟨fun a => (a.map toJson).getD .null⟩
instance {α : Type} [Decode α] : Decode (Option α) := ⟨Decoder.option decode⟩

/-- An array of exactly so many elements. -/
def Decoder.vector {α : Type} {n : Nat} (decode : Decoder α) : Decoder (Vector α n) :=
  fun reading => do
    let xs ← Decoder.list decode reading
    if h : xs.length = n then return ⟨xs.toArray, by simpa using h⟩
    else .error (.length xs.length s!"an array of length {n}")

/-- An array of a value of one type and a value of another. -/
def Decoder.pair {α β : Type} [Decode α] [Decode β] : Decoder (α × β) :=
  (Fields.done Prod.mk |>.required "0" |>.required "1").decodeAs "a tuple of size 2"
    "a tuple of size 2" false

instance {α : Type} {n : Nat} [Decode α] : Decode (Vector α n) := ⟨Decoder.vector decode⟩
instance {α β : Type} [Decode α] [Decode β] : Decode (α × β) := ⟨Decoder.pair⟩

/-- A value with a written form may stand where a document is wanted. -/
instance {α : Type} [Encode α] (a : α) : CoeDep α a Json := ⟨toJson a⟩

end Interposition
