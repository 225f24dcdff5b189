/-
  The argument vector of a call.

  A word means something only in the address space of one cage, so every argument carries the cage
  that owns it, and a handler that needs a value of its caller asks for it together with the owner
  it trusts.  On the wire the six arguments are twelve words: value, owner, value, owner, …
-/
import Interposition.Id
import Interposition.Diagnostic

namespace Interposition

/-- One argument and the cage whose address space gives it meaning. -/
structure Argument where
  value : Word
  cage : CageId
deriving DecidableEq, Inhabited

/-- The six arguments of an intercepted call. -/
structure ArgumentVector where
  slots : Vector Argument 6
deriving DecidableEq

/-- Why an argument vector cannot be built or an argument not be used. -/
inductive ProvenanceError where
  | foreignOwner (position : Nat) (owner trusted : CageId)
  | badPosition (position : Nat)
  | tooMany (count : Nat)
deriving DecidableEq

instance : Diagnostic ProvenanceError where
  message
    | .foreignOwner position owner trusted =>
      s!"argument {position} belongs to {owner}, handler only trusts {trusted}"
    | .badPosition position => s!"argument position {position} is outside the six-argument vector"
    | .tooMany count => s!"{count} arguments supplied, at most six are allowed"
  code
    | .foreignOwner _ _ _ => "grate::foreign_argument"
    | .badPosition _ => "grate::bad_position"
    | .tooMany _ => "grate::too_many_arguments"
  help
    | .foreignOwner _ _ _ =>
      some "Route cross-cage values through the runtime's copy mechanism instead."
    | _ => none

namespace ArgumentVector

/-- Six zeros that belong to no cage. -/
instance : Inhabited ArgumentVector := ⟨⟨Vector.replicate 6 ⟨0, ⟨0⟩⟩⟩⟩

/-- Six words that all belong to one cage. -/
def ofOwner (owner : CageId) (words : Vector Word 6) : ArgumentVector :=
  ⟨words.map fun word => ⟨word, owner⟩⟩

/-- Up to six words that all belong to one cage; the other slots are zero. -/
def ofValues (owner : CageId) (values : List Word) : Except ProvenanceError ArgumentVector :=
  if values.length > 6 then .error (.tooMany values.length)
  else .ok ⟨Vector.ofFn fun i => ⟨(values[i.val]?).getD 0, owner⟩⟩

/-- The vector of twelve words: value, owner, value, owner, … -/
def ofWords (words : Vector Word 12) : ArgumentVector :=
  ⟨Vector.ofFn fun i => ⟨words[2 * i.val], ⟨words[2 * i.val + 1]⟩⟩⟩

/-- The twelve words of the vector. -/
def toWords (args : ArgumentVector) : Vector Word 12 :=
  Vector.ofFn fun i =>
    let slot := args.slots[i.val / 2]
    if i.val % 2 = 0 then slot.value else slot.cage.raw

/-- The argument at a position, if there is such a position. -/
def get? (args : ArgumentVector) (position : Nat) : Option Argument := args.slots[position]?

/-- The word at a position, zero outside the vector. -/
def value (args : ArgumentVector) (position : Nat) : Word :=
  match args.get? position with
  | some slot => slot.value
  | none => 0

/-- The word at a position, provided it belongs to a trusted cage. -/
def ownedValue (args : ArgumentVector) (position : Nat) (trusted : CageId) :
    Except ProvenanceError Word :=
  match args.get? position with
  | none => .error (.badPosition position)
  | some slot =>
    if slot.cage = trusted then .ok slot.value
    else .error (.foreignOwner position slot.cage trusted)

/-- The six words without their owners. -/
def values (args : ArgumentVector) : Vector Word 6 := args.slots.map Argument.value

end ArgumentVector

/-! ## Written form -/

instance : Encode Argument where
  toJson slot := .object [("value", toJson slot.value), ("cage", toJson slot.cage)]

/-- The fields of an argument. -/
def Argument.fields : Fields Argument :=
  Fields.done Argument.mk |>.required "value" |>.required "cage"

instance : Decode Argument := ⟨Argument.fields.decoder "Arg"⟩

instance : Encode ArgumentVector := ⟨fun args => .array (args.slots.toList.map toJson)⟩

/-- An argument vector is written as an array of its slots. -/
def ArgumentVector.fields : Fields ArgumentVector :=
  Fields.done (fun a b c d e f => (⟨#v[a, b, c, d, e, f]⟩ : ArgumentVector))
    |>.required "0" |>.required "1" |>.required "2" |>.required "3" |>.required "4"
    |>.required "5"

instance : Decode ArgumentVector where
  decode reading :=
    let expected := "an array of length 6"
    match reading with
    | .object _ _ => .error (.mismatch reading expected)
    | _ => ArgumentVector.fields.decodeAs expected expected false reading

end Interposition
