/-
  Documents with their members in another order, and with others among them.

  Whoever writes a document by hand, or with another program, need not keep to the order in which
  the fields are declared, and may say more than is asked for.

  1. **Variations** (`Json.Varies`): the members of any object in any order, and among them others
     whose keys are not taken and whose values have no parts.

  2. **Holding** (`Reading.held`): a value that is read before it is known what it is, is held, and
     what is held decodes as what stands in place does.

  3. **Enduring** (`Json.Endures`): a document that stands for a value in each of its variations, in
     place and held.  Numbers do because they have no parts.  A record does if its fields do
     (`Fields.Endure.endures`), and of its fields that is proved one by one, in the order they are
     declared.
-/
import Mathlib.Data.List.Forall2
import Interposition.Proofs.Json.Documents

namespace Interposition

/-! ## Holding -/

namespace Reading

/-- A value that can be held. -/
def Holdable (reading : Reading) : Prop := ∃ held, reading.hold = .ok held

/-- A value as it is held, if it can be. -/
def held (reading : Reading) : Reading :=
  match reading.hold with
  | .ok held => held
  | .error _ => reading

theorem Holdable.hold_eq {reading : Reading} (h : reading.Holdable) :
    reading.hold = .ok reading.held := by
  obtain ⟨held, hheld⟩ := h
  unfold Reading.held
  rw [hheld]

end Reading

/-- Members as they are held. -/
def heldEntries (entries : List (String × Reading)) : List (String × Reading) :=
  entries.map fun m => (m.1, m.2.held)

/-- Members are held one by one. -/
theorem Members.hold_ofEntries {entries : List (String × Reading)}
    (h : ∀ m ∈ entries, m.2.Holdable) :
    (Members.ofEntries entries).hold = .ok (Members.ofEntries (heldEntries entries)) := by
  induction entries with
  | nil => rfl
  | cons m entries ih =>
    obtain ⟨key, reading⟩ := m
    have hfirst : reading.hold = .ok reading.held := (h _ (List.mem_cons_self ..)).hold_eq
    show (do let value ← reading.hold; return Members.next (some key) value (← _)) = _
    rw [hfirst, ih fun m hmem => h m (List.mem_cons_of_mem _ hmem)]
    rfl

/-! ## Variations -/

namespace Json

/-- A value without parts.  A number is one that a word can hold, with a sign or without. -/
def IsScalar : Json → Prop
  | .number n => -0x8000000000000000 ≤ n ∧ n < 0x10000000000000000
  | .array _ => False
  | .object _ => False
  | _ => True

/-- A document, and the same with the members of its objects in another order at any depth and with
    members added whose keys are none of the object's; in the outermost object none of the reserved
    keys is added. -/
inductive Varies : List String → Json → Json → Prop where
  | same (reserved : List String) (j : Json) : Varies reserved j j
  | array {reserved : List String} {xs ys : List Json} (h : List.Forall₂ (Varies []) xs ys) :
      Varies reserved (.array xs) (.array ys)
  | object {reserved : List String} {ms varied extra ms' : List (String × Json)}
      (hkeys : varied.map Prod.fst = ms.map Prod.fst)
      (hvalues : List.Forall₂ (fun m m' => Varies [] m.2 m'.2) ms varied)
      (hextra : ∀ m ∈ extra, m.1 ∉ ms.map Prod.fst ∧ m.1 ∉ reserved ∧ m.2.IsScalar)
      (hperm : ms'.Perm (varied ++ extra)) :
      Varies reserved (.object ms) (.object ms')

/-- Members in the same order, with values that vary. -/
structure MembersVary (ms varied : List (String × Json)) : Prop where
  keys : varied.map Prod.fst = ms.map Prod.fst
  values : List.Forall₂ (fun m m' => Varies [] m.2 m'.2) ms varied

namespace MembersVary

theorem refl (ms : List (String × Json)) : MembersVary ms ms :=
  ⟨rfl, List.forall₂_same.mpr fun m _ => .same [] m.2⟩

/-- The first member varies by itself. -/
theorem cons_inv {m : String × Json} {ms varied : List (String × Json)}
    (h : MembersVary (m :: ms) varied) :
    ∃ j rest, varied = (m.1, j) :: rest ∧ Varies [] m.2 j ∧ MembersVary ms rest := by
  obtain ⟨hkeys, hvalues⟩ := h
  obtain ⟨m', rest, hm, hrest, rfl⟩ := List.forall₂_cons_left_iff.mp hvalues
  obtain ⟨hkey, hkeys⟩ := List.cons.inj hkeys
  exact ⟨m'.2, rest, by rw [← hkey], hm, hkeys, hrest⟩

/-- And so does the last. -/
theorem snoc_inv {m : String × Json} {ms varied : List (String × Json)}
    (h : MembersVary (ms ++ [m]) varied) :
    ∃ rest j, varied = rest ++ [(m.1, j)] ∧ MembersVary ms rest ∧ Varies [] m.2 j := by
  induction ms generalizing varied with
  | nil =>
    obtain ⟨j, rest, rfl, hj, hrest⟩ := cons_inv h
    obtain rfl := List.forall₂_nil_left_iff.mp hrest.values
    exact ⟨[], j, rfl, .refl [], hj⟩
  | cons first ms ih =>
    obtain ⟨j, rest, rfl, hj, hrest⟩ := cons_inv h
    obtain ⟨rest, last, rfl, hms, hlast⟩ := ih hrest
    refine ⟨(first.1, j) :: rest, last, rfl, ⟨?_, .cons hj hms.values⟩, hlast⟩
    rw [List.map_cons, List.map_cons, hms.keys]

end MembersVary

/-- A variation of an object is an object of the same members and others. -/
theorem Varies.object_inv {reserved : List String} {ms : List (String × Json)} {j : Json}
    (h : Varies reserved (.object ms) j) :
    ∃ ms' varied extra, j = .object ms' ∧ MembersVary ms varied ∧
      (∀ m ∈ extra, m.1 ∉ ms.map Prod.fst ∧ m.1 ∉ reserved ∧ m.2.IsScalar) ∧
      ms'.Perm (varied ++ extra) := by
  cases h with
  | same => exact ⟨ms, ms, [], rfl, .refl ms, nofun, .of_eq (List.append_nil ms).symm⟩
  | object hkeys hvalues hextra hperm => exact ⟨_, _, _, rfl, ⟨hkeys, hvalues⟩, hextra, hperm⟩

/-- The same members in another order, with others among them. -/
theorem Varies.of_perm {reserved : List String} {ms extra ms' : List (String × Json)}
    (hextra : ∀ m ∈ extra, m.1 ∉ ms.map Prod.fst ∧ m.1 ∉ reserved ∧ m.2.IsScalar)
    (hperm : ms'.Perm (ms ++ extra)) : Varies reserved (.object ms) (.object ms') :=
  .object (MembersVary.refl ms).keys (MembersVary.refl ms).values hextra hperm

/-- A value without parts does not vary. -/
theorem Varies.eq_of_isScalar {reserved : List String} {j j' : Json} (h : Varies reserved j j')
    (hj : j.IsScalar) : j' = j := by
  cases h with
  | same => rfl
  | array => exact hj.elim
  | object => exact hj.elim

/-! ## Values without parts -/

theorem membersFit_iff {room : Nat} {ms : List (String × Json)} :
    MembersFit room ms ↔ ∀ m ∈ ms, m.2.Fits room := by
  induction ms with
  | nil => exact iff_of_true trivial nofun
  | cons m ms ih =>
    obtain ⟨key, j⟩ := m
    rw [List.forall_mem_cons, ← ih]
    rfl

namespace IsScalar

variable {j : Json}

theorem fits (h : j.IsScalar) (room : Nat) : j.Fits room := by
  cases j with
  | number n =>
    obtain ⟨hlow, hhigh⟩ := h
    show n.natAbs < 2 ^ 64
    omega
  | array => exact h.elim
  | object => exact h.elim
  | null => trivial
  | bool => trivial
  | text => trivial

/-- It is held as it is read. -/
theorem hold_reading (h : j.IsScalar) : j.reading.hold = .ok j.reading := by
  cases j with
  | number n =>
    obtain ⟨hlow, hhigh⟩ := h
    show Reading.hold (.number (Numeral.ofInt n)) = .ok (.number (Numeral.ofInt n))
    cases n with
    | ofNat n => rfl
    | negSucc n =>
      have hsigned : Numeral.ofInt (Int.negSucc n) = .negative (-Int64.ofNat (n + 1)) :=
        if_pos ⟨Nat.succ_ne_zero n, by omega⟩
      rw [hsigned]
      rfl
  | array => exact h.elim
  | object => exact h.elim
  | null => rfl
  | bool => rfl
  | text => rfl

theorem held_reading (h : j.IsScalar) : j.reading.held = j.reading := by
  unfold Reading.held
  rw [h.hold_reading]

theorem skip_reading (h : j.IsScalar) : j.reading.skip = .ok () := by
  cases j with
  | array => exact h.elim
  | object => exact h.elim
  | number => rfl
  | null => rfl
  | bool => rfl
  | text => rfl

end IsScalar

end Json

/-! ## Enduring -/

/-- A document that a decoder reads as a value in every variation, in place and held. -/
structure Json.Endures {α : Type} (decode : Decoder α) (room : Nat) (j : Json) (a : α) : Prop where
  fits : ∀ j', Json.Varies [] j j' → j'.Fits room
  holdable : ∀ j', Json.Varies [] j j' → j'.reading.Holdable
  decode_eq : ∀ j', Json.Varies [] j j' → decode j'.reading = .ok a
  decode_held_eq : ∀ j', Json.Varies [] j j' → decode j'.reading.held = .ok a

namespace Json

variable {α β : Type} {decode : Decoder α} {room : Nat} {j : Json} {a : α}

/-- A value without parts endures if it is read at all. -/
theorem StandsFor.endures (h : j.StandsFor decode room a) (hj : j.IsScalar) :
    j.Endures decode room a := by
  constructor <;> intro j' hvaries <;> obtain rfl := hvaries.eq_of_isScalar hj
  · exact h.fits
  · exact ⟨_, hj.hold_reading⟩
  · exact h.decode_eq
  · rw [hj.held_reading]
    exact h.decode_eq

/-- What is made of a value that endures. -/
theorem Endures.map (h : j.Endures decode room a) (f : α → β) :
    j.Endures (fun reading => (decode reading).map f) room (f a) := by
  refine ⟨h.fits, h.holdable, fun j' hvaries => ?_, fun j' hvaries => ?_⟩
  · rw [h.decode_eq j' hvaries]
    rfl
  · rw [h.decode_held_eq j' hvaries]
    rfl

end Json

namespace Fields

variable {α β : Type} {room : Nat}

theorem decodeAs_object (fields : Fields α) (expected lengths : String) (closed : Bool)
    {standing : Standing} (h : standing ≠ .tooDeep) (members : Members) :
    fields.decodeAs expected lengths closed (.object standing members) =
      fields.ofMembers members closed := by
  cases standing with
  | direct => rfl
  | held => rfl
  | tooDeep => contradiction

/-- What is read for the members of an object. -/
abbrev entriesOf (ms : List (String × Json)) : List (String × Reading) :=
  ms.map fun m => (m.1, m.2.reading)

theorem reading_object (ms : List (String × Json)) :
    (Json.object ms).reading = .object .direct (Members.ofEntries (entriesOf ms)) :=
  congrArg (Reading.object .direct) (Json.membersOf_eq ms)

/-- Documents for the fields of a record, in order, that endure one by one. -/
structure Endure (room : Nat) (fields : Fields α) (ms : List (String × Json)) (a : α) : Prop where
  names : fields.names = ms.map Prod.fst
  fits : ∀ varied, Json.MembersVary ms varied → ∀ m ∈ varied, m.2.Fits room
  holdable : ∀ varied, Json.MembersVary ms varied → ∀ m ∈ varied, m.2.reading.Holdable
  takes : ∀ varied, Json.MembersVary ms varied → fields.Takes (entriesOf varied) a
  takes_held : ∀ varied, Json.MembersVary ms varied →
    fields.Takes (heldEntries (entriesOf varied)) a

namespace Endure

theorem done (a : α) : (Fields.done a).Endure room [] a := by
  have hnil {varied : List (String × Json)} (h : Json.MembersVary [] varied) : varied = [] :=
    List.forall₂_nil_left_iff.mp h.values
  refine ⟨rfl, ?_, ?_, ?_, ?_⟩ <;> intro varied h <;> obtain rfl := hnil h
  · exact nofun
  · exact nofun
  · exact .done a
  · exact .done a

theorem field {earlier : Fields (α → β)} {ms : List (String × Json)} {make : α → β} {name : String}
    {decode : Decoder α} {presence : Presence α} {j : Json} {a : α}
    (h : earlier.Endure room ms make) (hj : j.Endures decode room a) :
    (Fields.field earlier name decode presence).Endure room (ms ++ [(name, j)]) (make a) := by
  refine ⟨?_, fun varied hvaried => ?_, fun varied hvaried => ?_, fun varied hvaried => ?_,
    fun varied hvaried => ?_⟩
  · rw [Fields.names, h.names, List.map_append, List.map_cons, List.map_nil]
  all_goals obtain ⟨rest, j', rfl, hrest, hj'⟩ := hvaried.snoc_inv
  · intro m hmem
    rcases List.mem_append.mp hmem with hmem | hmem
    · exact h.fits rest hrest m hmem
    · rw [List.mem_singleton.mp hmem]
      exact hj.fits j' hj'
  · intro m hmem
    rcases List.mem_append.mp hmem with hmem | hmem
    · exact h.holdable rest hrest m hmem
    · rw [List.mem_singleton.mp hmem]
      exact hj.holdable j' hj'
  · rw [entriesOf, List.map_append]
    exact .field (h.takes rest hrest) (hj.decode_eq j' hj')
  · rw [heldEntries, entriesOf, List.map_append, List.map_append]
    exact .field (h.takes_held rest hrest) (hj.decode_held_eq j' hj')

section object

variable {fields : Fields α} {ms ms' varied extra : List (String × Json)} {a : α}
  (h : fields.Endure room ms a) (hvaried : Json.MembersVary ms varied)
  (hperm : ms'.Perm (varied ++ extra)) (hscalar : ∀ m ∈ extra, m.2.IsScalar)

include h hvaried hperm hscalar

theorem fits_of_perm : ∀ m ∈ ms', m.2.Fits room := by
  intro m hmem
  rcases List.mem_append.mp (hperm.mem_iff.mp hmem) with hmem | hmem
  · exact h.fits varied hvaried m hmem
  · exact (hscalar m hmem).fits room

theorem holdable_of_perm : ∀ m ∈ entriesOf ms', m.2.Holdable := by
  intro entry hentry
  obtain ⟨m, hmem, rfl⟩ := List.mem_map.mp hentry
  rcases List.mem_append.mp (hperm.mem_iff.mp hmem) with hmem | hmem
  · exact h.holdable varied hvaried m hmem
  · exact ⟨_, (hscalar m hmem).hold_reading⟩

variable (hnames : fields.names.Nodup) (hextra : ∀ m ∈ extra, m.1 ∉ fields.names)

include hnames hextra

/-- **The record** is made of the members in place. -/
theorem ofMembers_eq : fields.ofMembers (Members.ofEntries (entriesOf ms')) false = .ok a := by
  have hentries := hperm.map fun m => (m.1, m.2.reading)
  rw [List.map_append] at hentries
  refine (h.takes varied hvaried).ofMembers_eq hnames hentries fun entry hentry => ?_
  obtain ⟨m, hmem, rfl⟩ := List.mem_map.mp hentry
  exact ⟨hextra m hmem, (hscalar m hmem).skip_reading, rfl⟩

/-- And of the members that are held. -/
theorem ofMembers_held_eq :
    fields.ofMembers (Members.ofEntries (heldEntries (entriesOf ms'))) false = .ok a := by
  have hentries := (hperm.map fun m => (m.1, m.2.reading)).map fun m => (m.1, m.2.held)
  rw [List.map_append, List.map_append] at hentries
  refine (h.takes_held varied hvaried).ofMembers_eq hnames hentries fun entry hentry => ?_
  obtain ⟨place, hplace, rfl⟩ := List.mem_map.mp hentry
  obtain ⟨m, hmem, rfl⟩ := List.mem_map.mp hplace
  refine ⟨hextra m hmem, ?_, rfl⟩
  show m.2.reading.held.skip = _
  rw [(hscalar m hmem).held_reading]
  exact (hscalar m hmem).skip_reading

end object

/-- **A record** endures if its fields do, for whatever reads it from its members. -/
theorem endures {fields : Fields α} {ms : List (String × Json)} {a : α} {decode : Decoder α}
    (h : fields.Endure room ms a) (hnames : fields.names.Nodup)
    (hdecode : ∀ standing members, standing ≠ .tooDeep →
      decode (.object standing members) = fields.ofMembers members false) :
    (Json.object ms).Endures decode (room + 1) a := by
  have hfields {varied extra ms' : List (String × Json)} (hvaried : Json.MembersVary ms varied)
      (hextra : ∀ m ∈ extra, m.1 ∉ ms.map Prod.fst ∧ m.1 ∉ [] ∧ m.2.IsScalar)
      (hperm : ms'.Perm (varied ++ extra)) :
      (Json.object ms').Fits (room + 1) ∧
      (Json.object ms').reading.hold =
        .ok (.object .held (Members.ofEntries (heldEntries (entriesOf ms')))) ∧
      decode (Json.object ms').reading = .ok a ∧
      decode (.object .held (Members.ofEntries (heldEntries (entriesOf ms')))) = .ok a := by
    have hscalar : ∀ m ∈ extra, m.2.IsScalar := fun m hmem => (hextra m hmem).2.2
    have hnew : ∀ m ∈ extra, m.1 ∉ fields.names := by
      rw [h.names]
      exact fun m hmem => (hextra m hmem).1
    have hhold := Members.hold_ofEntries (h.holdable_of_perm hvaried hperm hscalar)
    refine ⟨⟨Nat.succ_pos room, Json.membersFit_iff.mpr
      (h.fits_of_perm hvaried hperm hscalar)⟩, ?_, ?_, ?_⟩
    · rw [reading_object]
      show (do return Reading.object .held (← (Members.ofEntries (entriesOf ms')).hold)) = _
      rw [hhold]
      rfl
    · rw [reading_object, hdecode .direct _ nofun]
      exact h.ofMembers_eq hvaried hperm hscalar hnames hnew
    · rw [hdecode .held _ nofun]
      exact h.ofMembers_held_eq hvaried hperm hscalar hnames hnew
  constructor <;> intro j' hvaries <;>
    obtain ⟨ms', varied, extra, rfl, hvaried, hextra, hperm⟩ := hvaries.object_inv <;>
    obtain ⟨hfits, hhold, hplace, hheld⟩ := hfields hvaried hextra hperm
  · exact hfits
  · exact ⟨_, hhold⟩
  · exact hplace
  · unfold Reading.held
    rw [hhold]
    exact hheld

theorem endures_decodeAs {fields : Fields α} {ms : List (String × Json)} {a : α}
    (h : fields.Endure room ms a) (hnames : fields.names.Nodup) (expected lengths : String) :
    (Json.object ms).Endures (fields.decodeAs expected lengths false) (room + 1) a :=
  h.endures hnames fun _ members hplace => decodeAs_object fields expected lengths false hplace members

end Endure

end Fields

end Interposition
