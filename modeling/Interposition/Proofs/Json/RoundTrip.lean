/-
  Values in documents, there and back.

  1. **Standing for a value** (`Json.StandsFor`): a document that can be read, and that a decoder
     reads as the value.  Such a document is decoded from its text in any layout (`decodeText_form`)
     and from the bytes of its indented form (`decodeBytes_indented`).

  2. **Records** (`Fields.Takes`): the fields of a record and what is read for them.  When the fields
     have different names, the walk over the members of an object finds every field once, in
     whatever order they stand and whatever else stands among them, and the record is assembled of
     what the walk has found (`Takes.ofMembers_eq`).  So the object of the documents that the fields
     are written as, in the order they are declared, stands for the record (`Makes.standsFor`).
-/
import Mathlib.Data.List.Nodup
import Interposition.Json.Decode
import Interposition.Proofs.Json.Written
import Interposition.Proofs.Text.Utf8

namespace Interposition

/-! ## Documents that stand for values -/

/-- A document, no deeper than so many brackets, that a decoder reads as a value. -/
structure Json.StandsFor {α : Type} (decode : Decoder α) (room : Nat) (j : Json) (a : α) :
    Prop where
  fits : j.Fits room
  decode_eq : decode j.reading = .ok a

namespace Json.StandsFor

variable {α : Type} {decode : Decoder α} {room : Nat} {j : Json} {a : α}

/-- Decoding a document in a layout. -/
theorem ofChars_eq (h : j.StandsFor decode (Reading.depthLimit - 1) a) (layout : Layout) :
    Decoder.ofChars decode (layout.form 0 j) = .ok a := by
  unfold Decoder.ofChars
  rw [Reading.ofChars_form layout h.fits]
  show (do let a ← decode j.reading; if false then _ else return a) = _
  rw [h.decode_eq]
  rfl

end Json.StandsFor

theorem decodeText_form {α : Type} [Decode α] {j : Json} {a : α}
    (h : j.StandsFor decode (Reading.depthLimit - 1) a) (layout : Layout) :
    decodeText α (String.ofList (layout.form 0 j)) = .ok a := by
  unfold decodeText
  rw [String.toList_ofList]
  exact h.ofChars_eq layout

theorem decodeText_compact {α : Type} [Decode α] {j : Json} {a : α}
    (h : j.StandsFor decode (Reading.depthLimit - 1) a) : decodeText α j.compact = .ok a := by
  unfold Json.compact
  rw [Layout.chars_eq 0]
  exact decodeText_form h .compact

theorem decodeBytes_indented {α : Type} [Decode α] {j : Json} {a : α}
    (h : j.StandsFor decode (Reading.depthLimit - 1) a) :
    decodeBytes α (Utf8.ofText j.indented) = .ok a := by
  unfold decodeBytes Json.indented
  rw [Utf8.wellFormedPart_ofText, String.toList_ofList, Layout.linesAt_eq]
  exact h.ofChars_eq .indented

/-! ## Scalars -/

/-- A number up to a limit, which is no more than a word can hold. -/
theorem standsFor_natural (limit : Nat) {n : Nat} (hlimit : limit < UInt64.size) (hn : n ≤ limit)
    (expected : String) (room : Nat) :
    (Json.number n).StandsFor (Decoder.natural limit expected) room n where
  fits := Nat.lt_of_le_of_lt hn hlimit
  decode_eq := by
    have hword : (UInt64.ofNat n).toNat = n := UInt64.toNat_ofNat_of_lt' (Nat.lt_of_le_of_lt hn hlimit)
    show (if (UInt64.ofNat n).toNat ≤ limit then Except.ok (UInt64.ofNat n).toNat
      else _) = _
    rw [hword, if_pos hn]

/-- What is made of a value that has been read. -/
theorem Json.StandsFor.map {α β : Type} {decode : Decoder α} {room : Nat} {j : Json} {a : α}
    (h : j.StandsFor decode room a) (f : α → β) :
    j.StandsFor (fun reading => (decode reading).map f) room (f a) where
  fits := h.fits
  decode_eq := by
    rw [h.decode_eq]
    rfl

theorem standsFor_word (room : Nat) (n : UInt64) :
    (toJson n).StandsFor (decode (α := UInt64)) room n := by
  have h := (standsFor_natural (UInt64.size - 1) (by decide)
    (Nat.le_sub_one_of_lt (UInt64.toNat_lt n)) "u64" room).map UInt64.ofNat
  rwa [UInt64.ofNat_toNat] at h

theorem standsFor_halfWord (room : Nat) (n : UInt32) :
    (toJson n).StandsFor (decode (α := UInt32)) room n := by
  have h := (standsFor_natural (UInt32.size - 1) (by decide)
    (Nat.le_sub_one_of_lt (UInt32.toNat_lt n)) "u32" room).map UInt32.ofNat
  rwa [UInt32.ofNat_toNat] at h

/-- A number between two bounds, which a signed word can hold. -/
theorem standsFor_integer {low high n : Int} (hlow : -0x8000000000000000 ≤ low)
    (hhigh : high < 0x8000000000000000) (hn : low ≤ n ∧ n ≤ high) (expected : String)
    (room : Nat) :
    (Json.number n).StandsFor (Decoder.integer low high expected) room n where
  fits := by
    show n.natAbs < 2 ^ 64
    omega
  decode_eq := by
    cases n with
    | ofNat n =>
      have hword : (UInt64.ofNat n).toNat = n := by
        refine UInt64.toNat_ofNat_of_lt' ?_
        show n < 2 ^ 64
        have hle : (n : Int) ≤ high := hn.2
        omega
      have hle : ((UInt64.ofNat n).toNat : Int) ≤ high := by
        rw [hword]
        exact hn.2
      show (if ((UInt64.ofNat n).toNat : Int) ≤ high then Except.ok ((UInt64.ofNat n).toNat : Int)
        else _) = _
      rw [if_pos hle, hword]
      rfl
    | negSucc n =>
      have hbound : n + 1 ≤ 0x8000000000000000 := by omega
      have hread : Numeral.ofInt (Int.negSucc n) = .negative (-Int64.ofNat (n + 1)) := by
        show (if n + 1 ≠ 0 ∧ n + 1 ≤ 0x8000000000000000 then _ else _) = _
        rw [if_pos ⟨Nat.succ_ne_zero n, hbound⟩]
      have hint : (-Int64.ofNat (n + 1)).toInt = Int.negSucc n :=
        Int64.toInt_neg_ofNat_of_le hbound
      show Decoder.integer low high expected (.number (Numeral.ofInt (Int.negSucc n))) = _
      rw [hread]
      show (if low ≤ (-Int64.ofNat (n + 1)).toInt then Except.ok (-Int64.ofNat (n + 1)).toInt
        else _) = _
      rw [hint, if_pos hn.1]

theorem standsFor_signed (room : Nat) (n : Int64) :
    (toJson n).StandsFor (decode (α := Int64)) room n := by
  have h := (standsFor_integer (by decide) (by decide)
    ⟨Int64.minValue_le_toInt n, Int64.toInt_le n⟩ "i64" room).map Int64.ofInt
  rwa [Int64.ofInt_toInt] at h

theorem standsFor_bool (room : Nat) (b : Bool) :
    (toJson b).StandsFor (decode (α := Bool)) room b := ⟨trivial, rfl⟩

theorem standsFor_text (room : Nat) (s : String) :
    (toJson s).StandsFor (decode (α := String)) room s := ⟨trivial, rfl⟩

/-! ## Arrays -/

theorem standsFor_list {α : Type} {decode : Decoder α} {room : Nat} {write : α → Json} {xs : List α}
    (h : ∀ a ∈ xs, (write a).StandsFor decode room a) :
    (Json.array (xs.map write)).StandsFor (Decoder.list decode) (room + 1) xs where
  fits := by
    refine ⟨Nat.succ_pos room, ?_⟩
    induction xs with
    | nil => trivial
    | cons a xs ih =>
      exact ⟨(h a (List.mem_cons_self ..)).fits, ih fun b hb => h b (List.mem_cons_of_mem _ hb)⟩
  decode_eq := by
    show Decoder.elements decode (Json.itemsOf (xs.map write)) = .ok xs
    induction xs with
    | nil => rfl
    | cons a xs ih =>
      show (do let b ← decode (write a).reading; return b :: (← _)) = _
      rw [(h a (List.mem_cons_self ..)).decode_eq, ih fun b hb => h b (List.mem_cons_of_mem _ hb)]
      rfl

/-! ## Records -/

/-- The members of an object by key and value, in text order. -/
def Members.ofEntries : List (String × Reading) → Members
  | [] => .done
  | (key, value) :: rest => .next (some key) value (ofEntries rest)

theorem Json.membersOf_eq (ms : List (String × Json)) :
    Json.membersOf ms = Members.ofEntries (ms.map fun m => (m.1, m.2.reading)) := by
  induction ms with
  | nil => rfl
  | cons m ms ih =>
    obtain ⟨key, j⟩ := m
    show Members.next (some key) j.reading (membersOf ms) = _
    rw [ih]
    rfl

namespace Fields

theorem lookup_of_mem {β : Type} {entries : List (String × β)} {key : String} {value : β}
    (hkeys : (entries.map Prod.fst).Nodup) (hmem : (key, value) ∈ entries) :
    entries.lookup key = some value := by
  obtain ⟨front, rest, rfl⟩ := List.append_of_mem hmem
  rw [List.map_append, List.map_cons] at hkeys
  refine List.lookup_eq_some_iff.mpr ⟨front, rest, rfl, fun entry hentry => ?_⟩
  have hne := (List.nodup_append.mp hkeys).2.2 _ (List.mem_map.mpr ⟨entry, hentry, rfl⟩) key
    (List.mem_cons_self ..)
  exact bne_iff_ne.mpr (Ne.symm hne)

theorem check?_eq_none {α : Type} {fields : Fields α} {key : String} (h : key ∉ fields.names) :
    fields.check? key = none := by
  induction fields with
  | done a => rfl
  | field earlier name decode presence ih =>
    have hne : key ≠ name := fun heq => h (List.mem_append_right _ (List.mem_singleton.mpr heq))
    exact (if_neg hne).trans (ih fun hmem => h (List.mem_append_left _ hmem))

/-- Readings for the fields of a record, in order, and the record they make. -/
inductive Takes : {α : Type} → Fields α → List (String × Reading) → α → Prop where
  | done {α : Type} (a : α) : Takes (.done a) [] a
  | field {α β : Type} {earlier : Fields (α → β)} {es : List (String × Reading)} {make : α → β}
      {name : String} {decode : Decoder α} {presence : Presence α} {reading : Reading} {a : α}
      (h : Takes earlier es make) (hreading : decode reading = .ok a) :
      Takes (.field earlier name decode presence) (es ++ [(name, reading)]) (make a)

namespace Takes

variable {α : Type} {fields : Fields α} {es entries extra : List (String × Reading)} {a : α}

theorem names_eq (h : fields.Takes es a) : fields.names = es.map Prod.fst := by
  induction h with
  | done a => rfl
  | field h hreading ih => rw [names, ih, List.map_append, List.map_cons, List.map_nil]

/-- Every member is one of a known field, and its value decodes. -/
theorem check?_eq (h : fields.Takes es a) (hnames : (es.map Prod.fst).Nodup) {name : String}
    {reading : Reading} (hmem : (name, reading) ∈ es) :
    ∃ check, fields.check? name = some check ∧ check reading = .ok () := by
  induction h with
  | done a => contradiction
  | @field _ _ _ es _ last decode _ reading' _ h hreading ih =>
    rw [List.map_append, List.map_cons, List.map_nil] at hnames
    obtain ⟨hnames, -, hlast⟩ := List.nodup_append.mp hnames
    rcases List.mem_append.mp hmem with hmem | hmem
    · have hne : name ≠ last :=
        hlast name (List.mem_map.mpr ⟨_, hmem, rfl⟩) last (List.mem_singleton.mpr rfl)
      obtain ⟨check, hcheck, hok⟩ := ih hnames hmem
      exact ⟨check, (if_neg hne).trans hcheck, hok⟩
    · obtain ⟨rfl, rfl⟩ := Prod.mk.inj (List.mem_singleton.mp hmem)
      refine ⟨_, if_pos rfl, ?_⟩
      show (decode _).map _ = _
      rw [hreading]
      rfl

/-- The record is made of the members. -/
theorem assemble_eq (h : fields.Takes es a) {found : List (String × Reading)}
    (hfound : ∀ name reading, (name, reading) ∈ es → found.lookup name = some reading) :
    fields.assemble found = .ok a := by
  induction h with
  | done a => rfl
  | @field _ _ earlier es make name decode presence reading a h hreading ih =>
    have hmake := ih fun name reading hmem => hfound name reading (List.mem_append_left _ hmem)
    have hlast := hfound name reading (List.mem_append_right _ (List.mem_singleton.mpr rfl))
    rw [assemble, hmake, hlast]
    show (do return make (← decode reading)) = _
    rw [hreading]
    rfl

/-- Of members in any order, with others among them, those of the fields are the right ones. -/
theorem known_perm (h : fields.Takes es a) (hperm : entries.Perm (es ++ extra))
    (hextra : ∀ m ∈ extra, m.1 ∉ fields.names) :
    (entries.filter fun m => m.1 ∈ fields.names).Perm es := by
  have hes : (es.filter fun m => m.1 ∈ fields.names) = es :=
    List.filter_eq_self.mpr fun m hmem =>
      decide_eq_true (h.names_eq ▸ List.mem_map.mpr ⟨m, hmem, rfl⟩)
  have hnone : (extra.filter fun m => m.1 ∈ fields.names) = [] :=
    List.filter_eq_nil_iff.mpr fun m hmem => by simp [hextra m hmem]
  have hfilter := hperm.filter fun m => m.1 ∈ fields.names
  rwa [List.filter_append, hes, hnone, List.append_nil] at hfilter

/-- What the walk has found is followed by what it has yet to find, the last one first. -/
theorem members_eq_append (h : fields.Takes es a) (hnames : (es.map Prod.fst).Nodup) {closed : Bool}
    (hextra : ∀ m ∈ extra, m.1 ∉ fields.names ∧ m.2.skip = .ok () ∧ closed = false)
    {rest found : List (String × Reading)} (hrest : ∀ m ∈ rest, m ∈ es ++ extra)
    (hnew : ((rest.filter fun m => m.1 ∈ fields.names).map Prod.fst).Nodup)
    (hfound : ∀ m ∈ rest, m.1 ∈ fields.names → found.lookup m.1 = none) :
    fields.members closed found (Members.ofEntries rest) =
      .ok ((rest.filter fun m => m.1 ∈ fields.names).reverse ++ found) := by
  induction rest generalizing found with
  | nil => rfl
  | cons m rest ih =>
    obtain ⟨name, reading⟩ := m
    have hrest' : ∀ m ∈ rest, m ∈ es ++ extra :=
      fun m hmem => hrest m (List.mem_cons_of_mem _ hmem)
    rw [Members.ofEntries, members]
    by_cases hname : name ∈ fields.names
    · have hmem : (name, reading) ∈ es := by
        refine (List.mem_append.mp (hrest _ (List.mem_cons_self ..))).resolve_right fun hmem => ?_
        exact (hextra _ hmem).1 hname
      obtain ⟨check, hcheck, hok⟩ := h.check?_eq hnames hmem
      have hnone : found.lookup name = none := hfound _ (List.mem_cons_self ..) hname
      rw [List.filter_cons_of_pos (by simpa using hname)] at hnew ⊢
      obtain ⟨hfirst, hnew⟩ := List.nodup_cons.mp hnew
      have hlater : ∀ m ∈ rest, m.1 ∈ fields.names →
          ((name, reading) :: found).lookup m.1 = none := by
        intro m hmem hin
        have hne : m.1 ≠ name := fun heq => hfirst (List.mem_map.mpr
          ⟨m, List.mem_filter.mpr ⟨hmem, decide_eq_true hin⟩, heq⟩)
        rw [List.lookup_cons, beq_false_of_ne hne]
        exact hfound m (List.mem_cons_of_mem _ hmem) hin
      have hwalk := ih hrest' hnew hlater
      simp only [hcheck, hnone]
      show (do check reading; _) = _
      rw [hok, List.reverse_cons, List.append_assoc]
      exact hwalk
    · have hmem : (name, reading) ∈ extra := by
        refine (List.mem_append.mp (hrest _ (List.mem_cons_self ..))).resolve_left fun hmem => ?_
        exact hname (h.names_eq ▸ List.mem_map.mpr ⟨_, hmem, rfl⟩)
      obtain ⟨-, hskip, hopen⟩ := hextra _ hmem
      rw [List.filter_cons_of_neg (by simpa using hname)] at hnew ⊢
      have hwalk := ih hrest' hnew fun m hmem => hfound m (List.mem_cons_of_mem _ hmem)
      simp only [check?_eq_none hname, hopen] at hwalk ⊢
      show (do Failure.ofFault reading.skip; _) = _
      rw [hskip]
      exact hwalk

/-- **The walk** over members in any order, with others among them that are skipped: those of the
    fields are all taken. -/
theorem members_eq (h : fields.Takes es a) (hnames : (es.map Prod.fst).Nodup) {closed : Bool}
    (hperm : entries.Perm (es ++ extra))
    (hextra : ∀ m ∈ extra, m.1 ∉ fields.names ∧ m.2.skip = .ok () ∧ closed = false) :
    fields.members closed [] (Members.ofEntries entries) =
      .ok (entries.filter fun m => m.1 ∈ fields.names).reverse := by
  have hknown := h.known_perm hperm fun m hmem => (hextra m hmem).1
  have hnew := (hknown.map Prod.fst).nodup_iff.mpr hnames
  rw [h.members_eq_append hnames hextra (fun m hmem => hperm.mem_iff.mp hmem) hnew
    fun m hmem hin => rfl, List.append_nil]

/-- **A record** is made of members in any order, with others among them. -/
theorem ofMembers_eq (h : fields.Takes es a) (hnames : fields.names.Nodup) {closed : Bool}
    (hperm : entries.Perm (es ++ extra))
    (hextra : ∀ m ∈ extra, m.1 ∉ fields.names ∧ m.2.skip = .ok () ∧ closed = false) :
    fields.ofMembers (Members.ofEntries entries) closed = .ok a := by
  rw [h.names_eq] at hnames
  unfold ofMembers
  rw [h.members_eq hnames hperm hextra]
  have hknown := h.known_perm hperm fun m hmem => (hextra m hmem).1
  refine h.assemble_eq fun name reading hmem => lookup_of_mem ?_ ?_
  · rw [List.map_reverse, List.nodup_reverse]
    exact (hknown.map Prod.fst).nodup_iff.mpr hnames
  · exact List.mem_reverse.mpr (hknown.mem_iff.mpr hmem)

end Takes

/-- Documents for the fields of a record, in order, and the record they make. -/
inductive Makes (room : Nat) : {α : Type} → Fields α → List (String × Json) → α → Prop where
  | done {α : Type} (a : α) : Makes room (.done a) [] a
  | field {α β : Type} {earlier : Fields (α → β)} {ms : List (String × Json)} {make : α → β}
      {name : String} {decode : Decoder α} {presence : Presence α} {j : Json} {a : α}
      (h : Makes room earlier ms make) (hj : j.StandsFor decode room a) :
      Makes room (.field earlier name decode presence) (ms ++ [(name, j)]) (make a)

namespace Makes

variable {room : Nat} {α : Type} {fields : Fields α} {ms : List (String × Json)} {a : α}

theorem fits (h : fields.Makes room ms a) : Json.MembersFit room ms := by
  have happend (ms : List (String × Json)) {name : String} {j : Json}
      (hms : Json.MembersFit room ms) (hj : j.Fits room) :
      Json.MembersFit room (ms ++ [(name, j)]) := by
    induction ms with
    | nil => exact ⟨hj, trivial⟩
    | cons m ms ih => exact ⟨hms.1, ih hms.2⟩
  induction h with
  | done a => trivial
  | field h hj ih => exact happend _ ih hj.fits

/-- What is read of the documents makes the record. -/
theorem takes (h : fields.Makes room ms a) :
    fields.Takes (ms.map fun m => (m.1, m.2.reading)) a := by
  induction h with
  | done a => exact .done a
  | field h hj ih =>
    rw [List.map_append]
    exact .field ih hj.decode_eq

/-- **A record** is read back from the object of its fields, if they have different names. -/
theorem standsFor (h : fields.Makes room ms a) (hnames : fields.names.Nodup)
    (expected lengths : String) (closed : Bool) :
    (Json.object ms).StandsFor (fields.decodeAs expected lengths closed) (room + 1) a where
  fits := ⟨Nat.succ_pos room, h.fits⟩
  decode_eq := by
    show fields.ofMembers (Json.membersOf ms) closed = _
    rw [Json.membersOf_eq]
    exact h.takes.ofMembers_eq hnames (.of_eq (List.append_nil _).symm) nofun

end Makes

end Fields

end Interposition
