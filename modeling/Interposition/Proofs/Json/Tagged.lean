/-
  Enumerations that are told apart by a tag, there and back.

  The tag of a variant stands among its fields, or beside a content that has all of them in it; and
  in a document that somebody else has written it may stand behind them.  A reader then has to hold
  what it has met before it knows what it is.

  1. **The tag among the fields** (`standsFor_taggedInside`): one walk takes the tag out, wherever it
     stands, and leaves the other members held and in order (`splitTag_eq`).

  2. **The tag beside the content** (`standsFor_taggedBeside`): one walk finds the next member that
     is either of the two (`nextRelevant_eq`), and there are two orders to be told apart.
-/
import Mathlib.Data.List.Permutation
import Interposition.Proofs.Json.Variation

namespace Interposition

open Fields (entriesOf reading_object)

variable {tag content name : String} {entries : List (String × Reading)} {seen : Option String}
  {names : List (String × String)}

theorem Cases.names_lookup {α : Type} {cases : Cases α} {case : Case α}
    (h : cases.lookup name = some case) : cases.names.lookup name = some name := by
  induction cases with
  | nil => contradiction
  | cons first cases ih =>
    rw [Cases.names, List.map_cons, List.lookup_cons]
    rw [List.lookup_cons] at h
    cases hname : name == first.1 with
    | true => rw [beq_iff_eq.mp hname]
    | false =>
      rw [hname] at h
      exact ih h

theorem ofName_eq (hname : names.lookup name = some name) :
    Failure.ofName names name = .ok name := by
  unfold Failure.ofName
  rw [hname]

/-! ## The tag among the fields -/

/-- Members without a tag are all held. -/
theorem splitTag_untagged (hhold : ∀ m ∈ entries, m.2.Holdable) (htag : ∀ m ∈ entries, m.1 ≠ tag) :
    splitTag tag names seen (Members.ofEntries entries) =
      .ok (seen, Members.ofEntries (heldEntries entries)) := by
  induction entries with
  | nil => rfl
  | cons m entries ih =>
    obtain ⟨key, reading⟩ := m
    have hrest := ih (fun m hmem => hhold m (List.mem_cons_of_mem _ hmem))
      fun m hmem => htag m (List.mem_cons_of_mem _ hmem)
    have hkey : key ≠ tag := htag _ (List.mem_cons_self ..)
    have hfirst : reading.hold = .ok reading.held := (hhold _ (List.mem_cons_self ..)).hold_eq
    rw [Members.ofEntries, splitTag, if_neg hkey, hfirst, hrest]
    rfl

/-- **The walk** takes out the only tag, wherever it stands. -/
theorem splitTag_eq (hhold : ∀ m ∈ entries, m.1 ≠ tag → m.2.Holdable)
    (htag : (entries.filter fun m => m.1 = tag) = [(tag, .text (some name))])
    (hname : names.lookup name = some name) :
    splitTag tag names none (Members.ofEntries entries) =
      .ok (some name,
        Members.ofEntries (heldEntries (entries.filter fun m => m.1 ≠ tag))) := by
  induction entries with
  | nil => contradiction
  | cons m entries ih =>
    obtain ⟨key, reading⟩ := m
    have hhold' : ∀ m ∈ entries, m.1 ≠ tag → m.2.Holdable :=
      fun m hmem => hhold m (List.mem_cons_of_mem _ hmem)
    rw [Members.ofEntries, splitTag]
    by_cases hkey : key = tag
    · rw [List.filter_cons_of_pos (by simpa using hkey)] at htag
      obtain ⟨hfirst, hnone⟩ := List.cons.inj htag
      obtain ⟨-, rfl⟩ := Prod.mk.inj hfirst
      have huntagged : ∀ m ∈ entries, m.1 ≠ tag := fun m hmem => by
        simpa using List.filter_eq_nil_iff.mp hnone m hmem
      have hothers : (entries.filter fun m => m.1 ≠ tag) = entries :=
        List.filter_eq_self.mpr fun m hmem => decide_eq_true (huntagged m hmem)
      rw [if_pos hkey, List.filter_cons_of_neg (by simpa using hkey), hothers]
      show (do let name ← Failure.ofName names name; _) = _
      rw [ofName_eq hname]
      exact splitTag_untagged (fun m hmem => hhold' m hmem (huntagged m hmem)) huntagged
    · have hfirst : reading.hold = .ok reading.held := (hhold _ (List.mem_cons_self ..) hkey).hold_eq
      rw [List.filter_cons_of_neg (by simpa using hkey)] at htag
      rw [if_neg hkey, hfirst, List.filter_cons_of_pos (by simpa using hkey), ih hhold' htag]
      rfl

section members

variable {ms others : List (String × Json)} {text : Json}
  (hperm : ms.Perm ((tag, text) :: others)) (hother : ∀ m ∈ others, m.1 ≠ tag)

include hperm hother

theorem filter_tag_of_perm : (ms.filter fun m => m.1 = tag) = [(tag, text)] := by
  have hnone : (others.filter fun m => m.1 = tag) = [] :=
    List.filter_eq_nil_iff.mpr fun m hmem => by simpa using hother m hmem
  have hfilter := hperm.filter fun m => m.1 = tag
  rw [List.filter_cons_of_pos (by simp), hnone] at hfilter
  exact List.perm_singleton.mp hfilter

theorem filter_untagged_of_perm : (ms.filter fun m => m.1 ≠ tag).Perm others := by
  have hfilter := hperm.filter fun m => m.1 ≠ tag
  rwa [List.filter_cons_of_neg (by simp), List.filter_eq_self.mpr
    fun m hmem => decide_eq_true (hother m hmem)] at hfilter

end members

/-- The walk over the members of a document. -/
theorem splitTag_entriesOf {ms others : List (String × Json)}
    (hperm : ms.Perm ((tag, .text name) :: others)) (hother : ∀ m ∈ others, m.1 ≠ tag)
    (hhold : ∀ m ∈ others, m.2.reading.Holdable) (hname : names.lookup name = some name) :
    splitTag tag names none (Members.ofEntries (entriesOf ms)) = .ok (some name,
      Members.ofEntries (heldEntries (entriesOf (ms.filter fun m => m.1 ≠ tag)))) := by
  have hfilter (keep : String → Bool) : ((entriesOf ms).filter fun m => keep m.1) =
      entriesOf (ms.filter fun m => keep m.1) := List.filter_map
  rw [splitTag_eq ?_ ?_ hname, hfilter fun key => key ≠ tag]
  · intro entry hentry hkey
    obtain ⟨m, hmem, rfl⟩ := List.mem_map.mp hentry
    refine hhold m ((List.mem_cons.mp (hperm.mem_iff.mp hmem)).resolve_left fun htag => ?_)
    exact hkey (congrArg Prod.fst htag)
  · rw [hfilter fun key => key = tag, filter_tag_of_perm hperm hother]
    rfl

section inside

variable {α β : Type} {room : Nat} {reserved : List String} {ms : List (String × Json)}
  {fields : Fields β} {b : β} {a : α} {enum : String} {spelled : String → String} {cases : Cases α}
  {case : Case α}

/-- **A variant with its tag among its fields** is read from every variation of its document. -/
theorem standsFor_taggedInside (h : fields.Endure room ms b) (hnames : (tag :: fields.names).Nodup)
    (hlookup : cases.lookup name = some case)
    (hcase : ∀ members, fields.ofMembers members false = .ok b →
      case.ofHeld enum (spelled name) (.object .held members) = .ok a) {j : Json}
    (hvaries : Json.Varies reserved (.object ((tag, .text name) :: ms)) j) :
    j.StandsFor (Decoder.taggedInside enum tag spelled cases) (room + 1) a := by
  obtain ⟨ms', varied, extra, rfl, hvaried, hextra, hperm⟩ := hvaries.object_inv
  obtain ⟨text, rest, rfl, htext, hrest⟩ := hvaried.cons_inv
  obtain rfl : text = .text name := htext.eq_of_isScalar trivial
  obtain ⟨htag, hnames⟩ := List.nodup_cons.mp hnames
  have hscalar : ∀ m ∈ extra, m.2.IsScalar := fun m hmem => (hextra m hmem).2.2
  have hnew : ∀ m ∈ extra, m.1 ∉ fields.names := fun m hmem hin =>
    (hextra m hmem).1 (List.mem_cons_of_mem _ (h.names ▸ hin))
  have hother : ∀ m ∈ rest ++ extra, m.1 ≠ tag := by
    intro m hmem
    rcases List.mem_append.mp hmem with hmem | hmem
    · rintro rfl
      refine htag ?_
      rw [h.names, ← hrest.keys]
      exact List.mem_map.mpr ⟨m, hmem, rfl⟩
    · rintro rfl
      exact (hextra m hmem).1 (List.mem_cons_self ..)
  have hhold : ∀ m ∈ rest ++ extra, m.2.reading.Holdable := fun m hmem =>
    h.holdable_of_perm hrest (.refl _) hscalar _ (List.mem_map.mpr ⟨m, hmem, rfl⟩)
  constructor
  · refine ⟨Nat.succ_pos room, Json.membersFit_iff.mpr fun m hmem => ?_⟩
    rcases List.mem_cons.mp (hperm.mem_iff.mp hmem) with rfl | hmem
    · trivial
    · exact h.fits_of_perm hrest (.refl _) hscalar m hmem
  · have hsplit := splitTag_entriesOf hperm hother hhold (Cases.names_lookup hlookup)
    rw [reading_object]
    simp only [Decoder.taggedInside, hsplit]
    show cases.ofHeld enum spelled name (.object .held (Members.ofEntries _)) = _
    unfold Cases.ofHeld
    rw [hlookup]
    exact hcase _ (h.ofMembers_held_eq hrest (filter_untagged_of_perm hperm hother) hscalar hnames
      hnew)

/-- A variant with fields. -/
theorem standsFor_taggedInside_record {fields : Fields α}
    (hlookup : cases.lookup name = some (.record fields)) (h : fields.Endure room ms a)
    (hnames : (tag :: fields.names).Nodup) {j : Json}
    (hvaries : Json.Varies reserved (.object ((tag, .text name) :: ms)) j) :
    j.StandsFor (Decoder.taggedInside enum tag spelled cases) (room + 1) a :=
  standsFor_taggedInside h hnames hlookup (fun _ hmembers => hmembers) hvaries

end inside

/-! ## The tag beside the content -/

/-- Whether a member is the tag or the content. -/
def isRelevant (tag content : String) (m : String × Reading) : Bool := m.1 = tag || m.1 = content

section beside

variable (hskip : ∀ m ∈ entries, isRelevant tag content m = false → m.2.skip = .ok ())

include hskip

theorem nextRelevant_of_none (hnone : entries.filter (isRelevant tag content) = []) :
    nextRelevant tag content (Members.ofEntries entries) = .ok .neither := by
  induction entries with
  | nil => rfl
  | cons m entries ih =>
    obtain ⟨key, reading⟩ := m
    have hfirst : isRelevant tag content (key, reading) = false := by
      simpa using List.filter_eq_nil_iff.mp hnone (key, reading) (List.mem_cons_self ..)
    rw [List.filter_cons_of_neg (by simp [hfirst])] at hnone
    have hrest := ih (fun m hmem => hskip m (List.mem_cons_of_mem _ hmem)) hnone
    obtain ⟨htag, hcontent⟩ : key ≠ tag ∧ key ≠ content := by simpa [isRelevant] using hfirst
    rw [Members.ofEntries, nextRelevant, if_neg htag, if_neg hcontent,
      hskip _ (List.mem_cons_self ..) hfirst]
    exact hrest

/-- **The walk** stops at the first member that is the tag or the content. -/
theorem nextRelevant_eq {key : String} {value : Reading} {more : List (String × Reading)}
    (hfirst : entries.filter (isRelevant tag content) = (key, value) :: more) :
    ∃ rest, rest ⊆ entries ∧ rest.filter (isRelevant tag content) = more ∧
      nextRelevant tag content (Members.ofEntries entries) =
        .ok (if key = tag then .tag value (Members.ofEntries rest)
          else .content value (Members.ofEntries rest)) := by
  induction entries with
  | nil => contradiction
  | cons m entries ih =>
    obtain ⟨key', reading⟩ := m
    rw [Members.ofEntries, nextRelevant]
    cases hrelevant : isRelevant tag content (key', reading) with
    | false =>
      obtain ⟨htag, hcontent⟩ : key' ≠ tag ∧ key' ≠ content := by
        simpa [isRelevant] using hrelevant
      rw [List.filter_cons_of_neg (by simp [hrelevant])] at hfirst
      obtain ⟨rest, hsubset, hmore, hnext⟩ :=
        ih (fun m hmem => hskip m (List.mem_cons_of_mem _ hmem)) hfirst
      refine ⟨rest, List.subset_cons_of_subset _ hsubset, hmore, ?_⟩
      rw [if_neg htag, if_neg hcontent, hskip _ (List.mem_cons_self ..) hrelevant]
      exact hnext
    | true =>
      rw [List.filter_cons_of_pos hrelevant] at hfirst
      obtain ⟨hsame, hmore⟩ := List.cons.inj hfirst
      obtain ⟨rfl, rfl⟩ := Prod.mk.inj hsame
      refine ⟨entries, List.subset_cons_self _ _, hmore, ?_⟩
      by_cases htag : key' = tag
      · rw [if_pos htag, if_pos htag]
        rfl
      · have hcontent : key' = content := by simpa [isRelevant, htag] using hrelevant
        rw [if_neg htag, if_neg htag, if_pos hcontent]
        rfl

theorem noneRelevant_eq (hnone : entries.filter (isRelevant tag content) = []) :
    noneRelevant tag content (Members.ofEntries entries) = .ok () := by
  unfold noneRelevant
  rw [nextRelevant_of_none hskip hnone]
  rfl

end beside

section beside

variable {α : Type} {a : α} {enum : String} {spelled : String → String} {cases : Cases α}
  {reading : Reading}

theorem oneOf_name (hname : names.lookup name = some name) :
    Decoder.oneOf names (.text (some name)) = .ok name := ofName_eq hname

variable (hskip : ∀ m ∈ entries, isRelevant tag content m = false → m.2.skip = .ok ())
  (hname : cases.names.lookup name = some name)

include hskip hname

/-- A variant without a content. -/
theorem taggedBeside_bare
    (hfilter : entries.filter (isRelevant tag content) = [(tag, .text (some name))])
    (hcase : cases.ofContent enum content spelled name none = .ok a) :
    Decoder.taggedBeside enum tag content spelled cases (.object .direct (Members.ofEntries entries)) =
      .ok a := by
  obtain ⟨rest, hsubset, hrest, hnext⟩ := nextRelevant_eq hskip hfilter
  have hlast := nextRelevant_of_none (fun m hmem => hskip m (hsubset hmem)) hrest
  rw [if_pos rfl] at hnext
  simp only [Decoder.taggedBeside, bind, Except.bind, hnext, oneOf_name hname, hlast, hcase]

/-- A variant with a content, which may stand on either side of the tag. -/
theorem taggedBeside_content (hne : content ≠ tag)
    (hfilter : (entries.filter (isRelevant tag content)).Perm
      [(tag, .text (some name)), (content, reading)])
    (hhold : reading.Holdable)
    (hcase : cases.ofContent enum content spelled name (some reading) = .ok a)
    (hheld : cases.ofContent enum content spelled name (some reading.held) = .ok a) :
    Decoder.taggedBeside enum tag content spelled cases (.object .direct (Members.ofEntries entries)) =
      .ok a := by
  rcases List.perm_pair.mp hfilter with hfilter | hfilter
  · obtain ⟨rest, hsubset, hrest, htag⟩ := nextRelevant_eq hskip hfilter
    have hskip' := fun m hmem => hskip m (hsubset hmem)
    obtain ⟨rest', hsubset', hrest', hcontent⟩ := nextRelevant_eq hskip' hrest
    have hnone := noneRelevant_eq (fun m hmem => hskip' m (hsubset' hmem)) hrest'
    rw [if_pos rfl] at htag
    rw [if_neg hne] at hcontent
    simp only [Decoder.taggedBeside, bind, Except.bind, htag, oneOf_name hname, hcontent, hcase,
      hnone]
    rfl
  · obtain ⟨rest, hsubset, hrest, hcontent⟩ := nextRelevant_eq hskip hfilter
    have hskip' := fun m hmem => hskip m (hsubset hmem)
    obtain ⟨rest', hsubset', hrest', htag⟩ := nextRelevant_eq hskip' hrest
    have hnone := noneRelevant_eq (fun m hmem => hskip' m (hsubset' hmem)) hrest'
    rw [if_neg hne] at hcontent
    rw [if_pos rfl] at htag
    simp only [Decoder.taggedBeside, bind, Except.bind, hcontent, hhold.hold_eq, Failure.ofFault,
      htag, oneOf_name hname, hheld, hnone]
    rfl

end beside

section beside

variable {α : Type} {a : α} {room : Nat} {enum : String} {spelled : String → String}
  {cases : Cases α} {case : Case α} {ms known extra : List (String × Json)} {j : Json}

/-- Of the members of an object the tag and the content are the relevant ones, and what else there
    is can be skipped. -/
theorem relevant_perm (hperm : ms.Perm (known ++ extra))
    (hknown : ∀ m ∈ known, m.1 = tag ∨ m.1 = content)
    (hextra : ∀ m ∈ extra, m.1 ≠ tag ∧ m.1 ≠ content ∧ m.2.IsScalar) :
    ((entriesOf ms).filter (isRelevant tag content)).Perm (entriesOf known) ∧
      ∀ m ∈ entriesOf ms, isRelevant tag content m = false → m.2.skip = .ok () := by
  have hentries : (entriesOf ms).Perm (entriesOf known ++ entriesOf extra) := by
    rw [← List.map_append]
    exact hperm.map _
  have hall : ∀ m ∈ entriesOf known, isRelevant tag content m = true := by
    intro entry hentry
    obtain ⟨m, hmem, rfl⟩ := List.mem_map.mp hentry
    simpa [isRelevant] using hknown m hmem
  have hnone : ∀ m ∈ entriesOf extra, isRelevant tag content m = false := by
    intro entry hentry
    obtain ⟨m, hmem, rfl⟩ := List.mem_map.mp hentry
    obtain ⟨htag, hcontent, -⟩ := hextra m hmem
    simp [isRelevant, htag, hcontent]
  constructor
  · have hnil : (entriesOf extra).filter (isRelevant tag content) = [] :=
      List.filter_eq_nil_iff.mpr fun m hmem => by simp [hnone m hmem]
    have hfilter := hentries.filter (isRelevant tag content)
    rwa [List.filter_append, List.filter_eq_self.mpr hall, hnil, List.append_nil] at hfilter
  · intro entry hentry hfalse
    rcases List.mem_append.mp (hentries.mem_iff.mp hentry) with hentry | hentry
    · rw [hall entry hentry] at hfalse
      contradiction
    · obtain ⟨m, hmem, rfl⟩ := List.mem_map.mp hentry
      exact (hextra m hmem).2.2.skip_reading

/-- **A variant with its tag alone** is read from every variation of its document, unless there is
    a content in it. -/
theorem standsFor_taggedBeside_bare (hlookup : cases.lookup name = some (.bare a))
    (hvaries : Json.Varies [content] (.object [(tag, .text name)]) j) :
    j.StandsFor (Decoder.taggedBeside enum tag content spelled cases) (room + 1) a := by
  obtain ⟨ms, varied, extra, rfl, hvaried, hextra, hperm⟩ := hvaries.object_inv
  obtain ⟨text, rest, rfl, htext, hrest⟩ := hvaried.cons_inv
  obtain rfl : text = .text name := htext.eq_of_isScalar trivial
  obtain rfl := List.forall₂_nil_left_iff.mp hrest.values
  have hothers : ∀ m ∈ extra, m.1 ≠ tag ∧ m.1 ≠ content ∧ m.2.IsScalar := by
    simpa using hextra
  obtain ⟨hfilter, hskip⟩ := relevant_perm hperm (by simp) hothers
  constructor
  · refine ⟨Nat.succ_pos room, Json.membersFit_iff.mpr fun m hmem => ?_⟩
    rcases List.mem_append.mp (hperm.mem_iff.mp hmem) with hmem | hmem
    · rw [List.mem_singleton.mp hmem]
      trivial
    · exact (hothers m hmem).2.2.fits room
  · rw [reading_object]
    refine taggedBeside_bare hskip (Cases.names_lookup hlookup) (List.perm_singleton.mp hfilter) ?_
    unfold Cases.ofContent
    rw [hlookup]

/-- **A variant with its content beside its tag** is read from every variation of its document. -/
theorem standsFor_taggedBeside {value : Json} {reserved : List String} (hne : content ≠ tag)
    (hlookup : cases.lookup name = some case)
    (hvalue : value.Endures (case.ofContent enum (spelled name)) room a)
    (hvaries : Json.Varies reserved (.object [(tag, .text name), (content, value)]) j) :
    j.StandsFor (Decoder.taggedBeside enum tag content spelled cases) (room + 1) a := by
  obtain ⟨ms, varied, extra, rfl, hvaried, hextra, hperm⟩ := hvaries.object_inv
  obtain ⟨text, rest, rfl, htext, hrest⟩ := hvaried.cons_inv
  obtain rfl : text = .text name := htext.eq_of_isScalar trivial
  obtain ⟨value', rest, rfl, hvalue', hrest⟩ := hrest.cons_inv
  obtain rfl := List.forall₂_nil_left_iff.mp hrest.values
  have hothers : ∀ m ∈ extra, m.1 ≠ tag ∧ m.1 ≠ content ∧ m.2.IsScalar := fun m hmem => by
    obtain ⟨hnew, -, hscalar⟩ := hextra m hmem
    simp only [List.map_cons, List.map_nil, List.mem_cons, not_or] at hnew
    exact ⟨hnew.1, hnew.2.1, hscalar⟩
  obtain ⟨hfilter, hskip⟩ := relevant_perm hperm (by simp) hothers
  constructor
  · refine ⟨Nat.succ_pos room, Json.membersFit_iff.mpr fun m hmem => ?_⟩
    rcases List.mem_append.mp (hperm.mem_iff.mp hmem) with hmem | hmem
    · rcases List.mem_cons.mp hmem with rfl | hmem
      · trivial
      · rw [List.mem_singleton.mp hmem]
        exact hvalue.fits value' hvalue'
    · exact (hothers m hmem).2.2.fits room
  · rw [reading_object]
    have hcontent (reading : Reading) : cases.ofContent enum content spelled name (some reading) =
        case.ofContent enum (spelled name) reading := by
      unfold Cases.ofContent
      rw [hlookup]
    exact taggedBeside_content hskip (Cases.names_lookup hlookup) hne hfilter
      (hvalue.holdable value' hvalue') ((hcontent _).trans (hvalue.decode_eq value' hvalue'))
      ((hcontent _).trans (hvalue.decode_held_eq value' hvalue'))

/-- A variant around one value. -/
theorem standsFor_taggedBeside_value {β : Type} {decode : Decoder β} {f : β → α} {b : β}
    {value : Json} {reserved : List String} (hne : content ≠ tag)
    (hlookup : cases.lookup name = some (.value fun reading => (decode reading).map f))
    (hvalue : value.Endures decode room b)
    (hvaries : Json.Varies reserved (.object [(tag, .text name), (content, value)]) j) :
    j.StandsFor (Decoder.taggedBeside enum tag content spelled cases) (room + 1) (f b) :=
  standsFor_taggedBeside hne hlookup (hvalue.map f) hvaries

/-- A variant with fields. -/
theorem standsFor_taggedBeside_record {fields : Fields α} {reserved : List String}
    (hne : content ≠ tag) (hlookup : cases.lookup name = some (.record fields))
    (h : fields.Endure room ms a) (hnames : fields.names.Nodup)
    (hvaries : Json.Varies reserved (.object [(tag, .text name), (content, .object ms)]) j) :
    j.StandsFor (Decoder.taggedBeside enum tag content spelled cases) (room + 2) a := by
  have hcontent : (Json.object ms).Endures ((Case.record fields).ofContent enum (spelled name))
      (room + 1) a := h.endures hnames fun _ members hplace => by
    rw [Case.ofContent]
    exact Fields.decodeAs_object fields _ _ _ hplace members
  exact standsFor_taggedBeside hne hlookup hcontent hvaries

end beside

end Interposition
