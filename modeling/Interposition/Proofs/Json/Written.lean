/-
  Written documents, as they are read.

  1. **Layouts** (`Layout`): the compact form and the indented one are one form, with other space
     between its pieces (`chars_eq`, `linesAt_eq`).

  2. **Trees** (`Json.reading`): what a document is read as, if nothing is wrong with it.

  3. **Reading** (`scanValue_form`): in any layout a document is read as its tree, and the reader
     stops where the document does.  The induction is on the document.  What stands behind an
     element is a text of its own (`behindElement`), which begins with the comma or the bracket that
     stops the element and has the rest of the array in it.
-/
import Interposition.Proofs.Json.Scalars

namespace Interposition

/-! ## Layouts -/

/-- What stands between the pieces of a written document: the space in front of an element or a
    member of a nesting depth, and the space behind a colon. -/
structure Layout where
  gap : Nat → List Char
  colon : List Char
  isSpace_gap : ∀ depth, ∀ c ∈ gap depth, Reading.isSpace c = true
  isSpace_colon : ∀ c ∈ colon, Reading.isSpace c = true

namespace Layout

/-- No space at all. -/
def compact : Layout where
  gap _ := []
  colon := []
  isSpace_gap _ _ h := by contradiction
  isSpace_colon _ h := by contradiction

/-- Every element and member on a line of its own. -/
def indented : Layout where
  gap := Json.lineBreak
  colon := [' ']
  isSpace_gap depth c h := by
    rcases List.mem_cons.mp h with rfl | h
    · rfl
    · rw [(List.mem_replicate.mp h).2]
      rfl
  isSpace_colon c h := by
    rw [List.mem_singleton.mp h]
    rfl

variable (layout : Layout)

mutual

/-- A document in a layout. -/
def form (depth : Nat) : Json → List Char
  | .null => ['n', 'u', 'l', 'l']
  | .bool b => if b then ['t', 'r', 'u', 'e'] else ['f', 'a', 'l', 's', 'e']
  | .number n => (toString n).toList
  | .text s => Json.textChars s
  | .array elements =>
    '[' :: elementForms (depth + 1) elements ++
      (if elements.isEmpty then [] else layout.gap depth) ++ [']']
  | .object members =>
    '\x7b' :: memberForms (depth + 1) members ++
      (if members.isEmpty then [] else layout.gap depth) ++ ['\x7d']
termination_by structural j => j

/-- Elements in a layout. -/
def elementForms (depth : Nat) : List Json → List Char
  | [] => []
  | x :: xs =>
    layout.gap depth ++ form depth x ++ (if xs.isEmpty then [] else [',']) ++
      elementForms depth xs
termination_by structural l => l

/-- Members in a layout. -/
def memberForms (depth : Nat) : List (String × Json) → List Char
  | [] => []
  | m :: ms =>
    layout.gap depth ++ memberForm depth m ++ (if ms.isEmpty then [] else [',']) ++
      memberForms depth ms
termination_by structural l => l

/-- One member in a layout. -/
def memberForm (depth : Nat) : String × Json → List Char
  | (key, value) => Json.textChars key ++ ':' :: layout.colon ++ form depth value
termination_by structural m => m

end

mutual

/-- The compact form is the one without space. -/
theorem chars_eq (depth : Nat) : (j : Json) → j.chars = compact.form depth j
  | .null => rfl
  | .bool b => rfl
  | .number n => rfl
  | .text s => rfl
  | .array elements => by
    rw [Json.chars, form, elementChars_eq (depth + 1) elements]
    simp [compact]
  | .object members => by
    rw [Json.chars, form, memberListChars_eq (depth + 1) members]
    simp [compact]
termination_by structural j => j

theorem elementChars_eq (depth : Nat) :
    (xs : List Json) → Json.elementChars xs = compact.elementForms depth xs
  | [] => rfl
  | x :: xs => by
    rw [Json.elementChars, elementForms, chars_eq depth x, elementChars_eq depth xs]
    simp [compact]
termination_by structural l => l

theorem memberListChars_eq (depth : Nat) :
    (ms : List (String × Json)) → Json.memberListChars ms = compact.memberForms depth ms
  | [] => rfl
  | m :: ms => by
    rw [Json.memberListChars, memberForms, memberChars_eq depth m, memberListChars_eq depth ms]
    simp [compact]
termination_by structural l => l

theorem memberChars_eq (depth : Nat) :
    (m : String × Json) → Json.memberChars m = compact.memberForm depth m
  | (key, value) => by
    rw [Json.memberChars, memberForm, chars_eq depth value]
    simp [compact]
termination_by structural m => m

end

mutual

/-- The indented form is the one with every element and member on its own line. -/
theorem linesAt_eq (depth : Nat) : (j : Json) → j.linesAt depth = indented.form depth j
  | .null => rfl
  | .bool b => rfl
  | .number n => rfl
  | .text s => rfl
  | .array elements => by
    rw [Json.linesAt, form, elementLines_eq (depth + 1) elements]
    cases elements <;> rfl
  | .object members => by
    rw [Json.linesAt, form, memberListLines_eq (depth + 1) members]
    cases members <;> rfl
termination_by structural j => j

theorem elementLines_eq (depth : Nat) :
    (xs : List Json) → Json.elementLines depth xs = indented.elementForms depth xs
  | [] => rfl
  | x :: xs => by
    rw [Json.elementLines, elementForms, linesAt_eq depth x, elementLines_eq depth xs]
    rfl
termination_by structural l => l

theorem memberListLines_eq (depth : Nat) :
    (ms : List (String × Json)) → Json.memberListLines depth ms = indented.memberForms depth ms
  | [] => rfl
  | m :: ms => by
    rw [Json.memberListLines, memberForms, memberLines_eq depth m, memberListLines_eq depth ms]
    rfl
termination_by structural l => l

theorem memberLines_eq (depth : Nat) :
    (m : String × Json) → Json.memberLines depth m = indented.memberForm depth m
  | (key, value) => by
    rw [Json.memberLines, memberForm, linesAt_eq depth value]
    simp [indented]
termination_by structural m => m

end

end Layout

/-! ## Documents as they are read -/

namespace Json

mutual

/-- What a document is read as. -/
def reading : Json → Reading
  | .null => .null
  | .bool b => .truth b
  | .number n => .number (.ofInt n)
  | .text s => .text (some s)
  | .array elements => .array .direct (itemsOf elements)
  | .object members => .object .direct (membersOf members)
termination_by structural j => j

/-- What elements are read as. -/
def itemsOf : List Json → Items
  | [] => .done
  | x :: xs => .next (reading x) (itemsOf xs)
termination_by structural l => l

/-- What members are read as. -/
def membersOf : List (String × Json) → Members
  | [] => .done
  | m :: ms => .next (some m.1) (valueOf m) (membersOf ms)
termination_by structural l => l

/-- What the value of a member is read as. -/
def valueOf : String × Json → Reading
  | (_, value) => reading value
termination_by structural m => m

end

mutual

/-- Whether a document can be read: its numbers fit a word, and it is no deeper than so many
    brackets. -/
def Fits (room : Nat) : Json → Prop
  | .number n => n.natAbs < UInt64.size
  | .array elements => 0 < room ∧ ElementsFit (room - 1) elements
  | .object members => 0 < room ∧ MembersFit (room - 1) members
  | _ => True
termination_by structural j => j

def ElementsFit (room : Nat) : List Json → Prop
  | [] => True
  | x :: xs => Fits room x ∧ ElementsFit room xs
termination_by structural l => l

def MembersFit (room : Nat) : List (String × Json) → Prop
  | [] => True
  | m :: ms => MemberFits room m ∧ MembersFit room ms
termination_by structural l => l

def MemberFits (room : Nat) : String × Json → Prop
  | (_, value) => Fits room value
termination_by structural m => m

end

end Json

namespace Reading

open Json (textChars escapedChar)

/-! ## Brackets -/

variable (layout : Layout)

/-- What stands behind an element of an array: the elements still to come, and the bracket. -/
def behindElement (depth : Nat) : List Json → List Char
  | [] => layout.gap depth ++ [']']
  | x :: xs =>
    ',' :: (layout.gap (depth + 1) ++ (layout.form (depth + 1) x ++ behindElement depth xs))

/-- What stands behind a member of an object: the members still to come, and the bracket. -/
def behindMember (depth : Nat) : List (String × Json) → List Char
  | [] => layout.gap depth ++ ['\x7d']
  | m :: ms =>
    ',' :: (layout.gap (depth + 1) ++ (layout.memberForm (depth + 1) m ++ behindMember depth ms))

theorem form_array_cons (depth : Nat) (x : Json) (xs : List Json) :
    layout.form depth (.array (x :: xs)) =
      '[' :: (layout.gap (depth + 1) ++ (layout.form (depth + 1) x ++
        behindElement layout depth xs)) := by
  have hbehind : (if xs.isEmpty then [] else [',']) ++ (layout.elementForms (depth + 1) xs ++
      (layout.gap depth ++ [']'])) = behindElement layout depth xs := by
    induction xs with
    | nil => rfl
    | cons y ys ih =>
      rw [behindElement, ← ih, Layout.elementForms]
      simp
  rw [Layout.form, Layout.elementForms, ← hbehind]
  simp

theorem form_object_cons (depth : Nat) (m : String × Json) (ms : List (String × Json)) :
    layout.form depth (.object (m :: ms)) =
      '\x7b' :: (layout.gap (depth + 1) ++ (layout.memberForm (depth + 1) m ++
        behindMember layout depth ms)) := by
  have hbehind : (if ms.isEmpty then [] else [',']) ++ (layout.memberForms (depth + 1) ms ++
      (layout.gap depth ++ ['\x7d'])) = behindMember layout depth ms := by
    induction ms with
    | nil => rfl
    | cons n ns ih =>
      rw [behindMember, ← ih, Layout.memberForms]
      simp
  rw [Layout.form, Layout.memberForms, ← hbehind]
  simp

theorem stops_append {space : List Char} (h : IsBlank space) {c : Char}
    (hc : c.isDigit = false ∧ c ≠ '.' ∧ c ≠ 'e' ∧ c ≠ 'E') (rest : List Char) :
    Numeral.Stops (space ++ c :: rest) := by
  intro d more heq
  cases space with
  | nil =>
    obtain ⟨rfl, -⟩ := List.cons.inj heq
    exact hc
  | cons s space =>
    obtain ⟨rfl, -⟩ := List.cons.inj heq
    have hs := h s (List.mem_cons_self ..)
    simp only [isSpace, Bool.or_eq_true, decide_eq_true_eq] at hs
    obtain ((rfl | rfl) | rfl) | rfl := hs <;> decide

theorem stops_behindElement (depth : Nat) (xs : List Json) (rest : List Char) :
    Numeral.Stops (behindElement layout depth xs ++ rest) := by
  cases xs with
  | nil =>
    rw [behindElement, List.append_assoc]
    exact stops_append (layout.isSpace_gap depth) (by decide) rest
  | cons x xs => exact stops_append isBlank_nil (by decide) _

theorem stops_behindMember (depth : Nat) (ms : List (String × Json)) (rest : List Char) :
    Numeral.Stops (behindMember layout depth ms ++ rest) := by
  cases ms with
  | nil =>
    rw [behindMember, List.append_assoc]
    exact stops_append (layout.isSpace_gap depth) (by decide) rest
  | cons m ms => exact stops_append isBlank_nil (by decide) _

/-- A written document begins with a character that is neither space nor a closing bracket. -/
theorem exists_form_eq (depth : Nat) (j : Json) :
    ∃ c more, layout.form depth j = c :: more ∧ isSpace c = false ∧ c ≠ ']' := by
  cases j with
  | null => exact ⟨_, _, rfl, by decide⟩
  | bool b => cases b <;> exact ⟨_, _, rfl, by decide⟩
  | number n =>
    obtain ⟨c, more, heq, hc⟩ := exists_toString_eq n
    exact ⟨c, more, heq, hc⟩
  | text s => exact ⟨_, _, rfl, by decide⟩
  | array elements => exact ⟨_, _, rfl, by decide⟩
  | object members => exact ⟨_, _, rfl, by decide⟩

/-- The closing bracket of an array ends it. -/
theorem scanItems_done (fuel depth : Nat) (first : Bool) (rest : List Char) :
    scanItems (fuel + 1) depth first (']' :: rest) = (.done, rest) := by
  rw [scanItems, skipSpace_cons rfl]
  rfl

/-- The first element of an array stands behind the bracket. -/
theorem scanItems_first {c : Char} (hspace : isSpace c = false) (hc : c ≠ ']') {fuel depth : Nat}
    {source behind rest : List Char} {value : Reading} {items : Items}
    (hvalue : scanValue fuel depth (c :: source) = (value, behind))
    (hitems : scanItems fuel depth false behind = (items, rest)) :
    scanItems (fuel + 1) depth true (c :: source) = (.next value items, rest) := by
  rw [scanItems, skipSpace_cons hspace]
  simp only [if_neg hc, if_true, hvalue, hitems]

/-- Every other element stands behind a comma. -/
theorem scanItems_comma {fuel depth : Nat} {source behind rest : List Char} {value : Reading}
    {items : Items} (hvalue : scanValue fuel depth source = (value, behind))
    (hitems : scanItems fuel depth false behind = (items, rest)) :
    scanItems (fuel + 1) depth false (',' :: source) = (.next value items, rest) := by
  rw [scanItems, skipSpace_cons rfl]
  simp only [hvalue, hitems]
  rfl

/-- An array is its elements behind the bracket. -/
theorem scanValue_array {fuel depth : Nat} {source rest : List Char} {items : Items}
    (hdepth : depth + 1 < depthLimit)
    (hitems : scanItems fuel (depth + 1) true source = (items, rest)) :
    scanValue (fuel + 1) depth ('[' :: source) = (.array .direct items, rest) := by
  have hstanding : standingAt (depth + 1) = .direct := if_pos hdepth
  rw [scanValue, skipSpace_cons rfl]
  simp only [hitems, hstanding]
  rfl

/-- The closing bracket of an object ends it. -/
theorem scanMembers_done (fuel depth : Nat) (first : Bool) (rest : List Char) :
    scanMembers (fuel + 1) depth first ('\x7d' :: rest) = (.done, rest) := by
  rw [scanMembers, skipSpace_cons rfl]
  rfl

/-- The first member of an object stands behind the bracket. -/
theorem scanMembers_first {key : String} {fuel depth : Nat} {source behind rest : List Char}
    {value : Reading} {members : Members}
    (hvalue : scanValue fuel depth source = (value, behind))
    (hmembers : scanMembers fuel depth false behind = (members, rest)) :
    scanMembers (fuel + 1) depth true (textChars key ++ ':' :: source) =
      (.next (some key) value members, rest) := by
  have hchars : textChars key ++ ':' :: source =
      '"' :: (key.toList.flatMap escapedChar ++ '"' :: ':' :: source) := by
    simp [textChars]
  rw [hchars, scanMembers, skipSpace_cons rfl]
  simp only [scanText_textChars, skipSpace_cons (c := ':') rfl, hvalue, hmembers]
  rfl

/-- Every other member stands behind a comma. -/
theorem scanMembers_comma {key : String} {space : List Char} (hspace : IsBlank space)
    {fuel depth : Nat} {source behind rest : List Char} {value : Reading} {members : Members}
    (hvalue : scanValue fuel depth source = (value, behind))
    (hmembers : scanMembers fuel depth false behind = (members, rest)) :
    scanMembers (fuel + 1) depth false (',' :: (space ++ (textChars key ++ ':' :: source))) =
      (.next (some key) value members, rest) := by
  have hchars : textChars key ++ ':' :: source =
      '"' :: (key.toList.flatMap escapedChar ++ '"' :: ':' :: source) := by
    simp [textChars]
  rw [hchars, scanMembers, skipSpace_cons rfl]
  simp only [skipSpace_append hspace, skipSpace_cons (c := '"') rfl, scanText_textChars,
    skipSpace_cons (c := ':') rfl, hvalue, hmembers]
  rfl

/-- An object is its members behind the bracket. -/
theorem scanValue_object {fuel depth : Nat} {source rest : List Char} {members : Members}
    (hdepth : depth + 1 < depthLimit)
    (hmembers : scanMembers fuel (depth + 1) true source = (members, rest)) :
    scanValue (fuel + 1) depth ('\x7b' :: source) = (.object .direct members, rest) := by
  have hstanding : standingAt (depth + 1) = .direct := if_pos hdepth
  rw [scanValue, skipSpace_cons rfl]
  simp only [hmembers, hstanding]
  rfl

mutual

/-- **A written document** is read as the document. -/
theorem scanValue_form (j : Json) (depth fuel : Nat) {room : Nat} {rest : List Char}
    (hfits : j.Fits room) (hdepth : depth + room < depthLimit)
    (hfuel : 2 * (layout.form depth j).length ≤ fuel) (hrest : Numeral.Stops rest) :
    scanValue fuel depth (layout.form depth j ++ rest) = (j.reading, rest) := by
  obtain ⟨fuel, rfl⟩ : ∃ n, fuel = n + 1 := by
    obtain ⟨c, more, heq, -⟩ := exists_form_eq layout depth j
    rw [heq, List.length_cons] at hfuel
    exact Nat.exists_eq_succ_of_ne_zero (by omega)
  match j with
  | .null => exact literal_append ..
  | .bool true => exact literal_append ..
  | .bool false => exact literal_append ..
  | .number n => exact scanValue_number hfits hrest fuel depth
  | .text s => exact scanValue_text s rest fuel depth
  | .array [] =>
    have hfuel : 2 * 2 ≤ fuel + 1 := hfuel
    obtain ⟨fuel, rfl⟩ : ∃ n, fuel = n + 1 := Nat.exists_eq_succ_of_ne_zero (by omega)
    have hroom : 0 < room := hfits.1
    exact scanValue_array (by omega) (scanItems_done fuel (depth + 1) true rest)
  | .array (x :: xs) =>
    obtain ⟨hroom, hx, hxs⟩ := hfits
    obtain ⟨c, more, heq, hspace, hc⟩ := exists_form_eq layout (depth + 1) x
    rw [form_array_cons] at hfuel ⊢
    simp only [List.length_cons, List.length_append] at hfuel
    obtain ⟨fuel, rfl⟩ : ∃ n, fuel = n + 1 := Nat.exists_eq_succ_of_ne_zero (by omega)
    have hvalue := scanValue_form x (depth + 1) fuel hx (by omega) (by omega)
      (stops_behindElement layout depth xs rest)
    have hitems := scanItems_behind xs depth fuel rest hxs (by omega)
      (by omega)
    rw [heq, List.cons_append] at hvalue
    simp only [List.cons_append, List.append_assoc, heq]
    refine scanValue_array (by omega) ?_
    rw [scanItems_append (layout.isSpace_gap _)]
    exact scanItems_first hspace hc hvalue hitems
  | .object [] =>
    have hfuel : 2 * 2 ≤ fuel + 1 := hfuel
    obtain ⟨fuel, rfl⟩ : ∃ n, fuel = n + 1 := Nat.exists_eq_succ_of_ne_zero (by omega)
    have hroom : 0 < room := hfits.1
    exact scanValue_object (by omega) (scanMembers_done fuel (depth + 1) true rest)
  | .object ((key, value) :: ms) =>
    obtain ⟨hroom, hx, hxs⟩ := hfits
    rw [form_object_cons] at hfuel ⊢
    simp only [List.length_cons, List.length_append, Layout.memberForm] at hfuel
    obtain ⟨fuel, rfl⟩ : ∃ n, fuel = n + 1 := Nat.exists_eq_succ_of_ne_zero (by omega)
    have hvalue := scanValue_form value (depth + 1) fuel hx (by omega) (by omega)
      (stops_behindMember layout depth ms rest)
    have hmembers := scanMembers_behind ms depth fuel rest hxs
      (by omega) (by omega)
    rw [← scanValue_append layout.isSpace_colon] at hvalue
    simp only [List.cons_append, List.append_assoc, Layout.memberForm]
    refine scanValue_object (by omega) ?_
    rw [scanMembers_append (layout.isSpace_gap _)]
    exact scanMembers_first hvalue hmembers
termination_by structural j

/-- Elements are read one after another, each behind a comma. -/
theorem scanItems_behind (xs : List Json) (depth fuel : Nat) (rest : List Char) {room : Nat}
    (hfits : Json.ElementsFit room xs) (hdepth : depth + 1 + room < depthLimit)
    (hfuel : 2 * (behindElement layout depth xs).length ≤ fuel + 1) :
    scanItems fuel (depth + 1) false (behindElement layout depth xs ++ rest) =
      (Json.itemsOf xs, rest) := by
  match xs with
  | [] =>
    rw [behindElement, List.length_append] at hfuel
    have hfuel : 2 * ((layout.gap depth).length + 1) ≤ fuel + 1 := hfuel
    obtain ⟨fuel, rfl⟩ : ∃ n, fuel = n + 1 := Nat.exists_eq_succ_of_ne_zero (by omega)
    rw [behindElement, List.append_assoc, scanItems_append (layout.isSpace_gap _)]
    exact scanItems_done fuel (depth + 1) false rest
  | x :: xs =>
    obtain ⟨hx, hxs⟩ := hfits
    simp only [behindElement, List.length_cons, List.length_append] at hfuel
    obtain ⟨fuel, rfl⟩ : ∃ n, fuel = n + 1 := Nat.exists_eq_succ_of_ne_zero (by omega)
    have hvalue := scanValue_form x (depth + 1) fuel hx hdepth (by omega)
      (stops_behindElement layout depth xs rest)
    have hitems := scanItems_behind xs depth fuel rest hxs hdepth
      (by omega)
    rw [← scanValue_append (layout.isSpace_gap (depth + 1))] at hvalue
    simp only [behindElement, List.cons_append, List.append_assoc]
    exact scanItems_comma hvalue hitems
termination_by structural xs

/-- Members are read one after another, each behind a comma. -/
theorem scanMembers_behind (ms : List (String × Json)) (depth fuel : Nat) (rest : List Char)
    {room : Nat} (hfits : Json.MembersFit room ms) (hdepth : depth + 1 + room < depthLimit)
    (hfuel : 2 * (behindMember layout depth ms).length ≤ fuel + 1) :
    scanMembers fuel (depth + 1) false (behindMember layout depth ms ++ rest) =
      (Json.membersOf ms, rest) := by
  match ms with
  | [] =>
    rw [behindMember, List.length_append] at hfuel
    have hfuel : 2 * ((layout.gap depth).length + 1) ≤ fuel + 1 := hfuel
    obtain ⟨fuel, rfl⟩ : ∃ n, fuel = n + 1 := Nat.exists_eq_succ_of_ne_zero (by omega)
    rw [behindMember, List.append_assoc, scanMembers_append (layout.isSpace_gap _)]
    exact scanMembers_done fuel (depth + 1) false rest
  | (key, value) :: ms =>
    obtain ⟨hx, hxs⟩ := hfits
    simp only [behindMember, Layout.memberForm, List.length_cons, List.length_append] at hfuel
    obtain ⟨fuel, rfl⟩ : ∃ n, fuel = n + 1 := Nat.exists_eq_succ_of_ne_zero (by omega)
    have hvalue := scanValue_form value (depth + 1) fuel hx hdepth (by omega)
      (stops_behindMember layout depth ms rest)
    have hmembers := scanMembers_behind ms depth fuel rest hxs hdepth
      (by omega)
    rw [← scanValue_append layout.isSpace_colon] at hvalue
    simp only [behindMember, Layout.memberForm, List.cons_append, List.append_assoc]
    exact scanMembers_comma (layout.isSpace_gap _) hvalue hmembers
termination_by structural ms

end

/-- **A whole written document** is read as the document, and nothing stands behind it. -/
theorem ofChars_form {j : Json} (h : j.Fits (depthLimit - 1)) :
    ofChars (layout.form 0 j) = (j.reading, false) := by
  have hend : Numeral.Stops [] := by
    intro c more heq
    contradiction
  have hscan := scanValue_form layout j 0 (2 * (layout.form 0 j).length + 2) h (by decide)
    (by omega) hend
  rw [List.append_nil] at hscan
  unfold ofChars
  rw [hscan]
  rfl

end Reading

end Interposition
