/-
  What a place of a command line is given.

  Words go to a place as they come, some of them judged and some still to be.  A command with one
  place and flags of other names only ever adds to what the place has (`gathered_of_scan`), so a
  plain word at the front of the command line is the first of what it is given (`leads_of_readPlain`).
  The demonstration cage is gated by such a word (`CageArguments.isGated_of_ofWords`).
-/
import Interposition.Process.Launch
import Interposition.Proofs.CommandLine.Names

namespace Interposition.CommandLine

theorem bind_eq_ok {α β : Type} {x : Except UsageError α} {f : α → Except UsageError β} {b : β} :
    (x >>= f) = .ok b ↔ ∃ a, x = .ok a ∧ f a = .ok b := by
  cases x with
  | error e => exact ⟨nofun, fun ⟨_, h, _⟩ => nomatch h⟩
  | ok a => exact ⟨fun h => ⟨a, rfl, h⟩, fun ⟨_, ha, h⟩ => Except.ok.inj ha ▸ h⟩

theorem Given.lookup_others {given : Given} {name other : String} (h : other ≠ name) :
    (given.filter fun entry => entry.1 ≠ name).lookup other = given.lookup other := by
  induction given with
  | nil => rfl
  | cons entry given ih =>
    by_cases hname : entry.1 = name
    · have hother : (other == entry.1) = false := by
        rw [hname]
        exact beq_false_of_ne h
      rw [List.filter_cons_of_neg (by simpa using hname), ih, List.lookup_cons, hother]
    · rw [List.filter_cons_of_pos (by simpa using hname), List.lookup_cons, List.lookup_cons, ih]

variable {usage : Usage} {place : Place} {flag : Flag} {slot : Slot} {values words : List String}
  {name text : String} {p p' : Progress} {stop : Stop}

namespace Progress

/-- The words that have gone to a place and are still to be judged. -/
def waiting (p : Progress) (place : Place) : List String :=
  match p.pending with
  | some (slot, values) => if slot.name = place.name then values else []
  | none => []

/-- The words that have gone to a place, judged or not. -/
def gathered (p : Progress) (place : Place) : List String :=
  (p.given.lookup place.name).getD [] ++ p.waiting place

/-! ## One step -/

/-- Values that are given go behind those that were given before. -/
theorem lookup_of_give (h : p.give slot values = .ok p') (name : String) : p'.pending = p.pending ∧
    (p'.given.lookup name).getD [] =
      (p.given.lookup name).getD [] ++ if slot.name = name then values else [] := by
  unfold give at h
  dsimp only at h
  split at h
  · cases h
  · split at h
    · cases h
    · split at h
      · cases h
      · cases h
        refine ⟨rfl, ?_⟩
        show (List.lookup name (_ ++ [_])).getD [] = _
        rw [List.lookup_append, List.lookup_cons, List.lookup_nil]
        by_cases hname : slot.name = name
        · subst hname
          have hothers : (p.given.filter fun entry => entry.1 ≠ slot.name).lookup slot.name =
              none := by
            refine List.lookup_eq_none_iff.mpr fun entry hentry => ?_
            exact bne_iff_ne.mpr (Ne.symm (of_decide_eq_true (List.mem_filter.mp hentry).2))
          rw [hothers, Option.none_or, beq_self_eq_true, if_pos rfl]
          rfl
        · have hother : (name == slot.name) = false := beq_false_of_ne (Ne.symm hname)
          rw [Given.lookup_others (Ne.symm hname), hother, if_neg hname, List.append_nil]
          simp only [Option.or_none]

/-- **Judging** what waits takes nothing away. -/
theorem gathered_of_settle (h : p.settle = .ok p') (place : Place) :
    p'.pending = none ∧ p'.gathered place = p.gathered place := by
  unfold settle at h
  split at h
  · next hnone =>
    cases h
    exact ⟨hnone, rfl⟩
  · next slot values hpending =>
    obtain ⟨hnone, hlookup⟩ := lookup_of_give h place.name
    have hnone : p'.pending = none := hnone
    refine ⟨hnone, ?_⟩
    unfold gathered waiting
    rw [hnone, hpending, hlookup, List.append_nil]

theorem gathered_of_pending_none (h : p.pending = none) :
    p.gathered place = (p.given.lookup place.name).getD [] := by
  unfold gathered waiting
  rw [h, List.append_nil]

/-- **A flag without a value** says nothing about the place. -/
theorem gathered_of_act (hname : flag.name ≠ place.name) (h : p.act flag = .ok p') :
    p'.gathered place = p.gathered place := by
  unfold act at h
  obtain ⟨settled, hsettle, h⟩ := bind_eq_ok.mp h
  obtain ⟨hnone, hgathered⟩ := gathered_of_settle hsettle place
  split at h
  · cases h
  · cases h
  · split at h
    · cases h
    · cases h
      have hother : (place.name == flag.name) = false := beq_false_of_ne hname.symm
      have hsame : (settled.given ++ [(flag.name, [])]).lookup place.name =
          settled.given.lookup place.name := by
        rw [List.lookup_append, List.lookup_cons, hother, List.lookup_nil, Option.or_none]
      rw [← hgathered, gathered_of_pending_none hnone, ← hsame]
      exact gathered_of_pending_none hnone

/-- **A flag with two dashes**, whatever it takes. -/
theorem gathered_of_long {value : Option String}
    (hflags : ∀ flag ∈ usage.flags, flag.name ≠ place.name) (h : p.long usage name value = .ok p') :
    p'.gathered place = p.gathered place := by
  unfold long at h
  split at h
  · cases h
  · next flag hflag =>
    have hname : flag.name ≠ place.name := hflags flag (List.mem_of_find?_eq_some hflag)
    have hsame : flag.name = name := by simpa using List.find?_some hflag
    split at h
    · next kind value _ =>
      obtain ⟨settled, hsettle, h⟩ := bind_eq_ok.mp h
      obtain ⟨hnone, hgathered⟩ := gathered_of_settle hsettle place
      obtain ⟨given, hgive, h⟩ := bind_eq_ok.mp h
      obtain ⟨hpending, hlookup⟩ := lookup_of_give hgive place.name
      cases h
      have hslot : (Slot.flag name kind).name ≠ place.name := fun heq => hname (hsame.trans heq)
      rw [if_neg hslot, List.append_nil] at hlookup
      rw [← hgathered, gathered_of_pending_none hnone, ← hlookup]
      exact gathered_of_pending_none (hpending.trans hnone)
    · next kind _ =>
      obtain ⟨settled, hsettle, h⟩ := bind_eq_ok.mp h
      obtain ⟨hnone, hgathered⟩ := gathered_of_settle hsettle place
      cases h
      rw [← hgathered, gathered_of_pending_none hnone]
      unfold gathered waiting
      simp
    · cases h
    · exact gathered_of_act hname h

/-- **Flags written as letters.** -/
theorem gathered_of_letters {letters : List Char}
    (hflags : ∀ flag ∈ usage.flags, flag.name ≠ place.name)
    (h : p.letters usage letters = .ok p') : p'.gathered place = p.gathered place := by
  induction letters generalizing p with
  | nil =>
    cases h
    rfl
  | cons letter rest ih =>
    unfold Progress.letters at h
    split at h
    · cases h
    · next flag hflag =>
      obtain ⟨acted, hact, h⟩ := bind_eq_ok.mp h
      have hname : flag.name ≠ place.name := hflags flag (List.mem_of_find?_eq_some hflag)
      rw [ih h, gathered_of_act hname hact]

/-- The first of the words that wait for the place. -/
theorem gathered_of_first {settled : Progress} (hsettle : p.settle = .ok settled)
    (hgiven : p'.given = settled.given) (hpending : p'.pending = some (.place place, [text])) :
    p'.gathered place = p.gathered place ++ [text] := by
  obtain ⟨hnone, hgathered⟩ := gathered_of_settle hsettle place
  rw [← hgathered, gathered_of_pending_none hnone]
  unfold gathered waiting
  rw [hgiven, hpending]
  exact congrArg _ (if_pos rfl)

/-- **A word that is no flag** goes to the one place there is. -/
theorem gathered_of_word (hplaces : usage.places = [place]) (hmany : place.many = true)
    (h : p.word usage text = some (.ok p')) :
    p'.gathered place = p.gathered place ++ [text] := by
  unfold word at h
  obtain ⟨⟨index, other⟩, hnext, h⟩ := Option.bind_eq_some_iff.mp h
  obtain ⟨_, hfound, heq⟩ := Option.map_eq_some_iff.mp hnext
  have hplace := List.mem_of_getElem? hfound
  rw [hplaces] at hplace
  obtain rfl := List.mem_singleton.mp hplace
  cases heq
  dsimp only at h
  split at h
  · cases h
  · have h := Option.some.inj h
    cases hpending : p.pending with
    | none =>
      simp only [hpending, Bool.false_eq_true, if_false] at h
      obtain ⟨settled, hsettle, h⟩ := bind_eq_ok.mp h
      cases h
      refine gathered_of_first hsettle rfl ?_
      simp [(gathered_of_settle hsettle other).1]
    | some entry =>
      obtain ⟨slot, values⟩ := entry
      by_cases hslot : slot = .place other
      · simp only [hpending, hslot, hmany, decide_true, Bool.and_self, if_true] at h
        cases h
        unfold gathered waiting
        simp [hpending, hslot, Slot.name]
      · simp only [hpending, hslot, decide_false, Bool.false_and, Bool.false_eq_true, if_false] at h
        obtain ⟨settled, hsettle, h⟩ := bind_eq_ok.mp h
        cases h
        refine gathered_of_first hsettle rfl ?_
        simp [(gathered_of_settle hsettle other).1]

/-- **What one word does** to what has been read. -/
inductive Reads (usage : Usage) (text : String) (p : Progress) : Progress → Prop where
  | value : Reads usage text p { p with
      pending := p.pending.map fun (slot, values) => (slot, values ++ [text]), expectsValue := false }
  | word {next : Progress} (h : p.word usage text = some (.ok next)) : Reads usage text p next
  | dashes : Reads usage text p { p with trailing := true }
  | long {name : String} {value : Option String} {next : Progress}
      (h : p.long usage name value = .ok next) : Reads usage text p next
  | letters {letters : List Char} {next : Progress} (h : p.letters usage letters = .ok next) :
      Reads usage text p next

theorem gathered_of_reads (hflags : ∀ flag ∈ usage.flags, flag.name ≠ place.name)
    (hplaces : usage.places = [place]) (hmany : place.many = true) (h : p.Reads usage text p') :
    p.gathered place <+: p'.gathered place := by
  cases h with
  | value =>
    unfold gathered waiting
    refine (List.prefix_append_right_inj _).mpr ?_
    cases p.pending with
    | none => exact List.prefix_rfl
    | some entry =>
      show (if entry.1.name = place.name then entry.2 else []) <+:
        if entry.1.name = place.name then entry.2 ++ [text] else []
      split
      · exact List.prefix_append _ _
      · exact List.prefix_rfl
  | word h =>
    rw [gathered_of_word hplaces hmany h]
    exact List.prefix_append _ _
  | dashes => exact List.prefix_rfl
  | long h => exact gathered_of_long hflags h ▸ List.prefix_rfl
  | letters h => exact gathered_of_letters hflags h ▸ List.prefix_rfl

end Progress

/-! ## A whole command line -/

/-- Words are read one by one, if the command has no subcommands. -/
theorem reads_of_scan_cons (h : scan usage [] p (text :: words) = .ok (p', stop)) :
    ∃ next, p.Reads usage text next ∧ scan usage [] next words = .ok (p', stop) := by
  have hword {result : Except UsageError Progress} (hresult : p.word usage text = some result)
      (h : (do scan usage [] (← result) words) = .ok (p', stop)) :
      ∃ next, p.Reads usage text next ∧ scan usage [] next words = .ok (p', stop) := by
    obtain ⟨next, rfl, h⟩ := bind_eq_ok.mp h
    exact ⟨next, .word hresult, h⟩
  rw [scan] at h
  simp only [List.contains_nil, Bool.and_false, List.isEmpty_nil, Bool.not_true, Bool.false_and,
    Bool.false_eq_true, if_false, if_true] at h
  split at h
  · next htrailing =>
    rw [htrailing, Bool.not_true, Bool.and_false, if_neg Bool.false_ne_true] at h
    split at h
    · next hresult => exact hword hresult h
    · cases h
  · split at h
    · exact ⟨_, .dashes, h⟩
    · obtain ⟨next, hnext, h⟩ := bind_eq_ok.mp h
      exact ⟨next, .long hnext, h⟩
    · obtain ⟨next, hnext, h⟩ := bind_eq_ok.mp h
      exact ⟨next, .letters hnext, h⟩
    · split at h
      · exact ⟨_, .value, h⟩
      · split at h
        · next hresult => exact hword hresult h
        · cases h

/-- **Reading on** only adds to what the place has. -/
theorem gathered_of_scan (hflags : ∀ flag ∈ usage.flags, flag.name ≠ place.name)
    (hplaces : usage.places = [place]) (hmany : place.many = true)
    (h : scan usage [] p words = .ok (p', stop)) : p.gathered place <+: p'.gathered place := by
  induction words generalizing p with
  | nil =>
    cases h
    exact List.prefix_rfl
  | cons text rest ih =>
    obtain ⟨next, hreads, h⟩ := reads_of_scan_cons h
    exact (Progress.gathered_of_reads hflags hplaces hmany hreads).trans (ih h)

/-- A plain word in front goes to the place. -/
theorem word_of_scan_start (hplain : IsPlain text)
    (h : scan usage [] .start (text :: words) = .ok (p', stop)) :
    ∃ next, Progress.start.word usage text = some (.ok next) ∧
      scan usage [] next words = .ok (p', stop) := by
  rw [scan] at h
  simp only [List.contains_nil, Bool.and_false, List.isEmpty_nil, Bool.not_true, Bool.false_and,
    Bool.false_eq_true, if_false, if_true, formOf_of_isPlain hplain, Progress.start] at h
  split at h
  · next result hresult =>
    obtain ⟨next, rfl, h⟩ := bind_eq_ok.mp h
    exact ⟨next, hresult, h⟩
  · cases h

/-- **A plain word in front** is the first that the place is given. -/
theorem leads_of_readPlain {given : Given} (hplain : IsPlain text)
    (hflags : ∀ flag ∈ usage.flags, flag.name ≠ place.name) (hplaces : usage.places = [place])
    (hmany : place.many = true) (h : readPlain usage (text :: words) = .ok given) :
    [text] <+: (given.lookup place.name).getD [] := by
  obtain ⟨⟨last, stop⟩, hscan, h⟩ := bind_eq_ok.mp h
  obtain ⟨settled, hsettle, h⟩ := bind_eq_ok.mp h
  have hgiven : settled.given = given := by
    split at h
    · exact Except.ok.inj h
    · cases h
  obtain ⟨hnone, hgathered⟩ := Progress.gathered_of_settle hsettle place
  obtain ⟨next, hword, hscan⟩ := word_of_scan_start hplain hscan
  have hfirst : next.gathered place = [text] := Progress.gathered_of_word hplaces hmany hword
  rw [← hgiven, ← Progress.gathered_of_pending_none hnone, hgathered, ← hfirst]
  exact gathered_of_scan hflags hplaces hmany hscan

namespace CageArguments

/-- **The word for gated cages** in front gates the cage, whatever else its command line says. -/
theorem isGated_of_ofWords {arguments : CageArguments}
    (h : ofWords (gatedToken :: words) = .ok arguments) : arguments.isGated = true := by
  obtain ⟨given, hread, h⟩ := bind_eq_ok.mp h
  have hplain : IsPlain gatedToken := by
    unfold IsPlain
    decide
  have hflags : ∀ flag ∈ usage.flags, flag.name ≠ "rest" := by decide
  have hplaces : usage.places = [⟨"rest", .text, true, false, false⟩] := rfl
  obtain ⟨more, hrest⟩ := leads_of_readPlain hplain hflags hplaces rfl hread
  cases h
  unfold isGated LoaderArguments.valuesOf
  rw [← hrest]
  rfl

end CageArguments

end Interposition.CommandLine
