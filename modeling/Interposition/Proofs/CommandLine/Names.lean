/-
  Command lines that hold names only.

  A grate of a chain is started with names behind its own, and nothing marks them as names.  They
  are read as such when none begins with a dash (`GrateArguments.ofWords_of_plain`); one that does
  is read as a flag, whatever it was meant to be.
-/
import Interposition.CommandLine.Programs

namespace Interposition.CommandLine

/-- A word that cannot be taken for a flag. -/
def IsPlain (word : String) : Prop := word.toList.head? ≠ some '-'

theorem formOf_of_isPlain {word : String} (h : IsPlain word) : formOf word = .plain := by
  unfold formOf
  split
  · next hword => exact absurd (by rw [hword]; rfl) h
  · next hword => exact absurd (by rw [hword]; rfl) h
  · next hword => exact absurd (by rw [hword]; rfl) h
  · rfl

/-! ## One place for everything -/

/-- What a command takes whose words all go to one place. -/
def onePlace (name : String) : Usage :=
  ⟨helpFlag :: settingFlags, [⟨name, .text, true, false, false⟩]⟩

/-- Words that are being collected for the one place. -/
def collecting (name : String) (words : List String) : Progress :=
  ⟨[], some (.place ⟨name, .text, true, false, false⟩, words), false, true, 0, false⟩

theorem scan_start {name word : String} {rest : List String} (h : IsPlain word) :
    scan (onePlace name) [] .start (word :: rest) =
      scan (onePlace name) [] (collecting name [word]) rest := by
  rw [scan]
  simp [collecting, formOf_of_isPlain h, Progress.start, Progress.word, Progress.nextPlace?,
    Progress.settle, onePlace]
  rfl

/-- **One word** more is collected. -/
theorem scan_collecting {name word : String} {rest collected : List String} (h : IsPlain word) :
    scan (onePlace name) [] (collecting name collected) (word :: rest) =
      scan (onePlace name) [] (collecting name (collected ++ [word])) rest := by
  rw [scan]
  simp [collecting, formOf_of_isPlain h, Progress.word, Progress.nextPlace?, onePlace]

/-- **All words** are collected. -/
theorem scan_collecting_all {name : String} {words collected : List String}
    (h : ∀ word ∈ words, IsPlain word) :
    scan (onePlace name) [] (collecting name collected) words =
      .ok (collecting name (collected ++ words), .atEnd) := by
  induction words generalizing collected with
  | nil => rw [scan, List.append_nil]
  | cons word words ih =>
    rw [scan_collecting (h word List.mem_cons_self),
      ih fun later hlater => h later (List.mem_cons_of_mem word hlater), List.append_assoc]
    rfl

/-- Any text may go to the place. -/
theorem settle_collecting {name first : String} {rest : List String} :
    (collecting name (first :: rest)).settle =
      .ok ⟨[(name, first :: rest)], none, false, true, 0, false⟩ := by
  have hfaults : (first :: rest).findSome? ValueKind.text.fault? = none :=
    List.findSome?_eq_none_iff.mpr fun _ _ => rfl
  simp [collecting, Progress.settle, Progress.give, Slot.name, Slot.kind, hfaults]
  rfl

/-- **Plain words** are what is given. -/
theorem readPlain_of_plain {name first : String} {rest : List String}
    (h : ∀ word ∈ first :: rest, IsPlain word) :
    readPlain (onePlace name) (first :: rest) = .ok [(name, first :: rest)] := by
  have hscan : scan (onePlace name) [] .start (first :: rest) =
      .ok (collecting name (first :: rest), .atEnd) := by
    rw [scan_start (h first List.mem_cons_self),
      scan_collecting_all fun word hword => h word (List.mem_cons_of_mem first hword)]
    rfl
  unfold readPlain
  rw [hscan]
  simp only [bind, Except.bind, settle_collecting]
  rfl

/-! ## The grate -/

/-- No settings. -/
def Settings.none : Settings := ⟨.none, .none, .none, .none⟩

/-- **The names of a chain** are read as they are. -/
theorem GrateArguments.ofWords_of_plain {first : String} {rest : List String}
    (h : ∀ word ∈ first :: rest, IsPlain word) :
    GrateArguments.ofWords (first :: rest) = .ok ⟨.none, first :: rest⟩ := by
  have hread : readPlain ⟨helpFlag :: settingFlags, [⟨"chain", .text, true, false, false⟩]⟩
      (first :: rest) = .ok [("chain", first :: rest)] := readPlain_of_plain h
  unfold GrateArguments.ofWords
  rw [hread]
  simp [bind, Except.bind, pure, Except.pure, Settings.none, Settings.ofGiven, valueOf,
    LoaderArguments.valuesOf, stateDirFlag, readyTimeoutFlag, armTimeoutFlag, maxChainDepthFlag,
    List.lookup_nil, List.lookup_cons]

/-- Without settings of its own a program has those of its environment. -/
theorem Settings.config_none (fresh : Path) (lookup : String → Option String) :
    Settings.none.config fresh lookup = RuntimeConfig.fromLookup fresh lookup := by
  unfold Settings.config
  cases RuntimeConfig.fromLookup fresh lookup <;> rfl

end Interposition.CommandLine
