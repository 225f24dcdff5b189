/-
  A chain while it runs.

  Levels fork their cages whenever they come to it, and all of them share one journal.  What a level
  does beside this is of no consequence to the journal, so what is left of a chain are the children
  it has forked: each runs its setup, one request at a time, and becomes a cage only if that has
  ended well; then it takes its turns, at any of which it may look at the journal.  The steps of
  different children come in any order.

  1. **The journal** (`sharing`): it can always be read, and no write leaves half a record in it.

  2. **Setups** (`meets_setup`): whatever others append in between, a setup that ends well has left
     the record of the cage.

  3. **Sites** (`Site`, `Site.Sound`): what one step keeps, and so whatever they come to.

  4. **Whole runs** (`steps_of_reaches`, `steps_of_runWorkers`): what a child can do where there is
     nobody else it can do at a site.
-/
import Interposition.Proofs.Chain.Service
import Interposition.Proofs.Config

namespace Interposition.Chain

open Demo LoopbackRuntime
open Program (Meets meets_bind meets_iterate meets_request)

variable {machine : Machine} {config : RuntimeConfig} {pid grate : Pid}
  {file now : JournalContents}

/-! ## The journal -/

/-- What the operating system does for a child of a chain, which may have the journal open.  It
    leaves the journal alone, but for writes to it. -/
def sharing (machine : Machine) (self : Pid) (journal : Option FileHandle) :
    OperatingSystem JournalContents where
  answers
    | file, .identity, who, next => who.process = self ∧ next = file
    | file, .readFile path, answer, next => next = file ∧
      (path = machine.journalPath → answer = match file with
        | some bytes => .ok bytes
        | none => .error (.os .enoent))
    | file, .write handle bytes, answer, next =>
      next = file ∧ (journal = some handle → ∃ cause, answer = .error cause) ∨
        ∃ taken ≤ bytes.length, journal = some handle ∧ answer = .ok taken ∧
          next = file.extended (bytes.take taken) ∧ JournalRecord.byteLength ∣ next.bytes.length
    | file, _, _, next => next = file
  spawns _ _ _ _ _ _ := False

theorem sharing_shows (machine : Machine) (self : Pid) (journal : Option FileHandle)
    (file : JournalContents) : (sharing machine self journal).Shows file machine.journalPath file :=
  fun _ _ => and_congr_right fun _ => forall_prop_of_true rfl

/-- Whoever does not have the journal open leaves it alone. -/
theorem sharing_quiet (machine : Machine) (self : Pid) (file : JournalContents) :
    (sharing machine self none).Keeps (fun _ => True) (· = file) where
  answers {_ next request answer} := by
    rintro rfl - h
    cases request with
    | identity => exact h.2
    | readFile => exact h.1
    | write =>
      obtain ⟨hsame, -⟩ | ⟨_, -, hopen, -⟩ := h
      · exact hsame
      · cases hopen
    | _ => exact h
  spawns _ _ h := h.elim

/-- Everybody keeps the journal tidy, and takes nothing out of it. -/
def keeping : Contract JournalContents where
  invariant := Tidy
  rely file now := file.bytes <+: now.bytes
  guarantee file _ next := file.bytes <+: next.bytes
  rely_trans := List.IsPrefix.trans

theorem allows_same {deed : Deed} (htidy : Tidy file) : keeping.Allows file deed file :=
  ⟨htidy, List.prefix_rfl⟩

/-- One more record. -/
theorem Tidy.append {r : JournalRecord} (h : Tidy file) (hr : Enters r) :
    Tidy (file.extended r.encode) ∧ file.bytes <+: (file.extended r.encode).bytes ∧
      r ∈ JournalRecord.recordsOf (file.extended r.encode).bytes := by
  obtain ⟨records, rfl, henters⟩ := h
  have hall : records.flatMap JournalRecord.encode ++ r.encode =
      (records ++ [r]).flatMap JournalRecord.encode := by
    rw [List.flatMap_append, List.flatMap_singleton]
  refine ⟨⟨records ++ [r], congrArg some hall, ?_⟩, List.prefix_append _ _, ?_⟩
  · exact List.forall_mem_append.mpr ⟨henters, List.forall_mem_singleton.mpr hr⟩
  · show r ∈ JournalRecord.recordsOf (records.flatMap JournalRecord.encode ++ r.encode)
    rw [hall, JournalRecord.recordsOf_flatMap_encode]
    exact List.mem_append_right _ (List.mem_singleton_self r)

/-! ## Setups -/

/-- A write to a tidy journal of what is left of a record takes all of it or nothing. -/
theorem taken_of_whole {bytes : List UInt8} {taken : Nat} (htidy : Tidy file)
    (hlength : bytes.length = JournalRecord.byteLength) (hle : taken ≤ bytes.length)
    (hwhole : JournalRecord.byteLength ∣ (file.extended (bytes.take taken)).bytes.length) :
    taken = 0 ∨ taken = bytes.length := by
  obtain ⟨records, rfl, -⟩ := htidy
  have hsum : (JournalContents.extended (some (records.flatMap JournalRecord.encode))
      (bytes.take taken)).bytes.length =
      (records.flatMap JournalRecord.encode).length + taken := by
    show (records.flatMap JournalRecord.encode ++ bytes.take taken).length = _
    rw [List.length_append, List.length_take_of_le hle]
  rw [hsum, Nat.dvd_add_right (JournalRecord.dvd_length_flatMap_encode records)] at hwhole
  obtain rfl | hpos := Nat.eq_zero_or_pos taken
  · exact .inl rfl
  · exact .inr (Nat.le_antisymm hle (hlength ▸ Nat.le_of_dvd hpos hwhole))

/-- **Appending** a record of a cage, whatever others append in between. -/
theorem meets_append {handle : FileHandle} {r : JournalRecord} (hr : Enters r) :
    (Program.writeAll handle r.encode).Meets (sharing machine pid (some handle)) keeping
      (fun result now => result = .ok () → r ∈ JournalRecord.recordsOf now.bytes) file := by
  rw [writeAll_eq]
  -- between two rounds the record is still to be written, or it is there
  refine meets_iterate
    (fun rest now => rest = r.encode ∨ rest = [] ∧ r ∈ JournalRecord.recordsOf now.bytes) ?_
    (.inl rfl) ?_
  · rintro rest now next hnow hgrowth -
    exact hnow.imp_right fun h => ⟨h.1, (JournalRecord.recordsOf_isPrefix hgrowth).subset h.2⟩
  · rintro rest now - hnow
    unfold writeRound
    by_cases hrest : rest = []
    · subst hrest
      obtain hnil | ⟨-, hmem⟩ := hnow
      · have hlength := r.length_encode
        rw [← hnil] at hlength
        cases hlength
      · exact fun _ => hmem
    · obtain rfl : rest = r.encode := hnow.resolve_right fun h => hrest h.1
      rw [if_neg (mt List.isEmpty_iff.mp hrest)]
      refine meets_bind (meets_request fun now _ htidy answer between hanswer => ?_)
      obtain ⟨rfl, hfails⟩ | ⟨taken, hle, -, rfl, rfl, hwhole⟩ := hanswer
      · obtain ⟨cause, rfl⟩ := hfails rfl
        refine ⟨allows_same htidy, ?_⟩
        show Meets _ _ (pure (if _ then _ else _)) _ _
        split
        · exact .inl rfl
        · exact nofun
      · obtain rfl | rfl := taken_of_whole htidy r.length_encode hle hwhole
        · refine ⟨?_, nofun⟩
          rw [List.take_zero, JournalContents.extended_nil]
          exact allows_same htidy
        · rw [List.take_length]
          obtain ⟨htidy', hgrowth, hmem⟩ := htidy.append hr
          refine ⟨⟨htidy', hgrowth⟩, ?_⟩
          cases hlength : r.encode.length with
          | zero => exact absurd (List.length_eq_zero_iff.mp hlength) hrest
          | succ n => exact .inr ⟨by rw [← hlength, List.drop_length], hmem⟩

/-- **Registering** a cage of the demonstration: what is accepted has been recorded. -/
theorem meets_registerRaw (hpid : 0 < pid) (hgrate : 0 < grate) {handle : FileHandle} :
    ((JournalWriter.channel ⟨handle, machine.journalPath⟩).registerRaw (own pid grate)).Meets
      (sharing machine pid (some handle)) keeping
      (fun status now => status = RegistrationError.accepted → Registered pid now) file := by
  have hnone : JournalWriter.refusal? (.ofWords (own pid grate).toWords) = none :=
    JournalWriter.refusal?_eq_none_iff.mpr (wellFormed_own hpid hgrate)
  unfold Channel.registerRaw JournalWriter.channel
  rw [if_neg (not_not_intro rfl)]
  simp only [hnone]
  refine (meets_append (.intro hpid hgrate)).bind fun result now hmem => ?_
  cases result with
  | ok => exact fun _ => ⟨grate, hmem rfl⟩
  | error => exact nofun

/-- **A setup** of a cage of the demonstration that ends well has left a record of the cage. -/
theorem meets_setup (hpid : 0 < pid) (hgrate : 0 < grate) {handle : FileHandle} :
    (setup (demo config) ⟨handle, machine.journalPath⟩ (.ofPid grate)).Meets
      (sharing machine pid (some handle)) keeping
      (fun outcome now => outcome = none → Registered pid now) file := by
  refine meets_bind (meets_request fun now _ htidy who between ⟨hwho, hbetween⟩ => ?_)
  subst hbetween
  refine ⟨allows_same htidy, ?_⟩
  rw [hwho]
  refine (meets_registerRaw hpid hgrate).bind fun status now hstatus => ?_
  show Meets _ _ (if _ then _ else _) _ _
  split
  · exact nofun
  · next haccepted => exact fun _ => hstatus (not_not.mp haccepted)

/-! ## Sites -/

/-- A child that a level has forked. -/
inductive Member where
  /-- What is left of its setup. -/
  | booting (grate : Pid) (rest : Program (Option Errno))
  /-- It has become a cage: its settings, its threads, and the runtime they share. -/
  | cage (settings : RuntimeConfig) (workers : List Worker) (runtime : LoopbackRuntime)

/-- The journal of a chain, and the children there are.  A number whose child is gone may be given
    to another one. -/
structure Site where
  journal : JournalContents
  members : Pid → Option Member

namespace Site

/-- A chain that has just been launched. -/
def empty : Site := ⟨some [], fun _ => none⟩

/-- The site with the journal and a child as they have become, or without the child. -/
def put (site : Site) (journal : JournalContents) (pid : Pid) (member : Option Member) : Site :=
  ⟨journal, Function.update site.members pid member⟩

/-- One step of one child, or of the level that forks it. -/
inductive Step (machine : Machine) (config : RuntimeConfig) : Site → Site → Prop where
  /-- A level forks the cage of its grate. -/
  | forks {site : Site} {grate pid : Pid} (hgrate : 0 < grate) (hpid : 0 < pid)
      (free : site.members pid = none) :
      Step machine config site (site.put site.journal pid (some (.booting grate
        (setup (demo config) ⟨machine.journal grate, machine.journalPath⟩ (.ofPid grate)))))
  /-- A child goes on with its setup. -/
  | boots {site : Site} {grate pid : Pid} {rest rest' : Program (Option Errno)} {deed : Deed}
      {journal : JournalContents} (child : site.members pid = some (.booting grate rest))
      (step : Program.Step (sharing machine pid (some (machine.journal grate))) rest site.journal
        deed rest' journal) :
      Step machine config site (site.put journal pid (some (.booting grate rest')))
  /-- A child whose setup has ended well becomes a cage, and finds the settings it was given. -/
  | becomes {site : Site} {grate pid : Pid} {settings : RuntimeConfig} {depth : UInt32}
      {fresh : Path} {lookup : String → Option String} {self : Identity} {threads : UInt64}
      (child : site.members pid = some (.booting grate (pure none)))
      (vars : ∀ entry ∈ childVariables (demo config) depth, lookup entry.1 = some entry.2)
      (reads : RuntimeConfig.fromLookup fresh lookup = .ok settings) :
      Step machine config site (site.put site.journal pid (some (.cage settings
        ((List.range (max threads.toNat 1)).map Worker.fresh)
        (.new settings.journalPath (catalog settings.stateDir) (.host self)))))
  /-- A cage takes a turn. -/
  | plays {site : Site} {pid : Pid} {settings : RuntimeConfig} {workers workers' : List Worker}
      {runtime runtime' : LoopbackRuntime} {journal : JournalContents}
      (child : site.members pid = some (.cage settings workers runtime))
      (turn : (takeTurn (.ofPid pid) (workers, runtime)).Runs (sharing machine pid none)
        site.journal (.inl (workers', runtime')) journal) :
      Step machine config site (site.put journal pid (some (.cage settings workers' runtime')))
  /-- A child is gone. -/
  | ends {site : Site} {pid : Pid} : Step machine config site (site.put site.journal pid none)

/-- What a chain comes to in some steps. -/
abbrev Reached (machine : Machine) (config : RuntimeConfig) : Site → Prop :=
  Relation.ReflTransGen (Step machine config) empty

end Site

/-- A child is where it should be: its setup will leave a record of it, or it has. -/
def Member.Sound (machine : Machine) (config : RuntimeConfig) (pid : Pid) (file : JournalContents) :
    Member → Prop
  | .booting grate rest =>
    rest.Meets (sharing machine pid (some (machine.journal grate))) keeping
      (fun outcome now => outcome = none → Registered pid now) file
  | .cage settings workers runtime =>
    Registered pid file ∧ (config.Survives → settings = config) ∧
      (settings.journalPath = machine.journalPath →
        Working machine.journalPath pid file (workers, runtime))

theorem stable_registered (pid : Pid) (outcome : Option Errno) :
    keeping.Stable fun now => outcome = none → Registered pid now :=
  fun h hgrowth _ hnone => (h hnone).grow hgrowth

/-- Others append to the journal. -/
theorem Member.Sound.grow {member : Member} (h : member.Sound machine config pid file)
    (hgrowth : file.bytes <+: now.bytes) (htidy : Tidy now) :
    member.Sound machine config pid now := by
  cases member with
  | booting grate rest => exact Meets.rely h (stable_registered pid) hgrowth htidy
  | cage settings workers runtime =>
    exact ⟨h.1.grow hgrowth, h.2.1, fun hpath => (h.2.2 hpath).grow htidy hgrowth⟩

namespace Site

variable {site site' : Site}

/-- The journal is tidy, and every child is where it should be. -/
structure Sound (machine : Machine) (config : RuntimeConfig) (site : Site) : Prop where
  tidy : Tidy site.journal
  members : ∀ pid member, site.members pid = some member →
    member.Sound machine config pid site.journal

theorem sound_empty : Sound machine config empty := ⟨⟨[], rfl, fun _ => nofun⟩, fun _ _ => nofun⟩

/-- A child has done something, and the others see at most that the journal has grown. -/
theorem Sound.put (h : Sound machine config site) {journal : JournalContents}
    (hgrowth : site.journal.bytes <+: journal.bytes) (htidy : Tidy journal) {member : Option Member}
    (hmember : ∀ becomes, member = some becomes → becomes.Sound machine config pid journal) :
    Sound machine config (site.put journal pid member) where
  tidy := htidy
  members other child hchild := by
    replace hchild : Function.update site.members pid member other = some child := hchild
    by_cases hother : other = pid
    · subst hother
      rw [Function.update_self] at hchild
      exact hmember child hchild
    · rw [Function.update_of_ne hother] at hchild
      exact (h.members other child hchild).grow hgrowth htidy

/-- **One step.** -/
theorem Sound.step (h : Sound machine config site) (hstep : Step machine config site site') :
    Sound machine config site' := by
  cases hstep with
  | forks hgrate hpid _ =>
    refine h.put List.prefix_rfl h.tidy ?_
    rintro _ ⟨⟩
    exact meets_setup hpid hgrate
  | boots child step =>
    have hmeets := h.members _ _ child
    obtain ⟨hallows, hrest⟩ := Meets.step hmeets List.prefix_rfl h.tidy step
    obtain ⟨-, rfl⟩ | ⟨htidy, hgrowth⟩ := hallows
    · refine h.put List.prefix_rfl h.tidy ?_
      rintro _ ⟨⟩
      exact hrest
    · refine h.put hgrowth htidy ?_
      rintro _ ⟨⟩
      exact hrest
  | becomes child vars reads =>
    have hregistered := h.members _ _ child rfl
    refine h.put List.prefix_rfl h.tidy ?_
    rintro _ ⟨⟩
    refine ⟨hregistered, fun hsurvives => ?_, fun hpath => ?_⟩
    · refine Except.ok.inj (reads.symm.trans (hsurvives _ _ fun entry hentry => ?_))
      exact vars entry (List.mem_append_left _ hentry)
    · rw [hpath]
      exact .fresh hregistered ..
  | @plays pid _ _ _ _ _ journal child turn =>
    obtain ⟨hregistered, hsettings, hworking⟩ := h.members _ _ child
    have hsame := turn.keeps (sharing_quiet machine pid site.journal) rfl
    obtain rfl : journal = site.journal := hsame
    refine h.put List.prefix_rfl h.tidy ?_
    rintro _ ⟨⟩
    exact ⟨hregistered, hsettings, fun hpath =>
      (hworking hpath).turn h.tidy
      (sharing_shows machine pid none _) (sharing_quiet machine pid _) turn⟩
  | ends => exact h.put List.prefix_rfl h.tidy nofun

/-- **A whole run.** -/
theorem Sound.reached (h : Reached machine config site) : Sound machine config site := by
  induction h with
  | refl => exact sound_empty
  | tail _ hstep ih => exact ih.step hstep

/-! ## Whole runs -/

theorem members_put (site : Site) (journal : JournalContents) (pid : Pid)
    (member : Option Member) : (site.put journal pid member).members pid = member :=
  Function.update_self ..

theorem put_put (site : Site) (journal journal' : JournalContents) (pid : Pid)
    (member member' : Option Member) :
    (site.put journal pid member).put journal' pid member' = site.put journal' pid member' :=
  congrArg (Site.mk journal') (Function.update_idem ..)

theorem put_self {member : Member} (h : site.members pid = some member) :
    site.put site.journal pid (some member) = site := by
  unfold put
  rw [← h, Function.update_eq_self]

/-- **A setup** goes on by itself as it does where there is nobody else. -/
theorem steps_of_reaches {grate : Pid} {rest rest' : Program (Option Errno)}
    {journal : JournalContents}
    (h : Program.Reaches (sharing machine pid (some (machine.journal grate))) rest site.journal
      rest' journal) (child : site.members pid = some (.booting grate rest)) :
    Relation.ReflTransGen (Step machine config) site
      (site.put journal pid (some (.booting grate rest'))) := by
  generalize hjournal : site.journal = first at h
  induction h generalizing site with
  | here => rw [← hjournal, put_self child]
  | step hstep _ ih =>
    subst hjournal
    have hlater := ih (members_put site _ pid _) rfl
    rw [put_put] at hlater
    exact .head (.boots child hstep) hlater

/-- **The threads** of a cage go on by themselves as they do where there is nobody else. -/
theorem steps_of_runWorkers {settings : RuntimeConfig} {workers last : List Worker}
    {runtime : LoopbackRuntime} {journal : JournalContents}
    (h : (runWorkers (.ofPid pid) workers runtime).Runs (sharing machine pid none) site.journal last
      journal) (child : site.members pid = some (.cage settings workers runtime)) :
    ∃ between runtime', Relation.ReflTransGen (Step machine config) site
      (site.put between pid (some (.cage settings last runtime'))) := by
  rw [runWorkers_eq, Program.runs_iterate] at h
  generalize hstate : (workers, runtime) = state at h
  generalize hjournal : site.journal = first at h
  induction h generalizing site workers runtime with
  | stop hstop =>
    subst hstate
    obtain rfl := workers_of_stop hstop
    exact ⟨site.journal, runtime, by rw [put_self child]⟩
  | again hturn _ ih =>
    subst hstate hjournal
    obtain ⟨between, runtime', hlater⟩ := ih (members_put site _ pid _) rfl rfl
    rw [put_put] at hlater
    exact ⟨between, runtime', .head (.plays child hturn) hlater⟩

end Site

end Interposition.Chain
