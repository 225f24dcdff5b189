import Interposition.Proofs.Session.Protocol

namespace Interposition.Session

variable {world next : World} {party other : Party} {names : List Name}

theorem Name.OwnedBy.unique {name : Name} (h : name.OwnedBy party) (h' : name.OwnedBy other) :
    party = other := by
  cases name <;> exact Eq.trans h (Eq.symm h')

/-- A marker and its draft are the author's. -/
theorem Name.ownedBy_author {m : Marker} {name : Name} (h : name ∈ [.draft m, .marker m]) :
    name.OwnedBy m.author := by
  rcases List.mem_cons.mp h with rfl | hmarker
  · rfl
  · rw [List.mem_singleton.mp hmarker]
    rfl

theorem World.alive_of_children (h : next.children = world.children) :
    next.Alive party ↔ world.Alive party := by
  unfold World.Alive
  rw [h]

namespace Setting

variable {setting : Setting}

/-! ## Deeds that touch files -/

/-- A process has touched no files but some of those of a session. -/
structure Touches (setting : Setting) (party : Party) (names : List Name) (world next : World) :
    Prop where
  children : next.children = world.children
  opened : ∀ other, other ≠ party → next.files.opened other = world.files.opened other
  same : ∀ name, name ∉ names → world.files.SameAt next.files (setting.path name)
  apart : next.files.Apart

namespace Touches

variable (h : setting.Touches party names world next)

include h

theorem published_iff (hready : .marker .ready ∉ names) :
    setting.Published next ↔ setting.Published world := by
  have hsame : next.files.file? setting.ready = world.files.file? setting.ready :=
    (h.same _ hready).file?
  unfold Published
  rw [hsame]

theorem recorded_iff (hjournal : .journal ∉ names) :
    setting.Recorded next ↔ setting.Recorded world := by
  have hsame : next.files.file? setting.journal = world.files.file? setting.journal :=
    (h.same _ hjournal).file?
  unfold Recorded
  rw [hsame]

/-- The protocol is kept if it is as for the files that have been touched. -/
theorem protocol (hp : setting.Protocol world)
    (harmed : .marker .armed ∈ names → world.Keeps)
    (hready : .marker .ready ∈ names → setting.Published next)
    (hrecorded : .marker .ready ∈ names ∨ .journal ∈ names → setting.Published next →
      (world.children .grate).isSome ∧
        (world.Alive .cage ∨ world.Alive .grate → setting.Recorded next))
    (houtcome : .marker .outcome ∈ names → ∀ {bytes},
      next.files.file? setting.outcome = some bytes →
        ∃ outcome : CageOutcome, bytes = Utf8.ofText (toJson outcome).indented ∧
          setting.Served outcome) :
    setting.Protocol next where
  apart := h.apart
  launched hchild := hp.launched (h.children ▸ hchild)
  armed hsome := by
    unfold World.Keeps
    rw [h.children]
    by_cases hmem : .marker .armed ∈ names
    · exact harmed hmem
    · exact hp.armed ((h.same _ hmem).file? ▸ hsome)
  ready {bytes} hbytes := by
    by_cases hmem : .marker .ready ∈ names
    · exact Option.some.inj (hbytes.symm.trans (hready hmem))
    · exact hp.ready ((h.same _ hmem).file? ▸ hbytes)
  published hpublished := by
    rw [World.alive_of_children h.children, World.alive_of_children h.children, h.children]
    by_cases hmem : .marker .ready ∈ names ∨ .journal ∈ names
    · exact hrecorded hmem hpublished
    · rw [h.recorded_iff fun hjournal => hmem (.inr hjournal)]
      exact hp.published ((h.published_iff fun hready => hmem (.inl hready)).mp hpublished)
  outcome {bytes} hbytes := by
    by_cases hmem : .marker .outcome ∈ names
    · exact houtcome hmem hbytes
    · exact hp.outcome ((h.same _ hmem).file? ▸ hbytes)
  released hchild hkept := by
    by_cases hmem : .marker .ready ∈ names
    · exact hready hmem
    · exact (h.published_iff hmem).mpr (hp.released (h.children ▸ hchild) hkept)

/-- What the loader sees of it, if the journal is untouched or the grate's. -/
theorem watches (hnames : ∀ {node}, world.files.names setting.journal = some node →
      next.files.names setting.journal = some node)
    (hjournal : .journal ∈ names → world.Alive .grate)
    (hrecorded : .marker .ready ∈ names ∨ .journal ∈ names → setting.Published next →
      setting.Recorded next) :
    setting.Watches world next where
  started party := by rw [h.children]
  ended hended party child hchild := hended party child (h.children ▸ hchild)
  alive := (World.alive_of_children h.children).mp
  names := hnames
  journal hgrate := h.same .journal fun hmem => hgrate (hjournal hmem)
  recorded hworld hpublished := by
    by_cases hmem : .marker .ready ∈ names ∨ .journal ∈ names
    · exact hrecorded hmem hpublished
    · rw [h.recorded_iff fun hjournal => hmem (.inr hjournal)]
      exact hworld ((h.published_iff fun hready => hmem (.inl hready)).mp hpublished)

/-- What another process sees of it, if none of its own files has been touched. -/
theorem relies (hother : other ≠ party) (halive : next.Alive other)
    (hown : ∀ name ∈ names, ¬ name.OwnedBy other)
    (hready : .marker .ready ∈ names → setting.Published next)
    (hwatches : other = .loader → setting.Watches world next) :
    setting.Relies other world next where
  alive := halive
  lived := .inl ((World.alive_of_children h.children).mp halive)
  opened := h.opened other hother
  own {name} howned := h.same name fun hmem => hown name hmem howned
  keeps := by
    unfold World.Keeps
    rw [h.children]
    exact id
  published hpublished := by
    by_cases hmem : .marker .ready ∈ names
    · exact hready hmem
    · exact (h.published_iff hmem).mpr hpublished
  watches := hwatches

theorem begins : setting.Begins world next := by
  intro hnone halive
  obtain hloader | ⟨child, hchild, -⟩ := (World.alive_of_children h.children).mp halive
  · contradiction
  · rw [hnone] at hchild
    contradiction

end Touches

/-! ### Operations -/

theorem touches_create (setting : Setting) (h : world.files.Apart) (party : Party) (name : Name) (handle : FileHandle) :
    setting.Touches party [name] world
      { world with files := world.files.create party (setting.path name) handle } where
  children := rfl
  opened _ hother := SharedFiles.opened_create_of_ne hother
  same _ hother := SharedFiles.sameAt_create h fun heq =>
    hother (List.mem_singleton.mpr (setting.path_injective heq))
  apart := h.create party _ handle

theorem touches_openToAppend (setting : Setting) (h : world.files.Apart) (party : Party) (name : Name)
    (handle : FileHandle) :
    setting.Touches party [name] world
      { world with files := world.files.openToAppend party (setting.path name) handle } where
  children := rfl
  opened _ hother := SharedFiles.opened_openToAppend_of_ne hother
  same _ hother := SharedFiles.sameAt_openToAppend h fun heq =>
    hother (List.mem_singleton.mpr (setting.path_injective heq))
  apart := h.openToAppend party _ handle

theorem touches_write (h : world.files.Apart) {name : Name} {handle : FileHandle} {file : OpenFile}
    (hopened : world.files.opened party handle = some file)
    (hname : world.files.names (setting.path name) = some file.node) (bytes : List UInt8) :
    setting.Touches party [name] world
      { world with files := world.files.write party handle bytes } where
  children := rfl
  opened _ hother := SharedFiles.opened_write_of_ne hother bytes
  same _ hother := SharedFiles.sameAt_write h hopened hname (fun heq =>
    hother (List.mem_singleton.mpr (setting.path_injective heq))) bytes
  apart := h.write party handle bytes

theorem touches_close (setting : Setting) (h : world.files.Apart) (party : Party) (handle : FileHandle) :
    setting.Touches party [] world
      { world with files := world.files.close party handle } where
  children := rfl
  opened _ hother := SharedFiles.opened_close_of_ne hother
  same _ _ := SharedFiles.sameAt_close world.files party handle _
  apart := h.close party handle

theorem touches_rename (h : world.files.Apart) (party : Party) (source target : Name) :
    setting.Touches party [source, target] world
      { world with files := world.files.rename (setting.path source) (setting.path target) } where
  children := rfl
  opened other _ := congrFun (SharedFiles.opened_rename world.files _ _) other
  same name hname := by
    refine SharedFiles.sameAt_rename (fun heq => hname ?_) (fun heq => hname ?_)
    · rw [setting.path_injective heq]
      exact List.mem_cons_self ..
    · rw [setting.path_injective heq]
      exact List.mem_cons_of_mem _ (List.mem_cons_self ..)
  apart := h.rename _ _

/-- A draft that is given its name has the bytes it had. -/
theorem file?_named {m : Marker} {bytes : List UInt8}
    (h : world.files.file? (setting.path (.draft m)) = some bytes) :
    (world.files.rename (setting.path (.draft m)) (setting.path (.marker m))).file?
      (setting.path (.marker m)) = some bytes := by
  have hne : setting.path (.draft m) ≠ setting.path (.marker m) := fun heq =>
    absurd (setting.path_injective heq) nofun
  rw [(SharedFiles.file?_rename hne).1, h]

/-! ### What is allowed -/

namespace Touches

variable {deed : Deed} (h : setting.Touches party names world next) (hp : setting.Protocol world)
  (hproper : setting.Proper party world deed)

include h hp hproper

/-- A child may touch its own files, as long as they say nothing of the registrations. -/
theorem allows_own (hown : ∀ name ∈ names, name.OwnedBy party) (hready : .marker .ready ∉ names)
    (hjournal : .journal ∉ names) (harmed : .marker .armed ∈ names → world.Keeps)
    (houtcome : .marker .outcome ∈ names → ∀ {bytes},
      next.files.file? setting.outcome = some bytes →
        ∃ outcome : CageOutcome, bytes = Utf8.ofText (toJson outcome).indented ∧
          setting.Served outcome) :
    (setting.contract party).Allows world deed next := by
  refine ⟨h.protocol hp harmed (fun hmem => absurd hmem hready) ?_ houtcome, ?_, hproper, h.begins⟩
  · rintro (hmem | hmem)
    · exact absurd hmem hready
    · exact absurd hmem hjournal
  · intro other hother halive
    refine h.relies hother halive (fun name hmem howned => hother (howned.unique (hown name hmem)))
      (fun hmem => absurd hmem hready) fun _ => ?_
    have hsame : world.files.SameAt next.files setting.journal := h.same .journal hjournal
    refine h.watches (fun hname => hsame.names.trans hname) (fun hmem => absurd hmem hjournal) ?_
    rintro (hmem | hmem)
    · exact absurd hmem hready
    · exact absurd hmem hjournal

end Touches

/-- The grate may say that it is ready once it has registered. -/
theorem allows_ready {deed : Deed}
    (h : setting.Touches .grate [.draft .ready, .marker .ready] world next)
    (hp : setting.Protocol world) (hproper : setting.Proper .grate world deed)
    (halive : world.Alive .grate) (hrecorded : setting.Recorded world)
    (hpublished : setting.Published next) :
    (setting.contract .grate).Allows world deed next := by
  have hjournal : Name.journal ∉ [Name.draft .ready, .marker .ready] := by decide
  have hnext : setting.Recorded next := (h.recorded_iff hjournal).mpr hrecorded
  have hsome : (world.children .grate).isSome := by
    obtain hloader | ⟨child, hchild, -⟩ := halive
    · contradiction
    · rw [hchild]
      rfl
  refine ⟨h.protocol hp (by simp) (fun _ => hpublished) (fun _ _ => ⟨hsome, fun _ => hnext⟩)
    (by simp), ?_, hproper, h.begins⟩
  intro other hother halive'
  refine h.relies hother halive' ?_ (fun _ => hpublished) fun _ => ?_
  · intro name hmem howned
    exact hother (howned.unique (Name.ownedBy_author hmem))
  · have hsame : world.files.SameAt next.files setting.journal := h.same .journal hjournal
    exact h.watches (fun hname => hsame.names.trans hname) (fun _ => halive) fun _ _ => hnext

/-- The grate may write the journal as long as nobody has said that it is ready. -/
theorem allows_registering {deed : Deed} (h : setting.Touches .grate [.journal] world next)
    (hp : setting.Protocol world) (hproper : setting.Proper .grate world deed)
    (halive : world.Alive .grate) (hready : world.files.file? setting.ready = none)
    (hnames : ∀ {node}, world.files.names setting.journal = some node →
      next.files.names setting.journal = some node) :
    (setting.contract .grate).Allows world deed next := by
  have hunpublished : ¬ setting.Published next := by
    rw [h.published_iff (by decide)]
    unfold Published
    rw [hready]
    exact nofun
  refine ⟨h.protocol hp (by simp) (by simp) (fun _ hnext => absurd hnext hunpublished) (by simp), ?_,
    hproper, h.begins⟩
  intro other hother halive'
  refine h.relies hother halive' ?_ (by simp) fun _ => ?_
  · intro name hmem howned
    rw [List.mem_singleton.mp hmem] at howned
    exact hother howned
  · exact h.watches hnames (fun _ => halive) fun _ hnext => absurd hnext hunpublished

/-- The loader may write the journal while there is no grate, unless the cage reads it. -/
theorem allows_journal {deed : Deed} (h : setting.Touches .loader [.journal] world next)
    (hp : setting.Protocol world) (hproper : setting.Proper .loader world deed)
    (hgrate : ¬ world.Alive .grate)
    (hrecorded : setting.Published world → ¬ world.Alive .cage) :
    (setting.contract .loader).Allows world deed next := by
  have hpublished := h.published_iff (by decide)
  refine ⟨h.protocol hp (by simp) (by simp) (fun _ hnext => ?_) (by simp), ?_, hproper, h.begins⟩
  · have hworld := hpublished.mp hnext
    refine ⟨(hp.published hworld).1, ?_⟩
    rintro (halive | halive)
    · exact absurd halive (hrecorded hworld)
    · exact absurd halive hgrate
  · intro other hother halive
    refine h.relies hother halive ?_ (by simp) fun hloader => absurd hloader hother
    intro name hmem howned
    rw [List.mem_singleton.mp hmem] at howned
    have howned : other = .grate := howned
    rw [howned] at halive
    exact hgrate ((World.alive_of_children h.children).mp halive)

/-! ## Deeds that leave everything as it is -/

theorem watches_self : setting.Watches world world where
  started _ := Iff.rfl
  ended := id
  alive := id
  names := id
  journal _ := .refl _ _
  recorded := id

theorem relies_self (halive : world.Alive party) : setting.Relies party world world where
  alive := halive
  lived := .inl halive
  opened := rfl
  own _ := .refl _ _
  keeps := id
  published := id
  watches _ := watches_self

theorem allows_self {deed : Deed} (hp : setting.Protocol world)
    (hproper : setting.Proper party world deed) :
    (setting.contract party).Allows world deed world := by
  refine ⟨hp, fun other _ halive => relies_self halive, hproper, fun hnone halive => ?_⟩
  obtain hloader | ⟨child, hchild, -⟩ := halive
  · contradiction
  · rw [hnone] at hchild
    contradiction

/-! ## Deeds that touch children -/

end Setting

/-- A child changed in a way that takes nothing back. -/
structure Child.Evolves (child changed : Child) : Prop where
  launch : changed.launch = child.launch
  ended : child.ended = true → changed.ended = true
  keeps : child.disposition .release = .keep → changed.disposition .release = .keep

namespace World

variable {change : Party → Child → Child}

theorem children_mapChildren (party : Party) :
    (world.mapChildren change).children party = (world.children party).map (change party) := rfl

theorem alive_of_mapChildren (h : ∀ (party : Party) (child : Child), child.Evolves (change party child))
    (halive : (world.mapChildren change).Alive party) : world.Alive party := by
  obtain hloader | ⟨child, hchild, hended⟩ := halive
  · exact .inl hloader
  · rw [children_mapChildren] at hchild
    obtain ⟨former, hformer, rfl⟩ := Option.map_eq_some_iff.mp hchild
    refine .inr ⟨former, hformer, ?_⟩
    cases hbefore : former.ended with
    | false => rfl
    | true => exact absurd ((h party former).ended hbefore) (by simp [hended])

theorem Keeps.mapChildren (hkeeps : world.Keeps)
    (h : ∀ (party : Party) (child : Child), child.Evolves (change party child)) :
    (world.mapChildren change).Keeps := by
  obtain ⟨child, hchild, hdisposition⟩ := hkeeps
  refine ⟨change .cage child, ?_, (h .cage child).keeps hdisposition⟩
  rw [children_mapChildren, hchild]
  rfl

end World

namespace Setting

variable {setting : Setting}

section mapChildren

variable {change : Party → Child → Child}
  (h : ∀ (party : Party) (child : Child), child.Evolves (change party child))

include h

theorem watches_mapChildren : setting.Watches world (world.mapChildren change) where
  started party := by rw [World.children_mapChildren, Option.map_eq_none_iff]
  ended hended party child hchild hpid := by
    rw [World.children_mapChildren] at hchild
    obtain ⟨former, hformer, rfl⟩ := Option.map_eq_some_iff.mp hchild
    exact (h party former).ended (hended party former hformer hpid)
  alive := World.alive_of_mapChildren h
  names := id
  journal _ := .refl _ _
  recorded := id

theorem relies_mapChildren (halive : (world.mapChildren change).Alive party) :
    setting.Relies party world (world.mapChildren change) where
  alive := halive
  lived := .inl (World.alive_of_mapChildren h halive)
  opened := rfl
  own _ := .refl _ _
  keeps hkeeps := hkeeps.mapChildren h
  published := id
  watches _ := watches_mapChildren h

theorem Protocol.mapChildren (hp : setting.Protocol world)
    (hreleased : ∀ child, world.children .cage = some child →
      (change .cage child).kept .release = true →
        child.kept .release = true ∨ setting.Published world) :
    setting.Protocol (world.mapChildren change) where
  apart := hp.apart
  launched {party child} hchild := by
    rw [World.children_mapChildren] at hchild
    obtain ⟨former, hformer, rfl⟩ := Option.map_eq_some_iff.mp hchild
    rw [(h party former).launch]
    exact hp.launched hformer
  armed hsome := (hp.armed hsome).mapChildren h
  ready := hp.ready
  published hpublished := by
    obtain ⟨hgrate, hrecorded⟩ := hp.published hpublished
    refine ⟨?_, fun halive => hrecorded ?_⟩
    · rw [World.children_mapChildren, Option.isSome_map]
      exact hgrate
    · exact halive.imp (World.alive_of_mapChildren h) (World.alive_of_mapChildren h)
  outcome := hp.outcome
  released {child} hchild hkept := by
    rw [World.children_mapChildren] at hchild
    obtain ⟨former, hformer, rfl⟩ := Option.map_eq_some_iff.mp hchild
    rcases hreleased former hformer hkept with hbefore | hpublished
    · exact hp.released hformer hbefore
    · exact hpublished

theorem allows_mapChildren {deed : Deed} (hp : setting.Protocol world)
    (hproper : setting.Proper party world deed)
    (hreleased : ∀ child, world.children .cage = some child →
      (change .cage child).kept .release = true →
        child.kept .release = true ∨ setting.Published world) :
    (setting.contract party).Allows world deed (world.mapChildren change) := by
  refine ⟨hp.mapChildren h hreleased, fun other _ halive => relies_mapChildren h halive, hproper,
    fun hnone halive => ?_⟩
  obtain hloader | ⟨child, hchild, -⟩ := World.alive_of_mapChildren h halive
  · contradiction
  · rw [hnone] at hchild
    contradiction

end mapChildren

end Setting

namespace Setting

variable {setting : Setting}

theorem evolves_change {change : Child → Child} (h : ∀ child : Child, child.Evolves (change child))
    (changed party : Party) (child : Child) :
    child.Evolves (if party = changed then change child else child) := by
  split
  · exact h child
  · exact ⟨rfl, id, id⟩

theorem relies_change {change : Child → Child} (h : ∀ child : Child, child.Evolves (change child))
    (halive : (world.change other change).Alive party) :
    setting.Relies party world (world.change other change) :=
  relies_mapChildren (evolves_change h other) halive

/-- A process may change a child in a way that takes nothing back and keeps no signal for it. -/
theorem allows_change {deed : Deed} {change : Child → Child}
    (h : ∀ child : Child, child.Evolves (change child)) (hp : setting.Protocol world)
    (hproper : setting.Proper party world deed)
    (hkept : ∀ child : Child, (change child).kept .release = true → child.kept .release = true) :
    (setting.contract party).Allows world deed (world.change other change) := by
  refine allows_mapChildren (evolves_change h other) hp hproper fun child _ hchanged => .inl ?_
  split at hchanged
  · exact hkept child hchanged
  · exact hchanged

end Setting

theorem World.children_change {change : Child → Child} {child : Child}
    (h : world.children party = some child) :
    (world.change party change).children party = some (change child) := by
  unfold World.change
  rw [children_mapChildren, h, Option.map_some, if_pos rfl]

/-! ## Deeds that start children -/

/-- The world with one more child. -/
def World.start (world : World) (party : Party) (child : Child) : World :=
  { world with children := Function.update world.children party (some child) }

theorem World.children_start (world : World) (party : Party) (child : Child) :
    (world.start party child).children party = some child := by
  unfold World.start
  exact Function.update_self ..

theorem World.children_start_of_ne {child : Child} (h : other ≠ party) :
    (world.start party child).children other = world.children other := by
  unfold World.start
  exact Function.update_of_ne h ..

theorem World.Keeps.start {child : Child} (h : world.Keeps) (hnone : world.children party = none) :
    (world.start party child).Keeps := by
  obtain ⟨cage, hcage, hkeeps⟩ := h
  refine ⟨cage, ?_, hkeeps⟩
  rw [World.children_start_of_ne, hcage]
  rintro rfl
  rw [hcage] at hnone
  contradiction

namespace Setting

variable {setting : Setting}

/-- Before there is a grate nobody says that it is ready. -/
theorem Protocol.file?_ready (hp : setting.Protocol world)
    (hgrate : world.children .grate = none) : world.files.file? setting.ready = none := by
  cases hready : world.files.file? setting.ready with
  | none => rfl
  | some bytes =>
    have hpublished : setting.Published world := 
      hready.trans (congrArg some (hp.ready hready))
    have hsome := (hp.published hpublished).1
    rw [hgrate] at hsome
    contradiction

theorem Protocol.unpublished (hp : setting.Protocol world)
    (hgrate : world.children .grate = none) : ¬ setting.Published world := by
  unfold Published
  rw [hp.file?_ready hgrate]
  exact nofun

/-- **A child** may be started before there is a grate; a grate begins with an empty journal. -/
theorem allows_start {child : Child} {launch : Launch} (hp : setting.Protocol world)
    (hgrate : world.children .grate = none) (hnone : world.children party = none)
    (hstarts : child.Starts launch) (hlaunches : setting.Launches launch party)
    (hjournal : party = .grate → world.files.file? setting.journal = some []) :
    (setting.contract .loader).Allows world (.starts launch) (world.start party child) := by
  have hchild {other : Party} {found : Child}
      (hfound : (world.start party child).children other = some found) :
      other = party ∧ found = child ∨ world.children other = some found := by
    by_cases hother : other = party
    · subst hother
      rw [World.children_start] at hfound
      exact .inl ⟨rfl, (Option.some.inj hfound).symm⟩
    · rw [World.children_start_of_ne hother] at hfound
      exact .inr hfound
  refine ⟨⟨hp.apart, ?_, fun hsome => (hp.armed hsome).start hnone, hp.ready,
    fun hpublished => absurd hpublished (hp.unpublished hgrate), hp.outcome, ?_⟩, ?_, trivial, ?_⟩
  · intro other found hfound
    obtain ⟨rfl, rfl⟩ | hbefore := hchild hfound
    · rw [hstarts.launch_eq]
      exact hlaunches
    · exact hp.launched hbefore
  · intro found hfound hkept
    obtain ⟨-, rfl⟩ | hbefore := hchild hfound
    · rw [hstarts.kept] at hkept
      contradiction
    · exact hp.released hbefore hkept
  · intro other hother halive
    have hlived : world.Alive other ∨ world.children other = none := by
      obtain hloader | ⟨found, hfound, hlives⟩ := halive
      · exact absurd hloader hother
      · obtain ⟨rfl, -⟩ | hbefore := hchild hfound
        · exact .inr hnone
        · exact .inl (.inr ⟨found, hbefore, hlives⟩)
    exact ⟨halive, hlived, rfl, fun _ => .refl _ _, fun hkeeps => hkeeps.start hnone, id,
      fun hloader => absurd hloader hother⟩
  · intro _ halive
    obtain hloader | ⟨found, hfound, -⟩ := halive
    · contradiction
    · obtain ⟨hparty, -⟩ | hbefore := hchild hfound
      · exact ⟨hjournal hparty.symm, hp.file?_ready hgrate⟩
      · rw [hgrate] at hbefore
        contradiction

end Setting

namespace Child

variable {child : Child} {signal : Signal}

theorem evolves_self : child.Evolves child := ⟨rfl, id, id⟩

theorem evolves_take : child.Evolves (child.take signal) := ⟨rfl, id, id⟩

theorem evolves_ended : child.Evolves { child with ended := true } := ⟨rfl, fun _ => rfl, id⟩

theorem disposition_dispose (child : Child) (signal : Signal) (disposition : Disposition) :
    (child.dispose signal disposition).disposition signal = disposition := by
  unfold dispose
  exact Function.update_self ..

theorem evolves_dispose {disposition : Disposition} (h : signal = .release → disposition = .keep) :
    child.Evolves (child.dispose signal disposition) where
  launch := rfl
  ended := id
  keeps hkeeps := by
    show Function.update child.disposition signal disposition .release = .keep
    by_cases heq : Signal.release = signal
    · rw [heq, Function.update_self]
      exact h heq.symm
    · rw [Function.update_of_ne heq]
      exact hkeeps

theorem evolves_reached : child.Evolves (child.reached signal) := by
  unfold reached
  split
  · exact evolves_self
  · split
    · exact evolves_ended
    · split
      · exact evolves_self
      · exact ⟨rfl, id, id⟩
      · split
        · exact evolves_ended
        · exact evolves_self

/-- A signal is kept only if it has been sent. -/
theorem kept_reached {other : Signal} (h : (child.reached signal).kept other = true) :
    child.kept other = true ∨ other = signal := by
  unfold reached at h
  split at h
  · exact .inl h
  · split at h
    · exact .inl h
    · split at h
      · exact .inl h
      · by_cases heq : other = signal
        · exact .inr heq
        · have h : Function.update child.kept signal true other = true := h
          rw [Function.update_of_ne heq] at h
          exact .inl h
      · split at h <;> exact .inl h

theorem kept_take {other : Signal} (h : (child.take signal).kept other = true) :
    child.kept other = true := by
  have h : Function.update child.kept signal false other = true := h
  by_cases heq : other = signal
  · rw [heq, Function.update_self] at h
    contradiction
  · rwa [Function.update_of_ne heq] at h

theorem kept_dispose {other : Signal} {disposition : Disposition}
    (h : (child.dispose signal disposition).kept other = true) : child.kept other = true := by
  have h : (if disposition = .keep then child.kept else Function.update child.kept signal false)
      other = true := h
  split at h
  · exact h
  · by_cases heq : other = signal
    · rw [heq, Function.update_self] at h
      contradiction
    · rwa [Function.update_of_ne heq] at h

end Child

end Interposition.Session
