/-
  Markers that never collide.

  Any number of cages and grates leave their markers in one directory, and a cage and a grate may have
  one number.  Each marker is read as it was written last, whatever else has been written.

  1. **Notices** (`Notice`): what may be written, each under the name of its marker.

  2. **The frame** (`meets_publish_spares`): no request of a writer touches any name but that of its
     marker and that of its draft, and neither is the name of another marker.

  3. **The crux** (`file?_of_posts`): by induction on the notices, what is under the name of a marker
     is what was written last under that name.  What reading it comes to is the value that was
     written, since a document that is written is read back.
-/
import Mathlib.Data.List.Induction
import Interposition.Proofs.Host.Playing
import Interposition.Proofs.Rendezvous.Names
import Interposition.Proofs.Rendezvous.Publishing

namespace Interposition.Rendezvous

variable {Reader : Type} [DecidableEq Reader] {rendezvous : Rendezvous} {peer : Peer Reader}

/-! ## Reading -/

section reading

variable {files : SharedFiles (Peer Reader)}

/-- Reading a marker comes to one thing. -/
theorem returns_readMarker {α : Type} [Decode α] {path : Path} {said : Except GateError (Option α)} :
    (readMarker α path).Returns (sharedDirectory peer) files said ↔
      said = found α path (files.reading path) := by
  rw [readMarker_eq]
  constructor
  · rintro ⟨⟨_, _, _, ⟨rfl, -⟩, hsaid, -⟩, -⟩
    exact hsaid
  · rintro rfl
    refine ⟨⟨files, _, files, ⟨rfl, rfl⟩, rfl, rfl⟩, ?_⟩
    rintro other final ⟨_, _, ⟨rfl, -⟩, hother, -⟩
    exact hother

/-- Asking whether a marker is there comes to one thing. -/
theorem returns_pathExists {path : Path} {there : Bool} :
    (Program.request (.pathExists path)).Returns (sharedDirectory peer) files there ↔
      there = (files.file? path).isSome := by
  have hthere : (files.file? path).isSome = (files.names path).isSome := Option.isSome_map
  rw [hthere]
  constructor
  · rintro ⟨⟨_, _, _, ⟨rfl, -⟩, hthere, -⟩, -⟩
    exact hthere
  · rintro rfl
    refine ⟨⟨files, _, files, ⟨rfl, rfl⟩, rfl, rfl⟩, ?_⟩
    rintro other final ⟨_, _, ⟨rfl, -⟩, hother, -⟩
    exact hother

end reading

/-- Whatever is asked about a marker comes to the same. -/
def ReadsSame (peer : Peer Reader) (rendezvous : Rendezvous) (files now : SharedFiles (Peer Reader)) :
    MarkerName → Prop
  | .armed cage => ∀ there, (rendezvous.isArmed cage).Returns (sharedDirectory peer) now there ↔
      (rendezvous.isArmed cage).Returns (sharedDirectory peer) files there
  | .ready grate =>
    (∀ there, (rendezvous.isReady grate).Returns (sharedDirectory peer) now there ↔
      (rendezvous.isReady grate).Returns (sharedDirectory peer) files there) ∧
    ∀ said, (rendezvous.readReady grate).Returns (sharedDirectory peer) now said ↔
      (rendezvous.readReady grate).Returns (sharedDirectory peer) files said
  | .outcome cage => ∀ said, (rendezvous.readOutcome cage).Returns (sharedDirectory peer) now said ↔
      (rendezvous.readOutcome cage).Returns (sharedDirectory peer) files said

theorem readsSame_of_sameAt {files now : SharedFiles (Peer Reader)} {name : MarkerName}
    (h : files.SameAt now (rendezvous.path name)) : ReadsSame peer rendezvous files now name := by
  have hthere (there : Bool) :
      (Program.request (.pathExists (rendezvous.path name))).Returns (sharedDirectory peer) now there ↔
        (Program.request (.pathExists (rendezvous.path name))).Returns (sharedDirectory peer) files
          there := by
    rw [returns_pathExists, returns_pathExists, h.file?]
  have hsaid {α : Type} [Decode α] (said : Except GateError (Option α)) :
      (readMarker α (rendezvous.path name)).Returns (sharedDirectory peer) now said ↔
        (readMarker α (rendezvous.path name)).Returns (sharedDirectory peer) files said := by
    rw [returns_readMarker, returns_readMarker, found_of_sameAt h]
  cases name with
  | armed cage => exact hthere
  | ready grate => exact ⟨hthere, hsaid⟩
  | outcome cage => exact hsaid

/-! ## Notices -/

/-- What may be written about a cage or a grate. -/
inductive Notice where
  | armed (cage : CageId)
  | ready (marker : ReadyMarker)
  | outcome (outcome : CageOutcome)
deriving DecidableEq

namespace Notice

/-- The marker it is written to. -/
def name : Notice → MarkerName
  | .armed cage => .armed cage
  | .ready marker => .ready marker.grate
  | .outcome saw => .outcome saw.cage

/-- The bytes that are written. -/
def bytes : Notice → List UInt8
  | .armed cage => Utf8.ofText (toString cage.raw)
  | .ready marker => Utf8.ofText (toJson marker).indented
  | .outcome saw => Utf8.ofText (toJson saw).indented

/-- Writing it. -/
def write (rendezvous : Rendezvous) : Notice → Program (Except GateError Unit)
  | .armed cage => rendezvous.markArmed cage
  | .ready marker => rendezvous.markReady marker
  | .outcome saw => rendezvous.writeOutcome saw

theorem write_eq (rendezvous : Rendezvous) (notice : Notice) :
    notice.write rendezvous = publish (rendezvous.path notice.name) notice.bytes := by
  cases notice <;> rfl

/-- What it puts under the name of a marker. -/
def bytes? (name : MarkerName) (notice : Notice) : Option (List UInt8) :=
  if notice.name = name then some notice.bytes else none

/-- What it says about a grate. -/
def ready? (grate : GrateId) : Notice → Option ReadyMarker
  | .ready marker => if marker.grate = grate then some marker else none
  | _ => none

/-- What it says a cage saw. -/
def outcome? (cage : CageId) : Notice → Option CageOutcome
  | .outcome saw => if saw.cage = cage then some saw else none
  | _ => none

theorem bytes?_ready (grate : GrateId) (notice : Notice) : notice.bytes? (.ready grate) =
    (notice.ready? grate).map fun marker => Utf8.ofText (toJson marker).indented := by
  unfold bytes? ready?
  cases notice with
  | ready marker => by_cases h : marker.grate = grate <;> simp [name, bytes, h]
  | _ => simp [name]

theorem bytes?_outcome (cage : CageId) (notice : Notice) : notice.bytes? (.outcome cage) =
    (notice.outcome? cage).map fun saw => Utf8.ofText (toJson saw).indented := by
  unfold bytes? outcome?
  cases notice with
  | outcome saw => by_cases h : saw.cage = cage <;> simp [name, bytes, h]
  | _ => simp [name]

theorem isSome_bytes?_armed (cage : CageId) (notice : Notice) :
    (notice.bytes? (.armed cage)).isSome = true ↔ notice = .armed cage := by
  unfold bytes?
  cases notice with
  | armed other => by_cases h : other = cage <;> simp [name, h]
  | _ => simp [name]

end Notice

/-! ## The frame -/

/-- Nothing has changed but a marker and its draft. -/
def Spared (path : Path) (first now : SharedFiles (Peer Reader)) : Prop :=
  ∀ q, q ≠ path → q ≠ temporary path → first.SameAt now q

/-- **Publishing** touches only the marker and its draft, at any time. -/
theorem meets_publish_spares {path : Path} {bytes : List UInt8}
    {first files : SharedFiles (Peer Reader)} (h : Spared path first files) :
    (publish path bytes).Meets (sharedDirectory .writer)
      (.alone fun now => now.Apart ∧ Spared path first now) (fun _ _ => True) files := by
  unfold publish Program.writeFile Program.fill
  simp only [bind_assoc]
  refine Program.meets_request_bind fun ⟨hapart, hspared⟩ opened now hopened => ?_
  rcases hopened with ⟨⟨e, rfl⟩, rfl⟩ | ⟨handle, rfl, rfl⟩
  · exact ⟨⟨hapart, hspared⟩, trivial⟩
  · refine ⟨⟨hapart.create _ _ _, fun q hq hdraft =>
      (hspared q hq hdraft).trans (SharedFiles.sameAt_create hapart hdraft)⟩, ?_⟩
    -- what is written goes to the draft, which the handle stands for
    have hwrites : (Program.writeAll handle bytes).Meets (sharedDirectory .writer)
        (.alone fun now => now.Apart ∧ Spared path first now)
        (fun _ _ => True) (files.create .writer (temporary path) handle) := by
      let draft (written : List UInt8) (now : SharedFiles (Peer Reader)) : Prop :=
        now.AtEnd .writer handle (temporary path) written
      refine (Program.meets_writeAll draft (fun written => Contract.stable_alone _ (draft written))
        ?_ (SharedFiles.atEnd_create ..)).mono fun _ _ _ => trivial
      rintro written rest files answer next hend ⟨hapart, hspared⟩ hanswer
      rcases hanswer with ⟨⟨e, rfl⟩, rfl⟩ | ⟨count, -, rfl, rfl⟩
      · exact ⟨⟨⟨hapart, hspared⟩, trivial⟩, hend⟩
      · obtain ⟨file, hopened, hnamed, -⟩ := id hend
        exact ⟨⟨⟨hapart.write .writer handle _, fun q hq hdraft => (hspared q hq hdraft).trans
          (SharedFiles.sameAt_write hapart hopened hnamed hdraft _)⟩, trivial⟩, hend.write _⟩
    refine hwrites.bind fun filled now _ => ?_
    rintro _ rfl ⟨hapart, hspared⟩ _ closed hclosed
    obtain rfl : closed = now.close .writer handle := hclosed
    refine ⟨⟨⟨hapart.close .writer handle, fun q hq hdraft =>
      (hspared q hq hdraft).trans (SharedFiles.sameAt_close ..)⟩, trivial⟩, ?_⟩
    cases filled with
    | error e => exact trivial
    | ok =>
      refine Program.meets_request_bind fun ⟨hapart, hspared⟩ named now hnamed => ?_
      rcases hnamed with ⟨⟨e, rfl⟩, rfl⟩ | ⟨rfl, rfl⟩
      · exact ⟨⟨hapart, hspared⟩, trivial⟩
      · exact ⟨⟨hapart.rename _ _, fun q hq hdraft =>
          (hspared q hq hdraft).trans (SharedFiles.sameAt_rename hdraft hq)⟩, trivial⟩

section frame

variable {notice : Notice} {files now : SharedFiles (Peer Reader)}
  {rest : Program (Except GateError Unit)}

theorem spared_of_reaches (hapart : files.Apart)
    (hreach : Program.Reaches (sharedDirectory .writer) (notice.write rendezvous) files rest now) :
    now.Apart ∧ Spared (rendezvous.path notice.name) files now := by
  rw [Notice.write_eq] at hreach
  have hfirst : Spared (rendezvous.path notice.name) files files := fun q _ _ => .refl files q
  exact ((meets_publish_spares hfirst).reaches ⟨hapart, hfirst⟩ hreach).1

/-- **Every other marker** is what it was, at any time. -/
theorem sameAt_of_reaches (hapart : files.Apart)
    (hreach : Program.Reaches (sharedDirectory .writer) (notice.write rendezvous) files rest now)
    {name : MarkerName} (hname : name ≠ notice.name) :
    files.SameAt now (rendezvous.path name) :=
  (spared_of_reaches hapart hreach).2 _ (fun heq => hname (path_injective heq))
    (Ne.symm (temporary_ne_path _ _))

end frame

/-! ## Many notices -/

/-- Notices written one after another, and what became of each. -/
inductive Posts (rendezvous : Rendezvous) (start : SharedFiles (Peer Reader)) :
    List (Notice × Except GateError Unit) → SharedFiles (Peer Reader) → Prop where
  | none : Posts rendezvous start [] start
  | write {notice : Notice} {result : Except GateError Unit}
      {written : List (Notice × Except GateError Unit)} {files final : SharedFiles (Peer Reader)}
      (before : Posts rendezvous start written files)
      (h : (notice.write rendezvous).Runs (sharedDirectory .writer) files result final) :
      Posts rendezvous start (written ++ [(notice, result)]) final

/-- The notices whose writing did not fail. -/
def posted (written : List (Notice × Except GateError Unit)) : List Notice :=
  (written.filter fun post => post.2.toBool).map Prod.fst

theorem posted_append (written : List (Notice × Except GateError Unit)) (notice : Notice)
    (result : Except GateError Unit) : posted (written ++ [(notice, result)]) =
      posted written ++ if result.toBool then [notice] else [] := by
  unfold posted
  rw [List.filter_append, List.map_append]
  cases result <;> rfl

/-- **One notice**: it is under the name of its marker unless its writing failed, and under the name of
    any other marker there is what there was. -/
theorem file?_of_runs {notice : Notice} {result : Except GateError Unit}
    {files final : SharedFiles (Peer Reader)} (hapart : files.Apart)
    (hrun : (notice.write rendezvous).Runs (sharedDirectory .writer) files result final)
    (name : MarkerName) :
    final.file? (rendezvous.path name) =
      (if result.toBool then notice.bytes? name else none).or
        (files.file? (rendezvous.path name)) := by
  by_cases hname : name = notice.name
  · subst hname
    have hreach := hrun.reaches
    rw [Notice.write_eq] at hreach
    have hturn (now : SharedFiles (Peer Reader)) :
        (contract (rendezvous.path notice.name) notice.bytes).rely now now :=
      ⟨.refl _ _, .refl _ _, rfl⟩
    have hmeets := (meets_publish (.refl files (rendezvous.path notice.name))).alone hturn
    have hsettled := hmeets.ends hapart hreach
    have hbytes : notice.bytes? notice.name = some notice.bytes := if_pos rfl
    cases result with
    | ok =>
      rw [hbytes]
      exact hsettled
    | error e => exact hsettled.file?
  · have hsame := sameAt_of_reaches hapart hrun.reaches hname
    have hbytes : notice.bytes? name = none := if_neg (Ne.symm hname)
    rw [hsame.file?, hbytes, ite_self, Option.none_or]

/-- **Many notices**: under the name of a marker is what was written last of what is written there. -/
theorem file?_of_posts {start final : SharedFiles (Peer Reader)}
    {written : List (Notice × Except GateError Unit)} (hapart : start.Apart)
    (h : Posts rendezvous start written final) (name : MarkerName) :
    final.Apart ∧ final.file? (rendezvous.path name) =
      (((posted written).filterMap (Notice.bytes? name)).getLast?).or
        (start.file? (rendezvous.path name)) := by
  induction h with
  | none => exact ⟨hapart, rfl⟩
  | @write notice result written files final _ hrun ih =>
    obtain ⟨hfiles, hbefore⟩ := ih
    refine ⟨(spared_of_reaches hfiles hrun.reaches).1, ?_⟩
    rw [file?_of_runs hfiles hrun, hbefore, posted_append, List.filterMap_append,
      List.getLast?_append, ← Option.or_assoc]
    cases result with
    | error e => rfl
    | ok =>
      simp only [Except.toBool, if_true]
      cases hbytes : notice.bytes? name with
      | none => simp [hbytes]
      | some bytes => simp [hbytes]

/-- A cage is marked if anything was written to its marker. -/
theorem mem_iff_isSome_last (cage : CageId) (notices : List Notice) :
    .armed cage ∈ notices ↔
      (notices.filterMap (Notice.bytes? (.armed cage))).getLast?.isSome = true := by
  rw [List.getLast?_isSome, ne_eq, List.filterMap_eq_nil_iff]
  constructor
  · intro hmem hnone
    have hsome := (Notice.isSome_bytes?_armed cage (.armed cage)).mpr rfl
    rw [hnone _ hmem] at hsome
    contradiction
  · intro hsome
    by_contra hmem
    refine hsome fun notice hnotice => ?_
    by_contra hput
    have heq := (Notice.isSome_bytes?_armed cage notice).mp (Option.isSome_iff_ne_none.mpr hput)
    exact hmem (heq ▸ hnotice)

/-- What a marker says is what was said last. -/
theorem found_of_last {α Party : Type} [Decode α] {path : Path} {files : SharedFiles Party}
    {notices : List Notice} {tells : Notice → Option α} {put : Notice → Option (List UInt8)}
    {bytes : α → List UInt8} (hfile : files.file? path = (notices.filterMap put).getLast?)
    (hput : ∀ notice, put notice = (tells notice).map bytes)
    (hread : ∀ a, decodeBytes α (bytes a) = .ok a) :
    found α path (files.reading path) = .ok (notices.filterMap tells).getLast? := by
  have hlast : files.file? path = (notices.filterMap tells).getLast?.map bytes := by
    rw [hfile, funext hput, ← List.map_filterMap, List.getLast?_map]
  cases hsaid : (notices.filterMap tells).getLast? with
  | none =>
    rw [hsaid] at hlast
    exact found_of_absent hlast
  | some a =>
    rw [hsaid] at hlast
    exact found_of_file? hlast (hread a)

/-! ## Any number of markers -/

/-- **Markers never collide.**  Whatever has been written in a directory without markers, whether a
    cage is armed and what a grate and a cage have said is read as it was written last; and while one
    marker is written, whatever is asked about any other comes to the same. -/
theorem markers_never_collide (rendezvous : Rendezvous) (peer : Peer Reader) :
    (∀ {start final : SharedFiles (Peer Reader)} {written : List (Notice × Except GateError Unit)},
      start.Apart → (∀ name, start.file? (rendezvous.path name) = none) →
      Posts rendezvous start written final →
      (∀ cage, (rendezvous.isArmed cage).Returns (sharedDirectory peer) final
        (decide (.armed cage ∈ posted written))) ∧
      (∀ grate, (rendezvous.readReady grate).Returns (sharedDirectory peer) final
        (.ok ((posted written).filterMap (Notice.ready? grate)).getLast?)) ∧
      ∀ cage, (rendezvous.readOutcome cage).Returns (sharedDirectory peer) final
        (.ok ((posted written).filterMap (Notice.outcome? cage)).getLast?)) ∧
    ∀ {notice : Notice} {files now : SharedFiles (Peer Reader)}
      {rest : Program (Except GateError Unit)}, files.Apart →
      Program.Reaches (sharedDirectory .writer) (notice.write rendezvous) files rest now →
      ∀ name, name ≠ notice.name → ReadsSame peer rendezvous files now name := by
  constructor
  · intro start final written hapart hnone hposts
    have hfile (name : MarkerName) : final.file? (rendezvous.path name) =
        ((posted written).filterMap (Notice.bytes? name)).getLast? := by
      rw [(file?_of_posts hapart hposts name).2, hnone name, Option.or_none]
    refine ⟨fun cage => ?_, fun grate => ?_, fun cage => ?_⟩
    · refine returns_pathExists.mpr ?_
      show decide _ = (final.file? (rendezvous.path (.armed cage))).isSome
      rw [hfile, Bool.eq_iff_iff, decide_eq_true_iff]
      exact mem_iff_isSome_last cage (posted written)
    · have hread (marker : ReadyMarker) := decodeBytes_indented (standsFor_readyMarker _ marker)
      have hlast := found_of_last (hfile (.ready grate)) (Notice.bytes?_ready grate) hread
      exact returns_readMarker.mpr hlast.symm
    · have hread (saw : CageOutcome) := decodeBytes_indented (standsFor_cageOutcome _ saw)
      have hlast := found_of_last (hfile (.outcome cage)) (Notice.bytes?_outcome cage) hread
      exact returns_readMarker.mpr hlast.symm
  · intro notice files now rest hapart hreach name hname
    exact readsSame_of_sameAt (sameAt_of_reaches hapart hreach hname)

theorem exists_posts (rendezvous : Rendezvous) (start : SharedFiles (Peer Reader))
    (notices : List Notice) :
    ∃ final, Posts rendezvous start (notices.map fun notice => (notice, .ok ())) final := by
  induction notices using List.reverseRecOn with
  | nil => exact ⟨start, .none⟩
  | append_singleton notices notice ih =>
    obtain ⟨files, hbefore⟩ := ih
    obtain ⟨final, hrun⟩ := exists_runs_publish (rendezvous.path notice.name) notice.bytes files
    rw [← Notice.write_eq] at hrun
    rw [List.map_append]
    exact ⟨final, .write hbefore hrun⟩

/-- A cage and a grate of one number.  The grate says twice that it is ready, and is read as it said it
    last; then the cage says what it saw, and is armed no less than before. -/
theorem markers_never_collide_of_one_number :
    let rendezvous : Rendezvous := ⟨.ofText "rendezvous"⟩
    let first : ReadyMarker := ⟨⟨5⟩, ⟨1⟩, []⟩
    let second : ReadyMarker := ⟨⟨5⟩, ⟨2⟩, []⟩
    let notices : List Notice := [.ready first, .armed ⟨5⟩, .ready second]
    let saw : Notice := .outcome ⟨⟨5⟩, []⟩
    let start : SharedFiles (Peer Unit) := ⟨fun _ => none, fun _ => [], 0, fun _ _ => none⟩
    start.Apart ∧ (∀ name, start.file? (rendezvous.path name) = none) ∧
    ∃ final after, Posts rendezvous start (notices.map fun notice => (notice, .ok ())) final ∧
      (rendezvous.isArmed ⟨5⟩).Returns (sharedDirectory (.reader ())) final true ∧
      (rendezvous.readReady ⟨5⟩).Returns (sharedDirectory (.reader ())) final (.ok (some second)) ∧
      (rendezvous.readOutcome ⟨5⟩).Returns (sharedDirectory (.reader ())) final (.ok none) ∧
      (saw.write rendezvous).Runs (sharedDirectory .writer) final (.ok ()) after ∧
      ReadsSame (.reader ()) rendezvous final after (.armed ⟨5⟩) := by
  intro rendezvous first second notices saw start
  have hapart : start.Apart := ⟨nofun, nofun⟩
  have hnone (name : MarkerName) : start.file? (rendezvous.path name) = none := rfl
  obtain ⟨final, hposts⟩ := exists_posts rendezvous start notices
  obtain ⟨after, hsaw⟩ := exists_runs_publish (rendezvous.path saw.name) saw.bytes final
  rw [← Notice.write_eq] at hsaw
  obtain ⟨hread, hframe⟩ := markers_never_collide rendezvous (.reader () : Peer Unit)
  obtain ⟨harmed, hready, houtcome⟩ := hread hapart hnone hposts
  have hfinal : final.Apart := (file?_of_posts hapart hposts saw.name).1
  exact ⟨hapart, hnone, final, after, hposts, harmed ⟨5⟩, hready ⟨5⟩, houtcome ⟨5⟩, hsaw,
    hframe hfinal hsaw.reaches (.armed ⟨5⟩) nofun⟩

end Interposition.Rendezvous
