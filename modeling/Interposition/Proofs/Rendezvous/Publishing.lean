/-
  Markers, written by one process while others look for them.

  A marker is written to a draft, in as many writes as it takes, and then the draft is given the name
  of the marker.  Whoever looks for the marker may do so at any time in between, any of the writer's
  requests may fail, and the writer may be stopped anywhere.

  1. **Sightings** (`Sighting.Tells`): a look at a marker shows what it says or whether it is there,
     and both are about what reading its file comes to (`found`).

  2. **A site** (`Site.Step`): the writer, any number of others who look again and again, and whoever
     else does something to other files take turns, a request at a time.  A look keeps what had been
     seen before it was begun, by anybody: those sightings it may not fall behind.  Nothing is said of
     those that came while it was going on.

  3. **Publishing** (`meets_publish`): no request of the writer is seen under the name of the marker
     but the one that gives it to the complete draft.

  4. **The crux** (`Sound.step`): what is under the name is what was there at first or the new marker,
     and once it is the new one it stays so.  A look takes its answer from one moment, so by induction
     on the steps every sighting tells one or the other and none falls behind (`sound`).
-/
import Mathlib.Logic.Relation
import Interposition.Proofs.Host.Alone
import Interposition.Proofs.Host.SharedFiles
import Interposition.Proofs.Host.Writing
import Interposition.Proofs.Json.Handover

namespace Interposition.Rendezvous

/-! ## Sightings -/

/-- What reading a marker comes to, by how the request for its file is answered. -/
def found (α : Type) [Decode α] (path : Path) (answer : Except IoError (List UInt8)) :
    Except GateError (Option α) :=
  match answer with
  | .error cause => if cause.isNotFound then .ok none else .error (.io path cause)
  | .ok bytes =>
    match decodeBytes α bytes with
    | .ok a => .ok (some a)
    | .error cause => .error (.malformed path cause)

theorem readMarker_eq (α : Type) [Decode α] (path : Path) :
    readMarker α path = .ask (.readFile path) fun answer => .pure (found α path answer) := by
  refine congrArg (Program.ask (.readFile path)) (funext fun answer => ?_)
  unfold found
  cases answer with
  | error cause => rfl
  | ok bytes =>
    simp only [Program.bind]
    cases decodeBytes α bytes <;> rfl

/-- **Reading a marker** is one request, and what is made of its answer. -/
theorem runs_readMarker {World α : Type} [Decode α] {os : OperatingSystem World} {path : Path}
    {world final : World} {said : Except GateError (Option α)} :
    (readMarker α path).Runs os world said final ↔
      ∃ answer, os.answers world (.readFile path) answer final ∧ said = found α path answer := by
  rw [readMarker_eq]
  constructor
  · rintro ⟨answer, _, hanswer, rfl, rfl⟩
    exact ⟨answer, hanswer, rfl⟩
  · rintro ⟨answer, hanswer, rfl⟩
    exact ⟨answer, final, hanswer, rfl, rfl⟩

theorem decodes_of_found {α : Type} [Decode α] {path : Path} {answer : Except IoError (List UInt8)}
    {a : α} (h : found α path answer = .ok (some a)) :
    ∃ bytes, answer = .ok bytes ∧ decodeBytes α bytes = .ok a := by
  unfold found at h
  cases answer with
  | error cause =>
    dsimp only at h
    split at h <;> cases h
  | ok bytes =>
    dsimp only at h
    split at h
    · next read hread =>
      cases h
      exact ⟨bytes, rfl, hread⟩
    · cases h

/-- What a look at a marker shows: what it says, or just whether it is there. -/
inductive Sighting (α : Type) where
  | contents (said : Except GateError (Option α))
  | presence (there : Bool)

/-- A sighting of a marker that reads so. -/
def Sighting.Tells {α : Type} (said : Except GateError (Option α)) : Sighting α → Prop
  | .contents answer => answer = said
  | .presence there => there = true ↔ said ≠ .ok none

/-- The two ways of looking at a marker. -/
def looks (α : Type) [Decode α] (path : Path) : List (Program (Sighting α)) :=
  [.contents <$> readMarker α path, .presence <$> Program.request (.pathExists path)]

/-! ## The site of a marker -/

/-- The writer of a marker, and those who look for it. -/
inductive Peer (Reader : Type) where
  | writer
  | reader (r : Reader)
deriving DecidableEq

variable {Reader α : Type}

/-- An operating system, as far as the files that hold markers go.  Every request of a writer may
    fail, and one that fails changes nothing. -/
def sharedDirectory [DecidableEq Reader] (peer : Peer Reader) : OperatingSystem (SharedFiles (Peer Reader)) where
  answers
    | files, .pathExists path, there, next => there = (files.names path).isSome ∧ next = files
    | files, .readFile path, answer, next => answer = files.reading path ∧ next = files
    | files, .createFile path, answer, next =>
      (∃ e, answer = .error e) ∧ next = files ∨
        ∃ handle, answer = .ok handle ∧ next = files.create peer path handle
    | files, .write handle bytes, answer, next =>
      (∃ e, answer = .error e) ∧ next = files ∨
        ∃ count ≤ bytes.length, answer = .ok count ∧
          next = files.write peer handle (bytes.take count)
    | files, .close handle, _, next => next = files.close peer handle
    | files, .rename source target, answer, next =>
      (∃ e, answer = .error e) ∧ next = files ∨
        answer = .ok () ∧ next = files.rename source target
    | _, _, _, _ => True
  spawns _ _ _ _ _ _ := True

/-- A look that is going on: what is left of it, and what had been seen when it was begun. -/
structure Look (α : Type) where
  rest : Program (Sighting α)
  before : List (Sighting α)

/-- A look that has come to a sighting. -/
structure Seen (α : Type) where
  sighting : Sighting α
  before : List (Sighting α)

/-- The files, and what everybody has still to do. -/
structure Site (Reader α : Type) where
  files : SharedFiles (Peer Reader)
  writer : Program (Except GateError Unit)
  looking : Reader → Option (Look α)
  seen : List (Seen α)

namespace Site

/-- What reading the marker would come to. -/
def reads [Decode α] (s : Site Reader α) (path : Path) : Except GateError (Option α) :=
  found α path (s.files.reading path)

/-- Nobody has begun. -/
structure Starts (writer : Program (Except GateError Unit)) (s : Site Reader α) : Prop where
  apart : s.files.Apart
  writer_eq : s.writer = writer
  looking : ∀ r, s.looking r = none
  seen : s.seen = []

variable [DecidableEq Reader]

/-- One step.  The file of the marker and its draft are the writer's alone. -/
inductive Step (path : Path) (ways : List (Program (Sighting α))) :
    Site Reader α → Site Reader α → Prop where
  | writes {s : Site Reader α} {deed : Deed} {rest : Program (Except GateError Unit)}
      {files : SharedFiles (Peer Reader)}
      (h : Program.Step (sharedDirectory .writer) s.writer s.files deed rest files) :
      Step path ways s { s with files := files, writer := rest }
  | begins {s : Site Reader α} {r : Reader} {way : Program (Sighting α)}
      (hidle : s.looking r = none) (hway : way ∈ ways) :
      Step path ways s
        { s with looking := Function.update s.looking r (some ⟨way, s.seen.map Seen.sighting⟩) }
  | looks {s : Site Reader α} {r : Reader} {look : Look α} {deed : Deed}
      {rest : Program (Sighting α)} {files : SharedFiles (Peer Reader)}
      (hlook : s.looking r = some look)
      (h : Program.Step (sharedDirectory (.reader r)) look.rest s.files deed rest files) :
      Step path ways s
        { s with
          files := files
          looking := Function.update s.looking r (some { look with rest := rest }) }
  | sees {s : Site Reader α} {r : Reader} {sighting : Sighting α} {before : List (Sighting α)}
      (hlook : s.looking r = some ⟨.pure sighting, before⟩) :
      Step path ways s
        { s with
          looking := Function.update s.looking r none
          seen := ⟨sighting, before⟩ :: s.seen }
  | others {s : Site Reader α} {files : SharedFiles (Peer Reader)}
      (hmarker : s.files.SameAt files path) (hdraft : s.files.SameAt files (temporary path))
      (hopened : files.opened .writer = s.files.opened .writer) (hapart : files.Apart) :
      Step path ways s { s with files := files }

/-- What a site may have come to. -/
def Reaches (path : Path) (ways : List (Program (Sighting α))) :
    Site Reader α → Site Reader α → Prop :=
  Relation.ReflTransGen (Step path ways)

end Site

/-! ## Publishing -/

theorem temporary_ne (path : Path) : temporary path ≠ path := by
  intro h
  have hlength := congrArg (fun p : Path => p.bytes.length) h
  have hlonger : (temporary path).bytes.length = path.bytes.length + 4 :=
    List.length_append.trans (congrArg _ (by decide +kernel))
  omega

/-- What the writer owes the others: under the name of the marker there is always what was there, or
    the bytes of the new one.  In return its draft and its open files are its own. -/
def contract (path : Path) (bytes : List UInt8) : Contract (SharedFiles (Peer Reader)) where
  invariant := SharedFiles.Apart
  rely files next := files.SameAt next path ∧ files.SameAt next (temporary path) ∧
    next.opened .writer = files.opened .writer
  guarantee files _ next := files.SameAt next path ∨ next.file? path = some bytes
  rely_trans h h' := ⟨h.1.trans h'.1, h.2.1.trans h'.2.1, h'.2.2.trans h.2.2⟩

section publish

variable {path : Path} {bytes : List UInt8} {first files : SharedFiles (Peer Reader)}

/-- What was there at first is there still, and so much of the new marker is in the draft. -/
def Drafted (path : Path) (first : SharedFiles (Peer Reader)) (handle : FileHandle)
    (written : List UInt8) (now : SharedFiles (Peer Reader)) : Prop :=
  first.SameAt now path ∧ now.AtEnd .writer handle (temporary path) written

theorem stable_sameAt :
    (contract path bytes).Stable fun now : SharedFiles (Peer Reader) => first.SameAt now path :=
  fun hnow hrely _ => hnow.trans hrely.1

theorem stable_drafted (handle : FileHandle) (written : List UInt8) :
    (contract path bytes).Stable (Drafted path first handle written) :=
  fun hnow hrely _ => ⟨hnow.1.trans hrely.1, hnow.2.of_sameAt hrely.2.2 hrely.2.1⟩

variable [DecidableEq Reader]

/-- **The draft** has all bytes of the marker in it, or an error is reported. -/
theorem meets_draft (h : first.SameAt files path) :
    (Program.writeFile (temporary path) bytes).Meets (sharedDirectory .writer)
      (contract path bytes) (fun result now => first.SameAt now path ∧
        (result = .ok () → now.file? (temporary path) = some bytes)) files := by
  have hpath : path ≠ temporary path := Ne.symm (temporary_ne path)
  have hcreate : (Program.request (.createFile (temporary path))).Meets (sharedDirectory .writer)
      (contract path bytes) (fun result now => first.SameAt now path ∧ ∀ handle,
        result = .ok handle → Drafted path first handle [] now) files := by
    refine Program.meets_request fun now hrely hapart answer next hanswer => ?_
    have hnow := stable_sameAt h hrely hapart
    rcases hanswer with ⟨⟨e, rfl⟩, rfl⟩ | ⟨handle, rfl, rfl⟩
    · exact ⟨⟨hapart, .inl (.refl _ _)⟩, hnow, nofun⟩
    · have hsame : now.SameAt (now.create .writer (temporary path) handle) path :=
        SharedFiles.sameAt_create hapart hpath
      refine ⟨⟨hapart.create .writer _ handle, .inl hsame⟩, hnow.trans hsame, ?_⟩
      rintro _ ⟨⟩
      exact ⟨hnow.trans hsame, SharedFiles.atEnd_create ..⟩
  refine hcreate.bind fun opened now hnow => ?_
  obtain ⟨hnow, hdrafted⟩ := hnow
  cases opened with
  | error e => exact ⟨hnow, nofun⟩
  | ok handle =>
    have hwrite : (Program.writeAll handle bytes).Meets (sharedDirectory .writer)
        (contract path bytes) (fun result later =>
          (∃ written, Drafted path first handle written later) ∧
          (result = .ok () → Drafted path first handle bytes later)) now := by
      refine Program.meets_writeAll _ (stable_drafted handle) ?_ (hdrafted handle rfl)
      rintro written rest now answer next ⟨hnow, hend⟩ hapart hanswer
      rcases hanswer with ⟨⟨e, rfl⟩, rfl⟩ | ⟨count, -, rfl, rfl⟩
      · exact ⟨⟨hapart, .inl (.refl _ _)⟩, hnow, hend⟩
      · obtain ⟨file, hopened, hname, -⟩ := id hend
        have hsame := SharedFiles.sameAt_write hapart hopened hname hpath (rest.take count)
        exact ⟨⟨hapart.write .writer handle _, .inl hsame⟩, hnow.trans hsame, hend.write _⟩
    refine hwrite.bind fun result now hnow => ?_
    obtain ⟨⟨written, hsame, -⟩, hdrafted⟩ := hnow
    have hclose : (Program.request (.close handle)).Meets (sharedDirectory .writer)
        (contract path bytes) (fun _ now => first.SameAt now path ∧
          (result = .ok () → now.file? (temporary path) = some bytes)) now := by
      refine Program.meets_request fun later hrely hapart answer next hanswer => ?_
      obtain rfl : next = later.close .writer handle := hanswer
      have hkept (q : Path) := SharedFiles.sameAt_close later .writer handle q
      refine ⟨⟨hapart.close .writer handle, .inl (hkept path)⟩,
        (stable_sameAt hsame hrely hapart).trans (hkept path), fun hresult => ?_⟩
      rw [(hkept _).file?]
      exact (stable_drafted handle bytes (hdrafted hresult) hrely hapart).2.file?
    exact hclose.bind fun _ now hnow => hnow

/-- What publishing comes to: the new marker is there, or an error is reported and the marker is what
    it was. -/
def Settled (path : Path) (bytes : List UInt8) (first : SharedFiles (Peer Reader))
    (result : Except GateError Unit) (now : SharedFiles (Peer Reader)) : Prop :=
  match result with
  | .ok () => now.file? path = some bytes
  | .error _ => first.SameAt now path

/-- **Publishing** settles in one way or the other. -/
theorem meets_publish (h : first.SameAt files path) :
    (publish path bytes).Meets (sharedDirectory .writer) (contract path bytes)
      (Settled path bytes first) files := by
  refine (meets_draft h).bind fun result now hnow => ?_
  obtain ⟨hsame, hfile⟩ := hnow
  cases result with
  | error e => exact hsame
  | ok =>
    have hrename : (Program.request (.rename (temporary path) path)).Meets
        (sharedDirectory .writer) (contract path bytes)
        (fun result => Settled path bytes first (result.mapError (GateError.io path))) now := by
      refine Program.meets_request fun later hrely hapart answer next hanswer => ?_
      have hlater := stable_sameAt hsame hrely hapart
      have hdraft : later.file? (temporary path) = some bytes := hrely.2.1.file?.trans (hfile rfl)
      rcases hanswer with ⟨⟨e, rfl⟩, rfl⟩ | ⟨rfl, rfl⟩
      · exact ⟨⟨hapart, .inl (.refl _ _)⟩, hlater⟩
      · have hnamed : (later.rename (temporary path) path).file? path = some bytes :=
          (SharedFiles.file?_rename (temporary_ne path)).1.trans hdraft
        exact ⟨⟨hapart.rename _ _, .inr hnamed⟩, hnamed⟩
    refine hrename.bind fun result now hnow => ?_
    cases result <;> exact hnow

/-- A system that does what a writer of markers asks for, at once. -/
structure Willing (os : OperatingSystem (SharedFiles (Peer Reader))) : Prop where
  create : ∀ files path, ∃ handle, os.answers files (.createFile path) (.ok handle)
    (files.create .writer path handle)
  write : ∀ files handle bytes, bytes ≠ [] → os.answers files (.write handle bytes)
    (.ok bytes.length) (files.write .writer handle bytes)
  close : ∀ files handle, os.answers files (.close handle) () (files.close .writer handle)
  rename : ∀ files source target, os.answers files (.rename source target) (.ok ())
    (files.rename source target)

namespace Willing

variable {os : OperatingSystem (SharedFiles (Peer Reader))}

theorem exists_runs_writeAll (h : Willing os) (handle : FileHandle) (bytes : List UInt8)
    (files : SharedFiles (Peer Reader)) :
    ∃ final, (Program.writeAll handle bytes).Runs os files (.ok ()) final := by
  unfold Program.writeAll
  simp only [Program.runs_iterate]
  cases bytes with
  | nil => exact ⟨files, .stop ⟨rfl, rfl⟩⟩
  | cons byte more =>
    have hwrite := h.write files handle (byte :: more) (List.cons_ne_nil _ _)
    refine ⟨files.write .writer handle (byte :: more), .again ⟨_, _, hwrite, rfl, rfl⟩ ?_⟩
    have hnothing : (byte :: more).drop (byte :: more).length = [] := List.drop_length
    rw [hnothing]
    exact .stop ⟨rfl, rfl⟩

theorem exists_runs_publish (h : Willing os) (path : Path) (bytes : List UInt8)
    (files : SharedFiles (Peer Reader)) :
    ∃ final, (publish path bytes).Runs os files (.ok ()) final := by
  obtain ⟨handle, hcreate⟩ := h.create files (temporary path)
  obtain ⟨filled, hfilled⟩ :=
    h.exists_runs_writeAll handle bytes (files.create .writer (temporary path) handle)
  let closed := filled.close .writer handle
  refine ⟨closed.rename (temporary path) path, ?_⟩
  have hfill : (Program.fill (.ok handle) bytes).Runs os
      (files.create .writer (temporary path) handle) (.ok ()) closed := by
    unfold Program.fill
    exact Program.runs_bind.mpr
      ⟨.ok (), filled, hfilled, (), closed, h.close filled handle, rfl, rfl⟩
  have hdraft : (Program.writeFile (temporary path) bytes).Runs os files (.ok ()) closed :=
    ⟨.ok handle, _, hcreate, hfill⟩
  unfold publish
  exact Program.runs_bind.mpr
    ⟨.ok (), closed, hdraft, .ok (), _, h.rename closed (temporary path) path, rfl, rfl⟩

end Willing

theorem willing_sharedDirectory : Willing (sharedDirectory (.writer : Peer Reader)) where
  create _ _ := ⟨⟨0⟩, .inr ⟨⟨0⟩, rfl, rfl⟩⟩
  write files handle bytes _ := by
    refine .inr ⟨bytes.length, Nat.le_refl _, rfl, ?_⟩
    rw [List.take_length]
  close _ _ := rfl
  rename _ _ _ := .inr ⟨rfl, rfl⟩

/-- Nothing need fail. -/
theorem exists_runs_publish (path : Path) (bytes : List UInt8) (files : SharedFiles (Peer Reader)) :
    ∃ final, (publish path bytes).Runs (sharedDirectory .writer) files (.ok ()) final :=
  willing_sharedDirectory.exists_runs_publish path bytes files

end publish

/-! ## Looking -/

section look

variable [Decode α] {path : Path} {Party : Type} {files other : SharedFiles Party}

theorem found_of_sameAt (h : files.SameAt other path) :
    found α path (other.reading path) = found α path (files.reading path) := by
  unfold SharedFiles.reading
  rw [h.file?]

theorem found_of_absent (h : files.file? path = none) :
    found α path (files.reading path) = .ok none := by
  unfold SharedFiles.reading
  rw [h]
  rfl

theorem found_of_file? {bytes : List UInt8} {a : α} (h : files.file? path = some bytes)
    (hread : decodeBytes α bytes = .ok a) : found α path (files.reading path) = .ok (some a) := by
  unfold SharedFiles.reading found
  rw [h]
  simp only [hread]

/-- A marker is there if reading it comes to anything else than that it is not. -/
theorem presence_tells (files : SharedFiles Party) (path : Path) :
    (Sighting.presence (files.names path).isSome).Tells (found α path (files.reading path)) := by
  have hthere : (files.names path).isSome = (files.file? path).isSome := Option.isSome_map.symm
  unfold Sighting.Tells
  rw [hthere]
  cases hfile : files.file? path with
  | none => simp [found_of_absent hfile]
  | some bytes =>
    have hfound : found α path (files.reading path) ≠ .ok none := by
      unfold SharedFiles.reading found
      rw [hfile]
      simp only
      cases decodeBytes α bytes <;> simp
    simp [hfound]

theorem contents_map_readMarker (α : Type) [Decode α] (path : Path) :
    Sighting.contents <$> readMarker α path =
      .ask (.readFile path) fun answer => .pure (.contents (found α path answer)) := by
  rw [readMarker_eq]
  rfl

/-- A look has not come to anything yet. -/
theorem pure_notMem_looks (sighting : Sighting α) : Program.pure sighting ∉ looks α path := by
  intro hmem
  rcases List.mem_cons.mp hmem with hcontents | hpresence
  · rw [contents_map_readMarker] at hcontents
    contradiction
  · cases List.mem_singleton.mp hpresence

/-- **A look** takes its answer from one moment. -/
theorem tells_of_step [DecidableEq Reader] {peer : Peer Reader}
    {files next : SharedFiles (Peer Reader)} {way rest : Program (Sighting α)} {deed : Deed}
    (hway : way ∈ looks α path)
    (h : Program.Step (sharedDirectory peer) way files deed rest next) :
    next = files ∧ ∃ sighting : Sighting α, rest = .pure sighting ∧
      sighting.Tells (found α path (files.reading path)) := by
  rcases List.mem_cons.mp hway with rfl | hpresence
  · rw [contents_map_readMarker] at h
    cases h with
    | ask hanswer =>
      obtain ⟨rfl, rfl⟩ := hanswer
      exact ⟨rfl, _, rfl, rfl⟩
  · obtain rfl := List.mem_singleton.mp hpresence
    have h : Program.Step (sharedDirectory peer)
      (.ask (.pathExists path) fun there => .pure (.presence there)) files deed rest next := h
    cases h with
    | ask hanswer =>
      obtain ⟨rfl, rfl⟩ := hanswer
      exact ⟨rfl, _, rfl, presence_tells _ path⟩

end look

/-! ## Soundness -/

/-- A sighting that gives the new marker away: it is the new marker, or it is not what there was. -/
def Sighting.Reveals (old : Except GateError (Option α)) (new : α) (sighting : Sighting α) : Prop :=
  sighting = .contents (.ok (some new)) ∨ ¬ sighting.Tells old

/-- A sighting that does not fall behind those before it. -/
def Sighting.Follows (old : Except GateError (Option α)) (new : α) (before : List (Sighting α))
    (sighting : Sighting α) : Prop :=
  (∃ earlier ∈ before, earlier.Reveals old new) → sighting.Tells (.ok (some new))

section sound

variable [Decode α] {path : Path} {bytes : List UInt8} {new : α}
  {ways : List (Program (Sighting α))} {start s next : Site Reader α} {sighting : Sighting α}

/-- A sighting of what there was at first, or of the new marker once it is there. -/
def Shown (path : Path) (bytes : List UInt8) (new : α) (start s : Site Reader α)
    (sighting : Sighting α) : Prop :=
  sighting.Tells (start.reads path) ∨
    s.files.file? path = some bytes ∧ sighting.Tells (.ok (some new))

theorem Shown.mono (h : Shown path bytes new start s sighting)
    (hstays : s.files.file? path = some bytes → next.files.file? path = some bytes) :
    Shown path bytes new start next sighting := h.imp_right (.imp_left hstays)

variable [DecidableEq Reader]

/-- What is so at any time. -/
structure Sound (path : Path) (bytes : List UInt8) (new : α) (ways : List (Program (Sighting α)))
    (start s : Site Reader α) : Prop where
  apart : s.files.Apart
  writer : s.writer.Meets (sharedDirectory .writer) (contract path bytes)
    (Settled path bytes start.files) s.files
  /-- Under the name of the marker there is what there was, or the new marker. -/
  marker : start.files.SameAt s.files path ∨ s.files.file? path = some bytes
  looking : ∀ r look, s.looking r = some look →
    (∀ earlier ∈ look.before, Shown path bytes new start s earlier) ∧
      (look.rest ∈ ways ∨ ∃ sighting, look.rest = .pure sighting ∧
        Shown path bytes new start s sighting ∧
        sighting.Follows (start.reads path) new look.before)
  seen : ∀ look ∈ s.seen, Shown path bytes new start s look.sighting ∧
    look.sighting.Follows (start.reads path) new look.before

namespace Sound

/-- The files have moved on, and the marker is as it was or the new one. -/
theorem moved (h : Sound path bytes new ways start s) {files : SharedFiles (Peer Reader)}
    {rest : Program (Except GateError Unit)} (hapart : files.Apart)
    (hwriter : rest.Meets (sharedDirectory .writer) (contract path bytes)
      (Settled path bytes start.files) files)
    (hmarker : s.files.SameAt files path ∨ files.file? path = some bytes) :
    Sound path bytes new ways start { s with files := files, writer := rest } := by
  have hstays (hthere : s.files.file? path = some bytes) : files.file? path = some bytes :=
    hmarker.elim (fun hsame => hsame.file?.trans hthere) id
  refine ⟨hapart, hwriter, ?_, fun r look hlook => ?_, fun look hlook => ?_⟩
  · rcases hmarker with hsame | hnew
    · exact h.marker.imp (fun hfirst => hfirst.trans hsame) fun hthere => hsame.file?.trans hthere
    · exact .inr hnew
  · obtain ⟨hbefore, hrest⟩ := h.looking r look hlook
    refine ⟨fun earlier hmem => (hbefore earlier hmem).mono hstays, hrest.imp_right ?_⟩
    rintro ⟨sighting, hpure, hshown, hfollows⟩
    exact ⟨sighting, hpure, hshown.mono hstays, hfollows⟩
  · obtain ⟨hshown, hfollows⟩ := h.seen look hlook
    exact ⟨hshown.mono hstays, hfollows⟩

/-- **A sighting of this moment** is one of the two and falls behind none that was before. -/
theorem now (h : Sound path bytes new ways start s) (hread : decodeBytes α bytes = .ok new)
    {before : List (Sighting α)}
    (hbefore : ∀ earlier ∈ before, Shown path bytes new start s earlier)
    (htells : sighting.Tells (found α path (s.files.reading path))) :
    Shown path bytes new start s sighting ∧
      sighting.Follows (start.reads path) new before := by
  have hold (hsame : start.files.SameAt s.files path) : sighting.Tells (start.reads path) := by
    rw [found_of_sameAt hsame] at htells
    exact htells
  have hnew (hthere : s.files.file? path = some bytes) : sighting.Tells (.ok (some new)) := by
    rw [found_of_file? hthere hread] at htells
    exact htells
  constructor
  · exact h.marker.imp hold fun hthere => ⟨hthere, hnew hthere⟩
  · rintro ⟨earlier, hmem, hreveals⟩
    -- the earlier sighting tells of the new marker, which is there since, or was there at first
    rcases hbefore earlier hmem with hfirst | ⟨hthere, -⟩
    · have hearlier : earlier = .contents (.ok (some new)) :=
        hreveals.resolve_right fun hnot => hnot hfirst
      rw [hearlier] at hfirst
      have hsame : (.ok (some new) : Except GateError (Option α)) = start.reads path := hfirst
      rcases h.marker with hkept | hthere
      · rw [hsame]
        exact hold hkept
      · exact hnew hthere
    · exact hnew hthere

/-- **One step**. -/
theorem step (h : Sound path bytes new ways start s) (hread : decodeBytes α bytes = .ok new)
    (hways : ∀ way ∈ ways, way ∈ looks α path) (hstep : Site.Step path ways s next) :
    Sound path bytes new ways start next := by
  cases hstep with
  | writes hwrites =>
    have hturn : (contract path bytes).rely s.files s.files := ⟨.refl _ _, .refl _ _, rfl⟩
    obtain ⟨⟨-, rfl⟩ | ⟨hapart, hmarker⟩, hrest⟩ := h.writer.step hturn h.apart hwrites
    · exact h.moved h.apart hrest (.inl (.refl _ _))
    · exact h.moved hapart hrest hmarker
  | others hmarker hdraft hopened hapart =>
    refine h.moved hapart (h.writer.rely ?_ ⟨hmarker, hdraft, hopened⟩ hapart) (.inl hmarker)
    rintro (_ | _) now next hnow hrely -
    · exact SharedFiles.SameAt.trans hnow hrely.1
    · exact hrely.1.file?.trans hnow
  | @begins r way hidle hway =>
    refine ⟨h.apart, h.writer, h.marker, fun r' look hlook => ?_, h.seen⟩
    have hlook : Function.update s.looking r _ r' = some look := hlook
    by_cases hr : r' = r
    · rw [hr, Function.update_self] at hlook
      obtain rfl := Option.some.inj hlook
      refine ⟨fun earlier hmem => ?_, .inl hway⟩
      obtain ⟨look, hseen, rfl⟩ := List.mem_map.mp hmem
      exact (h.seen look hseen).1
    · rw [Function.update_of_ne hr] at hlook
      exact h.looking r' look hlook
  | @looks r look deed rest files hlook hlooks =>
    obtain ⟨hbefore, hway | ⟨sighting, hpure, -⟩⟩ := h.looking r look hlook
    · obtain ⟨rfl, sighting, rfl, htells⟩ := tells_of_step (hways _ hway) hlooks
      refine ⟨h.apart, h.writer, h.marker, fun r' look' hlook' => ?_, h.seen⟩
      have hlook' : Function.update s.looking r _ r' = some look' := hlook'
      by_cases hr : r' = r
      · rw [hr, Function.update_self] at hlook'
        obtain rfl := Option.some.inj hlook'
        exact ⟨hbefore, .inr ⟨sighting, rfl, h.now hread hbefore htells⟩⟩
      · rw [Function.update_of_ne hr] at hlook'
        exact h.looking r' look' hlook'
    · rw [hpure] at hlooks
      cases hlooks
  | @sees r sighting before hlook =>
    obtain ⟨-, hsighted⟩ := h.looking r _ hlook
    refine ⟨h.apart, h.writer, h.marker, fun r' look' hlook' => ?_, fun look hmem => ?_⟩
    · have hlook' : Function.update s.looking r none r' = some look' := hlook'
      by_cases hr : r' = r
      · rw [hr, Function.update_self] at hlook'
        contradiction
      · rw [Function.update_of_ne hr] at hlook'
        exact h.looking r' look' hlook'
    · rcases List.mem_cons.mp hmem with rfl | hmem
      · rcases hsighted with hway | ⟨_, hpure, hshown⟩
        · exact absurd (hways _ hway) (pure_notMem_looks sighting)
        · obtain rfl := Program.pure.inj hpure
          exact hshown
      · exact h.seen look hmem

end Sound

/-- **Every point** a site comes to is sound. -/
theorem sound (hread : decodeBytes α bytes = .ok new)
    (hways : ∀ way ∈ ways, way ∈ looks α path) (hstart : start.Starts (publish path bytes))
    (hreach : Site.Reaches path ways start s) : Sound path bytes new ways start s := by
  induction hreach with
  | refl =>
    refine ⟨hstart.apart, ?_, .inl (.refl _ _), fun r look hlook => ?_, fun look hmem => ?_⟩
    · rw [hstart.writer_eq]
      exact meets_publish (.refl _ _)
    · rw [hstart.looking r] at hlook
      contradiction
    · rw [hstart.seen] at hmem
      contradiction
  | tail _ hstep ih => exact ih.step hread hways hstep

end sound

/-! ## Ready grates and outcomes -/

/-- What is so at a point of a site at which a marker is written. -/
structure Atomic [Decode α] (path : Path) (new : α) (start s : Site Reader α) : Prop where
  /-- Every look shows what there was, or all of the new marker. -/
  whole : ∀ look ∈ s.seen,
    look.sighting.Tells (start.reads path) ∨ look.sighting.Tells (.ok (some new))
  /-- If there was none, it shows that there is none, or all of the new marker. -/
  absent : start.files.file? path = none → ∀ look ∈ s.seen,
    look.sighting.Tells (.ok none) ∨ look.sighting.Tells (.ok (some new))
  /-- No look finds fault with the marker unless there was fault to be found. -/
  legible : start.files.file? path = none ∨ (∃ old, start.reads path = .ok (some old)) →
    ∀ look ∈ s.seen, ∀ e, look.sighting ≠ .contents (.error e)
  /-- No look falls behind what anybody had seen before it was begun. -/
  steady : ∀ look ∈ s.seen, look.sighting.Follows (start.reads path) new look.before
  /-- At any point there is what there was, or all of the new marker. -/
  marker : start.files.SameAt s.files path ∨ s.reads path = .ok (some new)
  /-- A writer that has failed has left the marker as it was. -/
  failed : ∀ e, s.writer = .pure (.error e) → start.files.SameAt s.files path
  /-- A writer that has succeeded has put the new marker there. -/
  published : s.writer = .pure (.ok ()) → s.reads path = .ok (some new)

theorem Sound.atomic [Decode α] [DecidableEq Reader] {path : Path} {bytes : List UInt8} {new : α}
    {ways : List (Program (Sighting α))} {start s : Site Reader α}
    (h : Sound path bytes new ways start s) (hread : decodeBytes α bytes = .ok new) :
    Atomic path new start s := by
  have hwhole : ∀ look ∈ s.seen,
      look.sighting.Tells (start.reads path) ∨ look.sighting.Tells (.ok (some new)) :=
    fun look hlook => (h.seen look hlook).1.imp_right And.right
  have habsent (hnone : start.files.file? path = none) : start.reads path = .ok none :=
    found_of_absent hnone
  have hnew (hthere : s.files.file? path = some bytes) : s.reads path = .ok (some new) :=
    found_of_file? hthere hread
  refine ⟨hwhole, fun hnone => habsent hnone ▸ hwhole, ?_, fun look hlook => (h.seen look hlook).2,
    h.marker.imp_right hnew, fun e he => ?_, fun hdone => ?_⟩
  · intro hlegible look hlook e he
    have hfirst : ∃ what, start.reads path = .ok what :=
      hlegible.elim (fun hnone => ⟨_, habsent hnone⟩) fun ⟨old, hold⟩ => ⟨_, hold⟩
    obtain ⟨what, hwhat⟩ := hfirst
    rcases hwhole look hlook with htells | htells <;> rw [he] at htells
    · have hsaid : .error e = start.reads path := htells
      rw [hwhat] at hsaid
      contradiction
    · have hsaid : (.error e : Except GateError (Option α)) = .ok (some new) := htells
      contradiction
  · have hwriter := h.writer
    rw [he] at hwriter
    exact hwriter
  · have hwriter := h.writer
    rw [hdone] at hwriter
    exact hnew hwriter

/-- **Markers are published atomically**: whoever looks for a marker while it is written, and as often
    as he likes, sees what there was or the new marker, and never less than was seen before; and the
    marker of a writer that fails is what it was. -/
theorem markers_appear_at_once (rendezvous : Rendezvous) {Reader : Type} [DecidableEq Reader] :
    (∀ (marker : ReadyMarker) (start s : Site Reader ReadyMarker),
      start.Starts (rendezvous.markReady marker) →
      Site.Reaches (rendezvous.readyPath marker.grate)
        [.contents <$> rendezvous.readReady marker.grate,
          .presence <$> rendezvous.isReady marker.grate] start s →
      Atomic (rendezvous.readyPath marker.grate) marker start s) ∧
    ∀ (outcome : CageOutcome) (start s : Site Reader CageOutcome),
      start.Starts (rendezvous.writeOutcome outcome) →
      Site.Reaches (rendezvous.outcomePath outcome.cage)
        [.contents <$> rendezvous.readOutcome outcome.cage] start s →
      Atomic (rendezvous.outcomePath outcome.cage) outcome start s := by
  constructor
  · intro marker start s hstart hreach
    have hread : decodeBytes ReadyMarker (Utf8.ofText (toJson marker).indented) = .ok marker :=
      decodeBytes_indented (standsFor_readyMarker _ marker)
    exact (sound hread (fun _ hway => hway) hstart hreach).atomic hread
  · intro outcome start s hstart hreach
    have hread : decodeBytes CageOutcome (Utf8.ofText (toJson outcome).indented) = .ok outcome :=
      decodeBytes_indented (standsFor_cageOutcome _ outcome)
    exact (sound hread (fun _ hway => List.mem_cons.mpr (.inl (List.mem_singleton.mp hway)))
      hstart hreach).atomic hread

/-- A writer that goes on takes the site with it. -/
theorem Site.reaches_of_writer [DecidableEq Reader] {path : Path}
    {ways : List (Program (Sighting α))} {s : Site Reader α}
    {rest : Program (Except GateError Unit)} {files : SharedFiles (Peer Reader)}
    (h : Program.Reaches (sharedDirectory .writer) s.writer s.files rest files) :
    Site.Reaches path ways s { s with files := files, writer := rest } := by
  generalize hwriter : s.writer = program at h
  generalize hfiles : s.files = world at h
  induction h generalizing s with
  | here =>
    subst hwriter hfiles
    exact .refl
  | step hstep _ ih =>
    subst hwriter hfiles
    exact .head (.writes hstep) (ih rfl rfl)

/-- One that looks at what the marker says sees what it says at the time. -/
theorem Site.reaches_of_look [Decode α] [DecidableEq Reader] {path : Path}
    {ways : List (Program (Sighting α))} (hway : Sighting.contents <$> readMarker α path ∈ ways)
    (s : Site Reader α) (r : Reader) (hidle : s.looking r = none) :
    Site.Reaches path ways s
      { s with seen := ⟨.contents (s.reads path), s.seen.map Seen.sighting⟩ :: s.seen } := by
  let before := s.seen.map Seen.sighting
  let asking : Look α := ⟨Sighting.contents <$> readMarker α path, before⟩
  let answered : Look α := ⟨.pure (.contents (s.reads path)), before⟩
  let asked : Site Reader α := { s with looking := Function.update s.looking r (some asking) }
  let looked : Site Reader α :=
    { asked with looking := Function.update asked.looking r (some answered) }
  have hasks : Program.Step (sharedDirectory (.reader r)) asking.rest asked.files
      (.asks (.readFile path)) answered.rest asked.files := by
    show Program.Step _ (Sighting.contents <$> readMarker α path) _ _ _ _
    rw [contents_map_readMarker]
    exact .ask ⟨rfl, rfl⟩
  have hidle' : Function.update looked.looking r none = s.looking := by
    show Function.update (Function.update (Function.update s.looking r _) r _) r none = s.looking
    rw [Function.update_idem, Function.update_idem]
    exact Function.update_eq_self_iff.mpr hidle.symm
  have hsees : Step path ways looked
      { s with seen := ⟨.contents (s.reads path), before⟩ :: s.seen } := by
    rw [← hidle']
    exact .sees (Function.update_self ..)
  exact .tail (.tail (.tail .refl (.begins hidle hway)) (.looks (Function.update_self ..) hasks))
    hsees

/-- One look before a grate says that it is ready, and one after that: the first sees nothing, the
    second the whole marker, and has to. -/
theorem markers_appear_at_once_between_looks :
    let rendezvous : Rendezvous := ⟨.ofText "rendezvous"⟩
    let marker : ReadyMarker := ⟨⟨2⟩, ⟨5⟩, [⟨⟨5⟩, ⟨51⟩, ⟨0⟩, ⟨2⟩⟩]⟩
    let start : Site Unit ReadyMarker :=
      ⟨⟨fun _ => none, fun _ => [], 0, fun _ _ => none⟩, rendezvous.markReady marker,
        fun _ => none, []⟩
    let path := rendezvous.readyPath marker.grate
    let ways := [.contents <$> rendezvous.readReady marker.grate,
      .presence <$> rendezvous.isReady marker.grate]
    start.Starts (rendezvous.markReady marker) ∧
    ∃ s : Site Unit ReadyMarker, Site.Reaches path ways start s ∧ Atomic path marker start s ∧
      s.writer = .pure (.ok ()) ∧
      s.seen = [⟨.contents (.ok (some marker)), [.contents (.ok none)]⟩,
        ⟨.contents (.ok none), []⟩] := by
  intro rendezvous marker start path ways
  have hstart : start.Starts (rendezvous.markReady marker) :=
    ⟨⟨nofun, nofun⟩, rfl, fun _ => rfl, rfl⟩
  have hatomic {s : Site Unit ReadyMarker} (hreach : Site.Reaches path ways start s) :
      Atomic path marker start s :=
    (markers_appear_at_once rendezvous).1 marker start s hstart hreach
  have hway : .contents <$> readMarker ReadyMarker path ∈ ways := List.mem_cons_self ..
  obtain ⟨files, hruns⟩ :=
    exists_runs_publish path (Utf8.ofText (toJson marker).indented) start.files
  let before : Site Unit ReadyMarker :=
    { start with seen := [⟨.contents (start.reads path), []⟩] }
  let written : Site Unit ReadyMarker :=
    { before with files := files, writer := .pure (.ok ()) }
  have hbefore : Site.Reaches path ways start before :=
    Site.reaches_of_look hway start () rfl
  have hwritten : Site.Reaches path ways start written :=
    hbefore.trans (Site.reaches_of_writer hruns.reaches)
  have hlooked := hwritten.trans (Site.reaches_of_look hway written () rfl)
  have hnew : written.reads path = .ok (some marker) := (hatomic hwritten).published rfl
  have hnone : start.reads path = .ok none := found_of_absent rfl
  refine ⟨hstart, _, hlooked, hatomic hlooked, rfl, ?_⟩
  show [(⟨.contents (written.reads path), [.contents (start.reads path)]⟩ : Seen ReadyMarker),
    ⟨.contents (start.reads path), []⟩] = _
  rw [hnew, hnone]

end Interposition.Rendezvous
