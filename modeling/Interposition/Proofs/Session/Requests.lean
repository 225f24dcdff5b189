import Interposition.Proofs.Host.Writing
import Interposition.Proofs.Json.Documents
import Interposition.Proofs.Session.Frames

namespace Interposition.Session.Setting

open Program

variable {setting : Setting} {party : Party} {assertion : World → Prop} {world : World}

/-! ## Requests that leave the world as it is -/

/-- **A request that changes nothing**: what is known stays known, and the answer is one for the
    world as it is then. -/
theorem meets_quiet {r : Request}
    (hquiet : ∀ now answer next, setting.answers party now r answer next → next = now)
    (hstable : (setting.contract party).Stable assertion)
    (hproper : ∀ now, assertion now → setting.Protocol now → now.Alive party →
      setting.Proper party now (.asks r))
    (hworld : assertion world) :
    (request r).Meets (setting.os party) (setting.contract party) (fun answer now =>
      assertion now ∧ setting.Protocol now ∧ now.Alive party ∧
        setting.answers party now r answer now) world := by
  refine meets_request fun now hrely hp answer between hanswer => ?_
  obtain ⟨halive, hanswer⟩ := hanswer
  obtain rfl := hquiet now answer between hanswer
  have hnow := hstable hworld hrely hp
  exact ⟨allows_self hp (hproper _ hnow hp halive), hnow, hp, halive, hanswer⟩

theorem stable_true : (setting.contract party).Stable fun _ => True := fun _ _ _ => trivial

theorem stable_keeps : (setting.contract party).Stable World.Keeps := by
  intro now next hnow hrely _
  have hrely : setting.Relies party now next := hrely
  exact hrely.keeps hnow

theorem stable_published : (setting.contract party).Stable setting.Published := by
  intro now next hnow hrely _
  have hrely : setting.Relies party now next := hrely
  exact hrely.published hnow

/-- Who the process is. -/
theorem meets_identity (hstable : (setting.contract party).Stable assertion)
    (hworld : assertion world) :
    (request .identity).Meets (setting.os party) (setting.contract party)
      (fun self now => self.process = setting.pid party ∧ assertion now) world :=
  (meets_quiet (r := .identity) (fun _ _ _ h => h.2) hstable (fun _ _ _ _ => trivial)
    hworld).mono fun _ _ hnow => ⟨hnow.2.2.2.1, hnow.1⟩

/-! ## Launch settings -/

theorem lookup_append_entry {vars : List (String × String)} {entry : String × String}
    (h : entry.1 ∉ vars.map Prod.fst) : (vars ++ [entry]).lookup entry.1 = some entry.2 := by
  have hnone : vars.lookup entry.1 = none := by
    rw [List.lookup_eq_none_iff]
    intro other hother
    rw [bne_iff_ne]
    exact fun heq => h (List.mem_map.mpr ⟨other, hother, heq.symm⟩)
  rw [List.lookup_append, hnone, Option.none_or]
  exact List.lookup_cons_self

/-- **Launch settings** are read by the child that was launched with them. -/
theorem meets_environment {α : Type} [LaunchSettings α] (settings : α)
    (hread : ∀ {j}, LaunchSettings.document settings = .ok j →
      j.StandsFor (decode (α := α)) (Reading.depthLimit - 1) settings)
    (hname : LaunchSettings.setting α ∉ setting.config.childEnvironment.map Prod.fst)
    (hlaunches : ∀ {launch}, setting.Launches launch party → ∃ entry,
      LaunchSettings.toEnvironment settings = .ok entry ∧
        launch.vars = setting.config.childEnvironment ++ [entry])
    (hparty : party ≠ .loader) (hstable : (setting.contract party).Stable assertion)
    (hworld : assertion world) :
    (request .environment).Meets (setting.os party) (setting.contract party) (fun vars now =>
      LaunchSettings.ofEnvironment α (fun name => vars.lookup name) = .ok (some settings) ∧
        assertion now) world := by
  refine (meets_quiet (r := .environment) (fun _ _ _ h => h.2) hstable (fun _ _ _ _ => trivial)
    hworld).mono ?_
  rintro vars now ⟨hnow, hp, halive, hvars, -⟩
  obtain hloader | ⟨child, hchild, -⟩ := halive
  · exact absurd hloader hparty
  · obtain ⟨entry, hentry, hlaunch⟩ := hlaunches (hp.launched hchild)
    have hkey : entry.1 = LaunchSettings.setting α := by
      unfold LaunchSettings.toEnvironment at hentry
      split at hentry
      · cases hentry
        rfl
      · contradiction
    refine ⟨ofEnvironment_eq hread hentry (hvars child hchild _ _ ?_), hnow⟩
    rw [hlaunch]
    exact lookup_append_entry (hkey ▸ hname)

/-! ## Directories -/

/-- Making directories changes no files. -/
theorem meets_makeDirectories (hstable : (setting.contract party).Stable assertion)
    (paths : List Path) {world : World} (hworld : assertion world) :
    (makeDirectories paths).Meets (setting.os party) (setting.contract party)
      (fun _ now => assertion now) world := by
  have hmake (path : Path) {world : World} (hworld : assertion world) :
      (request (.makeDirectory path)).Meets (setting.os party) (setting.contract party)
        (fun _ now => assertion now) world :=
    (meets_quiet (r := .makeDirectory path) (fun _ _ _ h => h) hstable (fun _ _ _ _ => trivial)
      hworld).mono fun _ _ hnow => hnow.1
  have hask (path : Path) (e : IoError) {world : World} (hworld : assertion world) :
      (do if ← request (.isDirectory path) then return .ok () else return .error e :
        Program (Except IoError Unit)).Meets (setting.os party) (setting.contract party)
        (fun _ now => assertion now) world := by
    refine Meets.bind (meets_quiet (fun _ _ _ h => h) hstable (fun _ _ _ _ => trivial) hworld)
      fun found now hnow => ?_
    cases found
    · exact hnow.1
    · exact hnow.1
  induction paths generalizing world with
  | nil => exact hworld
  | cons path parents ih =>
    refine (hmake path hworld).bind fun result now hnow => ?_
    cases result with
    | ok => exact hnow
    | error e =>
      show (if e.isNotFound then _ else _ : Program (Except IoError Unit)).Meets _ _ _ _
      split
      · refine (ih hnow).bind fun result now hnow => ?_
        cases result with
        | error e => exact hnow
        | ok =>
          refine (hmake path hnow).bind fun result now hnow => ?_
          cases result with
          | ok => exact hnow
          | error e => exact hask path e hnow
      · exact hask path e hnow

/-- Making the directory of markers changes no files. -/
theorem meets_ensure (hstable : (setting.contract party).Stable assertion)
    (rendezvous : Rendezvous) (hworld : assertion world) :
    rendezvous.ensure.Meets (setting.os party) (setting.contract party)
      (fun _ now => assertion now) world := by
  refine (meets_makeDirectories hstable rendezvous.dir.lineage hworld).bind fun result now hnow => ?_
  cases result <;> exact hnow

/-! ## Writing -/

/-- **Writing**: as long as a part of the bytes behind what is there is allowed and what is known
    stays known, all bytes are behind what was there in the end, or an error is reported. -/
theorem meets_writeAll (name : Name) {handle : FileHandle} (bytes : List UInt8)
    {content : List UInt8}
    (hstable : ∀ content, (setting.contract party).Stable fun now =>
      assertion now ∧ now.files.AtEnd party handle (setting.path name) content)
    (hwrite : ∀ now rest written part, assertion now → setting.Protocol now → now.Alive party →
      now.files.AtEnd party handle (setting.path name) (content ++ written) →
      let next : World := { now with files := now.files.write party handle part }
      (setting.contract party).Allows now (.asks (.write handle rest)) next ∧ assertion next)
    (hworld : assertion world)
    (hend : world.files.AtEnd party handle (setting.path name) content) :
    (writeAll handle bytes).Meets (setting.os party) (setting.contract party) (fun result now =>
      assertion now ∧ (result = .ok () →
        now.files.AtEnd party handle (setting.path name) (content ++ bytes))) world := by
  have hstart : assertion world ∧
      world.files.AtEnd party handle (setting.path name) (content ++ []) := by
    rw [List.append_nil]
    exact ⟨hworld, hend⟩
  refine (Program.meets_writeAll (fun written now => assertion now ∧
    now.files.AtEnd party handle (setting.path name) (content ++ written))
    (fun written => hstable _) ?_ hstart).mono ?_
  · rintro written rest now answer between ⟨hnow, hend⟩ hp ⟨halive, hanswer⟩
    rcases hanswer with ⟨⟨e, rfl⟩, rfl⟩ | ⟨count, rfl, hcount, -, rfl⟩
    · exact ⟨allows_self hp trivial, hnow, hend⟩
    · obtain ⟨hallows, hnext⟩ := hwrite now rest written (rest.take count) hnow hp halive hend
      refine ⟨hallows, hnext, ?_⟩
      rw [← List.append_assoc]
      exact hend.write _
  · rintro result now ⟨⟨written, hnow, -⟩, hwritten⟩
    exact ⟨hnow, fun hresult => (hwritten hresult).2⟩

/-! ## What stays known -/

theorem stable_and {other : World → Prop} (h : (setting.contract party).Stable assertion)
    (h' : (setting.contract party).Stable other) :
    (setting.contract party).Stable fun now => assertion now ∧ other now :=
  fun hnow hrely hp => ⟨h hnow.1 hrely hp, h' hnow.2 hrely hp⟩

theorem stable_file (name : Name) (hown : name.OwnedBy party) (file : Option (List UInt8)) :
    (setting.contract party).Stable fun now => now.files.file? (setting.path name) = file := by
  intro now next hnow hrely hp
  have hrely : setting.Relies party now next := hrely
  rw [(hrely.own hown).file?]
  exact hnow

theorem stable_atEnd (name : Name) (hown : name.OwnedBy party) (handle : FileHandle)
    (content : List UInt8) :
    (setting.contract party).Stable fun now =>
      now.files.AtEnd party handle (setting.path name) content := by
  intro now next hnow hrely hp
  have hrely : setting.Relies party now next := hrely
  exact hnow.of_sameAt hrely.opened (hrely.own hown)

/-! ## Markers -/

theorem Touches.mono {names more : List Name} {next : World}
    (h : setting.Touches party names world next) (hmore : ∀ name ∈ names, name ∈ more) :
    setting.Touches party more world next :=
  ⟨h.children, h.opened, fun name hname => h.same name fun hmem => hname (hmore name hmem), h.apart⟩

/-- A draft says nothing to anybody. -/
theorem allows_draft {m : Marker} {now next : World} {deed : Deed}
    (h : setting.Touches m.author [.draft m] now next) (hp : setting.Protocol now)
    (hproper : setting.Proper m.author now deed) :
    (setting.contract m.author).Allows now deed next := by
  refine h.allows_own hp hproper ?_ (by simp) (by simp) (by simp) (by simp)
  intro name hmem
  rw [List.mem_singleton.mp hmem]
  rfl

section publish

variable (setting) (m : Marker) {bytes : List UInt8}
  (hstable : (setting.contract m.author).Stable assertion)
  (hdraft : ∀ {now next}, assertion now → setting.Touches m.author [.draft m] now next →
    assertion next)

include hstable hdraft

/-- **The draft of a marker** has all bytes of the marker in it, or an error is reported. -/
theorem meets_writeDraft (hworld : assertion world) :
    (writeFile (setting.path (.draft m)) bytes).Meets (setting.os m.author)
      (setting.contract m.author) (fun result now => assertion now ∧
        (result = .ok () → now.files.file? (setting.path (.draft m)) = some bytes)) world := by
  have hown : Name.OwnedBy m.author (.draft m) := rfl
  have hcreate : (request (.createFile (setting.path (.draft m)))).Meets (setting.os m.author)
      (setting.contract m.author) (fun result now => assertion now ∧ ∀ handle,
        result = .ok handle →
          now.files.AtEnd m.author handle (setting.path (.draft m)) []) world := by
    refine meets_request fun now hrely hp answer between hanswer => ?_
    obtain ⟨halive, hanswer⟩ := hanswer
    have hnow := hstable hworld hrely hp
    rcases hanswer with ⟨⟨e, rfl⟩, rfl⟩ | ⟨handle, rfl, -, rfl⟩
    · exact ⟨allows_self hp trivial, hnow, nofun⟩
    · have htouches := touches_create setting hp.apart m.author (.draft m) handle
      refine ⟨allows_draft htouches hp trivial, hdraft hnow htouches, ?_⟩
      rintro _ ⟨⟩
      exact SharedFiles.atEnd_create ..
  refine hcreate.bind fun opened now hnow => ?_
  obtain ⟨hnow, hend⟩ := hnow
  cases opened with
  | error e => exact ⟨hnow, nofun⟩
  | ok handle =>
    have hfill := meets_writeAll (.draft m) bytes
      (fun content => stable_and hstable (stable_atEnd _ hown handle content))
      (by
        intro now rest written part hnow hp halive hend
        obtain ⟨file, hopened, hname, -⟩ := hend
        have htouches := touches_write hp.apart hopened hname part
        exact ⟨allows_draft htouches hp trivial, hdraft hnow htouches⟩)
      hnow (hend handle rfl)
    refine hfill.bind fun result now hnow => ?_
    have hclose : (request (.close handle)).Meets (setting.os m.author)
        (setting.contract m.author) (fun _ now => assertion now ∧
          (result = .ok () → now.files.file? (setting.path (.draft m)) = some bytes)) now := by
      refine meets_request fun later hrely hp answer between hanswer => ?_
      obtain ⟨halive, rfl⟩ := hanswer
      have hlater := hstable hnow.1 hrely hp
      have htouches := touches_close setting hp.apart m.author handle
      refine ⟨allows_draft (htouches.mono (by simp)) hp trivial,
        hdraft hlater (htouches.mono (by simp)), fun hresult => ?_⟩
      rw [(SharedFiles.sameAt_close later.files m.author handle _).file?]
      exact (stable_atEnd _ hown handle ([] ++ bytes) (hnow.2 hresult) hrely hp).file?
    exact hclose.bind fun _ now hnow => hnow

/-- **Publishing a marker**: what matters is that it may be given its name once all its bytes are in
    the draft. -/
theorem meets_publish
    (hrename : ∀ now, assertion now → setting.Protocol now → now.Alive m.author →
      now.files.file? (setting.path (.draft m)) = some bytes →
      (setting.contract m.author).Allows now
        (.asks (.rename (setting.path (.draft m)) (setting.path (.marker m))))
        { now with files := now.files.rename (setting.path (.draft m)) (setting.path (.marker m)) })
    (hworld : assertion world) :
    (Rendezvous.publish (setting.path (.marker m)) bytes).Meets (setting.os m.author)
      (setting.contract m.author) (fun _ _ => True) world := by
  refine (meets_writeDraft setting m hstable hdraft hworld).bind fun result now hnow => ?_
  obtain ⟨hnow, hfile⟩ := hnow
  cases result with
  | error e => trivial
  | ok =>
    have hnamed : (request (.rename (setting.path (.draft m)) (setting.path (.marker m)))).Meets
        (setting.os m.author) (setting.contract m.author) (fun _ _ => True) now := by
      refine meets_request fun later hrely hp answer between hanswer => ?_
      obtain ⟨halive, hanswer⟩ := hanswer
      have hlater := hstable hnow hrely hp
      have hown : Name.OwnedBy m.author (.draft m) := rfl
      have hfile := stable_file _ hown _ (hfile rfl) hrely hp
      rcases hanswer with ⟨⟨e, rfl⟩, rfl⟩ | ⟨rfl, -, rfl⟩
      · exact ⟨allows_self hp trivial, trivial⟩
      · exact ⟨hrename _ hlater hp halive hfile, trivial⟩
    refine hnamed.bind fun result now _ => ?_
    cases result <;> trivial

end publish

end Interposition.Session.Setting
