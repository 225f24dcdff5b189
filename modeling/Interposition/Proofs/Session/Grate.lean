/-
  The grate keeps the protocol.

  While nobody has said that the grate is ready the journal is the grate's, and whatever it writes
  there is allowed (`Unready`).  Its registrations are well-formed, so none is refused, and each is
  one record behind the others; if all are reported to be written the journal is what it should be,
  and then it may be said that the grate is ready (`allows_ready`).
-/
import Interposition.Proofs.Registration
import Interposition.Proofs.Session.Calls
import Interposition.Proofs.Session.Requests

namespace Interposition.Session.Setting

open Demo Program

variable {setting : Setting} {world now next : World} {names : List Name}

/-! ## Before the grate is ready -/

/-- The grate has not said that it is ready. -/
def Unready (setting : Setting) (world : World) : Prop :=
  world.files.file? (setting.path (.marker .ready)) = none

theorem stable_unready : (setting.contract .grate).Stable setting.Unready :=
  stable_file (.marker .ready) rfl none

theorem Unready.of_touches (h : setting.Unready world)
    (htouches : setting.Touches .grate names world next) (hnames : .marker .ready ∉ names) :
    setting.Unready next :=
  (htouches.same _ hnames).file?.trans h

/-- The grate begins before it is ready, and with an empty journal. -/
def Blank (setting : Setting) (world : World) : Prop :=
  world.files.file? (setting.path .journal) = some [] ∧ setting.Unready world

theorem stable_blank : (setting.contract .grate).Stable setting.Blank :=
  stable_and (stable_file .journal rfl _) stable_unready

/-! ## Settings -/

theorem meets_grateLaunch {assertion : World → Prop}
    (hstable : (setting.contract .grate).Stable assertion) (hworld : assertion world) :
    (request .environment).Meets (setting.os .grate) (setting.contract .grate) (fun vars now =>
      LaunchSettings.ofEnvironment GrateLaunch (fun name => vars.lookup name) =
        .ok (some ⟨setting.cageId, setting.config⟩) ∧ assertion now) world := by
  refine meets_environment (⟨setting.cageId, setting.config⟩ : GrateLaunch)
    (standsFor_grateLaunch 124) ?_ ?_ nofun hstable hworld
  · have hnames : LaunchSettings.setting GrateLaunch ∉ [RuntimeConfig.stateDirVariable,
        RuntimeConfig.readyTimeoutVariable, RuntimeConfig.armTimeoutVariable,
        RuntimeConfig.maxChainDepthVariable] := by decide
    exact hnames
  · rintro launch ⟨entry, hentry, rfl⟩
    exact ⟨entry, hentry, rfl⟩

/-! ## Registering -/

/-- The grate has the journal open, and some registrations are in it. -/
def Registering (setting : Setting) (handle : FileHandle) (done : List Registration)
    (world : World) : Prop :=
  setting.Unready world ∧ world.files.AtEnd .grate handle (setting.path .journal)
    (done.flatMap fun r => (JournalRecord.register r).encode)

theorem meets_openJournal (hworld : setting.Blank world) :
    (Journal.openWriter setting.journal).Meets (setting.os .grate) (setting.contract .grate)
      (fun result now => ∀ writer, result = .ok writer →
        setting.Registering writer.file [] now) world := by
  have hopen : (request (.openAppending setting.journal)).Meets (setting.os .grate)
      (setting.contract .grate) (fun result now => ∀ handle, result = .ok handle →
        setting.Registering handle [] now) world := by
    refine meets_request fun now hrely hp answer between hanswer => ?_
    obtain ⟨halive, ⟨⟨e, rfl⟩, rfl⟩ | ⟨handle, rfl, -, rfl⟩⟩ := hanswer
    · exact ⟨allows_self hp trivial, nofun⟩
    · obtain ⟨hjournal, hunready⟩ := stable_blank hworld hrely hp
      have htouches := touches_openToAppend setting hp.apart .grate .journal handle
      refine ⟨allows_registering htouches hp trivial halive hunready
        fun hname => SharedFiles.names_openToAppend_of_some hname .grate handle, ?_⟩
      rintro _ ⟨⟩
      refine ⟨hunready.of_touches htouches (by simp), ?_⟩
      have hend := SharedFiles.atEnd_openToAppend now.files .grate (setting.path .journal) handle
      rw [hjournal] at hend
      exact hend
  refine hopen.bind fun opened now hopened => ?_
  cases opened with
  | error e => exact nofun
  | ok handle =>
    rintro _ ⟨⟩
    exact hopened handle rfl

theorem meets_appendRaw (writer : JournalWriter) (r : Registration) {done : List Registration}
    (hworld : setting.Registering writer.file done world) :
    (writer.appendRaw (.register r)).Meets (setting.os .grate) (setting.contract .grate)
      (fun result now => result = .ok () →
        setting.Registering writer.file (done ++ [r]) now) world := by
  refine (meets_writeAll .journal _ (fun content => stable_and stable_unready
    (stable_atEnd .journal rfl writer.file content)) ?_ hworld.1 hworld.2).mono ?_
  · intro now rest written part hunready hp halive hend
    obtain ⟨file, hopened, hname, -⟩ := hend
    have htouches := touches_write hp.apart hopened hname part
    refine ⟨allows_registering htouches hp trivial halive hunready fun hname => ?_,
      hunready.of_touches htouches (by simp)⟩
    rw [SharedFiles.names_write]
    exact hname
  · rintro result now ⟨hunready, hend⟩ hresult
    refine ⟨hunready, ?_⟩
    rw [List.flatMap_append, List.flatMap_singleton]
    exact hend hresult

/-- **A registration** that is accepted is one more record in the journal. -/
theorem meets_register (writer : JournalWriter) {r : Registration} {done : List Registration}
    (hmem : r ∈ setting.registrations) (hworld : setting.Registering writer.file done world) :
    (writer.channel.register r).Meets (setting.os .grate) (setting.contract .grate)
      (fun result now => result = .ok () →
        setting.Registering writer.file (done ++ [r]) now) world := by
  have hrefusal : JournalWriter.refusal? (.ofWords r.toWords) = none :=
    JournalWriter.refusal?_eq_none_iff.mpr (wellFormed_of_mem hmem)
  have hraw : (writer.channel.registerRaw r).Meets (setting.os .grate) (setting.contract .grate)
      (fun status now => status = RegistrationError.accepted →
        setting.Registering writer.file (done ++ [r]) now) world := by
    unfold Channel.registerRaw JournalWriter.channel
    simp only [hrefusal, ne_eq, not_true_eq_false, if_false]
    refine (meets_appendRaw writer r hworld).bind fun result now hresult => ?_
    cases result with
    | error e => exact fun h => absurd h (by decide)
    | ok => exact fun _ => hresult rfl
  exact hraw.bind fun status now hstatus hcheck =>
    hstatus (RegistrationError.check_eq_ok_iff.mp hcheck)

/-- **The registrations** in order. -/
theorem meets_registerEach (writer : JournalWriter)
    {interceptions : List (SyscallNumber × HandlerIndex)}
    (hmem : ∀ entry ∈ interceptions, entry ∈ sessionInterceptions) {done : List Registration}
    (hworld : setting.Registering writer.file done world) :
    (registerEach writer.channel setting.cageId setting.grateId interceptions).Meets
      (setting.os .grate) (setting.contract .grate) (fun result now => ∀ made, result = .ok made →
        made = (interceptions.map fun entry =>
          ⟨setting.cageId, entry.1, entry.2, setting.grateId⟩) ∧
        setting.Registering writer.file (done ++ made) now) world := by
  induction interceptions generalizing world done with
  | nil =>
    rintro _ ⟨⟩
    refine ⟨rfl, ?_⟩
    rw [List.append_nil]
    exact hworld
  | cons entry rest ih =>
    obtain ⟨syscall, handler⟩ := entry
    have hentry : (⟨setting.cageId, syscall, handler, setting.grateId⟩ : Registration) ∈
        setting.registrations :=
      List.mem_map.mpr ⟨(syscall, handler), hmem _ (List.mem_cons_self ..), rfl⟩
    refine (meets_register writer hentry hworld).bind fun result now hnow => ?_
    cases result with
    | error e => exact nofun
    | ok =>
      refine (ih (fun other hother => hmem other (List.mem_cons_of_mem _ hother))
        (hnow rfl)).bind fun result now hrest => ?_
      cases result with
      | error e => exact nofun
      | ok made =>
        rintro _ ⟨⟩
        obtain ⟨rfl, hmade⟩ := hrest made rfl
        refine ⟨rfl, ?_⟩
        rw [List.append_assoc] at hmade
        exact hmade

/-- **Once all registrations are made** the journal is what it should be. -/
theorem meets_registerAll (hworld : setting.Blank world) :
    (registerAll setting.config setting.cageId setting.grateId sessionInterceptions).Meets
      (setting.os .grate) (setting.contract .grate) (fun result now => ∀ made, result = .ok made →
        made = setting.registrations ∧ setting.Recorded now) world := by
  refine (meets_openJournal hworld).bind fun opened now hopened => ?_
  cases opened with
  | error e => exact nofun
  | ok writer =>
    refine (meets_registerEach writer (fun _ => id) (hopened writer rfl)).mono ?_
    intro result now hmade made hresult
    obtain ⟨rfl, -, hend⟩ := hmade made hresult
    exact ⟨rfl, hend.file?⟩

/-! ## Serving -/

/-- **The grate is ready** only after it has registered. -/
theorem meets_markReady (hworld : setting.Recorded world) :
    (setting.rendezvous.markReady setting.marker).Meets (setting.os .grate)
      (setting.contract .grate) (fun _ _ => True) world := by
  refine meets_publish setting .ready (stable_file .journal rfl _) ?_ ?_ hworld
  · intro now next hnow htouches
    exact (htouches.recorded_iff (by simp)).mpr hnow
  · intro now hnow hp halive hdraft
    exact allows_ready (touches_rename hp.apart .grate (.draft .ready) (.marker .ready)) hp trivial
      halive hnow (file?_named hdraft)

theorem meets_keepStopping (hworld : setting.Blank world) :
    (request (.dispose .stopping .keep)).Meets (setting.os .grate) (setting.contract .grate)
      (fun _ now => setting.Blank now) world := by
  refine meets_request fun now hrely hp _ between hanswer => ?_
  obtain ⟨-, rfl⟩ := hanswer
  have hnow := stable_blank hworld hrely hp
  exact ⟨allows_change (fun _ => Child.evolves_dispose nofun) hp trivial
    fun _ => Child.kept_dispose, hnow⟩

theorem meets_awaitStopping (world : World) :
    (request (.awaitSignal .stopping none)).Meets (setting.os .grate) (setting.contract .grate)
      (fun _ _ => True) world := by
  refine meets_request fun now _ hp _ between hanswer => ⟨?_, trivial⟩
  obtain ⟨-, ⟨-, rfl⟩ | ⟨-, -, rfl⟩⟩ := hanswer
  · exact allows_self hp trivial
  · exact allows_change (fun _ => Child.evolves_take) hp trivial fun _ => Child.kept_take

theorem meets_serve (hworld : setting.Blank world) :
    (serve ⟨setting.cageId, setting.config⟩).Meets (setting.os .grate) (setting.contract .grate)
      (fun _ _ => True) world := by
  refine (meets_identity stable_blank hworld).bind fun self now hself => ?_
  rw [hself.1]
  refine (meets_keepStopping hself.2).bind fun _ now hnow => ?_
  refine (meets_registerAll hnow).bind fun result now hmade => ?_
  cases result with
  | error e => trivial
  | ok made =>
    obtain ⟨rfl, hrecorded⟩ := hmade made rfl
    refine (meets_markReady hrecorded).bind fun result now _ => ?_
    cases result with
    | error e => trivial
    | ok => exact (meets_awaitStopping now).bind fun _ _ _ => trivial

/-- **The grate keeps the protocol** if it begins with an empty journal and before anybody says that
    it is ready. -/
theorem meets_grate {launch : Launch} (hlaunch : setting.Launches launch .grate)
    (hjournal : world.files.file? setting.journal = some [])
    (hready : world.files.file? setting.ready = none) :
    (image .grate launch).Meets (setting.os .grate) (setting.contract .grate) (fun _ _ => True)
      world := by
  obtain ⟨entry, -, rfl⟩ := hlaunch
  show (Programs.grate setting.grate.args).Meets _ _ _ _
  unfold Programs.grate
  simp only [setting.ofWords_grate]
  have hblank : setting.Blank world := ⟨hjournal, hready⟩
  refine (meets_grateLaunch stable_blank hblank).bind ?_
  rintro vars now ⟨hlaunch, hnow⟩
  simp only [hlaunch]
  refine (meets_serve hnow).bind fun result now _ => ?_
  cases result <;> trivial

end Interposition.Session.Setting
