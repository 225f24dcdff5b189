/-
  What other cages do is nothing to a cage.

  All cages follow one journal, so a runtime applies the records of every cage to one table, and in
  doing so it attaches the grates of every registration.  None of it reaches the calls of a cage
  that the records are not about.  The statement is about two runs: a journal, and the same journal
  with the registrations and revocations of all other cages struck out.

  1. **Records of others** (`SameFor.of_not_concerns`, `SameFor.replay_filter`): a record that does
     not concern a cage changes neither its bindings nor who has exited.  Exits concern everybody.

  2. **Attachments**: the first runtime meets grates that the second one does not, and at other
     times.  But a call of the cage only asks the grate it is bound to, and on a stocked table that
     grate is served as the catalog says (`Stocked.service_congr`).
-/
import Interposition.Proofs.Journal.Views
import Interposition.Proofs.Loopback.Routing

namespace Interposition

/-! ## Records of others -/

/-- Whether a record is about a cage: about one of its pairs, or about an exit. -/
def JournalRecord.concerns (cage : CageId) (r : JournalRecord) : Bool :=
  r.pair?.all fun pair => pair.1 = cage

namespace InterceptionTable.SameFor

variable {cage : CageId} {table other : InterceptionTable}

/-- **One record** that does not concern a cage leaves the table as the cage knows it. -/
theorem of_not_concerns {r : JournalRecord} (h : r.concerns cage = false)
    (table : InterceptionTable) : SameFor cage (r.apply table) table := by
  unfold JournalRecord.concerns at h
  cases hpair : r.pair? with
  | none =>
    rw [hpair] at h
    contradiction
  | some pair =>
    have hcage : pair.1 ≠ cage := by
      rw [hpair] at h
      exact of_decide_eq_false h
    constructor
    · intro syscall
      have hother : pair ≠ (cage, syscall) := fun heq => hcage (congrArg Prod.fst heq)
      rw [r.lookup_apply, JournalRecord.rebind_of_pair? hpair hother]
    · intro process
      rw [r.hasExited_apply, JournalRecord.exitedAfter_of_pair? hpair]

/-- **A whole journal** makes the same of a table, to a cage, as its records that concern it. -/
theorem replay_filter (h : SameFor cage table other) (records : List JournalRecord) :
    SameFor cage (JournalRecord.replay records table)
      (JournalRecord.replay (records.filter (JournalRecord.concerns cage)) other) := by
  induction records generalizing table other with
  | nil => exact h
  | cons r records ih =>
    by_cases hr : r.concerns cage = true
    · rw [List.filter_cons_of_pos hr]
      exact ih (h.apply r)
    · rw [List.filter_cons_of_neg hr]
      have hr : r.concerns cage = false := Bool.eq_false_iff.mpr hr
      exact ih ((of_not_concerns hr table).trans h)

end InterceptionTable.SameFor

namespace LoopbackRuntime

open Shared InterceptionTable

variable {catalog : GrateCatalog} {native : Native} {writer : JournalWriter}
  {first : JournalContents} {s : Shared} {records : List JournalRecord}

/-! ## Two runs -/

/-- A runtime that has read its journal answers from a stocked table, the replay of the records. -/
theorem synced_of_steps (keyed : ∀ grate d, catalog grate = some d → d.grate = grate)
    (hsteps : Steps writer (start first writer.path catalog native) s) (free : s.underWay = none)
    (hfile : s.file.Holds records) :
    ∃ followed, s.runtime.SyncsTo s.file followed ∧
      (∀ caller syscall args, s.runtime.Answers s.file caller syscall args
        (followed.respondSynced caller syscall args).1
        (followed.respondSynced caller syscall args).2) ∧
      followed.table.native = native ∧ Stocked catalog followed.table ∧
      followed.table.Agrees (JournalRecord.replay records (.new native)) := by
  have hfollowing : Following writer s :=
    ((following_start writer first catalog native).steps hsteps hfile.readable).1
  have hrouting : Routing catalog native s :=
    (routing_start first writer.path catalog native).steps keyed hsteps
  have hread := Journal.reading_of_readable hfile.readable s.runtime.applied
  obtain ⟨s', hbegins, hrest⟩ := hfollowing.steps_of_sync free hfile.readable
  have hsynced : Routing catalog native s.synced :=
    (hrouting.step keyed (.begin hbegins)).steps keyed hrest
  have hagrees := hfollowing.synced_agrees free hfile.readable native
  rw [hfile.records] at hagrees
  refine ⟨s.synced.runtime, syncsTo_of_reading hread, fun caller syscall args => ?_,
    hsynced.sameNative, hsynced.stocked, hagrees⟩
  have hanswers := s.runtime.answers s.file caller syscall args
  rw [refreshed_of_reading hread] at hanswers
  exact hanswers

/-- **Cages are isolated.**  One runtime has followed a journal from nothing, another one a journal
    in which the registrations and revocations of all cages but one are missing; in whatever steps,
    and whatever was called meanwhile.  The catalog finds every grate under its own id.

    * When both have read their journals, whose records all mean something, the cage is bound alike
      in both, for every call.
    * Every call by the cage, but that of the reserved number, is answered by the same handler, run
      for the same caller with the same arguments, or by the same one of the others who answer; and
      on either runtime it comes to bringing about the same reply. -/
theorem cages_are_isolated (catalog : GrateCatalog) (native : Native)
    (keyed : ∀ grate d, catalog grate = some d → d.grate = grate) (cage : CageId)
    {writer writer' : JournalWriter} {first first' : JournalContents} {s s' : Shared}
    (hsteps : Steps writer (start first writer.path catalog native) s) (free : s.underWay = none)
    (hsteps' : Steps writer' (start first' writer'.path catalog native) s')
    (free' : s'.underWay = none) {records : List JournalRecord} (hfile : s.file.Holds records)
    (hfile' : s'.file.Holds (records.filter (JournalRecord.concerns cage))) :
    ∃ followed followed',
      s.runtime.SyncsTo s.file followed ∧ s'.runtime.SyncsTo s'.file followed' ∧
      (∀ syscall, followed.table.lookup cage syscall = followed'.table.lookup cage syscall) ∧
      ∀ syscall args, syscall ≠ Syscall.registerHandler →
        followed.table.service cage syscall args = followed'.table.service cage syscall args ∧
        ∃ reply next next',
          s.runtime.Answers s.file cage syscall args reply next ∧
          s'.runtime.Answers s'.file cage syscall args reply next' := by
  obtain ⟨followed, hsync, hanswers, hnative, hstocked, hagrees⟩ :=
    synced_of_steps keyed hsteps free hfile
  obtain ⟨followed', hsync', hanswers', hnative', hstocked', hagrees'⟩ :=
    synced_of_steps keyed hsteps' free' hfile'
  -- both tables look to the cage as the replay of the records that concern it
  have hall : SameFor cage followed.table
      (JournalRecord.replay (records.filter (JournalRecord.concerns cage)) (.new native)) :=
    (SameFor.of_agrees cage hagrees).trans (SameFor.replay_filter (.refl cage _) records)
  have hsame : SameFor cage followed.table followed'.table :=
    hall.trans (SameFor.of_agrees cage hagrees').symm
  refine ⟨followed, followed', hsync, hsync', hsame.lookup, fun syscall args hsyscall => ?_⟩
  have hservice : followed.table.service cage syscall args =
      followed'.table.service cage syscall args :=
    hstocked.service_congr hstocked' (hsame.hasExited cage) (hsame.lookup syscall) args
  have hreply : (followed.respondSynced cage syscall args).1 =
      (followed'.respondSynced cage syscall args).1 := by
    rw [respondSynced_fst, respondSynced_fst, hservice]
    exact replyOf_congr (hnative.trans hnative'.symm) (service_ne_registry hsyscall)
  have hrest := hanswers' cage syscall args
  rw [← hreply] at hrest
  exact ⟨hservice, _, _, _, hanswers cage syscall args, hrest⟩

/-- Another cage registers with a grate of its own, and is revoked what it was bound to before; the
    cage is served by its own grate either way. -/
theorem cages_are_isolated_from_another :
    let writer : JournalWriter := ⟨⟨3⟩, .ofText "journal"⟩
    let catalog : GrateCatalog := fun grate => some (.new grate [.identity "geteuid" 7])
    let records : List JournalRecord :=
      [.register ⟨⟨5⟩, ⟨107⟩, ⟨0⟩, ⟨2⟩⟩, .register ⟨⟨6⟩, ⟨107⟩, ⟨0⟩, ⟨3⟩⟩, .revoke ⟨6⟩ ⟨107⟩]
    let whole : Shared := start (some (records.flatMap JournalRecord.encode)) writer.path catalog
      Native.unsupported
    let part : Shared := start (some (records.take 1 |>.flatMap JournalRecord.encode)) writer.path
      catalog Native.unsupported
    let args : ArgumentVector := .ofOwner ⟨5⟩ (Vector.replicate 6 unusedWord)
    ∃ reply next next',
      whole.runtime.Answers whole.file ⟨5⟩ ⟨107⟩ args reply next ∧
      part.runtime.Answers part.file ⟨5⟩ ⟨107⟩ args reply next' := by
  intro writer catalog records whole part args
  have keyed : ∀ grate d, catalog grate = some d → d.grate = grate := by
    intro grate d hd
    rw [← Option.some.inj hd]
    rfl
  have hpart : records.filter (JournalRecord.concerns ⟨5⟩) = records.take 1 := by decide
  have hwhole : Steps writer (start whole.file writer.path catalog Native.unsupported) whole := .refl
  have hstruck : Steps writer (start part.file writer.path catalog Native.unsupported) part := .refl
  obtain ⟨_, _, -, -, -, hcalls⟩ := cages_are_isolated catalog Native.unsupported keyed ⟨5⟩
    hwhole rfl hstruck rfl (JournalContents.holds_flatMap_encode records)
    (hpart ▸ JournalContents.holds_flatMap_encode (records.take 1))
  exact (hcalls ⟨107⟩ args (by decide)).2

end LoopbackRuntime

end Interposition
