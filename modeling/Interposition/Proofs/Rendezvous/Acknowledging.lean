/-
  One line of an operator for each release.

  An operator's lines come through a channel, from senders that may be gone at any time, and a
  channel outlives the calls that wait for its lines.  One call waits twice, for the word of the grate
  and for a line, and both waits are within one timeout.

  1. **Channels** (`LineChannel`, `Delivers`): the lines sent and the lines taken, both in order.
     Everybody may send at any time; what asking for a line comes to is all that is known of the
     channel.

  2. **One call** (`Call`, `call_of_runs`): a failed wait for the grate takes nothing, and after one
     that found its word a line is taken, or none was there.

  3. **Many calls** (`Calls`): by induction on the calls, so many lines are gone as there were calls
     that succeeded, and since they are taken in order they are the first of all that were sent.
-/
import Interposition.Proofs.Host.Playing
import Interposition.Proofs.Rendezvous.Waiting
import Interposition.Rendezvous.Directory

namespace Interposition

/-! ## Channels -/

/-- A channel of lines: those sent so far and those taken so far, oldest first, and whether all
    senders are gone. -/
structure LineChannel where
  sent : List String
  taken : List String
  closed : Bool
  inOrder : taken <+: sent
deriving DecidableEq

namespace LineChannel

/-- The lines that have been sent and not yet taken. -/
def pending (lines : LineChannel) : List String := lines.sent.drop lines.taken.length

theorem taken_append_pending (lines : LineChannel) : lines.taken ++ lines.pending = lines.sent :=
  List.prefix_iff_eq_append.mp lines.inOrder

/-- The next line that is there, and the channel once it is taken. -/
def next? (lines : LineChannel) : Option (String × LineChannel) :=
  match h : lines.pending with
  | [] => none
  | line :: rest => some (line, { lines with
      taken := lines.taken ++ [line]
      inOrder := ⟨rest, by
        rw [List.append_assoc, List.singleton_append, ← h]
        exact lines.taken_append_pending⟩ })

theorem pending_of_next? {lines : LineChannel} (h : lines.next? = none) : lines.pending = [] := by
  unfold next? at h
  split at h
  · assumption
  · cases h

theorem next?_eq_some {lines later : LineChannel} {line : String}
    (h : lines.next? = some (line, later)) :
    later.sent = lines.sent ∧ later.taken = lines.taken ++ [line] := by
  unfold next? at h
  split at h
  · cases h
  · cases h
    exact ⟨rfl, rfl⟩

/-- What anybody may do about a channel but take a line: more lines are sent, or its senders go, and
    once they are gone nothing is sent. -/
structure Grows (lines later : LineChannel) : Prop where
  sent : lines.sent <+: later.sent
  taken : later.taken = lines.taken
  closed : lines.closed = true → later.closed = true ∧ later.sent = lines.sent

theorem Grows.refl (lines : LineChannel) : lines.Grows lines :=
  ⟨List.prefix_refl _, rfl, fun h => ⟨h, rfl⟩⟩

theorem Grows.trans {lines later last : LineChannel} (h : lines.Grows later)
    (h' : later.Grows last) : lines.Grows last where
  sent := h.sent.trans h'.sent
  taken := h'.taken.trans h.taken
  closed hclosed := by
    obtain ⟨hlater, hsent⟩ := h.closed hclosed
    obtain ⟨hlast, hsent'⟩ := h'.closed hlater
    exact ⟨hlast, hsent'.trans hsent⟩

/-- What was not there later was not there before. -/
theorem Grows.pending {lines later : LineChannel} (h : lines.Grows later)
    (hnone : later.pending = []) : lines.pending = [] := by
  unfold LineChannel.pending at *
  rw [List.drop_eq_nil_iff] at *
  rw [h.taken] at hnone
  exact Nat.le_trans h.sent.length_le hnone

/-- The lines taken are the first of those sent. -/
theorem taken_eq_take (lines : LineChannel) : lines.taken = lines.sent.take lines.taken.length :=
  List.prefix_iff_eq_take.mp lines.inOrder

end LineChannel

variable {World σ : Type} {os : OperatingSystem World} {channel : Nat}
  {lines : World → LineChannel} {time : World → Nat}

/-- A deed that takes no line of a channel. -/
def Deed.TakesNoLine (channel : Nat) (deed : Deed) : Prop :=
  ∀ nanoseconds, deed ≠ .asks (.receiveLine channel nanoseconds)

theorem Deed.takesNoLine_now : (Deed.asks .now).TakesNoLine channel := nofun

/-- How a channel is served.  Asking for a line comes to the next one that is there, however long it
    takes to come; to nothing, if there is none until so much time has passed; or to the end, if there
    is none and no sender is left. -/
structure Delivers (os : OperatingSystem World) (channel : Nat) (lines : World → LineChannel)
    (time : World → Nat) : Prop where
  others : ∀ {world r answer next}, Deed.TakesNoLine channel (.asks r) →
    os.answers world r answer next → (lines world).Grows (lines next)
  starts : ∀ {world launch hooked setup answer next},
    os.spawns world launch hooked setup answer next → (lines world).Grows (lines next)
  line : ∀ {world nanoseconds text next},
    os.answers world (.receiveLine channel nanoseconds) (.line text) next →
    (lines world).sent <+: (lines next).sent ∧ (lines next).taken = (lines world).taken ++ [text]
  timedOut : ∀ {world nanoseconds next},
    os.answers world (.receiveLine channel nanoseconds) .timedOut next →
    (lines world).Grows (lines next) ∧ (lines next).pending = [] ∧
      time world + nanoseconds ≤ time next
  closed : ∀ {world nanoseconds next},
    os.answers world (.receiveLine channel nanoseconds) .closed next →
    (lines world).Grows (lines next) ∧ (lines next).pending = [] ∧ (lines next).closed = true

/-- **Whoever takes no line** leaves the channel to grow. -/
theorem Delivers.grows (h : Delivers os channel lines time) {α : Type} {program : Program α}
    (hconfined : program.Confined (Deed.TakesNoLine channel)) {a : α} {world final : World}
    (hrun : program.Runs os world a final) : (lines world).Grows (lines final) := by
  have hkeeps : os.Keeps (Deed.TakesNoLine channel) fun now => (lines world).Grows (lines now) :=
    ⟨fun hworld hdeed hanswer => hworld.trans (h.others hdeed hanswer),
      fun hworld _ hstart => hworld.trans (h.starts hstart)⟩
  have hkept := Program.Confined.keeps hkeeps hconfined hrun
  exact hkept (.refl _)

namespace Probe

variable {rendezvous : Rendezvous} {grate : GrateId} {timeout : Duration}
  {alive : σ → Program (Bool × σ)}

/-! ## One call -/

/-- A wait for the word of a grate found it, with its last look. -/
def Found (os : OperatingSystem World) (rendezvous : Rendezvous) (grate : GrateId)
    (alive : σ → Program (Bool × σ)) (marker : ReadyMarker) (start final : σ × World) : Prop :=
  ∃ before looked, Poll.Takes os alive (rendezvous.readReady grate) before start (final.1, looked) ∧
    (rendezvous.readReady grate).Runs os looked (.ok (some marker)) final.2

/-- **The wait** of a call: a marker is what its last look found. -/
theorem found_of_waitReady {s s' : σ} {marker : ReadyMarker} {world final : World}
    (hrun : (rendezvous.waitReady grate timeout alive s).Runs os world (.ok marker, s') final) :
    Found os rendezvous grate alive marker (s, world) (s', final) := by
  obtain ⟨started, turns, hcourse, htakes⟩ := Poll.takes_of_wait hrun
  obtain ⟨before, hturns⟩ := hcourse.exact.value rfl
  rw [hturns] at htakes
  obtain ⟨⟨s'', looked⟩, hbefore, ⟨_, marked⟩, ⟨hlook, hs⟩, hend⟩ := Poll.takes_append.mp htakes
  cases hend
  cases hs
  exact ⟨before, looked, hbefore, hlook⟩

/-- What becomes of a call, by what it comes to.  `started` is what the clock said at its beginning,
    and the wait for the grate went on from `first` to `marked`. -/
inductive Call (os : OperatingSystem World) (rendezvous : Rendezvous) (channel : Nat)
    (lines : World → LineChannel) (time : World → Nat) (grate : GrateId) (timeout : Duration)
    (alive : σ → Program (Bool × σ)) (s : σ) (world : World) :
    Except GateError ReadyMarker → σ → World → Prop where
  /-- The wait for the grate fails: its failure is returned, and no line is taken. -/
  | failed {started : Nat} {s' : σ} {first final : World} {e : GateError}
      (hstart : os.answers world .now started first)
      (hwait : (rendezvous.waitReady grate timeout alive s).Runs os first (.error e, s') final)
      (htaken : (lines final).taken = (lines world).taken) :
      Call os rendezvous channel lines time grate timeout alive s world (.error e) s' final
  /-- The word of the grate was found, and one line was taken. -/
  | released {started : Nat} {s' : σ} {first marked final : World} {marker : ReadyMarker}
      {line : String} (hstart : os.answers world .now started first)
      (hfound : Found os rendezvous grate alive marker (s, first) (s', marked))
      (htaken : (lines final).taken = (lines world).taken ++ [line]) :
      Call os rendezvous channel lines time grate timeout alive s world (.ok marker) s' final
  /-- The word of the grate was found, but no line was there and nobody is left to send one. -/
  | closed {started : Nat} {s' : σ} {first marked final : World} {marker : ReadyMarker}
      (hstart : os.answers world .now started first)
      (hfound : Found os rendezvous grate alive marker (s, first) (s', marked))
      (htaken : (lines final).taken = (lines world).taken)
      (hempty : (lines final).pending = []) (hclosed : (lines final).closed = true) :
      Call os rendezvous channel lines time grate timeout alive s world (.error .operatorClosed) s'
        final
  /-- The word of the grate was found, but no line was there for what was left of the timeout. -/
  | late {started moment : Nat} {s' : σ} {first marked asked final : World} {marker : ReadyMarker}
      (hstart : os.answers world .now started first)
      (hfound : Found os rendezvous grate alive marker (s, first) (s', marked))
      (hread : os.answers marked .now moment asked)
      (hask : os.answers asked (.receiveLine channel (timeout.nanoseconds - (moment - started)))
        .timedOut final)
      (htaken : (lines final).taken = (lines world).taken)
      (hbefore : (lines asked).pending = []) (hafter : (lines final).pending = [])
      (htime : time world + timeout.nanoseconds ≤ time final) :
      Call os rendezvous channel lines time grate timeout alive s world
        (.error (.timeout "operator acknowledgment" timeout)) s' final

theorem readReady_takesNoLine (rendezvous : Rendezvous) (grate : GrateId) :
    (rendezvous.readReady grate).Confined (Deed.TakesNoLine channel) := by
  refine (Program.confined_request nofun).bind fun answer => ?_
  cases answer with
  | error cause => exact trivial
  | ok bytes =>
    dsimp only
    split <;> exact trivial

/-- **One call** is as it should be. -/
theorem call_of_runs (clock : os.Clock time) (hlines : Delivers os channel lines time)
    (halive : ∀ s, (alive s).Confined (Deed.TakesNoLine channel)) {s s' : σ} {world final : World}
    {result : Except GateError ReadyMarker}
    (hrun : ((operator rendezvous channel).awaitReady grate timeout alive s).Runs os world
      (result, s') final) :
    Call os rendezvous channel lines time grate timeout alive s world result s' final := by
  obtain ⟨started, first, hstart, hrun⟩ := Program.runs_request_bind.mp hrun
  obtain ⟨⟨waited, s''⟩, marked, hwait, hrun⟩ := Program.runs_bind.mp hrun
  have hgrows : (lines world).Grows (lines marked) :=
    (hlines.others Deed.takesNoLine_now hstart).trans (hlines.grows
      (Poll.confined_wait Deed.takesNoLine_now (fun _ => nofun)
        (readReady_takesNoLine rendezvous grate) halive s) hwait)
  cases waited with
  | error e =>
    obtain ⟨⟨⟩, rfl⟩ := hrun
    exact .failed hstart hwait hgrows.taken
  | ok marker =>
    have hfound := found_of_waitReady hwait
    obtain ⟨moment, asked, hread, hrun⟩ := Program.runs_request_bind.mp hrun
    obtain ⟨answer, last, hask, hrun⟩ := Program.runs_request_bind.mp hrun
    have hasked := hgrows.trans (hlines.others Deed.takesNoLine_now hread)
    cases answer with
    | line text =>
      obtain ⟨⟨⟩, rfl⟩ := hrun
      have htaken := (hlines.line hask).2
      rw [hasked.taken] at htaken
      exact .released hstart hfound htaken
    | timedOut =>
      obtain ⟨⟨⟩, rfl⟩ := hrun
      obtain ⟨hlast, hempty, hwaited⟩ := hlines.timedOut hask
      have hbegun := clock.reads hstart
      have hmarked := clock.le_of_runs hwait
      have hnow := clock.reads hread
      exact .late hstart hfound hread hask (hlast.taken.trans hasked.taken) (hlast.pending hempty)
        hempty (by omega)
    | closed =>
      obtain ⟨⟨⟩, rfl⟩ := hrun
      obtain ⟨hlast, hempty, hclosed⟩ := hlines.closed hask
      exact .closed hstart hfound (hlast.taken.trans hasked.taken) hempty hclosed

/-! ## Many calls -/

/-- Calls one after another, each for a grate and within a timeout of its own, and what they come to.
    Before each of them and after the last lines may be sent and senders may go. -/
inductive Calls (os : OperatingSystem World) (rendezvous : Rendezvous) (channel : Nat)
    (lines : World → LineChannel) : World → List (Except GateError ReadyMarker) → World → Prop where
  | none {world final : World} (h : (lines world).Grows (lines final)) :
      Calls os rendezvous channel lines world [] final
  | call {σ : Type} {grate : GrateId} {timeout : Duration} {alive : σ → Program (Bool × σ)}
      {s s' : σ} {world first last final : World} {result : Except GateError ReadyMarker}
      {results : List (Except GateError ReadyMarker)}
      (hbefore : (lines world).Grows (lines first))
      (halive : ∀ s, (alive s).Confined (Deed.TakesNoLine channel))
      (hcall : ((operator rendezvous channel).awaitReady grate timeout alive s).Runs os first
        (result, s') last)
      (rest : Calls os rendezvous channel lines last results final) :
      Calls os rendezvous channel lines world (result :: results) final

/-- A call takes a line if it succeeds, and none if it fails. -/
theorem Call.length_taken {s s' : σ} {world final : World} {result : Except GateError ReadyMarker}
    (h : Call os rendezvous channel lines time grate timeout alive s world result s' final) :
    (lines final).taken.length = (lines world).taken.length + [result].countP Except.toBool := by
  cases h with
  | failed _ _ htaken => rw [htaken]; rfl
  | released _ _ htaken => rw [htaken, List.length_append]; rfl
  | closed _ _ htaken => rw [htaken]; rfl
  | late _ _ _ _ htaken => rw [htaken]; rfl

/-- **Many calls** take a line for each that succeeds. -/
theorem Calls.length_taken (clock : os.Clock time) (hlines : Delivers os channel lines time)
    {start final : World} {results : List (Except GateError ReadyMarker)}
    (h : Calls os rendezvous channel lines start results final) :
    (lines final).taken.length = (lines start).taken.length + results.countP Except.toBool := by
  induction h with
  | none hgrows =>
    rw [hgrows.taken]
    rfl
  | @call _ _ _ _ _ _ _ first _ _ result results hbefore halive hcall _ ih =>
    have hone := (call_of_runs clock hlines halive hcall).length_taken
    have hcount : ([result] ++ results).countP Except.toBool =
        [result].countP Except.toBool + results.countP Except.toBool := List.countP_append
    rw [List.singleton_append] at hcount
    rw [hbefore.taken] at hone
    omega

/-- **One line of the operator for each release.**  Each call is as it should be (`Call`), and of all
    lines sent to the channel the first are gone, as many as there were calls that succeeded beside
    those taken before. -/
theorem one_line_per_release (clock : os.Clock time) (hlines : Delivers os channel lines time)
    (rendezvous : Rendezvous) :
    (∀ {σ : Type} {grate : GrateId} {timeout : Duration} {alive : σ → Program (Bool × σ)} {s s' : σ}
        {world final : World} {result : Except GateError ReadyMarker},
      (∀ s, (alive s).Confined (Deed.TakesNoLine channel)) →
      ((operator rendezvous channel).awaitReady grate timeout alive s).Runs os world
        (result, s') final →
      Call os rendezvous channel lines time grate timeout alive s world result s' final) ∧
    ∀ {start final : World} {results : List (Except GateError ReadyMarker)},
      Calls os rendezvous channel lines start results final →
      (lines final).taken.length = (lines start).taken.length + results.countP Except.toBool ∧
      (lines final).taken =
        (lines final).sent.take ((lines start).taken.length + results.countP Except.toBool) := by
  refine ⟨fun halive hrun => call_of_runs clock hlines halive hrun, fun hcalls => ?_⟩
  have hlength := hcalls.length_taken clock hlines
  refine ⟨hlength, ?_⟩
  rw [← hlength]
  exact (lines _).taken_eq_take

/-! ### An operator who leaves -/

/-- A clock and a channel. -/
structure Desk where
  time : Nat
  lines : LineChannel
deriving DecidableEq

/-- A system on which the marker of a grate reads so, and nobody sends any more lines. -/
def leaving (marker : ReadyMarker) : Respondent Desk where
  answer
    | desk, .now => some (desk.time, desk)
    | desk, .sleep nanoseconds => some ((), { desk with time := desk.time + nanoseconds })
    | desk, .readFile _ => some (.ok (Utf8.ofText (toJson marker).compact), desk)
    | desk, .receiveLine 0 nanoseconds =>
      match desk.lines.next? with
      | some (line, lines) => some (.line line, { desk with lines := lines })
      | none =>
        if desk.lines.closed then some (.closed, desk)
        else some (.timedOut, { desk with time := desk.time + nanoseconds })
    | _, _ => none
  start _ _ _ _ := none

/-- What asking for a line comes to there. -/
theorem leaving_receives {marker : ReadyMarker} {desk next : Desk} {nanoseconds : Nat}
    {answer : LineAnswer}
    (h : (leaving marker).system.answers desk (.receiveLine 0 nanoseconds) answer next) :
    (∃ line lines, desk.lines.next? = some (line, lines) ∧ answer = .line line ∧
      next = { desk with lines := lines }) ∨
    desk.lines.next? = none ∧ (answer = .closed ∧ desk.lines.closed = true ∧ next = desk ∨
      answer = .timedOut ∧ next = { desk with time := desk.time + nanoseconds }) := by
  simp only [Respondent.system, leaving] at h
  split at h
  · next line lines hnext =>
    cases h
    exact .inl ⟨line, lines, hnext, rfl, rfl⟩
  · next hnext =>
    split at h
    · next hclosed =>
      cases h
      exact .inr ⟨hnext, .inl ⟨rfl, hclosed, rfl⟩⟩
    · cases h
      exact .inr ⟨hnext, .inr ⟨rfl, rfl⟩⟩

theorem leaving_clock (marker : ReadyMarker) : (leaving marker).system.Clock Desk.time where
  onward moment := by
    refine ⟨?_, nofun⟩
    intro desk next r answer h _ hanswer
    cases r with
    | now | readFile => cases hanswer; exact h
    | sleep nanoseconds => cases hanswer; exact Nat.le_add_right_of_le h
    | receiveLine channel nanoseconds =>
      cases channel with
      | succ => cases hanswer
      | zero =>
        obtain ⟨_, _, -, -, rfl⟩ | ⟨-, ⟨-, -, rfl⟩ | ⟨-, rfl⟩⟩ := leaving_receives hanswer
        · exact h
        · exact h
        · exact Nat.le_add_right_of_le h
    | _ => cases hanswer
  reads := by
    rintro desk next moment ⟨⟩
    exact ⟨Nat.le_refl _, Nat.le_refl _⟩
  rests := by
    rintro desk nanoseconds answer next ⟨⟩
    exact Nat.le_refl _

theorem leaving_delivers (marker : ReadyMarker) :
    Delivers (leaving marker).system 0 Desk.lines Desk.time where
  others := by
    intro desk r answer next hdeed hanswer
    cases r with
    | now | sleep | readFile => cases hanswer; exact .refl _
    | receiveLine channel nanoseconds =>
      cases channel with
      | zero => exact absurd rfl (hdeed nanoseconds)
      | succ => cases hanswer
    | _ => cases hanswer
  starts := nofun
  line := by
    intro desk nanoseconds text next hanswer
    obtain ⟨_, _, hnext, ⟨⟩, rfl⟩ | ⟨-, ⟨⟨⟩, -⟩ | ⟨⟨⟩, -⟩⟩ := leaving_receives hanswer
    obtain ⟨hsent, htaken⟩ := LineChannel.next?_eq_some hnext
    exact ⟨hsent ▸ List.prefix_refl _, htaken⟩
  timedOut := by
    intro desk nanoseconds next hanswer
    obtain ⟨_, _, -, ⟨⟩, -⟩ | ⟨hnone, ⟨⟨⟩, -⟩ | ⟨-, rfl⟩⟩ := leaving_receives hanswer
    exact ⟨.refl _, LineChannel.pending_of_next? hnone, Nat.le_refl _⟩
  closed := by
    intro desk nanoseconds next hanswer
    obtain ⟨_, _, -, ⟨⟩, -⟩ | ⟨hnone, ⟨-, hclosed, rfl⟩ | ⟨⟨⟩, -⟩⟩ := leaving_receives hanswer
    exact ⟨.refl _, LineChannel.pending_of_next? hnone, hclosed⟩

/-- The operator sends one line and leaves: one call succeeds, the next finds nobody there, and the
    line is gone. -/
theorem one_line_per_release_of_leaving_operator :
    let marker : ReadyMarker := ⟨⟨4⟩, ⟨2⟩, []⟩
    let rendezvous : Rendezvous := ⟨.ofText "meet"⟩
    let start : Desk := ⟨0, ⟨["go"], [], true, List.nil_prefix⟩⟩
    (leaving marker).system.Clock Desk.time ∧
    Delivers (leaving marker).system 0 Desk.lines Desk.time ∧
    ∃ final, Calls (leaving marker).system rendezvous 0 Desk.lines start
        [.ok marker, .error .operatorClosed] final ∧
      final.lines.taken = final.lines.sent.take 1 := by
  intro marker rendezvous start
  let alive : Unit → Program (Bool × Unit) := fun _ => pure (true, ())
  have halive (s : Unit) : (alive s).Confined (Deed.TakesNoLine 0) := trivial
  let final : Desk := ⟨0, ⟨["go"], ["go"], true, List.prefix_refl _⟩⟩
  have hfirst : ((operator rendezvous 0).awaitReady ⟨4⟩ (.seconds 1) alive ()).play (leaving marker) 1
      start = some ((.ok marker, ()), final) := by decide +kernel
  have hsecond : ((operator rendezvous 0).awaitReady ⟨4⟩ (.seconds 1) alive ()).play (leaving marker) 1
      final = some ((.error .operatorClosed, ()), final) := by decide +kernel
  have hcalls : Calls (leaving marker).system rendezvous 0 Desk.lines start
      [.ok marker, .error .operatorClosed] final :=
    .call (.refl _) halive (Program.runs_of_play hfirst)
      (.call (.refl _) halive (Program.runs_of_play hsecond) (.none (.refl _)))
  have hlines := leaving_delivers marker
  exact ⟨leaving_clock marker, hlines, final, hcalls,
    ((one_line_per_release (leaving_clock marker) hlines rendezvous).2 hcalls).2⟩

end Probe

end Interposition
