/-
  How a bounded wait ends.

  A wait looks, asks for the peer, reads the clock and pauses, and each of these may come to anything:
  the marker, the peer and the clock change on their own between any two of them.

  1. **Turns** (`Turn`, `Takes`): what a wait does, one thing after another, each as the operating
     system has it.

  2. **Rounds** (`stage_of_runs_round`, `runs_round_of_stage`): the turns of one round, and what they
     come to.  By induction on the rounds, the turns of a whole wait (`Course`, `takes_of_wait`).

  3. **Reasons** (`Exact`): what the turns say about the result.  A value and the failure of a look
     are those of the last turn; a peer counts as gone only if it was found gone and the look after
     that found nothing; time is up only if the clock says so after a look that found nothing and a
     peer that was alive.

  4. **The end** (`rounds_lt`, `exists_iterates`): a round that goes on has paused, so the clock
     leaves room for so many of them and no more.
-/
import Mathlib.Data.List.Chain
import Interposition.Proofs.Host.Confinement
import Interposition.Proofs.Host.Playing

namespace Interposition

variable {World σ β : Type} {os : OperatingSystem World}

/-! ## Clocks -/

/-- A clock: it never goes back, an answer tells a moment of the time it took, and a pause lasts at
    least as long as was asked for. -/
structure OperatingSystem.Clock (os : OperatingSystem World) (time : World → Nat) : Prop where
  onward : ∀ moment, os.Keeps (fun _ => True) fun world => moment ≤ time world
  reads : ∀ {world next} {moment : Nat}, os.answers world .now moment next →
    time world ≤ moment ∧ moment ≤ time next
  rests : ∀ {world nanoseconds answer next}, os.answers world (.sleep nanoseconds) answer next →
    time world + nanoseconds ≤ time next

theorem OperatingSystem.Clock.le_of_runs {α : Type} {time : World → Nat} (clock : os.Clock time)
    {program : Program α} {a : α} {world final : World}
    (hrun : program.Runs os world a final) : time world ≤ time final := by
  have hkept := Program.Runs.keeps (clock.onward (time world)) hrun
  exact hkept (Nat.le_refl _)

/-- So many rounds of a body, none of which comes to a result. -/
inductive Program.Continues (body : σ → World → σ ⊕ β → World → Prop) :
    Nat → σ → World → σ → World → Prop where
  | none {state : σ} {world : World} : Continues body 0 state world state world
  | again {rounds : Nat} {state state' last : σ} {world between final : World}
      (h : body state world (.inl state') between)
      (rest : Continues body rounds state' between last final) :
      Continues body (rounds + 1) state world last final

namespace Poll

/-! ## Turns -/

/-- One thing a wait does, and what it comes to. -/
inductive Turn (β : Type) where
  | looks (found : Except GateError (Option β))
  | asks (living : Bool)
  | reads (moment : Nat)
  | rests (pause : Nat)

/-- How long a turn pauses, if it does. -/
def Turn.pause? : Turn β → Option Nat
  | rests pause => some pause
  | _ => none

/-- The pauses among some turns. -/
def pauses (turns : List (Turn β)) : List Nat := turns.filterMap Turn.pause?

/-- What a wait comes to with a look, unless the look finds nothing. -/
def conclusion : Except GateError (Option β) → Option (Except GateError β)
  | .error e => some (.error e)
  | .ok (some b) => some (.ok b)
  | .ok none => none

theorem eq_of_conclusion_ok {found : Except GateError (Option β)} {b : β}
    (h : conclusion found = some (.ok b)) : found = .ok (some b) := by
  rcases found with e | _ | found <;> cases h
  rfl

theorem eq_of_conclusion_error {found : Except GateError (Option β)} {e : GateError}
    (h : conclusion found = some (.error e)) : found = .error e := by
  rcases found with e | _ | found <;> cases h
  rfl

theorem eq_of_conclusion_none {found : Except GateError (Option β)}
    (h : conclusion found = none) : found = .ok none := by
  rcases found with e | _ | found <;> cases h
  rfl

/-- A turn, as the operating system has it.  Only asking for the peer changes the state that `alive`
    keeps. -/
def Turn.Taken (os : OperatingSystem World) (alive : σ → Program (Bool × σ))
    (check : Program (Except GateError (Option β))) (start final : σ × World) : Turn β → Prop
  | looks found => check.Runs os start.2 found final.2 ∧ final.1 = start.1
  | asks living => (alive start.1).Runs os start.2 (living, final.1) final.2
  | reads moment => os.answers start.2 .now moment final.2 ∧ final.1 = start.1
  | rests pause => os.answers start.2 (.sleep pause) () final.2 ∧ final.1 = start.1

/-- Turns taken one after another. -/
def Takes (os : OperatingSystem World) (alive : σ → Program (Bool × σ))
    (check : Program (Except GateError (Option β))) :
    List (Turn β) → σ × World → σ × World → Prop
  | [], start, final => final = start
  | turn :: turns, start, final =>
    ∃ between, turn.Taken os alive check start between ∧ Takes os alive check turns between final

variable {alive : σ → Program (Bool × σ)} {check : Program (Except GateError (Option β))}

theorem takes_append {turns later : List (Turn β)} {start final : σ × World} :
    Takes os alive check (turns ++ later) start final ↔
      ∃ between, Takes os alive check turns start between ∧
        Takes os alive check later between final := by
  induction turns generalizing start with
  | nil =>
    constructor
    · intro h
      exact ⟨start, rfl, h⟩
    · rintro ⟨_, rfl, h⟩
      exact h
  | cons turn turns ih =>
    constructor
    · rintro ⟨first, hturn, h⟩
      obtain ⟨between, hturns, hlater⟩ := ih.mp h
      exact ⟨between, ⟨first, hturn, hturns⟩, hlater⟩
    · rintro ⟨between, ⟨first, hturn, hturns⟩, hlater⟩
      exact ⟨first, hturn, ih.mpr ⟨between, hturns, hlater⟩⟩

/-- **Turns** keep what looking, asking for the peer, reading the clock and pausing keep. -/
theorem Takes.keeps {allowed : Deed → Prop} {holds : World → Prop} (hos : os.Keeps allowed holds)
    (hnow : allowed (.asks .now)) (hsleep : ∀ pause, allowed (.asks (.sleep pause)))
    (hcheck : check.Confined allowed) (halive : ∀ s, (alive s).Confined allowed)
    {turns : List (Turn β)} {start final : σ × World}
    (h : Takes os alive check turns start final) (hstart : holds start.2) : holds final.2 := by
  induction turns generalizing start with
  | nil =>
    cases h
    exact hstart
  | cons turn turns ih =>
    obtain ⟨between, hturn, hlater⟩ := h
    refine ih hlater ?_
    cases turn with
    | looks found => exact hcheck.keeps hos hturn.1 hstart
    | asks living => exact (halive _).keeps hos hturn hstart
    | reads moment => exact hos.answers hstart hnow hturn.1
    | rests pause => exact hos.answers hstart (hsleep pause) hturn.1

/-- A wait does nothing beside its looks, its questions for the peer, the clock and pauses. -/
theorem confined_wait {allowed : Deed → Prop} {what peer : String} {timeout : Duration}
    (hnow : allowed (.asks .now)) (hsleep : ∀ pause, allowed (.asks (.sleep pause)))
    (hcheck : check.Confined allowed) (halive : ∀ s, (alive s).Confined allowed) (s : σ) :
    (wait what peer timeout alive check s).Confined allowed := by
  refine (Program.confined_request hnow).bind fun started => Program.confined_iterate ?_
  rintro ⟨pause, s⟩
  refine hcheck.bind fun found => ?_
  rcases found with e | _ | found
  · exact trivial
  · refine (halive s).bind fun ⟨living, s'⟩ => ?_
    cases living with
    | true =>
      refine (Program.confined_request hnow).bind fun moment => ?_
      split
      · exact trivial
      · exact (Program.confined_request (hsleep pause)).bind fun _ => trivial
    | false =>
      refine hcheck.bind fun found => ?_
      rcases found with e | _ | found <;> exact trivial
  · exact trivial

/-! ## Rounds -/

section shape

variable (what peer : String) (timeout : Duration) (started : Nat)

/-- The turns of one round, and its result if it ends the wait. -/
inductive Stage (pause : Nat) : List (Turn β) → Option (Except GateError β) → Prop where
  | seen {found : Except GateError (Option β)} {result : Except GateError β}
      (h : conclusion found = some result) : Stage pause [.looks found] (some result)
  | seenLast {found : Except GateError (Option β)} {result : Except GateError β}
      (h : conclusion found = some result) :
      Stage pause [.looks (.ok none), .asks false, .looks found] (some result)
  | gone :
      Stage pause [.looks (.ok none), .asks false, .looks (.ok none)]
        (some (.error (.peerExited what peer)))
  | late {moment : Nat} (h : timeout.nanoseconds ≤ moment - started) :
      Stage pause [.looks (.ok none), .asks true, .reads moment]
        (some (.error (.timeout what timeout)))
  | early {moment : Nat} (h : moment - started < timeout.nanoseconds) :
      Stage pause [.looks (.ok none), .asks true, .reads moment, .rests pause] none

/-- The turns of a wait from one of its rounds on, and its result. -/
inductive Course : Nat → List (Turn β) → Except GateError β → Prop where
  | last {pause : Nat} {turns : List (Turn β)} {result : Except GateError β}
      (h : Stage what peer timeout started pause turns (some result)) : Course pause turns result
  | again {pause : Nat} {turns later : List (Turn β)} {result : Except GateError β}
      (h : Stage what peer timeout started pause turns none)
      (rest : Course (nextPause pause) later result) : Course pause (turns ++ later) result

end shape

variable {what peer : String} {timeout : Duration} {started : Nat}

/-- How a round goes on, or what the wait comes to. -/
def after (pause : Nat) (s : σ) :
    Option (Except GateError β) → (Nat × σ) ⊕ (Except GateError β × σ)
  | none => .inl (nextPause pause, s)
  | some result => .inr (result, s)

/-- A round that was run took the turns of a stage. -/
theorem stage_of_runs_round {pause : Nat} {s : σ}
    {outcome : (Nat × σ) ⊕ (Except GateError β × σ)} {world next : World}
    (hrun : (round what peer timeout started alive check pause s).Runs os world outcome next) :
    ∃ turns result s', outcome = after pause s' result ∧
      Stage what peer timeout started pause turns result ∧
      Takes os alive check turns (s, world) (s', next) := by
  obtain ⟨found, looked, hlook, hrun⟩ := Program.runs_bind.mp hrun
  rcases found with e | _ | found
  · obtain ⟨rfl, rfl⟩ := hrun
    exact ⟨_, some _, s, rfl, .seen rfl, (s, _), ⟨hlook, rfl⟩, rfl⟩
  · obtain ⟨⟨living, s'⟩, asked, hask, hrun⟩ := Program.runs_bind.mp hrun
    cases living with
    | true =>
      obtain ⟨moment, read, hread, hrun⟩ := Program.runs_request_bind.mp hrun
      by_cases hlate : moment - started ≥ timeout.nanoseconds
      · simp only [hlate, if_true] at hrun
        obtain ⟨rfl, rfl⟩ := hrun
        exact ⟨_, some _, s', rfl, .late hlate, (s, _), ⟨hlook, rfl⟩, (s', _), hask,
          (s', _), ⟨hread, rfl⟩, rfl⟩
      · simp only [hlate, if_false] at hrun
        obtain ⟨⟨⟩, rested, hrest, rfl, rfl⟩ := Program.runs_request_bind.mp hrun
        exact ⟨_, none, s', rfl, .early (Nat.lt_of_not_le hlate), (s, _), ⟨hlook, rfl⟩,
          (s', _), hask, (s', _), ⟨hread, rfl⟩, (s', _), ⟨hrest, rfl⟩, rfl⟩
    | false =>
      -- the peer is gone, and there is one last look
      obtain ⟨found, last, hlast, hrun⟩ := Program.runs_bind.mp hrun
      have htakes : Takes os alive check [.looks (.ok none), .asks false, .looks found]
          (s, world) (s', last) :=
        ⟨(s, _), ⟨hlook, rfl⟩, (s', _), hask, (s', last), ⟨hlast, rfl⟩, rfl⟩
      rcases found with e | _ | found <;> obtain ⟨rfl, rfl⟩ := hrun
      · exact ⟨_, some _, s', rfl, .seenLast rfl, htakes⟩
      · exact ⟨_, some _, s', rfl, .gone, htakes⟩
      · exact ⟨_, some _, s', rfl, .seenLast rfl, htakes⟩
  · obtain ⟨rfl, rfl⟩ := hrun
    exact ⟨_, some _, s, rfl, .seen rfl, (s, _), ⟨hlook, rfl⟩, rfl⟩

/-- The turns of a stage make a round. -/
theorem runs_round_of_stage {pause : Nat} {turns : List (Turn β)}
    {result : Option (Except GateError β)} {s s' : σ} {world next : World}
    (hstage : Stage what peer timeout started pause turns result)
    (htakes : Takes os alive check turns (s, world) (s', next)) :
    (round what peer timeout started alive check pause s).Runs os world
      (after pause s' result) next := by
  refine Program.runs_bind.mpr ?_
  cases hstage with
  | @seen found result h =>
    obtain ⟨_, ⟨hlook, hs⟩, hend⟩ := htakes
    cases hend
    cases hs
    rcases found with e | _ | found <;> cases h <;> exact ⟨_, _, hlook, rfl, rfl⟩
  | @seenLast found result h =>
    obtain ⟨_, ⟨hlook, rfl⟩, _, hask, _, ⟨hlast, hs⟩, hend⟩ := htakes
    cases hend
    cases hs
    refine ⟨_, _, hlook, Program.runs_bind.mpr ⟨_, _, hask, Program.runs_bind.mpr ⟨_, _, hlast, ?_⟩⟩⟩
    rcases found with e | _ | found <;> cases h <;> exact ⟨rfl, rfl⟩
  | gone =>
    obtain ⟨_, ⟨hlook, rfl⟩, _, hask, _, ⟨hlast, hs⟩, hend⟩ := htakes
    cases hend
    cases hs
    exact ⟨_, _, hlook,
      Program.runs_bind.mpr ⟨_, _, hask, Program.runs_bind.mpr ⟨_, _, hlast, rfl, rfl⟩⟩⟩
  | @late moment h =>
    obtain ⟨_, ⟨hlook, rfl⟩, _, hask, _, ⟨hread, hs⟩, hend⟩ := htakes
    cases hend
    cases hs
    refine ⟨_, _, hlook, Program.runs_bind.mpr ⟨_, _, hask,
      Program.runs_request_bind.mpr ⟨moment, _, hread, ?_⟩⟩⟩
    simp only [ge_iff_le, h, if_true]
    exact ⟨rfl, rfl⟩
  | @early moment h =>
    obtain ⟨_, ⟨hlook, rfl⟩, _, hask, _, ⟨hread, hs⟩, _, ⟨hrest, hs'⟩, hend⟩ := htakes
    cases hend
    refine ⟨_, _, hlook, Program.runs_bind.mpr ⟨_, _, hask,
      Program.runs_request_bind.mpr ⟨moment, _, hread, ?_⟩⟩⟩
    simp only [ge_iff_le, Nat.not_le.mpr h, if_false]
    exact ⟨(), _, hrest, congrArg (fun s => after pause s none) (hs'.trans hs), rfl⟩

/-- **One round**: its runs are the turns of a stage, taken one after another. -/
theorem runs_round {pause : Nat} {s : σ} {outcome : (Nat × σ) ⊕ (Except GateError β × σ)}
    {world next : World} :
    (round what peer timeout started alive check pause s).Runs os world outcome next ↔
      ∃ turns result s', outcome = after pause s' result ∧
        Stage what peer timeout started pause turns result ∧
        Takes os alive check turns (s, world) (s', next) := by
  constructor
  · exact stage_of_runs_round
  · rintro ⟨turns, result, s', rfl, hstage, htakes⟩
    exact runs_round_of_stage hstage htakes

/-- **A whole wait**: a look at the clock, and then the turns of its rounds. -/
theorem takes_of_wait {s s' : σ} {result : Except GateError β} {world final : World}
    (hrun : (wait what peer timeout alive check s).Runs os world (result, s') final) :
    ∃ started turns, Course what peer timeout started shortestPause turns result ∧
      Takes os alive check (.reads started :: turns) (s, world) (s', final) := by
  obtain ⟨started, first, hread, hrounds⟩ := Program.runs_request_bind.mp hrun
  replace hrounds := Program.runs_iterate.mp hrounds
  generalize hstate : (shortestPause, s) = state at hrounds
  generalize hend : (result, s') = outcome at hrounds
  -- every round but the last goes on with the next pause
  have hcourse : ∃ turns, Course what peer timeout started state.1 turns outcome.1 ∧
      Takes os alive check turns (state.2, first) (outcome.2, final) := by
    clear hstate hend hread hrun
    induction hrounds with
    | stop h =>
      obtain ⟨turns, result, s', houtcome, hstage, htakes⟩ := runs_round.mp h
      cases result with
      | none => cases houtcome
      | some result =>
        obtain rfl := Sum.inr.inj houtcome
        exact ⟨turns, .last hstage, htakes⟩
    | again h _ ih =>
      obtain ⟨turns, result, s', houtcome, hstage, htakes⟩ := runs_round.mp h
      cases result with
      | some result => cases houtcome
      | none =>
        obtain rfl := Sum.inl.inj houtcome
        obtain ⟨later, hcourse, hlater⟩ := ih
        exact ⟨turns ++ later, .again hstage hcourse, takes_append.mpr ⟨_, htakes, hlater⟩⟩
  subst hstate hend
  obtain ⟨turns, hcourse, htakes⟩ := hcourse
  exact ⟨started, turns, hcourse, (s, first), ⟨hread, rfl⟩, htakes⟩

/-! ## Reasons -/

/-- What the turns of a wait say about its result. -/
structure Exact (what peer : String) (timeout : Duration) (turns : List (Turn β))
    (result : Except GateError β) : Prop where
  /-- The first thing after the clock is a look. -/
  begins : ∃ started found rest, turns = .reads started :: .looks found :: rest
  /-- A value is what the last turn, a look, has found. -/
  value : ∀ {b}, result = .ok b → ∃ before, turns = before ++ [.looks (.ok (some b))]
  /-- A look that fails or finds something is the last turn. -/
  stops : ∀ {before found after}, turns = before ++ .looks found :: after → found ≠ .ok none →
    after = [] ∧ conclusion found = some result
  /-- An error is that of the last look, or the peer was gone before a look that found nothing, or
      time was up after a look that found nothing and a peer that was alive. -/
  error : ∀ {e}, result = .error e →
    (∃ before, turns = before ++ [.looks (.error e)]) ∨
    (e = .peerExited what peer ∧ ∃ before, turns = before ++ [.asks false, .looks (.ok none)]) ∨
    (e = .timeout what timeout ∧ ∃ started between moment,
      turns = .reads started :: between ++ [.looks (.ok none), .asks true, .reads moment] ∧
        timeout.nanoseconds ≤ moment - started)
  /-- The first pause is of one millisecond. -/
  firstPause : ∀ pause ∈ (pauses turns).head?, pause = 1000000
  /-- No pause is shorter than the one before it, or more than twice as long. -/
  doubling : (pauses turns).IsChain fun pause next => pause ≤ next ∧ next ≤ 2 * pause
  /-- No pause is longer than fifty milliseconds. -/
  capped : ∀ pause ∈ pauses turns, pause ≤ 50000000

theorem nextPause_bounds {pause : Nat} (h : pause ≤ longestPause) :
    pause ≤ nextPause pause ∧ nextPause pause ≤ 2 * pause ∧ nextPause pause ≤ longestPause := by
  unfold nextPause longestPause at *
  omega

namespace Stage

variable {pause : Nat} {turns : List (Turn β)}

/-- A look of a round finds nothing, or the round ends with what it comes to. -/
theorem looks {result : Option (Except GateError β)}
    (h : Stage what peer timeout started pause turns result) {before after : List (Turn β)}
    {found : Except GateError (Option β)} (hturns : turns = before ++ .looks found :: after) :
    found = .ok none ∨ after = [] ∧ result = conclusion found := by
  cases h with
  | seen h | seenLast h =>
    rcases before with _ | ⟨_, _ | ⟨_, _ | ⟨_, before⟩⟩⟩ <;> simp_all
  | gone | late h | early h =>
    rcases before with _ | ⟨_, _ | ⟨_, _ | ⟨_, _ | ⟨_, before⟩⟩⟩⟩ <;> simp_all

theorem pauses_of_some {result : Except GateError β}
    (h : Stage what peer timeout started pause turns (some result)) : pauses turns = [] := by
  cases h <;> rfl

theorem pauses_append (h : Stage what peer timeout started pause turns none)
    (later : List (Turn β)) : pauses (turns ++ later) = pause :: pauses later := by
  cases h
  rfl

end Stage

namespace Course

variable {pause : Nat} {turns : List (Turn β)} {result : Except GateError β}

theorem begins (h : Course what peer timeout started pause turns result) :
    ∃ found rest, turns = .looks found :: rest := by
  cases h with
  | last h => cases h <;> exact ⟨_, _, rfl⟩
  | again h => cases h; exact ⟨_, _, rfl⟩

theorem value (h : Course what peer timeout started pause turns result) {b : β}
    (hresult : result = .ok b) : ∃ before, turns = before ++ [.looks (.ok (some b))] := by
  induction h with
  | last h =>
    subst hresult
    cases h with
    | seen h => exact ⟨[], eq_of_conclusion_ok h ▸ rfl⟩
    | seenLast h => exact ⟨[.looks (.ok none), .asks false], eq_of_conclusion_ok h ▸ rfl⟩
  | @again _ first _ _ _ _ ih =>
    obtain ⟨before, hlater⟩ := ih hresult
    exact ⟨first ++ before, by rw [hlater, List.append_assoc]⟩

theorem error (h : Course what peer timeout started pause turns result) {e : GateError}
    (hresult : result = .error e) :
    (∃ before, turns = before ++ [.looks (.error e)]) ∨
    (e = .peerExited what peer ∧ ∃ before, turns = before ++ [.asks false, .looks (.ok none)]) ∨
    (e = .timeout what timeout ∧ ∃ before moment,
      turns = before ++ [.looks (.ok none), .asks true, .reads moment] ∧
        timeout.nanoseconds ≤ moment - started) := by
  induction h with
  | last h =>
    cases h with
    | seen h =>
      subst hresult
      exact .inl ⟨[], eq_of_conclusion_error h ▸ rfl⟩
    | seenLast h =>
      subst hresult
      exact .inl ⟨[.looks (.ok none), .asks false], eq_of_conclusion_error h ▸ rfl⟩
    | gone =>
      cases hresult
      exact .inr (.inl ⟨rfl, [.looks (.ok none)], rfl⟩)
    | @late moment h =>
      cases hresult
      exact .inr (.inr ⟨rfl, [], moment, rfl, h⟩)
  | @again _ first _ _ _ _ ih =>
    rcases ih hresult with ⟨before, rfl⟩ | ⟨he, before, rfl⟩ | ⟨he, before, moment, rfl, h⟩
    · exact .inl ⟨first ++ before, (List.append_assoc ..).symm⟩
    · exact .inr (.inl ⟨he, first ++ before, (List.append_assoc ..).symm⟩)
    · exact .inr (.inr ⟨he, first ++ before, moment, (List.append_assoc ..).symm, h⟩)

/-- A look that fails or finds something is the last turn. -/
theorem stops (h : Course what peer timeout started pause turns result)
    {before after : List (Turn β)} {found : Except GateError (Option β)}
    (hturns : turns = before ++ .looks found :: after) (hfound : found ≠ .ok none) :
    after = [] ∧ conclusion found = some result := by
  induction h generalizing before with
  | last h =>
    rcases h.looks hturns with hnone | ⟨hafter, hresult⟩
    · exact absurd hnone hfound
    · exact ⟨hafter, hresult.symm⟩
  | @again _ first later _ h _ ih =>
    rcases List.append_eq_append_iff.mp hturns with ⟨between, -, hlater⟩ | ⟨between, hfirst, hlater⟩
    · exact ih hlater
    · cases between with
      | nil =>
        have hlater : later = [] ++ .looks found :: after := hlater.symm
        exact ih hlater
      | cons turn between =>
        -- a look of a round that goes on finds nothing
        obtain ⟨rfl, -⟩ := List.cons.inj hlater
        rcases h.looks hfirst with hnone | ⟨-, hresult⟩
        · exact absurd hnone hfound
        · exact absurd (eq_of_conclusion_none hresult.symm) hfound

theorem head?_pauses (h : Course what peer timeout started pause turns result) :
    ∀ first ∈ (pauses turns).head?, first = pause := by
  cases h with
  | last h =>
    rw [h.pauses_of_some]
    nofun
  | again h =>
    rw [h.pauses_append]
    rintro _ ⟨⟩
    rfl

/-- **Pauses** grow, to twice as much at most and no longer than the longest. -/
theorem pauses_grow (h : Course what peer timeout started pause turns result)
    (hpause : pause ≤ longestPause) :
    (pauses turns).IsChain (fun pause next => pause ≤ next ∧ next ≤ 2 * pause) ∧
      ∀ pause ∈ pauses turns, pause ≤ longestPause := by
  induction h with
  | last h =>
    rw [h.pauses_of_some]
    exact ⟨.nil, nofun⟩
  | again h rest ih =>
    obtain ⟨hlonger, hdouble, hlongest⟩ := nextPause_bounds hpause
    obtain ⟨hchain, hcapped⟩ := ih hlongest
    rw [h.pauses_append]
    constructor
    · refine List.isChain_cons.mpr ⟨fun next hnext => ?_, hchain⟩
      rw [rest.head?_pauses next hnext]
      exact ⟨hlonger, hdouble⟩
    · intro p hp
      rcases List.mem_cons.mp hp with rfl | hp
      · exact hpause
      · exact hcapped p hp

/-- **The reasons** of a course. -/
theorem exact (h : Course what peer timeout started shortestPause turns result) :
    Exact what peer timeout (.reads started :: turns) result where
  begins := by
    obtain ⟨found, rest, rfl⟩ := h.begins
    exact ⟨started, found, rest, rfl⟩
  value hresult := by
    obtain ⟨before, rfl⟩ := h.value hresult
    exact ⟨.reads started :: before, rfl⟩
  stops {before} := by
    intro found after hturns hfound
    cases before with
    | nil => cases (List.cons.inj hturns).1
    | cons turn before => exact h.stops (List.cons.inj hturns).2 hfound
  error hresult := by
    rcases h.error hresult with ⟨before, rfl⟩ | ⟨he, before, rfl⟩ | ⟨he, before, moment, rfl, hlate⟩
    · exact .inl ⟨.reads started :: before, rfl⟩
    · exact .inr (.inl ⟨he, .reads started :: before, rfl⟩)
    · exact .inr (.inr ⟨he, started, before, moment, rfl, hlate⟩)
  firstPause := h.head?_pauses
  doubling := (h.pauses_grow (by decide)).1
  capped := (h.pauses_grow (by decide)).2

end Course

/-! ## The end -/

/-- The clock, pauses, looks and questions for the peer all come to something. -/
structure Answered (os : OperatingSystem World) (alive : σ → Program (Bool × σ))
    (check : Program (Except GateError (Option β))) : Prop where
  now : ∀ world, ∃ moment next, os.answers world .now moment next
  sleep : ∀ world nanoseconds, ∃ next, os.answers world (.sleep nanoseconds) () next
  check : ∀ world, ∃ found next, check.Runs os world found next
  alive : ∀ s world, ∃ said next, (alive s).Runs os world said next

section finite

variable {time : World → Nat}

/-- **A round that goes on** has read the clock before time was up, and has paused since. -/
theorem early_of_round (clock : os.Clock time) {pause pause' : Nat} {s s' : σ} {world next : World}
    (hrun : (round what peer timeout started alive check pause s).Runs os world
      (.inl (pause', s')) next) :
    pause' = nextPause pause ∧ ∃ moment, time world ≤ moment ∧
      moment - started < timeout.nanoseconds ∧ moment + pause ≤ time next := by
  obtain ⟨turns, result, _, houtcome, hstage, htakes⟩ := runs_round.mp hrun
  cases result with
  | some result => cases houtcome
  | none =>
    obtain ⟨rfl, rfl⟩ := Prod.mk.inj (Sum.inl.inj houtcome)
    refine ⟨rfl, ?_⟩
    cases hstage with
    | @early moment h =>
      obtain ⟨_, ⟨hlook, -⟩, _, hask, _, ⟨hread, -⟩, _, ⟨hrest, -⟩, hend⟩ := htakes
      cases hend
      have hlooked : time world ≤ _ := clock.le_of_runs hlook
      have hasked := clock.le_of_runs hask
      have hclock := clock.reads hread
      have hrested : _ ≤ time next := clock.rests hrest
      exact ⟨moment, by omega, h, by omega⟩

theorem shortestPause_le_nextPause {pause : Nat} (h : shortestPause ≤ pause) :
    shortestPause ≤ nextPause pause := by
  unfold nextPause shortestPause longestPause at *
  omega

theorem lt_of_continues (clock : os.Clock time) {rounds : Nat} {state last : Nat × σ}
    {world final : World}
    (h : Program.Continues (fun state =>
      (round what peer timeout started alive check state.1 state.2).Runs os) (rounds + 1) state world
        last final)
    (hpause : shortestPause ≤ state.1) :
    time world + rounds * shortestPause < started + timeout.nanoseconds := by
  induction rounds generalizing state world with
  | zero =>
    cases h with
    | again h _ =>
      obtain ⟨-, moment, hmoment, hearly, -⟩ := early_of_round clock h
      omega
  | succ rounds ih =>
    cases h with
    | again h rest =>
      obtain ⟨hnext, moment, hmoment, -, hrested⟩ := early_of_round clock h
      have hlater := ih rest (hnext ▸ shortestPause_le_nextPause hpause)
      rw [Nat.succ_mul]
      omega

/-- **No wait goes on for ever**: there is time for so many rounds that go on. -/
theorem rounds_lt (clock : os.Clock time) {rounds : Nat} {s : σ} {last : Nat × σ}
    {world first final : World} (hread : os.answers world .now started first)
    (h : Program.Continues (fun state =>
      (round what peer timeout started alive check state.1 state.2).Runs os) rounds
        (shortestPause, s) first last final) :
    rounds * shortestPause < timeout.nanoseconds + shortestPause := by
  cases rounds with
  | zero =>
    rw [Nat.zero_mul]
    exact Nat.lt_add_left _ (by decide)
  | succ rounds =>
    have hstarted := (clock.reads hread).2
    have hlast := lt_of_continues clock h (Nat.le_refl _)
    rw [Nat.succ_mul]
    omega

/-- A round comes to something. -/
theorem exists_runs_round (what peer : String) (timeout : Duration) (started : Nat)
    (h : Answered os alive check) (pause : Nat) (s : σ) (world : World) :
    ∃ outcome next,
      (round what peer timeout started alive check pause s).Runs os world outcome next := by
  have hstage {turns result s' next} (hstage : Stage what peer timeout started pause turns result)
      (htakes : Takes os alive check turns (s, world) (s', next)) : ∃ outcome next,
      (round what peer timeout started alive check pause s).Runs os world outcome next :=
    ⟨_, next, runs_round.mpr ⟨turns, result, s', rfl, hstage, htakes⟩⟩
  obtain ⟨found, looked, hlook⟩ := h.check world
  by_cases hfound : found = .ok none
  · subst hfound
    obtain ⟨⟨living, s'⟩, asked, hask⟩ := h.alive s looked
    cases living with
    | true =>
      obtain ⟨moment, read, hread⟩ := h.now asked
      by_cases hlate : timeout.nanoseconds ≤ moment - started
      · exact hstage (.late hlate)
          ⟨(s, _), ⟨hlook, rfl⟩, (s', _), hask, (s', _), ⟨hread, rfl⟩, rfl⟩
      · obtain ⟨rested, hrest⟩ := h.sleep read pause
        exact hstage (.early (Nat.lt_of_not_le hlate)) ⟨(s, _), ⟨hlook, rfl⟩, (s', _), hask,
          (s', _), ⟨hread, rfl⟩, (s', _), ⟨hrest, rfl⟩, rfl⟩
    | false =>
      obtain ⟨found, last, hlast⟩ := h.check asked
      have htakes : Takes os alive check [.looks (.ok none), .asks false, .looks found]
          (s, world) (s', last) :=
          ⟨(s, _), ⟨hlook, rfl⟩, (s', _), hask, (s', last), ⟨hlast, rfl⟩, rfl⟩
      by_cases hfound : found = .ok none
      · subst hfound
        exact hstage .gone htakes
      · obtain ⟨result, hresult⟩ := Option.ne_none_iff_exists'.mp (mt eq_of_conclusion_none hfound)
        exact hstage (.seenLast hresult) htakes
  · obtain ⟨result, hresult⟩ := Option.ne_none_iff_exists'.mp (mt eq_of_conclusion_none hfound)
    exact hstage (.seen hresult) ⟨(s, _), ⟨hlook, rfl⟩, rfl⟩

/-- The rounds come to a result. -/
theorem exists_iterates (what peer : String) (timeout : Duration) (started : Nat)
    (clock : os.Clock time) (h : Answered os alive check) (state : Nat × σ)
    (hpause : shortestPause ≤ state.1) (world : World) :
    ∃ result final, Program.Iterates (fun state =>
      (round what peer timeout started alive check state.1 state.2).Runs os) state world
        result final := by
  -- the time that is left falls with every pause
  generalize hleft : started + timeout.nanoseconds - time world = left
  induction left using Nat.strongRecOn generalizing state world with
  | ind left ih =>
    obtain ⟨outcome, next, hround⟩ :=
      exists_runs_round what peer timeout started h state.1 state.2 world
    cases outcome with
    | inr result => exact ⟨result, next, .stop hround⟩
    | inl state' =>
      obtain ⟨hnext, moment, hmoment, hearly, hrested⟩ := early_of_round clock hround
      have hpause' := hnext ▸ shortestPause_le_nextPause hpause
      have hpositive : 0 < shortestPause := by decide
      have hless : started + timeout.nanoseconds - time next < left := by omega
      obtain ⟨result, final, hrest⟩ := ih _ hless state' hpause' next rfl
      exact ⟨result, final, .again hround hrest⟩

/-- **A wait ends.** -/
theorem exists_runs_wait (clock : os.Clock time) (h : Answered os alive check) (s : σ)
    (world : World) : ∃ result s' final,
      (wait what peer timeout alive check s).Runs os world (result, s') final := by
  obtain ⟨started, first, hread⟩ := h.now world
  obtain ⟨⟨result, s'⟩, final, hrounds⟩ :=
    exists_iterates what peer timeout started clock h (shortestPause, s) (Nat.le_refl _) first
  exact ⟨result, s', final, started, first, hread, Program.runs_iterate.mpr hrounds⟩

end finite

/-! ## Peers that publish and exit -/

/-- A peer that publishes before it exits: it is found gone only once it has exited, a look at what it
    has published finds something or fails, and no look says of itself that a peer has exited. -/
structure Publishes (os : OperatingSystem World) (alive : σ → Program (Bool × σ))
    (check : Program (Except GateError (Option β))) (published exited : World → Prop) : Prop where
  gone : ∀ {s s' world next}, (alive s).Runs os world (false, s') next → exited next
  before : ∀ {world}, exited world → published world
  shown : ∀ {world found next}, published world → check.Runs os world found next → found ≠ .ok none
  silent : ∀ {world what peer next}, ¬ check.Runs os world (.error (.peerExited what peer)) next

/-- **The last look** finds what the peer has published. -/
theorem ne_peerExited {published exited : World → Prop}
    (h : Publishes os alive check published exited) {turns : List (Turn β)}
    {result : Except GateError β} (hexact : Exact what peer timeout turns result)
    {start final : σ × World} (htakes : Takes os alive check turns start final) :
    result ≠ .error (.peerExited what peer) := by
  intro hresult
  rcases hexact.error hresult with ⟨before, rfl⟩ | ⟨-, before, rfl⟩ | ⟨hlate, -⟩
  · obtain ⟨_, -, _, ⟨hlook, -⟩, -⟩ := takes_append.mp htakes
    exact h.silent hlook
  · obtain ⟨_, -, _, hask, _, ⟨hlook, -⟩, -⟩ := takes_append.mp htakes
    exact h.shown (h.before (h.gone hask)) hlook rfl
  · cases hlate

/-- **A bounded wait is exact about why it ends.**  Whatever looks and questions for the peer come to,
    and whatever the clock says: so many rounds go on and no more, the wait comes to something if
    they all do, its turns are the reasons of its result, and a peer that publishes and exits is not
    taken for one that has exited without publishing. -/
theorem wait_exact {time : World → Nat} (clock : os.Clock time) (what peer : String)
    (timeout : Duration) (alive : σ → Program (Bool × σ))
    (check : Program (Except GateError (Option β))) (s : σ) (world : World) :
    (∀ {started rounds : Nat} {last : Nat × σ} {first final : World},
      os.answers world .now started first →
      Program.Continues (fun state =>
        (round what peer timeout started alive check state.1 state.2).Runs os) rounds
          (shortestPause, s) first last final →
      rounds * 1000000 < timeout.nanoseconds + 1000000) ∧
    (Answered os alive check → ∃ result s' final,
      (wait what peer timeout alive check s).Runs os world (result, s') final) ∧
    ∀ {result : Except GateError β} {s' : σ} {final : World},
      (wait what peer timeout alive check s).Runs os world (result, s') final →
      (∃ turns, Takes os alive check turns (s, world) (s', final) ∧
        Exact what peer timeout turns result) ∧
      ∀ {published exited : World → Prop}, Publishes os alive check published exited →
        result ≠ .error (.peerExited what peer) := by
  refine ⟨rounds_lt clock, fun h => exists_runs_wait clock h s world, fun hrun => ?_⟩
  obtain ⟨started, turns, hcourse, htakes⟩ := takes_of_wait hrun
  refine ⟨⟨_, htakes, hcourse.exact⟩, fun hpublishes => ?_⟩
  exact ne_peerExited hpublishes hcourse.exact htakes

/-- A cage that arms and exits at one moment; every look takes a nanosecond. -/
def departing (moment : Nat) : Respondent Nat where
  answer
    | time, .now => some (time, time)
    | time, .sleep nanoseconds => some ((), time + nanoseconds)
    | time, .pathExists _ => some (decide (moment ≤ time), time + 1)
    | time, .isDirectory _ => some (decide (time < moment), time + 1)
    | _, _ => none
  start _ _ _ _ := none

/-- Asks for the marker of the cage. -/
def lookForMarker : Program (Except GateError (Option Unit)) := do
  return .ok (if ← Program.request (.pathExists (.ofText "armed")) then some () else none)

/-- Asks for the cage. -/
def askForCage (_ : Unit) : Program (Bool × Unit) := do
  return (← Program.request (.isDirectory (.ofText "cage")), ())

/-- The cage departs between a look and the question for it, and the last look finds its marker. -/
theorem wait_exact_of_departing_cage :
    (departing 3000005).system.Clock id ∧
    Answered (departing 3000005).system askForCage lookForMarker ∧
    Publishes (departing 3000005).system askForCage lookForMarker (3000005 ≤ ·) (3000005 ≤ ·) ∧
    (wait "it to arm" "it" (.seconds 1) askForCage lookForMarker ()).Runs (departing 3000005).system 0
      (.ok (), ()) 3000007 ∧
    ∃ turns, Takes (departing 3000005).system askForCage lookForMarker turns ((), 0) ((), 3000007) ∧
      Exact "it to arm" "it" (.seconds 1) turns (.ok ()) := by
  have hclock : (departing 3000005).system.Clock id := by
    refine ⟨fun moment => ⟨?_, nofun⟩, ?_, ?_⟩
    · intro time next r answer h _ hanswer
      have h : moment ≤ time := h
      cases r <;> cases hanswer <;> simp only [id] <;> omega
    · rintro time next moment ⟨⟩
      exact ⟨Nat.le_refl _, Nat.le_refl _⟩
    · rintro time nanoseconds answer next ⟨⟩
      exact Nat.le_refl _
  have hanswered : Answered (departing 3000005).system askForCage lookForMarker :=
    ⟨fun time => ⟨_, _, rfl⟩, fun time _ => ⟨_, rfl⟩, fun time => ⟨_, _, _, _, rfl, rfl, rfl⟩,
      fun _ time => ⟨_, _, _, _, rfl, rfl, rfl⟩⟩
  have hpublishes : Publishes (departing 3000005).system askForCage lookForMarker (3000005 ≤ ·)
      (3000005 ≤ ·) := by
    refine ⟨?_, id, ?_, ?_⟩
    · rintro _ _ time next ⟨_, _, ⟨⟩, hsaid, rfl⟩
      have hgone := of_decide_eq_false (Prod.mk.inj hsaid).1.symm
      omega
    · rintro time found next hpublished ⟨_, _, ⟨⟩, rfl, rfl⟩
      have hthere : decide (3000005 ≤ time) = true := decide_eq_true hpublished
      rw [hthere]
      nofun
    · rintro time what peer next ⟨_, _, ⟨⟩, hfound, -⟩
      cases hfound
  have hplay : (wait "it to arm" "it" (.seconds 1) askForCage lookForMarker ()).play
      (departing 3000005) 3 0 = some ((.ok (), ()), 3000007) := by decide +kernel
  have hrun := Program.runs_of_play hplay
  exact ⟨hclock, hanswered, hpublishes, hrun,
    ((wait_exact hclock "it to arm" "it" (.seconds 1) askForCage lookForMarker () 0).2.2 hrun).1⟩

end Poll
end Interposition
