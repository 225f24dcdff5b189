/-
  A cage and its release.

  Of a session only the cage matters here, and who signals it.  The cage is the demonstration's, and
  goes on by its program at any time.  Nobody but the loader sends it the release.

  1. **Scenes** (`Scene`, `Move`): the cage, and what has happened to it so far.  It goes on by the
     events of its program, and may end at any time.

  2. **The loader among them** (`releasing`): the cage goes on behind every answer.  Files, the
     grate, the operator and the clock answer as they like, so the timeouts may run out in any order.

  3. **Before the release** (`Shut`): no release is kept for the cage, and its gate has not opened.
     Moves keep this (`Shut.move`), by the stage the cage's trace is in, and so do other signals.

  4. **What the release comes to** (`Came`): it was not sent, since the end of the cage was known; or
     it reached nobody; or it reached the cage, which may have been turned away before.
-/
import Interposition.Proofs.Process.History
import Interposition.Proofs.Session.Frames
import Interposition.Proofs.Session.Gate

namespace Interposition.Session

open Gate (Gated Opened TurnedAway)
open Program (Follows Does)

/-! ## Scenes -/

/-- A moment in the life of a cage. -/
inductive Moment where
  /-- The cage has gone on. -/
  | cage (event : Interposition.Event)
  /-- The loader has sent the release, and whether it has reached a cage that had not ended. -/
  | released (reached : Bool)

namespace Moment

def event? : Moment → Option Interposition.Event
  | cage event => some event
  | released _ => none

def release? : Moment → Option Bool
  | cage _ => none
  | released reached => some reached

end Moment

/-- What the cage has done, oldest first. -/
def doneIn (past : List Moment) : List Interposition.Event := past.filterMap Moment.event?

/-- The releases that were sent, and whether they reached the cage. -/
def releasesIn (past : List Moment) : List Bool := past.filterMap Moment.release?

theorem doneIn_append (past more : List Moment) :
    doneIn (past ++ more) = doneIn past ++ doneIn more := List.filterMap_append

theorem releasesIn_append (past more : List Moment) :
    releasesIn (past ++ more) = releasesIn past ++ releasesIn more := List.filterMap_append

/-- The cage, once there is one, and what has happened so far. -/
structure Scene where
  cage : Option Child
  past : List Moment

namespace Scene

/-- The cage has ended. -/
def Over (s : Scene) : Prop := ∃ child, s.cage = some child ∧ child.ended = true

/-- Whether there is a cage that has not ended. -/
def lives (s : Scene) : Bool := s.cage.any fun child => !child.ended

/-- The scene once a signal was sent to the cage, and was taken or not.  A child that has ended takes
    it too, and nothing comes of it. -/
def sent (s : Scene) (signal : Signal) (taken : Bool) : Scene where
  cage := if taken then s.cage.map fun child => child.reached signal else s.cage
  past := if signal = .release then s.past ++ [.released (taken && s.lives)] else s.past

end Scene

/-- What an event of a cage does to the cage. -/
def After (event : Interposition.Event) (child next : Child) : Prop :=
  match event with
  | .asked (.dispose signal disposition) _ => next = child.dispose signal disposition
  | .asked (.awaitSignal signal _) found =>
    if found then child.kept signal = true ∧ next = child.take signal else next = child
  | .asked .takeSignal _ | .asked (.kill _ _) _ | .asked (.becomeImage _) _ =>
    next.launch = child.launch
  | _ => next = child

/-- What may happen at any time: the cage goes on by its program, or it ends. -/
inductive Move : Scene → Scene → Prop where
  | acts {s : Scene} {child changed : Child} {event : Interposition.Event}
      {rest rest' : Program Int32} (hcage : s.cage = some child) (hlives : child.ended = false)
      (htrace : (Programs.cage child.launch.args).Follows (doneIn s.past) rest)
      (hdoes : rest.Does event rest') (hafter : After event child changed) :
      Move s ⟨some changed, s.past ++ [.cage event]⟩
  | ends {s : Scene} {child : Child} (hcage : s.cage = some child) :
      Move s ⟨some { child with ended := true }, s.past⟩

/-- Any number of moves. -/
def Moves : Scene → Scene → Prop := Relation.ReflTransGen Move

/-! ## The loader among them -/

/-- What an answer of the loader's operating system says of the cage, whose process number is given,
    and does to it.  Only the end of a child can be told that has ended. -/
def Replies (pid : Pid) (s : Scene) : (request : Request) → request.Answer → Scene → Prop
  | .kill target signal, answer, next =>
    next = if target = pid then s.sent signal answer.toBool else s
  | .wait target _, answer, next =>
    (target = pid → (Termination.told? answer).isSome → s.Over) ∧ next = s
  | _, _, next => next = s

/-- How a child comes into being: the cage first, and then others, who may get the number of the cage
    once it has ended. -/
def Begins (pid : Pid) (s : Scene) (launch : Launch) : Except IoError Pid → Scene → Prop
  | .error _, next => next = s
  | .ok started, next =>
    s.cage = none ∧ started = pid ∧ (∃ child, child.Starts launch ∧ next = ⟨some child, s.past⟩) ∨
      s.cage.isSome ∧ (started = pid → s.Over) ∧ next = s

/-- An operating system, as far as the cage of a session goes. -/
def releasing (pid : Pid) : OperatingSystem Scene where
  answers s request answer next := ∃ between, Replies pid s request answer between ∧ Moves between next
  spawns s launch _ _ answer next := ∃ between, Begins pid s launch answer between ∧ Moves between next

variable {s next : Scene}

namespace Scene

theorem over_of_not_lives {child : Child} (hcage : s.cage = some child) (h : s.lives = false) :
    child.ended = true := by
  unfold lives at h
  rw [hcage] at h
  simpa using h

theorem past_sent {signal : Signal} (h : signal ≠ .release) (taken : Bool) :
    (s.sent signal taken).past = s.past := if_neg h

/-- A signal changes the cage as it would change any child, if at all. -/
theorem cage_sent {child : Child} (hcage : s.cage = some child) (signal : Signal) (taken : Bool) :
    (s.sent signal taken).cage = some child ∨
      taken = true ∧ (s.sent signal taken).cage = some (child.reached signal) := by
  unfold sent
  cases taken with
  | false => exact .inl hcage
  | true => exact .inr ⟨rfl, by simp [hcage]⟩

theorem Over.sent (h : s.Over) (signal : Signal) (taken : Bool) : (s.sent signal taken).Over := by
  obtain ⟨child, hcage, hended⟩ := h
  rcases cage_sent hcage signal taken with hsame | ⟨-, hreached⟩
  · exact ⟨child, hsame, hended⟩
  · exact ⟨_, hreached, Child.evolves_reached.ended hended⟩

end Scene

namespace Move

variable (h : Move s next)

include h

theorem stays_over (hover : s.Over) : next.Over := by
  obtain ⟨child, hcage, hended⟩ := hover
  cases h with
  | acts hsame hlives =>
    cases hcage.symm.trans hsame
    rw [hended] at hlives
    contradiction
  | ends => exact ⟨_, rfl, rfl⟩

/-- A move adds nothing to the past but what the cage has done. -/
theorem grows : ∃ more, next.past = s.past ++ more ∧ releasesIn more = [] := by
  cases h with
  | acts => exact ⟨_, rfl, rfl⟩
  | ends => exact ⟨[], (List.append_nil _).symm, rfl⟩

end Move

theorem After.launch {event : Interposition.Event} {child changed : Child}
    (h : After event child changed) : changed.launch = child.launch := by
  unfold After at h
  split at h
  · rw [h]
    rfl
  · split at h
    · rw [h.2]
      rfl
    · rw [h]
  · exact h
  · exact h
  · exact h
  · rw [h]

/-- A held deed keeps no signal for the cage. -/
theorem After.kept {event : Interposition.Event} {child changed : Child}
    (h : After event child changed) (hheld : event.deed.IsHeld) {signal : Signal}
    (hkept : changed.kept signal = true) : child.kept signal = true := by
  unfold After at h
  split at h
  · rw [h] at hkept
    exact Child.kept_dispose hkept
  · exact hheld.elim
  · exact hheld.elim
  · exact hheld.elim
  · exact hheld.elim
  · rwa [h] at hkept

/-! ## Before the release -/

/-- The cage is there, and what it has done it has done by its program, which is gated. -/
def Staged (s : Scene) : Prop := ∃ child rest, s.cage = some child ∧
  Gated (Programs.cage child.launch.args) ∧
    (Programs.cage child.launch.args).Follows (doneIn s.past) rest

/-- So many releases have been sent, and none of them is kept for the cage; its gate has not opened. -/
structure Shut (releases : List Bool) (s : Scene) : Prop where
  staged : Staged s
  kept : ∀ child, s.cage = some child → child.kept .release = false
  closed : ¬Opened (doneIn s.past)
  releases : releasesIn s.past = releases

theorem Staged.isSome_cage (h : Staged s) : s.cage.isSome := by
  obtain ⟨child, -, hcage, -⟩ := h
  rw [hcage]
  rfl

theorem Staged.move (hmove : Move s next) (h : Staged s) : Staged next := by
  obtain ⟨child, rest, hcage, hgated, htrace⟩ := h
  cases hmove with
  | ends hsame =>
    cases hcage.symm.trans hsame
    exact ⟨_, rest, rfl, hgated, htrace⟩
  | @acts _ changed _ _ rest' hsame _ hfollows hdoes hafter =>
    cases hcage.symm.trans hsame
    refine ⟨changed, rest', rfl, ?_, ?_⟩
    · rwa [hafter.launch]
    · rw [hafter.launch, doneIn_append]
      exact hfollows.does hdoes

theorem Staged.sent (h : Staged s) (signal : Signal) (taken : Bool) : Staged (s.sent signal taken) := by
  obtain ⟨child, rest, hcage, hgated, htrace⟩ := h
  have hdone : doneIn (s.sent signal taken).past = doneIn s.past := by
    unfold Scene.sent
    dsimp only
    split
    · rw [doneIn_append]
      exact List.append_nil _
    · rfl
  have hlaunch : (child.reached signal).launch = child.launch := Child.evolves_reached.launch
  unfold Staged
  rw [hdone]
  rcases Scene.cage_sent hcage signal taken with hsame | ⟨-, hreached⟩
  · exact ⟨child, rest, hsame, hgated, htrace⟩
  · exact ⟨_, rest, hreached, by rwa [hlaunch], by rwa [hlaunch]⟩

/-- **While the gate has not opened**, a move is no wait at the gate, or it is the first one. -/
theorem Staged.acts (h : Staged s) (hclosed : ¬Opened (doneIn s.past)) {child : Child}
    {event : Interposition.Event} {rest rest' : Program Int32} (hcage : s.cage = some child)
    (htrace : (Programs.cage child.launch.args).Follows (doneIn s.past) rest)
    (hdoes : rest.Does event rest') : event.deed.IsHeld ∨ ¬TurnedAway (doneIn s.past) ∧
      ∃ limit found, event = .asked (.awaitSignal .release limit) found := by
  obtain ⟨_, _, hsame, hgated, -⟩ := h
  cases hcage.symm.trans hsame
  exact (hgated.stage htrace).does_held_or_waits hclosed hdoes

theorem doneIn_snoc (past : List Moment) (event : Interposition.Event) :
    doneIn (past ++ [.cage event]) = doneIn past ++ [event] := doneIn_append past _

/-- **Nothing opens** the gate while no release is kept. -/
theorem Shut.move {releases : List Bool} (hmove : Move s next) (h : Shut releases s) :
    Shut releases next := by
  have hreleases : releasesIn next.past = releases := by
    obtain ⟨more, hpast, hmore⟩ := hmove.grows
    rw [hpast, releasesIn_append, hmore, List.append_nil, h.releases]
  refine ⟨h.staged.move hmove, ?_, ?_, hreleases⟩
  · rintro _ hchanged
    cases hmove with
    | ends hcage =>
      cases hchanged
      have hbefore := h.kept _ hcage
      exact hbefore
    | @acts child _ _ _ _ hcage _ htrace hdoes hafter =>
      cases hchanged
      refine Bool.eq_false_iff.mpr fun hkept => ?_
      have hbefore := h.kept _ hcage
      rcases h.staged.acts h.closed hcage htrace hdoes with hheld | ⟨-, limit, found, rfl⟩
      · rw [hafter.kept hheld hkept] at hbefore
        contradiction
      · cases found with
        | false =>
          have hsame : _ = child := hafter
          rw [hsame, hbefore] at hkept
          contradiction
        | true =>
          rw [hafter.1] at hbefore
          contradiction
  · cases hmove with
    | ends => exact h.closed
    | acts hcage _ htrace hdoes hafter =>
      rw [doneIn_snoc, Gate.opened_append_singleton]
      rintro (hopened | hgate)
      · exact h.closed hopened
      · rcases h.staged.acts h.closed hcage htrace hdoes with hheld | ⟨-, limit, found, rfl⟩
        · rw [Event.gate?_of_held hheld] at hgate
          contradiction
        · cases Option.some.inj hgate
          have hbefore := h.kept _ hcage
          rw [hafter.1] at hbefore
          contradiction

/-- **Who was turned away** is not let in behind that. -/
theorem Staged.closed_move (hmove : Move s next) (h : Staged s) (haway : TurnedAway (doneIn s.past))
    (hclosed : ¬Opened (doneIn s.past)) : ¬Opened (doneIn next.past) := by
  cases hmove with
  | ends => exact hclosed
  | acts hcage _ htrace hdoes =>
    rw [doneIn_snoc, Gate.opened_append_singleton]
    rintro (hopened | hgate)
    · exact hclosed hopened
    · rcases h.acts hclosed hcage htrace hdoes with hheld | ⟨hwaits, -⟩
      · rw [Event.gate?_of_held hheld] at hgate
        contradiction
      · exact hwaits haway

theorem Shut.sent {releases : List Bool} {signal : Signal} (hsignal : signal ≠ .release)
    (h : Shut releases s) (taken : Bool) : Shut releases (s.sent signal taken) := by
  have hpast := s.past_sent hsignal taken
  refine ⟨h.staged.sent signal taken, ?_, by rw [hpast]; exact h.closed, by rw [hpast, h.releases]⟩
  intro changed hchanged
  obtain ⟨child, -, hcage, -⟩ := h.staged
  refine Bool.eq_false_iff.mpr fun hkept => ?_
  have hbefore := h.kept _ hcage
  rcases Scene.cage_sent hcage signal taken with hsame | ⟨-, hreached⟩
  · cases hchanged.symm.trans hsame
    rw [hkept] at hbefore
    contradiction
  · cases hchanged.symm.trans hreached
    rcases Child.kept_reached hkept with hkept | heq
    · rw [hkept] at hbefore
      contradiction
    · exact hsignal heq.symm

/-! ## What the release comes to -/

/-- **What has come of the release**, if no other is sent. -/
inductive Came (s : Scene) : Prop where
  | unsent (shut : Shut [] s) (ended : s.Over)
  | missed (shut : Shut [false] s)
  | reached {before after : List Moment} (staged : Staged s)
      (past : s.past = before ++ .released true :: after) (once : releasesIn s.past = [true])
      (closed : ¬Opened (doneIn before))
      (late : TurnedAway (doneIn before) → ¬Opened (doneIn s.past))

namespace Came

theorem staged (h : Came s) : Staged s := by
  cases h with
  | unsent shut => exact shut.staged
  | missed shut => exact shut.staged
  | reached staged => exact staged

theorem move (hmove : Move s next) (h : Came s) : Came next := by
  cases h with
  | unsent shut ended => exact .unsent (shut.move hmove) (hmove.stays_over ended)
  | missed shut => exact .missed (shut.move hmove)
  | @reached before after staged past once closed late =>
    obtain ⟨more, hpast, hmore⟩ := hmove.grows
    have hlonger : next.past = before ++ .released true :: (after ++ more) := by
      rw [hpast, past, List.append_assoc, List.cons_append]
    refine .reached (staged.move hmove) hlonger ?_ closed fun haway =>
      staged.closed_move hmove ?_ (late haway)
    · rw [hpast, releasesIn_append, hmore, once, List.append_nil]
    · rw [past, doneIn_append]
      exact haway.append _

theorem sent {signal : Signal} (hsignal : signal ≠ .release) (h : Came s) (taken : Bool) :
    Came (s.sent signal taken) := by
  cases h with
  | unsent shut ended => exact .unsent (shut.sent hsignal taken) (ended.sent signal taken)
  | missed shut => exact .missed (shut.sent hsignal taken)
  | reached staged past once closed late =>
    have hpast := s.past_sent hsignal taken
    exact .reached (staged.sent signal taken) (hpast.trans past) (by rw [hpast, once]) closed
      fun haway => by rw [hpast]; exact late haway

end Came

/-- **The release**, sent while the gate is shut. -/
theorem Shut.came (h : Shut [] s) (taken : Bool) : Came (s.sent .release taken) := by
  have hpast : (s.sent .release taken).past = s.past ++ [.released (taken && s.lives)] := by
    simp [Scene.sent]
  have hdone : doneIn (s.sent .release taken).past = doneIn s.past := by
    rw [hpast, doneIn_append]
    exact List.append_nil _
  have hreleases : releasesIn (s.sent .release taken).past = [taken && s.lives] := by
    rw [hpast, releasesIn_append, h.releases]
    rfl
  have hstaged := h.staged.sent .release taken
  cases hreached : taken && s.lives with
  | true =>
    rw [hreached] at hpast hreleases
    refine .reached hstaged hpast hreleases h.closed fun _ => ?_
    rw [hdone]
    exact h.closed
  | false =>
    rw [hreached] at hreleases
    refine .missed ⟨hstaged, ?_, by rw [hdone]; exact h.closed, hreleases⟩
    intro changed hchanged
    obtain ⟨child, -, hcage, -⟩ := h.staged
    rcases Scene.cage_sent hcage .release taken with hsame | ⟨rfl, htaken⟩
    · cases hchanged.symm.trans hsame
      exact h.kept _ hcage
    · -- the cage had ended
      have hended := Scene.over_of_not_lives hcage hreached
      have hself : child.reached .release = child := if_pos hended
      rw [hself] at htaken
      cases hchanged.symm.trans htaken
      exact h.kept _ hcage

end Interposition.Session
