/-
  The gate of a cage.

  A gated cage waits for its release once.  Until then it makes no call and leaves signals and other
  processes alone, and when the wait comes to nothing it goes on to its end in the same manner.  So
  whatever else a cage has done, it has done behind a gate that opened.

  1. **Traces** (`Program.Follows`): what a program has asked and been answered so far, and what it
     has still to do.

  2. **Gated programs** (`Gated`): the wait for the release is somewhere ahead at most, and only deeds
     of the one kind come before it, or behind a wait that came to nothing.

  3. **Stages** (`Stage`, `Gated.stage`): a trace of such a program has not come to the gate, or was
     turned away there, or has passed it.  The proof is by induction on the trace; what is left of
     the program carries it.  Who was turned away does not come to the gate again
     (`Stage.does_held_or_waits`).

  4. **The demonstration cage** (`gated_cage`) is gated, whatever its settings and its answers are.
-/
import Interposition.Proofs.Process.History
import Interposition.Programs

namespace Interposition

open CommandLine (CageArguments Settings)

/-- A deed of a cage that has not been released: no step of a call, which begins with a choice, no
    start, and nothing that has to do with signals but deciding what to do about them. -/
def Deed.IsHeld : Deed → Prop
  | asks (.choose _) | asks (.kill _ _) | asks (.wait _ _) | asks (.becomeImage _)
  | asks .takeSignal | asks (.awaitSignal _ _) | starts _ => False
  | _ => True

namespace Event

/-- The deed of an event. -/
def deed : Event → Deed
  | asked request _ => .asks request
  | started launch _ => .starts launch

/-- Whether the gate opened, when the event is the wait for it. -/
def gate? : Event → Option Bool
  | asked (.awaitSignal .release _) found => some found
  | _ => none

theorem gate?_of_held {event : Event} (h : event.deed.IsHeld) : event.gate? = none := by
  cases event with
  | asked request answer => cases request <;> first | rfl | exact h.elim
  | started launch answer => rfl

end Event

/-! ## Traces -/

namespace Program

variable {α β : Type} {allowed : Deed → Prop} {program rest rest' : Program α} {event : Event}
  {history : List Event}

/-- A program goes on by one event. -/
inductive Does : Program α → Event → Program α → Prop where
  | asked {request : Request} {next : request.Answer → Program α} (answer : request.Answer) :
      Does (.ask request next) (.asked request answer) (next answer)
  | started {launch : Launch} {hooked : Bool} {setup : Program (Option Errno)}
      {next : Except IoError Pid → Program α} (answer : Except IoError Pid) :
      Does (.spawn launch hooked setup next) (.started launch answer) (next answer)

/-- **A trace**: the events of a program so far, and what it has still to do. -/
inductive Follows (program : Program α) : List Event → Program α → Prop where
  | nothing : Follows program [] program
  | does {history : List Event} {event : Event} {rest rest' : Program α}
      (earlier : Follows program history rest) (h : Does rest event rest') :
      Follows program (history ++ [event]) rest'
  | round {history : List Event} {σ β : Type} {state : σ} {body : σ → Program (σ ⊕ β)}
      {next : β → Program α} (earlier : Follows program history (.loop state body next)) :
      Follows program history ((body state).bind (loopRest body next))

/-- A confined program does what it may, and is still confined. -/
theorem Confined.does (h : rest.Confined allowed) (hdoes : Does rest event rest') :
    allowed event.deed ∧ rest'.Confined allowed := by
  cases hdoes with
  | asked answer => exact ⟨h.1, h.2 answer⟩
  | started answer => exact ⟨h.1, h.2 answer⟩

/-- So it is in the next round of a loop. -/
theorem Confined.round {σ : Type} {state : σ} {body : σ → Program (σ ⊕ β)} {next : β → Program α}
    (h : (Program.loop state body next).Confined allowed) :
    ((body state).bind (loopRest body next)).Confined allowed :=
  Confined.bind (h.1 state) fun outcome => by
    cases outcome with
    | inl state => exact h
    | inr result => exact h.2 result

end Program

namespace Gate

open Program (Follows Does loopRest)

variable {α β : Type} {program rest rest' : Program α} {event last : Event} {history : List Event}

/-! ## Gated programs -/

/-- The wait for the release is ahead, if it comes at all. -/
inductive Gated : Program α → Prop where
  | held {program : Program α} (h : program.Confined Deed.IsHeld) : Gated program
  | gate {limit : Option Nat} {next : Bool → Program α} (h : (next false).Confined Deed.IsHeld) :
      Gated (.ask (.awaitSignal .release limit) next)
  | ask {request : Request} {next : request.Answer → Program α} (h : Deed.IsHeld (.asks request))
      (hnext : ∀ answer, Gated (next answer)) : Gated (.ask request next)
  | loop {σ β : Type} {state : σ} {body : σ → Program (σ ⊕ β)} {next : β → Program α}
      (hbody : ∀ state, (body state).Confined Deed.IsHeld) (hnext : ∀ result, Gated (next result)) :
      Gated (.loop state body next)

/-- The gate may come behind anything that is held. -/
theorem Gated.bind {program : Program α} {next : α → Program β}
    (h : program.Confined Deed.IsHeld) (hnext : ∀ a, Gated (next a)) : Gated (program >>= next) := by
  show Gated (program.bind next)
  induction program with
  | pure a => exact hnext a
  | ask request rest ih => exact .ask h.1 fun answer => ih answer (h.2 answer) hnext
  | loop state body rest _ ih => exact .loop h.1 fun result => ih result (h.2 result) hnext
  | spawn launch => exact h.1.elim

/-! ## Stages -/

/-- The gate opened. -/
def Opened (history : List Event) : Prop := ∃ event ∈ history, event.gate? = some true

/-- The wait at the gate came to nothing. -/
def TurnedAway (history : List Event) : Prop := ∃ event ∈ history, event.gate? = some false

/-- **How far a gated program has come**, and what it has still to do. -/
inductive Stage (history : List Event) (rest : Program α) : Prop where
  | waiting (held : ∀ event ∈ history, event.deed.IsHeld) (gated : Gated rest)
  | turnedAway {before after : List Event} {event : Event} (h : history = before ++ event :: after)
      (gate : event.gate? = some false) (held : ∀ event ∈ before ++ after, event.deed.IsHeld)
      (confined : rest.Confined Deed.IsHeld)
  | passed (h : Opened history)

theorem held_append_singleton (h : ∀ event ∈ history, event.deed.IsHeld) (hlast : last.deed.IsHeld) :
    ∀ event ∈ history ++ [last], event.deed.IsHeld := by
  intro event hevent
  rcases List.mem_append.mp hevent with hmem | hmem
  · exact h event hmem
  · rw [List.mem_singleton.mp hmem]
    exact hlast

theorem Opened.append (h : Opened history) (more : List Event) : Opened (history ++ more) := by
  obtain ⟨event, hevent, hgate⟩ := h
  exact ⟨event, List.mem_append_left _ hevent, hgate⟩

theorem TurnedAway.append (h : TurnedAway history) (more : List Event) :
    TurnedAway (history ++ more) := by
  obtain ⟨event, hevent, hgate⟩ := h
  exact ⟨event, List.mem_append_left _ hevent, hgate⟩

theorem opened_append_singleton :
    Opened (history ++ [last]) ↔ Opened history ∨ last.gate? = some true := by
  unfold Opened
  simp only [List.mem_append, List.mem_singleton, or_and_right, exists_or, exists_eq_left]

namespace Stage

theorem does (h : Stage history rest) (hdoes : Does rest last rest') :
    Stage (history ++ [last]) rest' := by
  cases h with
  | passed h => exact .passed (h.append _)
  | turnedAway h gate held confined =>
    obtain ⟨hlast, hrest⟩ := confined.does hdoes
    rw [h, List.append_assoc, List.cons_append]
    refine .turnedAway rfl gate ?_ hrest
    rw [← List.append_assoc]
    exact held_append_singleton held hlast
  | waiting held gated =>
    cases gated with
    | held h =>
      obtain ⟨hlast, hrest⟩ := h.does hdoes
      exact .waiting (held_append_singleton held hlast) (.held hrest)
    | ask h hnext =>
      cases hdoes with
      | asked answer => exact .waiting (held_append_singleton held h) (hnext answer)
    | gate h =>
      -- the answer at the gate decides
      cases hdoes with
      | asked found =>
        cases found with
        | false => exact .turnedAway rfl rfl (by rwa [List.append_nil]) h
        | true => exact .passed (opened_append_singleton.mpr (.inr rfl))
    | loop => cases hdoes

theorem round {σ β : Type} {state : σ} {body : σ → Program (σ ⊕ β)} {next : β → Program α}
    (h : Stage history (.loop state body next)) :
    Stage history ((body state).bind (loopRest body next)) := by
  cases h with
  | passed h => exact .passed h
  | turnedAway h gate held confined => exact .turnedAway h gate held confined.round
  | waiting held gated =>
    refine .waiting held ?_
    cases gated with
    | held h => exact .held h.round
    | loop hbody hnext =>
      refine Gated.bind (hbody state) fun outcome => ?_
      cases outcome with
      | inl state => exact .loop hbody hnext
      | inr result => exact hnext result

end Stage

/-- **A trace of a gated program** is in one of the stages. -/
theorem Gated.stage (h : Gated program) (htrace : program.Follows history rest) :
    Stage history rest := by
  induction htrace with
  | nothing => exact .waiting nofun h
  | does _ hdoes ih => exact ih.does hdoes
  | round _ ih => exact ih.round

namespace Stage

/-- **While the gate has not opened**, what comes next is held, or it is the first wait at the gate. -/
theorem does_held_or_waits (h : Stage history rest) (hclosed : ¬Opened history)
    (hdoes : Does rest last rest') :
    last.deed.IsHeld ∨ ¬TurnedAway history ∧
      ∃ limit found, last = .asked (.awaitSignal .release limit) found := by
  cases h with
  | passed h => exact absurd h hclosed
  | turnedAway _ _ _ confined => exact .inl (confined.does hdoes).1
  | waiting held gated =>
    cases gated with
    | held h => exact .inl (h.does hdoes).1
    | ask h =>
      cases hdoes with
      | asked answer => exact .inl h
    | @gate limit next h =>
      cases hdoes with
      | asked found =>
        refine .inr ⟨?_, limit, found, rfl⟩
        rintro ⟨event, hevent, hgate⟩
        rw [Event.gate?_of_held (held event hevent)] at hgate
        contradiction
    | loop => cases hdoes

/-- **Behind a gate that did not open** a program has done held deeds only, but for the wait. -/
theorem held_of_not_opened (h : Stage history rest) (hclosed : ¬Opened history) :
    ∀ event ∈ history, event.deed.IsHeld ∨ event.gate? = some false := by
  intro event hevent
  cases h with
  | passed h => exact absurd h hclosed
  | waiting held => exact .inl (held event hevent)
  | turnedAway h gate held =>
    rw [h] at hevent
    rcases List.mem_append.mp hevent with hbefore | hcons
    · exact .inl (held event (List.mem_append_left _ hbefore))
    · rcases List.mem_cons.mp hcons with rfl | hafter
      · exact .inr gate
      · exact .inl (held event (List.mem_append_right _ hafter))

end Stage

/-! ## The demonstration cage -/

variable {words : List String} {cage : CageId} {config : RuntimeConfig}

theorem confined_cageConfig (settings : Settings) :
    (Programs.cageConfig settings).Confined Deed.IsHeld := by
  refine (Program.confined_request trivial).bind fun environment => ?_
  rcases LaunchSettings.ofEnvironment CageLaunch fun name => environment.lookup name with
    cause | _ | launch
  · exact trivial
  · refine Program.Confined.bind ?_ fun configured => by cases configured <;> exact trivial
    exact ⟨trivial, fun environment => ⟨trivial, fun name => trivial⟩⟩
  · exact trivial

theorem confined_ensure (rendezvous : Rendezvous) : rendezvous.ensure.Confined Deed.IsHeld :=
  (Program.confined_makeDirectories (fun _ => trivial) (fun _ => trivial) _).bind fun made => by
    cases made <;> exact trivial

/-- Keeping the release, and saying so. -/
theorem confined_arm (rendezvous : Rendezvous) (cage : CageId) :
    (arm rendezvous cage).Confined Deed.IsHeld := by
  refine (Program.confined_request trivial).bind fun _ => ?_
  refine Program.Confined.bind ?_ fun written => ?_
  · refine (Program.confined_request trivial).bind fun created => ?_
    cases created with
    | error cause => exact trivial
    | ok file =>
      refine (Program.confined_writeAll (fun _ => trivial) _).bind fun result => ?_
      exact (Program.confined_request trivial).bind fun _ => trivial
  · cases written with
    | error cause => exact trivial
    | ok =>
      exact (Program.confined_request trivial).bind fun renamed => by cases renamed <;> exact trivial

/-- Waiting for the release, and what comes behind it. -/
theorem gated_waitForRelease {next : Except RuntimeError Unit → Program β}
    (hnext : ∀ cause, (next (.error cause)).Confined Deed.IsHeld) :
    Gated (Demo.waitForRelease cage config >>= next) := by
  unfold Demo.waitForRelease pass
  simp only [bind_assoc]
  refine Gated.bind (confined_ensure _) fun made => ?_
  cases made with
  | error cause => exact .held (hnext _)
  | ok =>
    simp only [bind_assoc]
    refine Gated.bind (confined_arm _ _) fun armed => ?_
    cases armed with
    | error cause => exact .held (hnext _)
    | ok =>
      refine .gate ?_
      exact hnext _

/-- **A cage that must wait** is gated. -/
theorem gated_cage
    (hgated : ∀ arguments, CageArguments.ofWords words = .ok arguments → arguments.isGated = true) :
    Gated (Programs.cage words) := by
  unfold Programs.cage
  cases hwords : CageArguments.ofWords words with
  | error cause => exact .held trivial
  | ok arguments =>
    refine Gated.bind (confined_cageConfig _) fun found => ?_
    cases found with
    | none => exact .held trivial
    | some config =>
      unfold Demo.runCage
      simp only [hgated arguments hwords, if_true, bind_assoc]
      refine Gated.bind (Program.confined_request trivial) fun self => ?_
      exact gated_waitForRelease fun cause => trivial

end Gate

end Interposition
