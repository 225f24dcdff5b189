/-
  A process with a world of its own.

  What a process knows of its own doings nobody else changes.  A contract about them relies on
  everything staying as it is (`Contract.alone`), and what it says is an invariant of every point
  the process can come to (`Meets.reaches`), and its postcondition if that point is the end.  A
  program that is confined to a kind of deeds meets whatever these keep (`Confined.meets`).
-/
import Interposition.Process.Executor
import Interposition.Proofs.Host.Confinement

namespace Interposition

variable {World : Type} {os : OperatingSystem World} {α β : Type}

/-- Nobody else touches the world, and the process keeps an invariant. -/
def Contract.alone (invariant : World → Prop) : Contract World where
  invariant := invariant
  rely := Eq
  guarantee _ _ _ := True
  rely_trans := Eq.trans

theorem Contract.stable_alone (invariant assertion : World → Prop) :
    (alone invariant).Stable assertion := by
  rintro world _ h rfl -
  exact h

namespace Program

variable {invariant : World → Prop} {world : World}

/-! ## How far a process comes -/

/-- A program comes to a point in some steps. -/
inductive Reaches (os : OperatingSystem World) :
    Program α → World → Program α → World → Prop where
  | here {program : Program α} {world : World} : Reaches os program world program world
  | step {program middle rest : Program α} {world between final : World} {deed : Deed}
      (h : Step os program world deed middle between) (later : Reaches os middle between rest final) :
      Reaches os program world rest final

/-- **Every point** a process comes to keeps what its contract says. -/
theorem Meets.reaches {program rest : Program α} {post : α → World → Prop} {final : World}
    (h : program.Meets os (.alone invariant) post world) (hinv : invariant world)
    (hreach : Reaches os program world rest final) :
    invariant final ∧ rest.Meets os (.alone invariant) post final := by
  induction hreach with
  | here => exact ⟨hinv, h⟩
  | step hstep _ ih =>
    obtain ⟨⟨-, rfl⟩ | ⟨hnext, -⟩, hrest⟩ := h.step rfl hinv hstep
    · exact ih hrest hinv
    · exact ih hrest hnext

/-- A contract met among others is met alone, if the others need not do anything. -/
theorem Meets.alone {contract : Contract World} (hturn : ∀ world, contract.rely world world)
    {program : Program α} {post : α → World → Prop} (h : program.Meets os contract post world) :
    program.Meets os (.alone contract.invariant) post world := by
  induction program generalizing world with
  | pure a => exact h
  | ask request next ih =>
    rintro _ rfl hinv answer between hanswer
    obtain ⟨⟨hbetween, -⟩, hrest⟩ := h world (hturn world) hinv answer between hanswer
    exact ⟨⟨hbetween, trivial⟩, ih answer hrest⟩
  | spawn launch hooked setup next _ ih =>
    rintro _ rfl hinv answer between hanswer
    obtain ⟨⟨hbetween, -⟩, hrest⟩ := h world (hturn world) hinv answer between hanswer
    exact ⟨⟨hbetween, trivial⟩, ih answer hrest⟩
  | loop state body next ihbody ih =>
    obtain ⟨holds, -, hstart, hround⟩ := h
    refine ⟨holds, fun state => Contract.stable_alone contract.invariant (holds state), hstart,
      fun state world hinv hholds => ?_⟩
    refine (ihbody state (hround state world hinv hholds)).mono fun outcome between houtcome => ?_
    cases outcome with
    | inl state => exact houtcome
    | inr result => exact ih result houtcome

/-- **The end** of a process. -/
theorem Meets.ends {program : Program α} {post : α → World → Prop} {a : α} {final : World}
    (h : program.Meets os (.alone invariant) post world) (hinv : invariant world)
    (hreach : Reaches os program world (.pure a) final) : post a final :=
  (h.reaches hinv hreach).2

/-- One program after another. -/
theorem Reaches.bind {program : Program α} {next : α → Program β} {rest : Program β} {a : α}
    {between final : World} (h : Reaches os program world (.pure a) between)
    (hnext : Reaches os (next a) between rest final) :
    Reaches os (program.bind next) world rest final := by
  generalize hend : Program.pure a = last at h
  induction h with
  | here => exact hend ▸ hnext
  | step hstep _ ih =>
    have hlater := ih hnext hend
    cases hstep with
    | ask hanswer => exact .step (.ask hanswer) hlater
    | spawn hanswer => exact .step (.spawn hanswer) hlater
    | @round _ _ _ body after =>
      have hrest : (fun outcome => (loopRest body after outcome).bind next) =
          loopRest body fun result => (after result).bind next := by
        funext outcome
        cases outcome <;> rfl
      rw [bind_assoc', hrest] at hlater
      exact .step .round hlater

/-- **A run** reaches its end. -/
theorem Runs.reaches {program : Program α} {a : α} {final : World}
    (h : program.Runs os world a final) : Reaches os program world (.pure a) final := by
  induction program generalizing world final with
  | pure value =>
    obtain ⟨rfl, rfl⟩ := h
    exact .here
  | ask request next ih =>
    obtain ⟨answer, between, hanswer, hrest⟩ := h
    exact .step (.ask hanswer) (ih answer hrest)
  | spawn launch hooked setup next _ ih =>
    obtain ⟨answer, between, hanswer, hrest⟩ := h
    exact .step (.spawn hanswer) (ih answer hrest)
  | loop state body next ihbody ih =>
    obtain ⟨result, between, hloop, hrest⟩ := h
    have hafter := ih result hrest
    clear hrest
    induction hloop with
    | stop h => exact .step .round (Reaches.bind (ihbody _ h) hafter)
    | again h _ ihloop => exact .step .round (Reaches.bind (ihbody _ h) (ihloop hafter))

/-! ## Rules -/

/-- One request, and what is made of its answer. -/
theorem meets_request_bind {r : Request} {next : r.Answer → Program β} {post : β → World → Prop}
    (h : invariant world → ∀ answer between, os.answers world r answer between →
      invariant between ∧ (next answer).Meets os (.alone invariant) post between) :
    (request r >>= next).Meets os (.alone invariant) post world := by
  rintro _ rfl hinv answer between hanswer
  obtain ⟨hbetween, hrest⟩ := h hinv answer between hanswer
  exact ⟨⟨hbetween, trivial⟩, hrest⟩

/-- A loop, by what each round keeps. -/
theorem meets_rounds {σ : Type} {state : σ} {body : σ → Program (σ ⊕ β)}
    {post : β → World → Prop} (holds : σ → World → Prop) (hstart : holds state world)
    (hround : ∀ state world, invariant world → holds state world →
      (body state).Meets os (.alone invariant) (fun outcome between =>
        match outcome with
        | .inl state => holds state between
        | .inr result => post result between) world) :
    (iterate state body).Meets os (.alone invariant) post world :=
  meets_iterate holds (fun state => Contract.stable_alone invariant (holds state)) hstart hround

/-- Something holds in a round of a loop, and what the loop comes to from there it comes to from its
    start. -/
def Onward {σ : Type} (body : σ → World → σ ⊕ β → World → Prop) (holds : World → Prop) (start : σ)
    (first : World) (state : σ) (now : World) : Prop :=
  holds now ∧ ∀ result final, Iterates body state now result final →
    Iterates body start first result final

/-- **A confined program** keeps the invariant at every point, if what its kind of deeds keeps is
    enough for it, and what is known of its runs is known at its end. -/
theorem Confined.meets {allowed : Deed → Prop} {holds : World → Prop} (hos : os.Keeps allowed holds)
    (hinv : ∀ world, holds world → invariant world) {program : Program α}
    (hconfined : program.Confined allowed) (hworld : holds world) {post : α → World → Prop}
    (hpost : ∀ a final, program.Runs os world a final → holds final → post a final) :
    program.Meets os (.alone invariant) post world := by
  induction program generalizing world with
  | pure a => exact hpost a world ⟨rfl, rfl⟩ hworld
  | ask request next ih =>
    rintro _ rfl - answer between hanswer
    have hbetween := hos.answers hworld hconfined.1 hanswer
    exact ⟨⟨hinv between hbetween, trivial⟩, ih answer (hconfined.2 answer) hbetween
      fun a final hrun => hpost a final ⟨answer, between, hanswer, hrun⟩⟩
  | spawn launch hooked setup next _ ih =>
    rintro _ rfl - answer between hanswer
    have hbetween := hos.spawns hworld hconfined.1 hanswer
    exact ⟨⟨hinv between hbetween, trivial⟩, ih answer (hconfined.2 answer) hbetween
      fun a final hrun => hpost a final ⟨answer, between, hanswer, hrun⟩⟩
  | loop state body next ihbody ih =>
    let onward := Onward (fun state => (body state).Runs os) holds state world
    refine ⟨onward, fun later => Contract.stable_alone invariant (onward later),
      ⟨hworld, fun _ _ h => h⟩, ?_⟩
    rintro later now - ⟨hnow, hleads⟩
    refine ihbody later (hconfined.1 later) hnow fun outcome between hround hbetween => ?_
    cases outcome with
    | inl last => exact ⟨hbetween, fun result final h => hleads result final (.again hround h)⟩
    | inr result =>
      exact ih result (hconfined.2 result) hbetween fun a final hrun =>
        hpost a final ⟨result, between, hleads result between (.stop hround), hrun⟩

end Program

namespace Supervised

variable {invariant : World → Prop} {world : World} {e : Executor}

/-- A program that fails as the journal does. -/
theorem meets_ofJournal {contract : Contract World} {program : Program (Except JournalError α)}
    {post : Except ProcessError α × Executor → World → Prop}
    (h : program.Meets os contract (fun answer => post (answer.mapError .journal, e)) world) :
    (ofJournal program e).Meets os contract post world := by
  refine Program.Meets.bind h ?_
  rintro (_ | _) now hnow <;> exact hnow

/-- A program that fails as waits do. -/
theorem meets_ofGate {contract : Contract World} {program : Program (Except GateError α)}
    {post : Except ProcessError α × Executor → World → Prop}
    (h : program.Meets os contract (fun answer => post (answer.mapError .gate, e)) world) :
    (ofGate program e).Meets os contract post world := by
  refine Program.Meets.bind h ?_
  rintro (_ | _) now hnow <;> exact hnow

/-- **Sequencing**: the first program fails, or it succeeds and the second goes on. -/
theorem meets_bind {contract : Contract World} {program : Supervised α} {next : α → Supervised β}
    {post : Except ProcessError β × Executor → World → Prop}
    (h : (program e).Meets os contract (fun outcome now =>
      match outcome.1 with
      | .ok a => (next a outcome.2).Meets os contract post now
      | .error cause => post (.error cause, outcome.2) now) world) :
    ((program >>= next) e).Meets os contract post world := by
  refine Program.Meets.bind h ?_
  rintro ⟨_ | a, after⟩ now hnow
  · exact hnow
  · exact hnow

/-- The records, and what is made of them. -/
theorem meets_get {contract : Contract World} {next : Executor → Supervised β}
    {post : Except ProcessError β × Executor → World → Prop}
    (h : (next e e).Meets os contract post world) :
    (((get : Supervised Executor) >>= next) e).Meets os contract post world := h

end Supervised

end Interposition
