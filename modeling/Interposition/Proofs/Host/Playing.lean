/-
  Running a program by evaluation.

  An operating system that leaves no choice is a function (`Respondent`), and a run of a program
  under it can be computed, with so many rounds for each loop at most (`play`, `runs_of_play`).  It
  is then a run under every operating system that may do more, and that there is a run of some kind
  can be shown by evaluating one.  There is no other run (`Runs.unique`), so that what one run comes
  to is what the program returns (`Returns`).  Where a program is not alone, it goes on step by step
  (`forward`).
-/
import Interposition.Proofs.Host.Contract

namespace Interposition

/-- An operating system that leaves no choice; a request without an answer is never answered. -/
structure Respondent (World : Type) where
  answer : World → (request : Request) → Option (request.Answer × World)
  start : World → Launch → Bool → Program (Option Errno) → Option (Except IoError Pid × World)

/-- A respondent as an operating system. -/
def Respondent.system {World : Type} (respondent : Respondent World) : OperatingSystem World where
  answers world request answer next := respondent.answer world request = some (answer, next)
  spawns world launch hooked setup answer next :=
    respondent.start world launch hooked setup = some (answer, next)

namespace Program

variable {World σ β α : Type} {respondent : Respondent World} {rounds : Nat}

/-- A body, repeated for so many rounds at most. -/
def repeated (body : σ → World → Option ((σ ⊕ β) × World)) : Nat → σ → World → Option (β × World)
  | 0, _, _ => none
  | rounds + 1, state, world =>
    match body state world with
    | none => none
    | some (.inl state, world) => repeated body rounds state world
    | some (.inr result, world) => some (result, world)

/-- What a program comes to, with so many rounds for each loop at most. -/
def play (respondent : Respondent World) (rounds : Nat) :
    {α : Type} → Program α → World → Option (α × World)
  | _, .pure a, world => some (a, world)
  | _, .ask request next, world =>
    match respondent.answer world request with
    | none => none
    | some (answer, world) => play respondent rounds (next answer) world
  | _, .loop state body next, world =>
    match repeated (fun state => play respondent rounds (body state)) rounds state world with
    | none => none
    | some (result, world) => play respondent rounds (next result) world
  | _, .spawn launch hooked setup next, world =>
    match respondent.start world launch hooked setup with
    | none => none
    | some (answer, world) => play respondent rounds (next answer) world

theorem iterates_of_repeated {body : σ → World → Option ((σ ⊕ β) × World)} {limit : Nat}
    {runs : σ → World → σ ⊕ β → World → Prop}
    (hbody : ∀ state world outcome next, body state world = some (outcome, next) →
      runs state world outcome next) {state : σ} {world final : World} {result : β}
    (h : repeated body limit state world = some (result, final)) :
    Iterates runs state world result final := by
  induction limit generalizing state world with
  | zero => cases h
  | succ limit ih =>
    unfold repeated at h
    split at h
    · cases h
    · next hround => exact .again (hbody _ _ _ _ hround) (ih h)
    · next hround =>
      cases h
      exact .stop (hbody _ _ _ _ hround)

/-- **What is computed is a run.** -/
theorem runs_of_play {program : Program α} {a : α} {world final : World}
    (h : program.play respondent rounds world = some (a, final)) :
    program.Runs respondent.system world a final := by
  induction program generalizing world final with
  | pure value =>
    cases h
    exact ⟨rfl, rfl⟩
  | ask request next ih =>
    unfold play at h
    split at h
    · cases h
    · next answer between hanswer => exact ⟨answer, between, hanswer, ih answer h⟩
  | loop state body next ihbody ih =>
    unfold play at h
    split at h
    · cases h
    · next result between hloop =>
      exact ⟨result, between, iterates_of_repeated (fun state _ _ _ => ihbody state) hloop,
        ih result h⟩
  | spawn launch hooked setup next _ ih =>
    unfold play at h
    split at h
    · cases h
    · next answer between hanswer => exact ⟨answer, between, hanswer, ih answer h⟩

/-! ## One step -/

/-- The next step of a program, if it is answered. -/
def forward (respondent : Respondent World) :
    {α : Type} → Program α → World → Option (Deed × Program α × World)
  | _, .pure _, _ => none
  | _, .ask request next, world =>
    (respondent.answer world request).map fun (answer, between) =>
      (.asks request, next answer, between)
  | _, .loop state body next, world => some (.goesOn, (body state).bind (loopRest body next), world)
  | _, .spawn launch hooked setup next, world =>
    (respondent.start world launch hooked setup).map fun (answer, between) =>
      (.starts launch, next answer, between)

/-- **A step that is computed** is a step under every operating system that may do as much in this
    world. -/
theorem step_of_forward {os : OperatingSystem World} {program rest : Program α} {deed : Deed}
    {world between : World}
    (hanswers : ∀ {r answer next}, respondent.answer world r = some (answer, next) →
      os.answers world r answer next)
    (hspawns : ∀ {launch hooked setup answer next},
      respondent.start world launch hooked setup = some (answer, next) →
        os.spawns world launch hooked setup answer next)
    (h : program.forward respondent world = some (deed, rest, between)) :
    Step os program world deed rest between := by
  cases program with
  | pure => cases h
  | ask request next =>
    obtain ⟨⟨answer, after⟩, hanswer, heq⟩ := Option.map_eq_some_iff.mp h
    cases heq
    exact .ask (hanswers hanswer)
  | loop state body next =>
    cases h
    exact .round
  | spawn launch hooked setup next =>
    obtain ⟨⟨answer, after⟩, hanswer, heq⟩ := Option.map_eq_some_iff.mp h
    cases heq
    exact .spawn (hspawns hanswer)

/-! ## No choice -/

theorem Iterates.unique {runs : σ → World → σ ⊕ β → World → Prop}
    (hbody : ∀ state world outcome next outcome' next', runs state world outcome next →
      runs state world outcome' next' → outcome' = outcome ∧ next' = next)
    {state : σ} {world final final' : World} {result result' : β}
    (h : Iterates runs state world result final) (h' : Iterates runs state world result' final') :
    result' = result ∧ final' = final := by
  induction h with
  | stop hround =>
    cases h' with
    | stop hround' =>
      obtain ⟨heq, rfl⟩ := hbody _ _ _ _ _ _ hround hround'
      exact ⟨Sum.inr.inj heq, rfl⟩
    | again hround' => cases (hbody _ _ _ _ _ _ hround hround').1
  | again hround _ ih =>
    cases h' with
    | stop hround' => cases (hbody _ _ _ _ _ _ hround hround').1
    | again hround' hrest' =>
      obtain ⟨heq, rfl⟩ := hbody _ _ _ _ _ _ hround hround'
      cases heq
      exact ih hrest'

/-- **No two runs** of a program differ where there is no choice. -/
theorem Runs.unique {program : Program α} {a a' : α} {world final final' : World}
    (h : program.Runs respondent.system world a final)
    (h' : program.Runs respondent.system world a' final') : a' = a ∧ final' = final := by
  induction program generalizing world final final' with
  | pure value =>
    obtain ⟨rfl, rfl⟩ := h
    exact h'
  | ask request next ih =>
    obtain ⟨answer, between, hanswer, hrest⟩ := h
    obtain ⟨answer', between', hanswer', hrest'⟩ := h'
    cases Option.some.inj (hanswer.symm.trans hanswer')
    exact ih answer hrest hrest'
  | spawn launch hooked setup next _ ih =>
    obtain ⟨answer, between, hanswer, hrest⟩ := h
    obtain ⟨answer', between', hanswer', hrest'⟩ := h'
    cases Option.some.inj (hanswer.symm.trans hanswer')
    exact ih answer hrest hrest'
  | loop state body next ihbody ih =>
    obtain ⟨result, between, hloop, hrest⟩ := h
    obtain ⟨result', between', hloop', hrest'⟩ := h'
    obtain ⟨rfl, rfl⟩ := Iterates.unique (fun state world outcome next outcome' next'
      (hround : (body state).Runs _ world outcome next) hround' => ihbody state hround hround')
      hloop hloop'
    exact ih _ hrest hrest'

/-- A program comes to a value, and can come to no other. -/
def Returns (os : OperatingSystem World) (program : Program α) (world : World) (value : α) : Prop :=
  (∃ final, program.Runs os world value final) ∧
    ∀ other final, program.Runs os world other final → other = value

theorem Runs.returns {program : Program α} {a : α} {world final : World}
    (h : program.Runs respondent.system world a final) :
    program.Returns respondent.system world a :=
  ⟨⟨final, h⟩, fun _ _ h' => (h.unique h').1⟩

end Program

end Interposition
