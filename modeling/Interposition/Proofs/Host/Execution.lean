/-
  Running a program.

  A program is a tree of requests, and says nothing of the answers.  Here an operating system is
  whatever answers: a relation between the world before a request, the answer, and the world after.
  It may be partial (a request that is never answered), and it may leave a choice (a write that
  takes some of its bytes, or fails).

  1. **Runs** (`Program.Runs`): the values a program can come to in a world, and the worlds it can
     leave behind, by recursion on the tree.  A loop runs its body until the body says it is done
     (`Iterates`); a loop that never gets there has no run.

  2. **Sequencing** (`runs_bind`): a run of one program after another is a run of the first and then
     a run of the second.  With it the runs of a `do` block are read off line by line.

  3. **Laws** (`LawfulMonad Program`): how a `do` block is cut into programs does not matter.

  4. **Freedom** (`Runs.within`): an operating system that may do more has all the runs of one that
     may do less.
-/
import Interposition.Host.Program

namespace Interposition

/-- What answers the requests of a program, and starts the children it asks for. -/
structure OperatingSystem (World : Type) where
  answers : World → (request : Request) → request.Answer → World → Prop
  spawns : World → Launch → Bool → Program (Option Errno) → Except IoError Pid → World → Prop

/-- Everything one operating system does, another may do as well. -/
structure OperatingSystem.Within {World : Type} (os wider : OperatingSystem World) : Prop where
  answers : ∀ {world r answer next}, os.answers world r answer next →
    wider.answers world r answer next
  spawns : ∀ {world launch hooked setup answer next},
    os.spawns world launch hooked setup answer next →
      wider.spawns world launch hooked setup answer next

namespace Program

variable {World : Type} {os : OperatingSystem World}

/-! ## Laws -/

theorem bind_pure' {α : Type} (program : Program α) : program.bind pure = program := by
  induction program with
  | pure a => rfl
  | ask request next ih => exact congrArg (ask request) (funext ih)
  | loop state body next _ ih => exact congrArg (loop state body) (funext ih)
  | spawn launch hooked setup next _ ih => exact congrArg (spawn launch hooked setup) (funext ih)

theorem bind_assoc' {α β γ : Type} (program : Program α) (f : α → Program β)
    (g : β → Program γ) : (program.bind f).bind g = program.bind fun a => (f a).bind g := by
  induction program with
  | pure a => rfl
  | ask request next ih => exact congrArg (ask request) (funext fun answer => ih answer f)
  | loop state body next _ ih => exact congrArg (loop state body) (funext fun result => ih result f)
  | spawn launch hooked setup next _ ih =>
    exact congrArg (spawn launch hooked setup) (funext fun answer => ih answer f)

instance : LawfulMonad Program :=
  LawfulMonad.mk' Program bind_pure' (fun _ _ => rfl) bind_assoc'

/-! ## Runs -/

/-- A body, repeated from a state until it comes to a result. -/
inductive Iterates {σ β : Type} (body : σ → World → σ ⊕ β → World → Prop) :
    σ → World → β → World → Prop where
  | stop {state : σ} {result : β} {world final : World} (h : body state world (.inr result) final) :
      Iterates body state world result final
  | again {state state' : σ} {result : β} {world between final : World}
      (h : body state world (.inl state') between)
      (rest : Iterates body state' between result final) :
      Iterates body state world result final

/-- A program, started in one world, comes to a value and leaves another world. -/
def Runs (os : OperatingSystem World) : {α : Type} → Program α → World → α → World → Prop
  | _, .pure a, world, value, final => value = a ∧ final = world
  | _, .ask request next, world, value, final =>
    ∃ answer between, os.answers world request answer between ∧
      Runs os (next answer) between value final
  | _, .loop state body next, world, value, final =>
    ∃ result between, Iterates (fun state => Runs os (body state)) state world result between ∧
      Runs os (next result) between value final
  | _, .spawn launch hooked setup next, world, value, final =>
    ∃ answer between, os.spawns world launch hooked setup answer between ∧
      Runs os (next answer) between value final

theorem runs_pure {α : Type} {a value : α} {world final : World} :
    (pure a : Program α).Runs os world value final ↔ value = a ∧ final = world := Iff.rfl

theorem runs_iterate {σ β : Type} {state : σ} {body : σ → Program (σ ⊕ β)} {result : β}
    {world final : World} :
    (iterate state body).Runs os world result final ↔
      Iterates (fun state => (body state).Runs os) state world result final := by
  constructor
  · rintro ⟨result', between, h, rfl, rfl⟩
    exact h
  · intro h
    exact ⟨result, final, h, rfl, rfl⟩

/-- **Sequencing**: one program after another. -/
theorem runs_bind {α β : Type} {program : Program α} {next : α → Program β} {value : β}
    {world final : World} :
    (program >>= next).Runs os world value final ↔
      ∃ a between, program.Runs os world a between ∧ (next a).Runs os between value final := by
  show (program.bind next).Runs os world value final ↔ _
  induction program generalizing world with
  | pure a =>
    constructor
    · intro h
      exact ⟨a, world, ⟨rfl, rfl⟩, h⟩
    · rintro ⟨a', between, ⟨rfl, rfl⟩, h⟩
      exact h
  | ask request rest ih =>
    constructor
    · rintro ⟨answer, first, hanswer, h⟩
      obtain ⟨a, between, hrest, hnext⟩ := (ih answer).mp h
      exact ⟨a, between, ⟨answer, first, hanswer, hrest⟩, hnext⟩
    · rintro ⟨a, between, ⟨answer, first, hanswer, hrest⟩, hnext⟩
      exact ⟨answer, first, hanswer, (ih answer).mpr ⟨a, between, hrest, hnext⟩⟩
  | loop state body rest ihbody ih =>
    constructor
    · rintro ⟨result, first, hloop, h⟩
      obtain ⟨a, between, hrest, hnext⟩ := (ih result).mp h
      exact ⟨a, between, ⟨result, first, hloop, hrest⟩, hnext⟩
    · rintro ⟨a, between, ⟨result, first, hloop, hrest⟩, hnext⟩
      exact ⟨result, first, hloop, (ih result).mpr ⟨a, between, hrest, hnext⟩⟩
  | spawn launch hooked setup rest ihsetup ih =>
    constructor
    · rintro ⟨answer, first, hanswer, h⟩
      obtain ⟨a, between, hrest, hnext⟩ := (ih answer).mp h
      exact ⟨a, between, ⟨answer, first, hanswer, hrest⟩, hnext⟩
    · rintro ⟨a, between, ⟨answer, first, hanswer, hrest⟩, hnext⟩
      exact ⟨answer, first, hanswer, (ih answer).mpr ⟨a, between, hrest, hnext⟩⟩

/-- One request, and what is made of its answer. -/
theorem runs_request_bind {β : Type} {r : Request} {next : r.Answer → Program β} {value : β}
    {world final : World} :
    (request r >>= next).Runs os world value final ↔
      ∃ answer between, os.answers world r answer between ∧
        (next answer).Runs os between value final := Iff.rfl

/-- **A run under one operating system** is one under every operating system that may do more. -/
theorem Runs.within {wider : OperatingSystem World} (hos : os.Within wider) {α : Type}
    {program : Program α} {value : α} {world final : World}
    (h : program.Runs os world value final) : program.Runs wider world value final := by
  induction program generalizing world final with
  | pure a => exact h
  | ask request next ih =>
    obtain ⟨answer, between, hanswer, hrest⟩ := h
    exact ⟨answer, between, hos.answers hanswer, ih answer hrest⟩
  | spawn launch hooked setup next _ ih =>
    obtain ⟨answer, between, hanswer, hrest⟩ := h
    exact ⟨answer, between, hos.spawns hanswer, ih answer hrest⟩
  | loop state body next ihbody ih =>
    obtain ⟨result, between, hloop, hrest⟩ := h
    refine ⟨result, between, ?_, ih result hrest⟩
    clear hrest
    induction hloop with
    | stop h => exact .stop (ihbody _ h)
    | again h _ ihloop => exact .again (ihbody _ h) ihloop

end Program

end Interposition
