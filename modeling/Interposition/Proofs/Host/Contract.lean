/-
  Programs among others.

  Processes share a world and take turns in it, one request at a time, and any of them may be
  stopped between two requests.  What can be said of a program is then not what it leaves when it
  runs by itself, but what each of its requests does, whatever the others have done before it.

  1. **Steps** (`Program.Step`): a program goes on by a request that is answered, by a child that is
     started, or by the next round of a loop.

  2. **Contracts** (`Contract`): an invariant that everybody keeps, what a process relies on the
     others to have done at most when it looks at the world again, and what it guarantees them of
     each of its own deeds.

  3. **Meeting a contract** (`Program.Meets`), by recursion on the tree: whatever was done in
     between, the next deed keeps the invariant and the guarantee, and the rest meets the contract.
     A loop needs an invariant of its own.  `meets_bind` is sequencing, and with it a `do` block is
     verified line by line.

  4. **Soundness** (`Meets.step`, `Meets.rely`): a program that meets its contract does so after
     each of its steps, and after whatever the others do.
-/
import Interposition.Proofs.Host.Execution

namespace Interposition

/-! ## Steps -/

/-- What a program does in one step. -/
inductive Deed where
  | asks (request : Request)
  | starts (launch : Launch)
  /-- It enters a round of a loop, or leaves the loop. -/
  | goesOn
deriving DecidableEq

namespace Program

variable {World : Type} {os : OperatingSystem World} {α β : Type}

/-- What is left of a loop once a round has come to something. -/
def loopRest {σ : Type} (body : σ → Program (σ ⊕ β)) (next : β → Program α) :
    σ ⊕ β → Program α
  | .inl state => .loop state body next
  | .inr result => next result

/-- One step of a program, and what it does to the world. -/
inductive Step (os : OperatingSystem World) :
    Program α → World → Deed → Program α → World → Prop where
  | ask {request : Request} {next : request.Answer → Program α} {answer : request.Answer}
      {world between : World} (h : os.answers world request answer between) :
      Step os (.ask request next) world (.asks request) (next answer) between
  | spawn {launch : Launch} {hooked : Bool} {setup : Program (Option Errno)}
      {next : Except IoError Pid → Program α} {answer : Except IoError Pid} {world between : World}
      (h : os.spawns world launch hooked setup answer between) :
      Step os (.spawn launch hooked setup next) world (.starts launch) (next answer) between
  | round {σ β : Type} {state : σ} {body : σ → Program (σ ⊕ β)} {next : β → Program α}
      {world : World} :
      Step os (.loop state body next) world .goesOn ((body state).bind (loopRest body next)) world

end Program

/-! ## Contracts -/

/-- What a process owes the others, and what they owe it. -/
structure Contract (World : Type) where
  /-- What everybody keeps. -/
  invariant : World → Prop
  /-- What the others have done at most since the process last looked, if it has its turn again. -/
  rely : World → World → Prop
  /-- What the process may do by a deed. -/
  guarantee : World → Deed → World → Prop
  rely_trans : ∀ {first second third}, rely first second → rely second third → rely first third

namespace Contract

variable {World : Type}

/-- An assertion that the others do not make false. -/
def Stable (contract : Contract World) (assertion : World → Prop) : Prop :=
  ∀ {world next}, assertion world → contract.rely world next → contract.invariant next →
    assertion next

/-- A deed that is allowed: it keeps the invariant and the guarantee. -/
def Allows (contract : Contract World) (world : World) (deed : Deed) (next : World) : Prop :=
  contract.invariant next ∧ contract.guarantee world deed next

end Contract

namespace Program

variable {World : Type} {os : OperatingSystem World} {contract : Contract World} {α β : Type}

/-! ## Meeting a contract -/

/-- A program meets a contract from a world on, and if it ends, `post` holds of its value and the
    world it ends in. -/
def Meets (os : OperatingSystem World) (contract : Contract World) :
    {α : Type} → Program α → (α → World → Prop) → World → Prop
  | _, .pure a, post, world => post a world
  | _, .ask request next, post, world =>
    ∀ now, contract.rely world now → contract.invariant now →
      ∀ answer between, os.answers now request answer between →
        contract.Allows now (.asks request) between ∧
          Meets os contract (next answer) post between
  | _, .spawn launch hooked setup next, post, world =>
    ∀ now, contract.rely world now → contract.invariant now →
      ∀ answer between, os.spawns now launch hooked setup answer between →
        contract.Allows now (.starts launch) between ∧
          Meets os contract (next answer) post between
  | _, .loop (σ := σ) state body next, post, world =>
    ∃ holds : σ → World → Prop, (∀ state, contract.Stable (holds state)) ∧ holds state world ∧
      ∀ state world, contract.invariant world → holds state world →
        Meets os contract (body state) (fun outcome between =>
          match outcome with
          | .inl state => holds state between
          | .inr result => Meets os contract (next result) post between) world

/-- A weaker postcondition. -/
theorem Meets.mono {program : Program α} {post post' : α → World → Prop} {world : World}
    (h : program.Meets os contract post world) (hpost : ∀ a w, post a w → post' a w) :
    program.Meets os contract post' world := by
  induction program generalizing world with
  | pure a => exact hpost a world h
  | ask request next ih =>
    intro now hrely hinv answer between hanswer
    obtain ⟨hallows, hrest⟩ := h now hrely hinv answer between hanswer
    exact ⟨hallows, ih answer hrest hpost⟩
  | spawn launch hooked setup next _ ih =>
    intro now hrely hinv answer between hanswer
    obtain ⟨hallows, hrest⟩ := h now hrely hinv answer between hanswer
    exact ⟨hallows, ih answer hrest hpost⟩
  | loop state body next ihbody ih =>
    obtain ⟨holds, hstable, hstart, hround⟩ := h
    refine ⟨holds, hstable, hstart, fun state world hinv hholds => ?_⟩
    refine ihbody state (hround state world hinv hholds) fun outcome between houtcome => ?_
    cases outcome with
    | inl state => exact houtcome
    | inr result => exact ih result houtcome hpost

/-- **Sequencing**: one program after another. -/
theorem meets_bind {program : Program α} {next : α → Program β} {post : β → World → Prop}
    {world : World}
    (h : program.Meets os contract (fun a => (next a).Meets os contract post) world) :
    (program >>= next).Meets os contract post world := by
  show (program.bind next).Meets os contract post world
  induction program generalizing world with
  | pure a => exact h
  | ask request rest ih =>
    intro now hrely hinv answer between hanswer
    obtain ⟨hallows, hrest⟩ := h now hrely hinv answer between hanswer
    exact ⟨hallows, ih answer hrest⟩
  | spawn launch hooked setup rest _ ih =>
    intro now hrely hinv answer between hanswer
    obtain ⟨hallows, hrest⟩ := h now hrely hinv answer between hanswer
    exact ⟨hallows, ih answer hrest⟩
  | loop state body rest ihbody ih =>
    obtain ⟨holds, hstable, hstart, hround⟩ := h
    refine ⟨holds, hstable, hstart, fun state world hinv hholds => ?_⟩
    refine (hround state world hinv hholds).mono fun outcome between houtcome => ?_
    cases outcome with
    | inl state => exact houtcome
    | inr result => exact ih result houtcome

/-- One program after another, by what the first is known to come to. -/
theorem Meets.bind {program : Program α} {next : α → Program β} {mid : α → World → Prop}
    {post : β → World → Prop} {world : World} (h : program.Meets os contract mid world)
    (hnext : ∀ a w, mid a w → (next a).Meets os contract post w) :
    (program >>= next).Meets os contract post world :=
  meets_bind (h.mono hnext)

/-- One request. -/
theorem meets_request {r : Request} {post : r.Answer → World → Prop} {world : World}
    (h : ∀ now, contract.rely world now → contract.invariant now →
      ∀ answer between, os.answers now r answer between →
        contract.Allows now (.asks r) between ∧ post answer between) :
    (request r).Meets os contract post world := h

/-- **Loops**: an assertion that the others do not make false, and that every round keeps. -/
theorem meets_iterate {σ : Type} {state : σ} {body : σ → Program (σ ⊕ β)}
    {post : β → World → Prop} {world : World} (holds : σ → World → Prop)
    (hstable : ∀ state, contract.Stable (holds state)) (hstart : holds state world)
    (hround : ∀ state world, contract.invariant world → holds state world →
      (body state).Meets os contract (fun outcome between =>
        match outcome with
        | .inl state => holds state between
        | .inr result => post result between) world) :
    (iterate state body).Meets os contract post world := by
  refine ⟨holds, hstable, hstart, fun state world hinv hholds => ?_⟩
  refine (hround state world hinv hholds).mono fun outcome between houtcome => ?_
  cases outcome with
  | inl state => exact houtcome
  | inr result => exact houtcome

/-! ## Soundness -/

/-- What the others do does not matter. -/
theorem Meets.rely {program : Program α} {post : α → World → Prop} {world now : World}
    (h : program.Meets os contract post world) (hpost : ∀ a, contract.Stable (post a))
    (hrely : contract.rely world now) (hinv : contract.invariant now) :
    program.Meets os contract post now := by
  cases program with
  | pure a => exact hpost a h hrely hinv
  | ask request next => exact fun later hlater => h later (contract.rely_trans hrely hlater)
  | spawn launch hooked setup next => exact fun later hlater => h later (contract.rely_trans hrely hlater)
  | loop state body next =>
    obtain ⟨holds, hstable, hstart, hround⟩ := h
    exact ⟨holds, hstable, hstable state hstart hrely hinv, hround⟩

/-- **One step** of a program that meets its contract is allowed, and the rest meets it too. -/
theorem Meets.step {program rest : Program α} {post : α → World → Prop} {world between : World}
    {deed : Deed} (h : program.Meets os contract post world) (hturn : contract.rely world world)
    (hinv : contract.invariant world) (hstep : Step os program world deed rest between) :
    (deed = .goesOn ∧ between = world ∨ contract.Allows world deed between) ∧
      rest.Meets os contract post between := by
  cases hstep with
  | ask hanswer =>
    obtain ⟨hallows, hrest⟩ := h world hturn hinv _ _ hanswer
    exact ⟨.inr hallows, hrest⟩
  | spawn hanswer =>
    obtain ⟨hallows, hrest⟩ := h world hturn hinv _ _ hanswer
    exact ⟨.inr hallows, hrest⟩
  | @round _ _ _ body next =>
    obtain ⟨holds, hstable, hstart, hround⟩ := h
    refine ⟨.inl ⟨rfl, rfl⟩, meets_bind ((hround _ _ hinv hstart).mono fun outcome later houtcome => ?_)⟩
    cases outcome with
    | inl state => exact ⟨holds, hstable, houtcome, hround⟩
    | inr result => exact houtcome

end Program

end Interposition
