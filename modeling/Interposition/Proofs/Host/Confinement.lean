/-
  What a program cannot change.

  Much of what is to be said of a program is that something stays as it is while the program runs,
  because the program makes none of the requests that could change it.

  1. **Kinds of deeds** (`Program.Confined`): every request a program may make and every child it
     may start is of a kind, whatever it has been answered before.  This is read off the tree.

  2. **What a kind of deed keeps** (`OperatingSystem.Keeps`): an assertion about the world that no
     answer to a deed of this kind makes false.  It holds after every run of a confined program if
     it held before (`Confined.keeps`).

  3. **Waits** (`Poll.wait_keeps`): a wait looks, and asks for its peer in a way of its own.  What
     neither changes, the wait does not change.
-/
import Interposition.Proofs.Host.Contract
import Interposition.Journal.File
import Interposition.Rendezvous.Poll

namespace Interposition

/-! ## Kinds of deeds -/

/-- A request that leaves files and processes as they are. -/
def Request.IsLook : Request → Prop
  | now | sleep _ | identity | environment | freshName | readFile _ | pathExists _
  | isDirectory _ | permissions _ | listDirectory _ | receiveLine _ _ => True
  | _ => False

/-- A request that makes files and directories, and writes to none. -/
def Request.IsPreparation : Request → Prop
  | createFile _ | openAppending _ | close _ | makeDirectory _ | isDirectory _ => True
  | _ => False

/-- A request that leaves processes as they are. -/
def Request.SparesProcesses : Request → Prop
  | kill _ _ | wait _ _ | becomeImage _ => False
  | _ => True

/-- A request that writes to no file, and takes none away. -/
def Request.SparesContents : Request → Prop
  | write _ _ | rename _ _ | remove _ => False
  | _ => True

/-- A deed that leaves files and processes as they are. -/
def Deed.IsLook : Deed → Prop
  | asks request => request.IsLook
  | _ => False

/-- A deed that makes files and directories, and writes to none. -/
def Deed.IsPreparation : Deed → Prop
  | asks request => request.IsPreparation
  | _ => False

/-- A deed that leaves processes as they are. -/
def Deed.SparesProcesses : Deed → Prop
  | asks request => request.SparesProcesses
  | _ => False

/-- A deed that writes to no file, and takes none away. -/
def Deed.SparesContents : Deed → Prop
  | asks request => request.SparesContents
  | _ => True

theorem Deed.IsLook.sparesProcesses {deed : Deed} (h : deed.IsLook) : deed.SparesProcesses := by
  cases deed with
  | asks request => cases request <;> first | exact trivial | exact h.elim
  | starts launch => exact h.elim
  | goesOn => exact h.elim

theorem Deed.IsLook.sparesContents {deed : Deed} (h : deed.IsLook) : deed.SparesContents := by
  cases deed with
  | asks request => cases request <;> first | exact trivial | exact h.elim
  | starts launch => exact h.elim
  | goesOn => exact h.elim

theorem Deed.IsPreparation.sparesContents {deed : Deed} (h : deed.IsPreparation) :
    deed.SparesContents := by
  cases deed with
  | asks request => cases request <;> first | exact trivial | exact h.elim
  | starts launch => exact h.elim
  | goesOn => exact h.elim

theorem Deed.IsPreparation.sparesProcesses {deed : Deed} (h : deed.IsPreparation) :
    deed.SparesProcesses := by
  cases deed with
  | asks request => cases request <;> first | exact trivial | exact h.elim
  | starts launch => exact h.elim
  | goesOn => exact h.elim

namespace Program

variable {World α β : Type} {os : OperatingSystem World} {allowed allowed' : Deed → Prop}

/-- Every deed of a program, whatever it is answered, is of a kind. -/
def Confined (allowed : Deed → Prop) : {α : Type} → Program α → Prop
  | _, .pure _ => True
  | _, .ask request next => allowed (.asks request) ∧ ∀ answer, Confined allowed (next answer)
  | _, .loop _ body next =>
    (∀ state, Confined allowed (body state)) ∧ ∀ result, Confined allowed (next result)
  | _, .spawn launch _ _ next => allowed (.starts launch) ∧ ∀ answer, Confined allowed (next answer)

theorem confined_request {r : Request} (h : allowed (.asks r)) : (request r).Confined allowed :=
  ⟨h, fun _ => trivial⟩

theorem Confined.mono {program : Program α} (h : program.Confined allowed)
    (hweaker : ∀ deed, allowed deed → allowed' deed) : program.Confined allowed' := by
  induction program with
  | pure a => exact trivial
  | ask request next ih => exact ⟨hweaker _ h.1, fun answer => ih answer (h.2 answer)⟩
  | loop state body next ihbody ih =>
    exact ⟨fun state => ihbody state (h.1 state), fun result => ih result (h.2 result)⟩
  | spawn launch hooked setup next _ ih =>
    exact ⟨hweaker _ h.1, fun answer => ih answer (h.2 answer)⟩

/-- **Sequencing**: one program after another. -/
theorem Confined.bind {program : Program α} {next : α → Program β} (h : program.Confined allowed)
    (hnext : ∀ a, (next a).Confined allowed) : (program >>= next).Confined allowed := by
  show (program.bind next).Confined allowed
  induction program with
  | pure a => exact hnext a
  | ask request rest ih => exact ⟨h.1, fun answer => ih answer (h.2 answer) hnext⟩
  | loop state body rest _ ih => exact ⟨h.1, fun result => ih result (h.2 result) hnext⟩
  | spawn launch hooked setup rest _ ih => exact ⟨h.1, fun answer => ih answer (h.2 answer) hnext⟩

theorem confined_iterate {σ : Type} {state : σ} {body : σ → Program (σ ⊕ β)}
    (h : ∀ state, (body state).Confined allowed) : (iterate state body).Confined allowed :=
  ⟨h, fun _ => trivial⟩

/-! ### Files -/

/-- Making a directory, and those above it. -/
theorem confined_makeDirectories {allowed : Deed → Prop}
    (hmake : ∀ path, allowed (.asks (.makeDirectory path)))
    (hask : ∀ path, allowed (.asks (.isDirectory path))) (paths : List Path) :
    (makeDirectories paths).Confined allowed := by
  have hlook (path : Path) (e : IoError) : (do
      if ← request (.isDirectory path) then return .ok () else return .error e :
        Program (Except IoError Unit)).Confined allowed :=
    (confined_request (hask path)).bind fun there => by cases there <;> exact trivial
  induction paths with
  | nil => exact trivial
  | cons path parents ih =>
    refine (confined_request (hmake path)).bind fun made => ?_
    cases made with
    | ok => exact trivial
    | error e =>
      show (if e.isNotFound = true then _ else _ : Program (Except IoError Unit)).Confined _
      split
      · refine ih.bind fun above => ?_
        cases above with
        | error e => exact trivial
        | ok =>
          refine (confined_request (hmake path)).bind fun made => ?_
          cases made with
          | ok => exact trivial
          | error e => exact hlook path e
      · exact hlook path e

/-- Writing bytes, in as many writes as it takes. -/
theorem confined_writeAll {allowed : Deed → Prop} {file : FileHandle}
    (h : ∀ bytes, allowed (.asks (.write file bytes))) (bytes : List UInt8) :
    (writeAll file bytes).Confined allowed := by
  refine confined_iterate fun rest => ?_
  show (if rest.isEmpty = true then _ else _ : Program _).Confined allowed
  split
  · exact trivial
  · refine (confined_request (h rest)).bind fun written => ?_
    rcases written with e | _ | n <;> exact trivial

end Program

namespace Journal

variable {allowed : Deed → Prop} {path : Path}

theorem confined_truncate (hcreate : allowed (.asks (.createFile path)))
    (hclose : ∀ file, allowed (.asks (.close file))) (hopen : allowed (.asks (.openAppending path))) :
    (truncate path).Confined allowed := by
  refine (Program.confined_request hcreate).bind fun created => ?_
  cases created with
  | error cause => exact trivial
  | ok file =>
    refine (Program.confined_request (hclose file)).bind fun _ => ?_
    exact (Program.confined_request hopen).bind fun opened => by cases opened <;> exact trivial

/-- Starting a journal. -/
theorem confined_create (hmake : ∀ above, allowed (.asks (.makeDirectory above)))
    (hask : ∀ above, allowed (.asks (.isDirectory above)))
    (hcreate : allowed (.asks (.createFile path))) (hclose : ∀ file, allowed (.asks (.close file)))
    (hopen : allowed (.asks (.openAppending path))) : (create path).Confined allowed := by
  unfold create
  cases path.parent? with
  | none => exact confined_truncate hcreate hclose hopen
  | some above =>
    refine (Program.confined_makeDirectories hmake hask _).bind fun made => ?_
    cases made with
    | error cause => exact trivial
    | ok => exact confined_truncate hcreate hclose hopen

end Journal

namespace JournalWriter

/-- Appending a record. -/
theorem confined_append {allowed : Deed → Prop} {writer : JournalWriter}
    (h : ∀ bytes, allowed (.asks (.write writer.file bytes))) (r : JournalRecord) :
    (writer.append r).Confined allowed :=
  (Program.confined_writeAll h _).bind fun written => by cases written <;> exact trivial

end JournalWriter

/-! ## What a kind of deed keeps -/

/-- No answer to a deed of a kind makes an assertion false. -/
structure OperatingSystem.Keeps {World : Type} (os : OperatingSystem World) (allowed : Deed → Prop)
    (holds : World → Prop) : Prop where
  answers : ∀ {world next r answer}, holds world → allowed (.asks r) →
    os.answers world r answer next → holds next
  spawns : ∀ {world next launch hooked setup answer}, holds world → allowed (.starts launch) →
    os.spawns world launch hooked setup answer next → holds next

namespace OperatingSystem.Keeps

variable {World : Type} {os : OperatingSystem World} {allowed allowed' : Deed → Prop}
  {holds : World → Prop}

theorem mono (h : os.Keeps allowed holds) (hstronger : ∀ deed, allowed' deed → allowed deed) :
    os.Keeps allowed' holds :=
  ⟨fun hworld hdeed => h.answers hworld (hstronger _ hdeed),
    fun hworld hdeed => h.spawns hworld (hstronger _ hdeed)⟩

end OperatingSystem.Keeps

namespace Program

variable {World α β σ : Type} {os : OperatingSystem World} {allowed : Deed → Prop}
  {world final : World}

/-- **Loops**: what every round keeps. -/
theorem Iterates.keeps {body : σ → World → σ ⊕ β → World → Prop} (holds : σ → World → Prop)
    (done : β → World → Prop)
    (hround : ∀ {state world outcome next}, holds state world → body state world outcome next →
      match outcome with
      | .inl state => holds state next
      | .inr result => done result next)
    {state : σ} {result : β} (hrun : Iterates body state world result final)
    (h : holds state world) : done result final := by
  induction hrun with
  | stop hstop => exact hround h hstop
  | again hagain _ ih => exact ih (hround h hagain)

/-- **A confined program** keeps what its kind of deeds keeps. -/
theorem Confined.keeps {holds : World → Prop} (hos : os.Keeps allowed holds) {program : Program α}
    (hconfined : program.Confined allowed) {a : α} (hrun : program.Runs os world a final)
    (h : holds world) : holds final := by
  induction program generalizing world final with
  | pure value =>
    obtain ⟨-, rfl⟩ := hrun
    exact h
  | ask request next ih =>
    obtain ⟨answer, between, hanswer, hrest⟩ := hrun
    exact ih answer (hconfined.2 answer) hrest (hos.answers h hconfined.1 hanswer)
  | spawn launch hooked setup next _ ih =>
    obtain ⟨answer, between, hanswer, hrest⟩ := hrun
    exact ih answer (hconfined.2 answer) hrest (hos.spawns h hconfined.1 hanswer)
  | loop state body next ihbody ih =>
    obtain ⟨result, between, hloop, hrest⟩ := hrun
    refine ih result (hconfined.2 result) hrest (hloop.keeps (fun _ => holds) (fun _ => holds)
      (fun {state} {_} {outcome} {_} hworld hbody => ?_) h)
    have hnext := ihbody state (hconfined.1 state) hbody hworld
    cases outcome with
    | inl state => exact hnext
    | inr result => exact hnext

theorem confined_true (program : Program α) : program.Confined fun _ => True := by
  induction program with
  | pure a => exact trivial
  | ask request next ih => exact ⟨trivial, ih⟩
  | loop state body next ihbody ih => exact ⟨ihbody, ih⟩
  | spawn launch hooked setup next _ ih => exact ⟨trivial, ih⟩

/-- **Any program** keeps what every deed keeps. -/
theorem Runs.keeps {holds : World → Prop} (hos : os.Keeps (fun _ => True) holds)
    {program : Program α} {a : α} (hrun : program.Runs os world a final) (h : holds world) :
    holds final := program.confined_true.keeps hos hrun h

end Program

/-! ## Waits -/

namespace Poll

variable {World σ β : Type} {os : OperatingSystem World} {world final : World}

/-- **A wait** keeps what looking keeps, if asking for the peer keeps it too. -/
theorem wait_keeps (holds : σ → World → Prop) {what peer : String} {timeout : Duration}
    {alive : σ → Program (Bool × σ)} {check : Program (Except GateError (Option β))} {s s' : σ}
    {result : Except GateError β} (hos : ∀ s, os.Keeps Deed.IsLook (holds s))
    (hcheck : check.Confined Deed.IsLook)
    (halive : ∀ {s s' world next said}, holds s world → (alive s).Runs os world (said, s') next →
      holds s' next)
    (hrun : (wait what peer timeout alive check s).Runs os world (result, s') final)
    (h : holds s world) : holds s' final := by
  obtain ⟨started, first, hnow, hrun⟩ := Program.runs_request_bind.mp hrun
  refine (Program.runs_iterate.mp hrun).keeps (fun state => holds state.2)
    (fun outcome => holds outcome.2) ?_ ((hos s).answers (r := .now) h trivial hnow)
  rintro ⟨pause, s⟩ world outcome next hworld hround
  -- the first look
  obtain ⟨found, between, hlook, hround⟩ := Program.runs_bind.mp hround
  have hbetween := hcheck.keeps (hos s) hlook hworld
  rcases found with cause | _ | found
  · obtain ⟨rfl, rfl⟩ := hround
    exact hbetween
  · obtain ⟨⟨living, s'⟩, later, hasked, hround⟩ := Program.runs_bind.mp hround
    have hlater := halive hbetween hasked
    cases living with
    | true =>
      obtain ⟨now, after, hclock, hround⟩ := Program.runs_request_bind.mp hround
      have hafter := (hos s').answers (r := .now) hlater trivial hclock
      by_cases htimeout : now - started ≥ timeout.nanoseconds
      · simp only [htimeout, if_true] at hround
        obtain ⟨rfl, rfl⟩ := hround
        exact hafter
      · simp only [htimeout, if_false] at hround
        obtain ⟨_, rested, hsleep, rfl, rfl⟩ := Program.runs_request_bind.mp hround
        exact (hos s').answers (r := .sleep pause) hafter trivial hsleep
    | false =>
      -- the peer is gone: one last look
      obtain ⟨found, after, hlook, hround⟩ := Program.runs_bind.mp hround
      have hafter := hcheck.keeps (hos s') hlook hlater
      rcases found with cause | _ | found <;> obtain ⟨rfl, rfl⟩ := hround <;> exact hafter
  · obtain ⟨rfl, rfl⟩ := hround
    exact hbetween

end Poll

end Interposition
