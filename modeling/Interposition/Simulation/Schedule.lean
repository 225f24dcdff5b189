/-
  How the simulated machine runs.

  The processes take turns, one step at a time: of those that can go on the one that could do so
  first is next, and the clock moves to that moment.  Every step takes a little time, and starting
  an image takes more.  A machine on which nothing can go on stays as it is.
-/
import Interposition.Simulation.Answer

namespace Interposition.Simulation.Machine

/-! ## Time -/

/-- How long a request takes, in nanoseconds. -/
def requestTime : Nat := 10000

/-- How long it takes until a new child makes its first step. -/
def birthTime : Nat := 200000

/-- How long it takes until an image makes its first step. -/
def imageTime : Nat := 800000

/-! ## Who is next -/

/-- The request a process makes next. -/
def request? {α : Type} : Program α → Option Request
  | .ask request _ => some request
  | _ => none

/-- The request a process makes next, whatever it runs. -/
def Code.request? : Code → Option Request
  | .image program => Machine.request? program
  | .embryo setup _ _ => Machine.request? setup

/-- When a process can go on, if anything lets it. -/
def wake? (m : Machine) (p : Process) : Option Nat :=
  if p.ended.isSome || p.stopped then none
  else
    match p.birth with
    | .awaited => none
    | _ =>
      match Code.request? p.code with
      | none => some p.ready
      | some request =>
        if m.grants p request then some (max p.ready m.now) else expiry? p.ready request

/-- The process that goes on next, and when: the earliest, and of several the oldest. -/
def next? (m : Machine) : Option (Nat × Process) :=
  m.processes.foldl (fun best p =>
    match m.wake? p, best with
    | none, _ => best
    | some moment, none => some (moment, p)
    | some moment, some (earliest, _) => if moment < earliest then some (moment, p) else best)
    none

/-! ## Steps -/

/-- The machine with a process ended. -/
def finish (m : Machine) (pid : Pid) (status : WaitStatus) : Machine :=
  m.update pid fun p => { p with ended := some status }

/-- The machine with a process going on with other code, some time later. -/
def goOn (m : Machine) (pid : Pid) (time : Nat) (code : Code) : Machine :=
  m.update pid fun p => { p with code, birth := .none, ready := m.now + time }

/-- Tells a process what came of the child it waits for. -/
def tell (m : Machine) (pid : Pid) (result : Except IoError Pid) : Machine :=
  m.update pid fun p => { p with birth := .answered result, ready := m.now }

/-- Starts a child of a process. -/
def beget (m : Machine) (p : Process) (launch : Launch) (hooked : Bool)
    (setup : Program (Option Errno)) : Machine :=
  if launchHasNul launch then m.tell p.pid (.error .nulInData)
  else
    let child : Process := {
      p with
      pid := Int32.ofNat m.nextPid
      parent := p.pid
      code := .embryo setup launch hooked
      vars := overlay p.vars launch.vars
      kept := [], held := [], ready := m.now + birthTime, birth := .none, shown := [] }
    { m.update p.pid fun p => { p with birth := .awaited } with
      nextPid := m.nextPid + 1
      processes := (m.update p.pid fun p => { p with birth := .awaited }).processes ++ [child] }

/-- An embryo whose setup has ended becomes its image, unless the setup or the image is at fault;
    then it is gone, and its parent is told why. -/
def hatch (m : Machine) (p : Process) (launch : Launch) (hooked : Bool)
    (fault : Option Errno) : Machine :=
  let image : Except Errno (Program Int32) :=
    match fault with
    | some errno => .error errno
    | none => m.imageOf p launch hooked
  match image with
  | .error errno => (m.forget p.pid).tell p.parent (.error (.os errno))
  | .ok program =>
    (m.update p.pid fun p => p.become program (m.now + imageTime)).tell p.parent (.ok p.pid)

/-- The machine with a process become another image, if that is what it asks for and if it can. -/
def replace? (m : Machine) (p : Process) : Request → Option Machine
  | .becomeImage launch =>
    match m.replacement p launch with
    | .error _ => none
    | .ok program =>
      some (m.update p.pid fun p =>
        { p.become program (m.now + imageTime) with
          vars := overlay p.vars launch.vars, birth := .none })
  | _ => none

/-- One step of a program that a process runs; `wrap` is what the process runs if the rest of its
    program is another one, and `ended` what happens when there is no rest. -/
def stepProgram {α : Type} (m : Machine) (p : Process) (wrap : Program α → Code)
    (ended : α → Machine) : Program α → Machine
  | .pure a => ended a
  | .ask request next =>
    match m.replace? p request with
    | some m => m
    | none =>
      let (answer, m) := m.answer p request
      m.goOn p.pid requestTime (wrap (next answer))
  | .loop state body next =>
    m.update p.pid fun p =>
      { p with
        code := wrap ((body state).bind fun
          | .inl state => .loop state body next
          | .inr result => next result) }
  | .spawn launch hooked setup next =>
    match p.birth with
    | .answered result => m.goOn p.pid requestTime (wrap (next result))
    | _ => m.beget p launch hooked setup

/-- The status a program leaves: its low eight bits count. -/
def exitStatus (code : Int32) : WaitStatus := .exited (Int32.ofNat (code.toUInt32.toNat % 256))

/-- One step of a process. -/
def stepProcess (m : Machine) (p : Process) : Machine :=
  match p.code with
  | .image program =>
    m.stepProgram p .image (fun code => m.finish p.pid (exitStatus code)) program
  | .embryo setup launch hooked =>
    m.stepProgram p (fun setup => .embryo setup launch hooked) (m.hatch p launch hooked) setup

/-- One step of the machine, if anything can go on. -/
def step? (m : Machine) : Option Machine :=
  m.next?.map fun (moment, p) =>
    (({ m with now := max m.now moment }).stepProcess p).tidy

/-- Runs the machine until a process has ended, nothing can go on, or the steps are used up. -/
def runUntilEnded (pid : Pid) : Nat → Machine → Machine
  | 0, m => m
  | steps + 1, m =>
    if !m.isLive pid then m
    else
      match m.step? with
      | none => m
      | some m => runUntilEnded pid steps m

/-- What a process has printed. -/
def shown (m : Machine) (pid : Pid) : List String := ((m.process? pid).map Process.shown).getD []

end Interposition.Simulation.Machine
