/-
  Batches, for every plan of what becomes of their images.

  Whether an image can be started, and how long a child runs, is not up to the loader.  A plan says
  both for every image: it is refused, or it runs until it has been looked at so many times, and
  then ends with a status.  Any order in which the children can end is that of some plan.

  1. **Plans** (`Plan`, `stage`): an operating system on which everything goes by the plan, and that
     leaves no choice.

  2. **Children held** (`Held`): records and plan agree on who runs and for how long.  A look at a
     child keeps it, and brings the child nearer to its end or collects it.

  3. **Sweeps** (`Held.sweep`, `Held.collects`): every sweep brings everybody nearer, so that all
     are collected, by induction on the longest time that is left.

  4. **Starts** (`Ready.starts`): images that start are held, and the others are listed in order.

  A batch then returns one record for every image, and the loader zero exactly if all have been
  started and have exited with zero (`reports_every_image_once`).
-/
import Mathlib.Algebra.Order.BigOperators.Group.List
import Mathlib.Algebra.Order.Group.Nat
import Interposition.Programs
import Interposition.Proofs.Host.Playing
import Interposition.Proofs.Process.Sweeps

namespace Interposition.Batch

open Executor (closedUp closedUp_perm map_closedUp key round runs_sweep_cons tryReap)
open Program (Returns Runs)

/-! ## Plans -/

/-- What becomes of an image that is to be started. -/
inductive Fate where
  | refused (cause : IoError)
  /-- It runs under a number until it has been looked at so many times, and then ends. -/
  | runs (pid : Pid) (looks : Nat) (status : WaitStatus)

/-- An image has been started and has exited with zero. -/
def Fate.Succeeds : Fate → Prop
  | .runs _ _ status => status = .exited 0
  | .refused _ => False

/-- Images in order, and what becomes of each. -/
abbrev Plan := List (ImageSpec × Fate)

/-- A child that a plan has run. -/
structure Runner where
  image : String
  pid : Pid
  looks : Nat
  status : WaitStatus

/-- The record of a child once it has been collected. -/
def Runner.record (r : Runner) : ProcessRecord :=
  { ProcessRecord.new .program r.image (key r.pid) with
    termination := Termination.ofWaitStatus? r.status }

namespace Plan

/-- The children, in the order they are started. -/
def runners (plan : Plan) : List Runner :=
  plan.filterMap fun
    | (image, .runs pid looks status) => some ⟨image.name, pid, looks, status⟩
    | (_, .refused _) => none

/-- The records of the images that are refused, in order. -/
def refusals (plan : Plan) : List ProcessRecord :=
  plan.filterMap fun
    | (image, .refused _) => some (.notStarted .program image.name)
    | (_, .runs _ _ _) => none

/-- A plan that can be: where an image is refused, it is the image that is at fault, no two children
    have one number, and statuses tell of ends. -/
structure Proper (plan : Plan) : Prop where
  leaf : ∀ image cause, (image, Fate.refused cause) ∈ plan →
    (Executor.spawnError image.name cause false).isLeaf
  ends : ∀ r ∈ plan.runners, (Termination.ofWaitStatus? r.status).isSome
  distinct : (plan.runners.map Runner.pid).Nodup

end Plan

/-- Where a plan stands: what becomes of the images still to be started, and for how many looks
    those that run will go on. -/
structure Staging where
  coming : List Fate
  running : Pid → Option (Nat × WaitStatus)

/-- Nothing has been started. -/
def Plan.beginning (plan : Plan) : Staging := ⟨plan.map Prod.snd, fun _ => none⟩

namespace Staging

/-- A child has so much left. -/
def set (world : Staging) (pid : Pid) (left : Option (Nat × WaitStatus)) : Staging :=
  { world with running := Function.update world.running pid left }

/-- The next image has been seen to. -/
def next (world : Staging) : Staging := { world with coming := world.coming.tail }

end Staging

/-- An operating system on which everything goes by a plan.  The process finds some variables, and
    gets a name when it asks for one. -/
def stage (vars : List (String × String)) (name : String) : Respondent Staging where
  answer world
    | .environment => some (vars, world)
    | .freshName => some (name, world)
    | .sleep _ => some ((), world)
    | .wait pid false =>
      match world.running pid with
      | none => some (.error .echild, world)
      | some (0, status) => some (.ok status, world.set pid none)
      | some (looks + 1, status) => some (.ok .alive, world.set pid (some (looks, status)))
    | _ => none
  start world _ _ _ :=
    match world.coming with
    | [] => none
    | .refused cause :: _ => some (.error cause, world.next)
    | .runs pid looks status :: _ => some (.ok pid, world.next.set pid (some (looks, status)))

variable {plan : Plan} {vars : List (String × String)} {name : String} {e e' : Executor}
  {world world' : Staging} {kept rest left ran : List Runner} {r : Runner}
  {finished : List ProcessRecord}

/-! ## Children held -/

/-- Records and plan agree on children that run. -/
structure Held (left : List Runner) (e : Executor) (world : Staging) : Prop where
  distinct : (left.map Runner.pid).Nodup
  ends : ∀ r ∈ left, (Termination.ofWaitStatus? r.status).isSome
  record : ∀ r ∈ left, e.record? r.pid = some (.new .program r.image (key r.pid))
  running : ∀ r ∈ left, world.running r.pid = some (r.looks, r.status)

namespace Held

theorem perm {left' : List Runner} (h : Held left e world) (hperm : left.Perm left') :
    Held left' e world where
  distinct := (hperm.map _).nodup_iff.mp h.distinct
  ends r hr := h.ends r (hperm.mem_iff.mpr hr)
  record r hr := h.record r (hperm.mem_iff.mpr hr)
  running r hr := h.running r (hperm.mem_iff.mpr hr)

theorem unknown (h : Held left e world) (hr : r ∈ left) : e.termination? r.pid = none := by
  unfold Executor.termination?
  rw [h.record r hr]
  rfl

/-- The others have other numbers. -/
theorem ne_of_mem (h : Held (r :: left) e world) : ∀ other ∈ left, other.pid ≠ r.pid := by
  intro other hother hpid
  exact (List.nodup_cons.mp h.distinct).1 (List.mem_map.mpr ⟨other, hother, hpid⟩)

/-- What a look changes for the child does not change how long the others go on. -/
theorem running_set (h : Held (r :: left) e world) (more : Option (Nat × WaitStatus)) :
    ∀ other ∈ left, (world.set r.pid more).running other.pid = some (other.looks, other.status) := by
  intro other hother
  have hsame : (world.set r.pid more).running other.pid = world.running other.pid :=
    Function.update_of_ne (h.ne_of_mem other hother) _ _
  exact hsame.trans (h.running other (List.mem_cons_of_mem _ hother))

/-- **A look** at a child that goes on. -/
theorem look_alive {looks : Nat} (h : Held (r :: left) e world) (hlooks : r.looks = looks + 1) :
    ∃ world', (tryReap r.pid e).Runs (stage vars name).system world (.ok none, e) world' ∧
      Held ({ r with looks } :: left) e world' := by
  have hrunning := h.running r List.mem_cons_self
  refine ⟨world.set r.pid (some (looks, r.status)), ?_, h.distinct, ?_, ?_, ?_⟩
  · unfold tryReap
    rw [h.unknown List.mem_cons_self]
    refine ⟨.ok .alive, _, ?_, rfl, rfl⟩
    show (match world.running r.pid with
      | none => _
      | some (0, status) => _
      | some (looks + 1, status) => _) = _
    rw [hrunning, hlooks]
  · exact List.forall_mem_cons.mpr ⟨h.ends r List.mem_cons_self,
      fun other hother => h.ends other (List.mem_cons_of_mem _ hother)⟩
  · exact List.forall_mem_cons.mpr ⟨h.record r List.mem_cons_self,
      fun other hother => h.record other (List.mem_cons_of_mem _ hother)⟩
  · exact List.forall_mem_cons.mpr ⟨Function.update_self _ _ _, h.running_set _⟩

/-- **A look** at a child that has ended. -/
theorem look_ended (h : Held (r :: left) e world) (hlooks : r.looks = 0) :
    ∃ ending e' world', (tryReap r.pid e).Runs (stage vars name).system world
        (.ok (some ending), e') world' ∧
      e'.record? r.pid = some r.record ∧ Held left e' world' := by
  have hrunning := h.running r List.mem_cons_self
  obtain ⟨ending, hending⟩ := Option.isSome_iff_exists.mp (h.ends r List.mem_cons_self)
  refine ⟨ending, e.noteEnd r.pid ending, world.set r.pid none, ?_, ?_, ?_, ?_, ?_, ?_⟩
  · unfold tryReap
    rw [h.unknown List.mem_cons_self]
    refine ⟨.ok r.status, world.set r.pid none, ?_, ?_⟩
    · show (match world.running r.pid with
        | none => _
        | some (0, status) => _
        | some (looks + 1, status) => _) = _
      rw [hrunning, hlooks]
    · simp only [Program.bind, hending]
      exact ⟨rfl, rfl⟩
  · rw [Executor.record?_noteEnd, h.record r List.mem_cons_self, Option.map_some, if_pos rfl]
    unfold Runner.record
    rw [hending]
  · exact (List.nodup_cons.mp h.distinct).2
  · exact fun other hother => h.ends other (List.mem_cons_of_mem _ hother)
  · intro other hother
    rw [Executor.record?_noteEnd, h.record other (List.mem_cons_of_mem _ hother), Option.map_some,
      if_neg (h.ne_of_mem other hother)]
  · exact h.running_set none

/-! ## Sweeps -/

/-- There is nobody to look at. -/
theorem runs_sweep_nil {count : Nat} {kept : List Pid} :
    (Executor.sweep count kept [] finished e).Runs (stage vars name).system world
      (.ok (kept, finished ++ []), e) world := by
  rw [List.append_nil]
  cases count with
  | zero => exact ⟨by rw [List.append_nil], rfl⟩
  | succ => exact ⟨rfl, rfl⟩

variable (vars name finished) in
/-- **One sweep** along the row.  It looks at every child once: whoever it leaves has less time
    left, and the records of the others are put with those collected before. -/
theorem sweep {count longest : Nat} (h : Held (kept ++ rest) e world) (hcount : rest.length ≤ count)
    (hkept : ∀ r ∈ kept, r.looks < longest) (hrest : ∀ r ∈ rest, r.looks ≤ longest) :
    ∃ left met e' world',
      (Executor.sweep count (kept.map Runner.pid) (rest.map Runner.pid) finished e).Runs
        (stage vars name).system world (.ok (left.map Runner.pid, finished ++ met), e') world' ∧
      Held left e' world' ∧ (∀ r ∈ left, r.looks < longest) ∧
      (met ++ left.map Runner.record).Perm ((kept ++ rest).map Runner.record) := by
  induction count generalizing kept rest finished e world with
  | zero =>
    obtain rfl := List.length_eq_zero_iff.mp (Nat.le_zero.mp hcount)
    rw [List.append_nil] at h ⊢
    exact ⟨kept, [], e, world, runs_sweep_nil, h, hkept, .rfl⟩
  | succ count ih =>
    cases rest with
    | nil =>
      rw [List.append_nil] at h ⊢
      exact ⟨kept, [], e, world, runs_sweep_nil, h, hkept, .rfl⟩
    | cons r rest =>
      have hshorter : rest.length ≤ count := Nat.le_of_succ_le_succ hcount
      have hfirst := h.perm List.perm_middle
      have hothers : ∀ other ∈ rest, other.looks ≤ longest :=
        fun other hother => hrest other (List.mem_cons_of_mem _ hother)
      cases hlooks : r.looks with
      | zero =>
        -- its record is met, and the row closes up
        obtain ⟨ending, middle, between, hlook, hrecord, hheld⟩ := hfirst.look_ended hlooks
        have hclosed := closedUp_perm rest
        obtain ⟨left, met, e', final, hsweep, hleft, hnearer, hperm⟩ :=
          ih (finished ++ [r.record])
            (hheld.perm (hclosed.symm.append_left kept)) (hclosed.length_eq.trans_le hshorter) hkept
            (fun other hother => hothers other (hclosed.mem_iff.mp hother))
        refine ⟨left, r.record :: met, e', final, ?_, hleft, hnearer, ?_⟩
        · refine runs_sweep_cons.mpr (.inr (.inl ⟨ending, middle, between, hlook, ?_⟩))
          rw [hrecord, ← map_closedUp]
          rwa [List.append_cons]
        · calc r.record :: met ++ left.map Runner.record
              |>.Perm (r.record :: (kept ++ closedUp rest).map Runner.record) := hperm.cons _
            _ |>.Perm ((r :: (kept ++ rest)).map Runner.record) :=
              ((hclosed.append_left kept).map Runner.record).cons _
            _ |>.Perm ((kept ++ r :: rest).map Runner.record) := (List.perm_middle.map _).symm
      | succ looks =>
        -- it goes on, with one look less
        obtain ⟨between, hlook, hheld⟩ := hfirst.look_alive hlooks
        have hless : looks < longest := by
          have hlongest := hrest r List.mem_cons_self
          omega
        let nearer : Runner := { r with looks }
        have hrecord : (kept ++ nearer :: rest).map Runner.record =
            (kept ++ r :: rest).map Runner.record := by simp [nearer, Runner.record]
        have hpassed : Held ((kept ++ [nearer]) ++ rest) e between :=
          hheld.perm (by simpa using List.perm_middle.symm)
        obtain ⟨left, met, e', final, hsweep, hleft, hnearer, hperm⟩ :=
          ih finished hpassed hshorter
            (List.forall_mem_append.mpr ⟨hkept, List.forall_mem_singleton.mpr hless⟩) hothers
        refine ⟨left, met, e', final, ?_, hleft, hnearer, ?_⟩
        · refine runs_sweep_cons.mpr (.inl ⟨e, between, hlook, ?_⟩)
          simpa using hsweep
        · rwa [List.append_assoc, List.singleton_append, hrecord] at hperm

variable (vars name finished) in
/-- **One round** with somebody left. -/
theorem round {longest : Nat} (pause : Nat) (h : Held left e world) (hleft : left ≠ [])
    (hlooks : ∀ r ∈ left, r.looks ≤ longest) :
    ∃ left' met pause' e' world',
      (round (left.map Runner.pid, finished, pause, e)).Runs (stage vars name).system world
        (.inl (left'.map Runner.pid, finished ++ met, pause', e')) world' ∧
      Held left' e' world' ∧ (∀ r ∈ left', r.looks < longest) ∧
      (met ++ left'.map Runner.record).Perm (left.map Runner.record) := by
  have hsomebody : ¬(left.map Runner.pid).isEmpty = true :=
    mt List.isEmpty_iff.mp (mt List.map_eq_nil_iff.mp hleft)
  have hrow : Held ([] ++ left) e world := h
  obtain ⟨left', met, e', world', hsweep, hheld, hnearer, hperm⟩ :=
    hrow.sweep vars name finished (List.length_map Runner.pid).ge (fun _ => nofun) hlooks
  -- who is left after the sweep decides between going on at once and a pause
  have hround (pause' : Nat) (hpause : pause' =
      if (left'.map Runner.pid).length < (left.map Runner.pid).length then Executor.shortestPause
      else min (pause * 2) Executor.longestPause) :
      (Executor.round (left.map Runner.pid, finished, pause, e)).Runs (stage vars name).system world
        (.inl (left'.map Runner.pid, finished ++ met, pause', e')) world' := by
    unfold Executor.round
    show (if _ then _ else _ : Program _).Runs _ _ _ _
    rw [if_neg hsomebody]
    refine Program.runs_bind.mpr ⟨_, world', hsweep, ?_⟩
    show (if _ then _ else _ : Program _).Runs _ _ _ _
    split at hpause
    · next hfewer =>
      rw [if_pos hfewer, hpause]
      exact ⟨rfl, rfl⟩
    · next hnobody =>
      rw [if_neg hnobody, hpause]
      exact ⟨(), world', rfl, rfl, rfl⟩
  exact ⟨left', met, _, e', world', hround _ rfl, hheld, hnearer, hperm⟩

variable (vars name finished) in
/-- **Everybody is collected**, by induction on the longest time that is left. -/
theorem collects {longest : Nat} (pause : Nat) (h : Held left e world)
    (hlongest : ∀ r ∈ left, r.looks < longest) :
    ∃ records e' world',
      Program.Iterates (fun state => (Executor.round state).Runs (stage vars name).system)
        (left.map Runner.pid, finished, pause, e) world (.ok (finished ++ records), e') world' ∧
      records.Perm (left.map Runner.record) := by
  have hnobody {finished : List ProcessRecord} {pause : Nat} {e : Executor} {world : Staging} :
      Program.Iterates (fun state => (Executor.round state).Runs (stage vars name).system)
        ([], finished, pause, e) world (.ok (finished ++ []), e) world := by
    rw [List.append_nil]
    exact .stop ⟨rfl, rfl⟩
  induction longest generalizing left finished pause e world with
  | zero =>
    obtain rfl : left = [] :=
      List.eq_nil_iff_forall_not_mem.mpr fun r hr => Nat.not_lt_zero _ (hlongest r hr)
    exact ⟨[], e, world, hnobody, .nil⟩
  | succ longest ih =>
    by_cases hleft : left = []
    · subst hleft
      exact ⟨[], e, world, hnobody, .nil⟩
    · obtain ⟨left', met, pause', between, world', hround, hheld, hnearer, hperm⟩ :=
        h.round vars name finished pause hleft fun r hr => Nat.le_of_lt_succ (hlongest r hr)
      obtain ⟨records, e', final, hiterates, hrecords⟩ := ih (finished ++ met) pause' hheld hnearer
      refine ⟨met ++ records, e', final, .again hround ?_, (hrecords.append_left met).trans hperm⟩
      rwa [← List.append_assoc]

end Held

/-! ## Starts -/

/-- Some children run, and a plan is still to come. -/
structure Ready (ran : List Runner) (plan : Plan) (e : Executor) (world : Staging) : Prop
    extends Held ran e world where
  outstanding : e.outstanding = ran.map Runner.pid
  coming : world.coming = plan.map Prod.snd

variable (vars name e) in
theorem runs_spawn_refused (vars' : List (String × String)) (image : ImageSpec) {cause : IoError}
    {fates : List Fate} (hcoming : world.coming = .refused cause :: fates) :
    (Executor.spawn .program image vars' none e).Runs (stage vars name).system world
      (.error (Executor.spawnError image.name cause false), e) world.next := by
  rw [Executor.spawn_eq]
  refine ⟨.error cause, world.next, ?_, rfl, rfl⟩
  show (match world.coming with
    | [] => _
    | .refused cause :: _ => _
    | .runs pid looks status :: _ => _) = _
  rw [hcoming]

variable (vars name e) in
theorem runs_spawn_runs (vars' : List (String × String)) (image : ImageSpec) {pid : Pid}
    {looks : Nat} {status : WaitStatus} {fates : List Fate}
    (hcoming : world.coming = .runs pid looks status :: fates) :
    (Executor.spawn .program image vars' none e).Runs (stage vars name).system world
      (.ok pid, e.add (.new .program image.name (key pid)))
      (world.next.set pid (some (looks, status))) := by
  rw [Executor.spawn_eq]
  refine ⟨.ok pid, world.next.set pid (some (looks, status)), ?_, rfl, rfl⟩
  show (match world.coming with
    | [] => _
    | .refused cause :: _ => _
    | .runs pid looks status :: _ => _) = _
  rw [hcoming]

/-- **One more child** runs. -/
theorem Ready.spawned {image : ImageSpec} {pid : Pid} {looks : Nat} {status : WaitStatus}
    (h : Ready ran ((image, .runs pid looks status) :: plan) e world)
    (hends : (Termination.ofWaitStatus? status).isSome) (hnew : pid ∉ ran.map Runner.pid) :
    Ready (ran ++ [⟨image.name, pid, looks, status⟩]) plan
      (e.add (.new .program image.name (key pid)))
      (world.next.set pid (some (looks, status))) := by
  have hothers : ∀ r ∈ ran, r.pid ≠ pid := fun r hr hpid => hnew (List.mem_map.mpr ⟨r, hr, hpid⟩)
  refine ⟨⟨?_, ?_, ?_, ?_⟩, ?_, ?_⟩
  · rw [List.map_append]
    exact List.nodup_append.mpr ⟨h.distinct, List.nodup_singleton _, by simpa using hnew⟩
  · exact List.forall_mem_append.mpr ⟨h.ends, List.forall_mem_singleton.mpr hends⟩
  · refine List.forall_mem_append.mpr ⟨fun r hr => ?_, List.forall_mem_singleton.mpr ?_⟩
    · have hkey : key pid ≠ key r.pid := fun hkey => hothers r hr (Executor.key_injective hkey).symm
      exact (Executor.record?_add _ _).trans ((if_neg hkey).trans (h.record r hr))
    · exact (Executor.record?_add _ _).trans (if_pos rfl)
  · refine List.forall_mem_append.mpr ⟨fun r hr => ?_, List.forall_mem_singleton.mpr ?_⟩
    · exact (Function.update_of_ne (hothers r hr) _ _).trans (h.running r hr)
    · exact Function.update_self _ _ _
  · rw [Executor.outstanding_add, h.outstanding, List.map_append]
    congr 1
    exact List.filter_eq_self.mpr fun other hother =>
      decide_eq_true (ne_of_mem_of_not_mem hother hnew)
  · exact congrArg List.tail h.coming

variable (vars name) in
/-- **Starting images** by a plan: those that start are held, and the others are listed in order. -/
theorem Ready.starts (vars' : List (String × String)) (h : Ready ran plan e world)
    (hleaf : ∀ image cause, (image, Fate.refused cause) ∈ plan →
      (Executor.spawnError image.name cause false).isLeaf)
    (hends : ∀ r ∈ plan.runners, (Termination.ofWaitStatus? r.status).isSome)
    (hdistinct : (ran.map Runner.pid ++ plan.runners.map Runner.pid).Nodup) :
    ∃ e' world', (start vars' (plan.map Prod.fst) e).Runs (stage vars name).system world
        (.ok plan.refusals, e') world' ∧ Ready (ran ++ plan.runners) [] e' world' := by
  induction plan generalizing ran e world with
  | nil =>
    exact ⟨e, world, ⟨rfl, rfl⟩, by rwa [show Plan.runners [] = [] from rfl, List.append_nil]⟩
  | cons entry plan ih =>
    obtain ⟨image, fate⟩ := entry
    have hleaf' := fun other cause hin => hleaf other cause (List.mem_cons_of_mem _ hin)
    cases fate with
    | refused cause =>
      have hpassed : Ready ran plan e world.next :=
        ⟨⟨h.distinct, h.ends, h.record, h.running⟩, h.outstanding, congrArg List.tail h.coming⟩
      obtain ⟨e', final, hstart, hready⟩ := ih hpassed hleaf' hends hdistinct
      refine ⟨e', final, ?_, hready⟩
      have hspawn := runs_spawn_refused vars name e vars' image h.coming
      refine Supervised.runs_attempt_bind.mpr ⟨_, _, _, hspawn, ?_⟩
      show ((if _ then _ else _ : Supervised _) e).Runs _ _ _ _
      rw [if_pos (hleaf image cause List.mem_cons_self)]
      exact Supervised.runs_bind.mpr (.inl ⟨_, _, _, hstart, rfl, rfl⟩)
    | runs pid looks status =>
      have hrunners : Plan.runners ((image, .runs pid looks status) :: plan) =
          ⟨image.name, pid, looks, status⟩ :: Plan.runners plan := rfl
      rw [hrunners] at hends hdistinct ⊢
      obtain ⟨hends, hends'⟩ := List.forall_mem_cons.mp hends
      rw [List.map_cons, List.append_cons] at hdistinct
      have hnew : pid ∉ ran.map Runner.pid := by
        have hfirst := (List.nodup_append.mp hdistinct).1
        simpa using (List.nodup_append.mp hfirst).2.2
      obtain ⟨e', final, hstart, hready⟩ :=
        ih (h.spawned hends hnew) hleaf' hends' (by simpa using hdistinct)
      rw [List.append_cons]
      refine ⟨e', final, ?_, hready⟩
      have hspawn := runs_spawn_runs vars name e vars' image h.coming
      exact Supervised.runs_attempt_bind.mpr ⟨_, _, _, hspawn, hstart⟩

/-! ## Every image, once -/

namespace Plan

variable {image : ImageSpec} {fate : Fate}

theorem length_eq (plan : Plan) : plan.runners.length + plan.refusals.length = plan.length := by
  induction plan with
  | nil => rfl
  | cons entry plan ih =>
    obtain ⟨image, _ | _⟩ := entry
    · exact (Nat.add_assoc ..).symm.trans (congrArg (· + 1) ih)
    · exact (Nat.add_right_comm ..).trans (congrArg (· + 1) ih)

/-- Images that are refused are reported the way a shell reports them. -/
theorem of_mem_refusals {record : ProcessRecord} (h : record ∈ plan.refusals) :
    record.pid = 0 ∧ record.termination = some (.exited 127) := by
  obtain ⟨⟨image, _ | _⟩, -, heq⟩ := List.mem_filterMap.mp h <;> cases heq
  exact ⟨rfl, rfl⟩

end Plan

/-- A child has succeeded if it has exited with zero. -/
theorem Runner.succeeded_record (r : Runner) :
    r.record.succeeded = true ↔ r.status = .exited 0 := by
  obtain ⟨image, pid, looks, status⟩ := r
  cases status with
  | exited code =>
    show decide (code = 0) = true ↔ _
    rw [decide_eq_true_iff, WaitStatus.exited.injEq]
  | _ => exact ⟨nofun, nofun⟩

/-- The records of a plan tell whether it has succeeded. -/
theorem Plan.succeeded_iff (plan : Plan) :
    (∀ record ∈ plan.runners.map Runner.record ++ plan.refusals, record.succeeded = true) ↔
      ∀ entry ∈ plan, entry.2.Succeeds := by
  induction plan with
  | nil => exact ⟨fun _ => nofun, fun _ => nofun⟩
  | cons entry plan ih =>
    rw [List.forall_mem_cons, ← ih]
    obtain ⟨image, cause | ⟨pid, looks, status⟩⟩ := entry
    · refine ⟨fun h => ?_, fun h => h.1.elim⟩
      have hrefused := h (.notStarted .program image.name)
        (List.mem_append_right _ List.mem_cons_self)
      cases hrefused
    · exact List.forall_mem_cons.trans (and_congr_left' (Runner.succeeded_record _))

variable (vars name) in
/-- **A batch** goes by its plan to the end. -/
theorem runs_of_plan (h : plan.Proper) (config : RuntimeConfig) :
    ∃ met e world, (run config (plan.map Prod.fst) default).Runs (stage vars name).system
        plan.beginning (.ok (met ++ plan.refusals), e) world ∧
      met.Perm (plan.runners.map Runner.record) := by
  have hready : Ready [] plan default plan.beginning :=
    ⟨⟨List.nodup_nil, fun _ => nofun, fun _ => nofun, fun _ => nofun⟩, rfl, rfl⟩
  obtain ⟨started, between, hstart, hready⟩ :=
    hready.starts vars name config.childEnvironment h.leaf h.ends h.distinct
  -- nobody is looked at more often than all together
  have hlongest : ∀ r ∈ [] ++ plan.runners, r.looks < (plan.runners.map Runner.looks).sum + 1 :=
    fun r hr => Nat.lt_succ_of_le (List.le_sum_of_mem (List.mem_map.mpr ⟨r, hr, rfl⟩))
  obtain ⟨met, e, world, hiterates, hperm⟩ :=
    hready.toHeld.collects vars name [] Executor.shortestPause hlongest
  have hreap : (Executor.reapAll started).Runs (stage vars name).system between (.ok met, e)
      world := by
    refine Supervised.runs_bind.mpr (.inl ⟨_, _, _, ⟨rfl, rfl⟩, ?_⟩)
    rw [hready.outstanding, Executor.reapThese_eq]
    exact Program.runs_iterate.mpr hiterates
  refine ⟨met, e, world, ?_, hperm⟩
  refine Supervised.runs_bind.mpr (.inl ⟨_, _, _, hstart, ?_⟩)
  exact Supervised.runs_bind.mpr (.inl ⟨_, _, _, hreap, rfl, rfl⟩)

/-- **The loader** with a batch to run, if the batch does not fail. -/
theorem runs_loader {World : Type} {os : OperatingSystem World} {start between final : World}
    {words programs : List String} {settings : CommandLine.Settings} {config : RuntimeConfig}
    {records : List ProcessRecord}
    (hwords : CommandLine.LoaderArguments.ofWords words = .ok ⟨settings, .run programs⟩)
    (hsettings : (Programs.configure settings).Runs os start (.ok config) between)
    (hrun : (run config (programs.map fun program => ⟨.ofText program, []⟩) default).Runs os between
      (.ok records, e) final) :
    (Programs.loader words).Runs os start (if records.all ProcessRecord.succeeded then 0 else 1)
      final := by
  unfold Programs.loader
  rw [hwords]
  refine Program.runs_bind.mpr ⟨.ok config, between, hsettings, ?_⟩
  refine Program.runs_bind.mpr ⟨(.ok records, e), final, hrun, ?_, rfl⟩
  show _ = Programs.clamped (if records.all ProcessRecord.succeeded = true then 0 else 1)
  split <;> rfl

/-- **Every image once.**  A batch of images, repeated or not, of which some are refused and the
    others end in any order, comes to a list with a record for every image: the children first, each
    with its end, and then the images that have been refused, in the order they were given.  The
    loader then exits with zero exactly if every image has been started and has exited with zero. -/
theorem reports_every_image_once (h : plan.Proper) (vars : List (String × String)) (name : String)
    (config : RuntimeConfig) :
    ∃ met e,
      (run config (plan.map Prod.fst) default).Returns (stage vars name).system plan.beginning
        (.ok (met ++ plan.refusals), e) ∧
      met.Perm (plan.runners.map Runner.record) ∧ (∀ record ∈ met, record.termination.isSome) ∧
      (∀ record ∈ plan.refusals, record.pid = 0 ∧ record.termination = some (.exited 127)) ∧
      (met ++ plan.refusals).length = plan.length ∧
      ∀ words settings programs config,
        CommandLine.LoaderArguments.ofWords words = .ok ⟨settings, .run programs⟩ →
        (programs.map fun program => ⟨.ofText program, []⟩) = plan.map Prod.fst →
        (Programs.configure settings).Runs (stage vars name).system plan.beginning (.ok config)
          plan.beginning →
        ∃ status, (Programs.loader words).Returns (stage vars name).system plan.beginning status ∧
          (status = 0 ↔ ∀ entry ∈ plan, entry.2.Succeeds) := by
  obtain ⟨met, e, world, hrun, hperm⟩ := runs_of_plan vars name h config
  have htold : ∀ record ∈ met, record.termination.isSome := by
    intro record hrecord
    obtain ⟨r, hr, rfl⟩ := List.mem_map.mp (hperm.mem_iff.mp hrecord)
    exact h.ends r hr
  have hlength : (met ++ plan.refusals).length = plan.length := by
    rw [List.length_append, hperm.length_eq, List.length_map, plan.length_eq]
  refine ⟨met, e, hrun.returns, hperm, htold, fun _ => Plan.of_mem_refusals, hlength, ?_⟩
  intro words settings programs config hwords hprograms hsettings
  obtain ⟨met, e, world, hrun, hperm⟩ := runs_of_plan vars name h config
  rw [← hprograms] at hrun
  refine ⟨_, (runs_loader hwords hsettings hrun).returns, ?_⟩
  -- the status looks at all records, in whatever order they are
  have hall : (∀ entry ∈ plan, entry.2.Succeeds) ↔
      (met ++ plan.refusals).all ProcessRecord.succeeded = true := by
    rw [← plan.succeeded_iff, List.all_eq_true]
    exact forall_congr' fun record => imp_congr_left (hperm.append_right _).mem_iff.symm
  rw [hall]
  split <;> simp_all

/-! ### Three images -/

/-- One image twice and, in between, one that is not there.  The second child ends first, with 3. -/
def mixedPlan : Plan :=
  [ (⟨.ofText "/bin/a", []⟩, .runs 5 2 (.exited 0)),
    (⟨.ofText "/gone", []⟩, .refused (.os .enoent)),
    (⟨.ofText "/bin/a", []⟩, .runs 6 0 (.exited 3)) ]

/-- All three are reported, and the loader does not exit with zero. -/
theorem reports_every_image_once_of_three :
    mixedPlan.Proper ∧ ∃ met e status,
      (run (.defaults (.ofText "/state")) (mixedPlan.map Prod.fst) default).Returns
        (stage [] "a").system mixedPlan.beginning
        (.ok (met ++ [.notStarted .program "/gone"]), e) ∧
      met.Perm [⟨.program, "/bin/a", 5, some (.exited 0)⟩,
        ⟨.program, "/bin/a", 6, some (.exited 3)⟩] ∧
      (Programs.loader ["--state-dir", "/state", "run", "/bin/a", "/gone", "/bin/a"]).Returns
        (stage [] "a").system mixedPlan.beginning status ∧ status ≠ 0 := by
  have hproper : mixedPlan.Proper := by
    refine ⟨fun image cause hin => ?_, by decide, by decide⟩
    obtain ⟨rfl, rfl⟩ : image = ⟨.ofText "/gone", []⟩ ∧ cause = .os .enoent := by
      simpa [mixedPlan] using hin
    rfl
  have hrunners : mixedPlan.runners.map Runner.record =
      [⟨.program, "/bin/a", 5, some (.exited 0)⟩, ⟨.program, "/bin/a", 6, some (.exited 3)⟩] := by
    decide +kernel
  have hrefusals : mixedPlan.refusals = [.notStarted .program "/gone"] := by decide +kernel
  obtain ⟨met, e, hrun, hperm, -, -, -, hloader⟩ :=
    reports_every_image_once hproper [] "a" (.defaults (.ofText "/state"))
  obtain ⟨status, hreturns, hstatus⟩ :=
    hloader ["--state-dir", "/state", "run", "/bin/a", "/gone", "/bin/a"]
      ⟨some (.ofText "/state"), none, none, none⟩ ["/bin/a", "/gone", "/bin/a"]
      (.defaults (.ofText "/state")) rfl rfl ⟨[], _, rfl, "a", _, rfl, rfl, rfl⟩
  rw [hrunners] at hperm
  rw [hrefusals] at hrun
  refine ⟨hproper, met, e, status, hrun, hperm, hreturns, fun hzero => ?_⟩
  exact hstatus.mp hzero _ (List.mem_cons_of_mem _ List.mem_cons_self)

end Interposition.Batch
