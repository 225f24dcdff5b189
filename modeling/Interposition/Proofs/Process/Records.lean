/-
  The records of an executor, as a function of the process number.

  Records are a list, and what is asked of it is the record of a child.  So each operation on the
  list is described by what it does to that question (`record?_add`, `record?_noteEnd`).

  1. **Children awaited** (`Executor.Awaits`): those with a record that says nothing of their end.
     A start adds one, an end takes one away.

  2. **One record each** (`Executor.Keyed`): no operation makes a second record under a number, so
     nobody runs unseen (`running_eq_zero_iff`).
-/
import Mathlib.Data.List.Nodup
import Interposition.Process.Executor

namespace Interposition.Executor

variable {e : Executor} {pid other : Pid} {t t' : Termination} {r : ProcessRecord}

/-! ## Keys -/

theorem toInt32_key (pid : Pid) : (key pid).toInt32 = pid := Int32.toInt32_toUInt32 pid

theorem key_toInt32 (number : UInt32) : key number.toInt32 = number :=
  UInt32.toUInt32_toInt32 number

theorem key_injective : Function.Injective key := by
  intro p q h
  rw [← toInt32_key p, h, toInt32_key q]

/-! ## The record of a child -/

theorem record?_default (pid : Pid) : (default : Executor).record? pid = none := rfl

theorem pid_of_record? (h : e.record? pid = some r) : r.pid = key pid := by
  unfold record? at h
  simpa using List.find?_some h

/-- A new child takes the place of an earlier one. -/
theorem record?_add (r : ProcessRecord) (pid : Pid) :
    (e.add r).record? pid = if r.pid = key pid then some r else e.record? pid := by
  unfold record? add
  rw [List.find?_append, List.find?_filter, List.find?_singleton]
  by_cases hpid : r.pid = key pid
  · have hnone : e.processes.find? (fun a => decide (decide (a.pid ≠ r.pid) = true ∧
        decide (a.pid = key pid) = true)) = none := by
      simp [hpid]
    rw [hnone, Option.none_or, if_pos hpid, if_pos (by simpa using hpid)]
  · rw [if_neg hpid, if_neg (by simpa using hpid), Option.or_none]
    congr 1
    funext a
    by_cases ha : a.pid = key pid
    · simp [ha, Ne.symm hpid]
    · simp [ha]

/-- An end is noted in one record. -/
theorem record?_noteEnd (t : Termination) : (e.noteEnd other t).record? pid =
    (e.record? pid).map fun r => if pid = other then { r with termination := some t } else r := by
  unfold record? noteEnd
  rw [List.find?_map]
  have hsame : ((fun r : ProcessRecord => decide (r.pid = key pid)) ∘ fun r =>
      if r.pid = key other then { r with termination := some t } else r) =
      fun r => decide (r.pid = key pid) := by
    funext r
    simp only [Function.comp_apply]
    split <;> rfl
  rw [hsame]
  cases hfind : e.processes.find? fun r => decide (r.pid = key pid) with
  | none => rfl
  | some former =>
    have hformer : former.pid = key pid := by simpa using List.find?_some hfind
    by_cases hpid : pid = other
    · simp [hformer, hpid]
    · simp [hformer, hpid, key_injective.ne hpid]

/-- Without a record there is nothing to note an end in. -/
theorem noteEnd_of_record?_eq_none (h : e.record? pid = none) (t : Termination) :
    e.noteEnd pid t = e := by
  have hnobody : ∀ r ∈ e.processes, r.pid ≠ key pid := by
    unfold record? at h
    simpa using h
  have hsame : e.processes.map (fun r => if r.pid = key pid then { r with termination := some t }
      else r) = e.processes.map id :=
    List.map_congr_left fun r hr => if_neg (hnobody r hr)
  unfold noteEnd
  rw [hsame, List.map_id]

theorem isSome_record?_noteEnd (t : Termination) :
    ((e.noteEnd other t).record? pid).isSome = (e.record? pid).isSome := by
  rw [record?_noteEnd, Option.isSome_map]

/-! ## How a child ended -/

theorem termination?_eq_some_iff : e.termination? pid = some t ↔
    ∃ r, e.record? pid = some r ∧ r.termination = some t :=
  Option.bind_eq_some_iff

/-- Noting an end puts no other end on record. -/
theorem termination?_noteEnd (h : (e.noteEnd other t').termination? pid = some t) :
    pid = other ∨ e.termination? pid = some t := by
  by_cases hpid : pid = other
  · exact .inl hpid
  · unfold termination? at h
    rw [record?_noteEnd, Option.bind_map] at h
    simp only [Function.comp_def, if_neg hpid] at h
    exact .inr h

/-- A child that has just been started has no end on record. -/
theorem termination?_add {role : Role} {image : String}
    (h : (e.add (.new role image (key other))).termination? pid = some t) :
    pid ≠ other ∧ e.termination? pid = some t := by
  unfold termination? at h
  rw [record?_add] at h
  split at h
  · contradiction
  · next hkey => exact ⟨fun hpid => hkey (congrArg key hpid.symm), h⟩

/-! ## Children awaited -/

/-- A child has a record, and the record says nothing of its end. -/
def Awaits (e : Executor) (pid : Pid) : Prop :=
  ∃ r, e.record? pid = some r ∧ r.termination = none

theorem not_awaits_default (pid : Pid) : ¬(default : Executor).Awaits pid := by
  rintro ⟨r, hr, -⟩
  rw [record?_default] at hr
  contradiction

theorem Awaits.termination? (h : e.Awaits pid) : e.termination? pid = none := by
  obtain ⟨r, hr, ht⟩ := h
  unfold Executor.termination?
  rw [hr]
  exact ht

/-- A child on record is awaited, or its end is on record. -/
theorem isSome_termination?_of_not_awaits (hrecord : (e.record? pid).isSome)
    (h : ¬e.Awaits pid) : (e.termination? pid).isSome := by
  obtain ⟨r, hr⟩ := Option.isSome_iff_exists.mp hrecord
  cases ht : r.termination with
  | none => exact absurd ⟨r, hr, ht⟩ h
  | some t => exact Option.isSome_iff_exists.mpr ⟨t, termination?_eq_some_iff.mpr ⟨r, hr, ht⟩⟩

theorem not_awaits_of_termination? (h : e.termination? pid = some t) : ¬e.Awaits pid := by
  intro hawaits
  rw [hawaits.termination?] at h
  contradiction

theorem awaits_add {role : Role} {image : String} :
    (e.add (.new role image (key other))).Awaits pid ↔ pid = other ∨ e.Awaits pid := by
  unfold Awaits
  simp only [record?_add]
  have hkey : (ProcessRecord.new role image (key other)).pid = key pid ↔ pid = other :=
    ⟨fun h => (key_injective h).symm, fun h => congrArg key h.symm⟩
  by_cases hpid : pid = other
  · subst hpid
    simp only [if_pos (hkey.mpr rfl), true_or, iff_true]
    exact ⟨_, rfl, rfl⟩
  · simp only [if_neg fun h => hpid (hkey.mp h), hpid, false_or]

theorem awaits_noteEnd : (e.noteEnd other t).Awaits pid ↔ pid ≠ other ∧ e.Awaits pid := by
  unfold Awaits
  simp only [record?_noteEnd, Option.map_eq_some_iff]
  constructor
  · rintro ⟨_, ⟨r, hr, rfl⟩, ht⟩
    by_cases hpid : pid = other
    · rw [if_pos hpid] at ht
      contradiction
    · rw [if_neg hpid] at ht
      exact ⟨hpid, r, hr, ht⟩
  · rintro ⟨hpid, r, hr, ht⟩
    exact ⟨r, ⟨r, hr, if_neg hpid⟩, ht⟩

/-! ## One record each -/

/-- No two records are kept under one number. -/
def Keyed (e : Executor) : Prop := (e.processes.map ProcessRecord.pid).Nodup

theorem keyed_default : (default : Executor).Keyed := List.nodup_nil

theorem Keyed.add (h : e.Keyed) (r : ProcessRecord) : (e.add r).Keyed := by
  unfold Keyed Executor.add
  rw [List.map_append, List.nodup_append]
  refine ⟨h.sublist (List.filter_sublist.map _), List.nodup_singleton _, ?_⟩
  rintro _ hformer _ hnew rfl
  obtain ⟨former, hformer, hpid⟩ := List.mem_map.mp hformer
  have hne : former.pid ≠ r.pid := by simpa using (List.mem_filter.mp hformer).2
  exact hne (hpid.trans (List.mem_singleton.mp hnew))

theorem Keyed.noteEnd (h : e.Keyed) (pid : Pid) (t : Termination) : (e.noteEnd pid t).Keyed := by
  have hsame : (e.noteEnd pid t).processes.map ProcessRecord.pid =
      e.processes.map ProcessRecord.pid := by
    unfold Executor.noteEnd
    rw [List.map_map]
    refine List.map_congr_left fun r _ => ?_
    simp only [Function.comp_apply]
    split <;> rfl
  unfold Keyed
  rw [hsame]
  exact h

/-- What is on record under a number is the record of that child. -/
theorem Keyed.record? (h : e.Keyed) (hr : r ∈ e.processes) :
    e.record? r.pid.toInt32 = some r := by
  unfold Executor.record?
  rw [key_toInt32]
  cases hfind : e.processes.find? fun other => decide (other.pid = r.pid) with
  | none => simpa using List.find?_eq_none.mp hfind r hr
  | some found =>
    have hpid : found.pid = r.pid := by simpa using List.find?_some hfind
    exact congrArg some (List.inj_on_of_nodup_map h (List.mem_of_find?_eq_some hfind) hr hpid)

/-- **Nobody runs** when nobody is awaited. -/
theorem running_eq_zero_iff (h : e.Keyed) : e.running = 0 ↔ ∀ pid, ¬e.Awaits pid := by
  unfold running
  rw [List.length_eq_zero_iff, List.filter_eq_nil_iff]
  constructor
  · rintro hnone pid ⟨r, hr, ht⟩
    exact hnone r (List.mem_of_find?_eq_some hr) (by rw [ht]; rfl)
  · intro hnone r hr hrunning
    exact hnone r.pid.toInt32 ⟨r, h.record? hr, Option.isNone_iff_eq_none.mp hrunning⟩

/-! ## Children outstanding -/

/-- Process numbers and keys are the same numbers. -/
theorem toInt32_eq_iff {number : UInt32} : number.toInt32 = pid ↔ number = key pid :=
  ⟨fun h => h ▸ (key_toInt32 number).symm, fun h => h ▸ toInt32_key pid⟩

/-- As many run as are outstanding. -/
theorem running_eq_length_outstanding : e.running = e.outstanding.length := by
  unfold running outstanding
  rw [List.length_map]

/-- Whoever is outstanding is awaited. -/
theorem Keyed.mem_outstanding (h : e.Keyed) : pid ∈ e.outstanding ↔ e.Awaits pid := by
  unfold outstanding
  simp only [List.mem_map, List.mem_filter, Option.isNone_iff_eq_none]
  constructor
  · rintro ⟨r, ⟨hr, hrunning⟩, rfl⟩
    exact ⟨r, h.record? hr, hrunning⟩
  · rintro ⟨r, hr, hrunning⟩
    exact ⟨r, ⟨List.mem_of_find?_eq_some hr, hrunning⟩, toInt32_eq_iff.mpr (pid_of_record? hr)⟩

/-- A new child is outstanding behind the others. -/
theorem outstanding_add {role : Role} {image : String} :
    (e.add (.new role image (key pid))).outstanding = e.outstanding.filter (· ≠ pid) ++ [pid] := by
  unfold outstanding add
  rw [List.filter_append, List.map_append, List.filter_map, List.filter_filter, List.filter_filter]
  congr 3
  funext r
  simp only [Function.comp_apply, ne_eq, toInt32_eq_iff]
  exact Bool.and_comm _ _

/-- A child whose end is noted is not outstanding any more. -/
theorem outstanding_noteEnd : (e.noteEnd pid t).outstanding = e.outstanding.filter (· ≠ pid) := by
  have hrunning (r : ProcessRecord) :
      (if r.pid = key pid then { r with termination := some t } else r).termination.isNone =
        (decide (r.pid.toInt32 ≠ pid) && r.termination.isNone) := by
    by_cases hpid : r.pid = key pid <;> simp [hpid, toInt32_eq_iff]
  have hnumber (r : ProcessRecord) :
      (if r.pid = key pid then { r with termination := some t } else r).pid = r.pid := by
    split <;> rfl
  unfold outstanding noteEnd
  rw [List.filter_map, List.map_map, List.filter_map, List.filter_filter]
  simp only [Function.comp_def, hrunning, hnumber]

end Interposition.Executor
