/-
  What the bindings of a table are, read as a finite map from pairs of a cage and a call.

  `Bindings` keeps its registrations as an ordered list, but nobody who reasons about a table wants
  to see the list: a table IS the partial function `lookup`.  This file says what every operation
  does to that function, once, and that the function says everything.

  1. **Reading** (`lookup_eq_some_iff`): a pair is bound to a binding exactly when the
     registration of that pair and that binding stands in the list.  This is where the order is
     used, for it is what keeps a pair from standing there twice.

  2. **Writing** (`lookup_insert`, `lookup_filter`): an insertion changes one pair, a filter drops
     the pairs whose registration it refuses.  Everything later is derived from these two.

  3. **Extensionality** (`ext_lookup`): two lists that answer every lookup alike are the same list.

  4. **Counting** (`size_filter_add`): what a filter keeps and what it drops add up.
-/
import Interposition.Bindings

namespace Interposition

/-! ## A pair and its binding make a registration -/

/-- The registration that binds a pair this way. -/
def Binding.on (binding : Binding) (cage : CageId) (syscall : SyscallNumber) : Registration :=
  ⟨cage, syscall, binding.handler, binding.grate⟩

@[simp] theorem Binding.binding_on (binding : Binding) (cage : CageId) (syscall : SyscallNumber) :
    (binding.on cage syscall).binding = binding := rfl

namespace Registration

theorem isFor_iff {r : Registration} {cage : CageId} {syscall : SyscallNumber} :
    r.isFor cage syscall = true ↔ r.targetCage = cage ∧ r.syscall = syscall := by
  simp [isFor]

/-- A registration is the one of its pair and its binding, and of no other. -/
theorem eq_on_iff {r : Registration} {cage : CageId} {syscall : SyscallNumber}
    {binding : Binding} :
    r = binding.on cage syscall ↔ r.isFor cage syscall = true ∧ r.binding = binding := by
  rw [isFor_iff]
  constructor
  · rintro rfl
    exact ⟨⟨rfl, rfl⟩, rfl⟩
  · rintro ⟨⟨rfl, rfl⟩, rfl⟩
    rfl

theorem Before.irrefl (r : Registration) : ¬ r.Before r := by
  rintro (h | ⟨-, h⟩)
  · exact UInt64.lt_irrefl _ h
  · exact UInt64.lt_irrefl _ h

/-- The order only looks at the pair. -/
theorem Before.congr {a b : Registration} (hcage : a.targetCage = b.targetCage)
    (hcall : a.syscall = b.syscall) (c : Registration) : a.Before c ↔ b.Before c := by
  simp only [Before, hcage, hcall]

/-- A registration that stands before or after another one is for another pair. -/
theorem isFor_of_before {a b : Registration} (h : a.Before b ∨ b.Before a) :
    b.isFor a.targetCage a.syscall = false := by
  rw [Bool.eq_false_iff]
  intro hfor
  obtain ⟨hcage, hcall⟩ := isFor_iff.mp hfor
  rcases h with hab | hba
  · exact Before.irrefl b ((Before.congr hcage.symm hcall.symm b).mp hab)
  · exact Before.irrefl a ((Before.congr hcage hcall a).mp hba)

end Registration

namespace Bindings

/-! ## Reading -/

/-- **No pair is bound twice**: of two registrations in order that are for the same pair, neither
    comes before the other, so they stand at the same place. -/
theorem eq_of_mem_of_isFor {l : List Registration} (hl : l.Pairwise Registration.Before)
    {a b : Registration} (ha : a ∈ l) (hb : b ∈ l) (hcage : a.targetCage = b.targetCage)
    (hcall : a.syscall = b.syscall) : a = b := by
  induction hl with
  | nil => exact absurd ha List.not_mem_nil
  | @cons x l hx _ ih =>
    rcases List.mem_cons.mp ha with rfl | ha' <;> rcases List.mem_cons.mp hb with rfl | hb'
    · rfl
    · exact absurd ((Registration.Before.congr hcage hcall b).mp (hx b hb'))
        (Registration.Before.irrefl b)
    · exact absurd ((Registration.Before.congr hcage.symm hcall.symm a).mp (hx a ha'))
        (Registration.Before.irrefl a)
    · exact ih ha' hb'

/-- **Reading**: a pair is bound to a binding exactly when its registration is listed. -/
theorem lookup_eq_some_iff {bindings : Bindings} {cage : CageId} {syscall : SyscallNumber}
    {binding : Binding} :
    bindings.lookup cage syscall = some binding ↔ binding.on cage syscall ∈ bindings.entries := by
  unfold lookup
  rw [Option.map_eq_some_iff]
  constructor
  · rintro ⟨r, hfind, hbinding⟩
    have hfor : r.isFor cage syscall = true :=
      (List.find?_some hfind :)
    rw [← Registration.eq_on_iff.mpr ⟨hfor, hbinding⟩]
    exact List.mem_of_find?_eq_some hfind
  · intro hmem
    have hsome : (bindings.entries.find? fun r => r.isFor cage syscall).isSome = true :=
      List.find?_isSome.mpr ⟨_, hmem, Registration.isFor_iff.mpr ⟨rfl, rfl⟩⟩
    obtain ⟨r, hfind⟩ := Option.isSome_iff_exists.mp hsome
    have hfor : r.isFor cage syscall = true :=
      (List.find?_some hfind :)
    obtain ⟨hcage, hcall⟩ := Registration.isFor_iff.mp hfor
    have hr : r = binding.on cage syscall :=
      eq_of_mem_of_isFor bindings.ordered (List.mem_of_find?_eq_some hfind) hmem hcage hcall
    exact ⟨r, hfind, by rw [hr, Binding.binding_on]⟩

theorem lookup_of_mem {bindings : Bindings} {r : Registration} (h : r ∈ bindings.entries) :
    bindings.lookup r.targetCage r.syscall = some r.binding :=
  lookup_eq_some_iff.mpr h

@[simp] theorem lookup_empty (cage : CageId) (syscall : SyscallNumber) :
    empty.lookup cage syscall = none := rfl

/-! ## Writing -/

/-- What is listed after an insertion: the new registration, and the old ones of other pairs. -/
theorem mem_insertOrdered_iff {r y : Registration} {l : List Registration}
    (hl : l.Pairwise Registration.Before) :
    y ∈ insertOrdered r l ↔ y = r ∨ (y ∈ l ∧ y.isFor r.targetCage r.syscall = false) := by
  induction hl with
  | nil => simp [insertOrdered]
  | @cons x xs hx _ ih =>
    unfold insertOrdered
    split
    case isTrue hrx =>
      have hall : ∀ z ∈ x :: xs, z.isFor r.targetCage r.syscall = false := by
        intro z hz
        rcases List.mem_cons.mp hz with rfl | hz
        · exact Registration.isFor_of_before (.inl hrx)
        · exact Registration.isFor_of_before (.inl (hrx.trans (hx z hz)))
      rw [List.mem_cons]
      exact or_congr_right ⟨fun h => ⟨h, hall y h⟩, And.left⟩
    case isFalse hrx =>
      split
      case isTrue hxr =>
        simp only [List.mem_cons, ih]
        have hxfor := Registration.isFor_of_before (.inr hxr)
        constructor
        · rintro (rfl | rfl | ⟨hy, hfor⟩)
          · exact .inr ⟨.inl rfl, hxfor⟩
          · exact .inl rfl
          · exact .inr ⟨.inr hy, hfor⟩
        · rintro (rfl | ⟨rfl | hy, hfor⟩)
          · exact .inr (.inl rfl)
          · exact .inl rfl
          · exact .inr (.inr ⟨hy, hfor⟩)
      case isFalse hxr =>
        -- `x` is for the pair of `r` and gives its place to it
        obtain ⟨hcage, hcall⟩ := same_of_not_before hrx hxr
        have hcage' : x.targetCage = r.targetCage := congrArg CageId.mk hcage.symm
        have hcall' : x.syscall = r.syscall := congrArg SyscallNumber.mk hcall.symm
        have hxfor : x.isFor r.targetCage r.syscall = true :=
          Registration.isFor_iff.mpr ⟨hcage', hcall'⟩
        have hrest : ∀ z ∈ xs, z.isFor r.targetCage r.syscall = false := by
          intro z hz
          have h := Registration.isFor_of_before (.inl (hx z hz))
          rwa [hcage', hcall'] at h
        rw [List.mem_cons, List.mem_cons]
        constructor
        · rintro (rfl | hy)
          · exact .inl rfl
          · exact .inr ⟨.inr hy, hrest y hy⟩
        · rintro (rfl | ⟨rfl | hy, hfor⟩)
          · exact .inl rfl
          · rw [hxfor] at hfor
            exact absurd hfor (by decide)
          · exact .inr hy

/-- **Writing**: an insertion changes the binding of its own pair and of no other. -/
theorem lookup_insert (bindings : Bindings) (r : Registration) (cage : CageId)
    (syscall : SyscallNumber) :
    (bindings.insert r).lookup cage syscall =
      if r.isFor cage syscall then some r.binding else bindings.lookup cage syscall := by
  apply Option.ext
  intro binding
  rw [lookup_eq_some_iff, insert, mem_insertOrdered_iff bindings.ordered]
  by_cases hfor : r.isFor cage syscall = true
  · obtain ⟨hcage, hcall⟩ := Registration.isFor_iff.mp hfor
    have hself : (binding.on cage syscall).isFor r.targetCage r.syscall = true :=
      Registration.isFor_iff.mpr ⟨hcage.symm, hcall.symm⟩
    rw [if_pos hfor, hself, eq_comm, Registration.eq_on_iff, hfor]
    simp
  · have hself : (binding.on cage syscall).isFor r.targetCage r.syscall = false := by
      rw [Bool.eq_false_iff]
      intro h
      obtain ⟨hcage, hcall⟩ := Registration.isFor_iff.mp h
      exact hfor (Registration.isFor_iff.mpr ⟨hcage.symm, hcall.symm⟩)
    rw [if_neg hfor, hself, eq_comm, Registration.eq_on_iff, lookup_eq_some_iff]
    simp [hfor]

/-- **Dropping**: a filter keeps the bindings whose registration it keeps. -/
theorem lookup_filter (bindings : Bindings) (keep : Registration → Bool) (cage : CageId)
    (syscall : SyscallNumber) :
    (bindings.filter keep).lookup cage syscall =
      (bindings.lookup cage syscall).filter fun binding => keep (binding.on cage syscall) := by
  apply Option.ext
  intro binding
  rw [lookup_eq_some_iff, Option.filter_eq_some_iff, lookup_eq_some_iff]
  exact List.mem_filter

theorem lookup_filter_of_keep {bindings : Bindings} {keep : Registration → Bool} {cage : CageId}
    {syscall : SyscallNumber} (h : ∀ binding : Binding, keep (binding.on cage syscall) = true) :
    (bindings.filter keep).lookup cage syscall = bindings.lookup cage syscall := by
  rw [lookup_filter]
  cases bindings.lookup cage syscall with
  | none => rfl
  | some binding => rw [Option.filter_some, if_pos (h binding)]

theorem lookup_filter_of_drop {bindings : Bindings} {keep : Registration → Bool} {cage : CageId}
    {syscall : SyscallNumber} (h : ∀ binding : Binding, keep (binding.on cage syscall) = false) :
    (bindings.filter keep).lookup cage syscall = none := by
  rw [lookup_filter]
  cases bindings.lookup cage syscall with
  | none => rfl
  | some binding => rw [Option.filter_some, h binding, if_neg Bool.false_ne_true]

/-! ## Extensionality -/

/-- Two ordered lists with the same members are the same list. -/
theorem eq_of_mem_iff {k l : List Registration} (hk : k.Pairwise Registration.Before)
    (hl : l.Pairwise Registration.Before) (h : ∀ r, r ∈ k ↔ r ∈ l) : k = l := by
  induction hk generalizing l with
  | nil =>
    cases l with
    | nil => rfl
    | cons y l => exact absurd ((h y).mpr List.mem_cons_self) List.not_mem_nil
  | @cons x k hx hk ih =>
    cases hl with
    | nil => exact absurd ((h x).mp List.mem_cons_self) List.not_mem_nil
    | @cons y l hy hl =>
      -- the heads are each the least member of the same set
      have hxy : x = y := by
        rcases List.mem_cons.mp ((h x).mp List.mem_cons_self) with hxy | hxl
        · exact hxy
        · rcases List.mem_cons.mp ((h y).mpr List.mem_cons_self) with hyx | hyk
          · exact hyx.symm
          · exact absurd ((hx y hyk).trans (hy x hxl)) (Registration.Before.irrefl x)
      subst hxy
      refine congrArg (x :: ·) (ih hl fun r => ?_)
      constructor
      · intro hr
        rcases List.mem_cons.mp ((h r).mp (List.mem_cons_of_mem x hr)) with rfl | hr'
        · exact absurd (hx r hr) (Registration.Before.irrefl r)
        · exact hr'
      · intro hr
        rcases List.mem_cons.mp ((h r).mpr (List.mem_cons_of_mem x hr)) with rfl | hr'
        · exact absurd (hy r hr) (Registration.Before.irrefl r)
        · exact hr'

/-- **Extensionality**: bindings that answer every lookup alike are the same. -/
theorem ext_lookup {b c : Bindings}
    (h : ∀ cage syscall, b.lookup cage syscall = c.lookup cage syscall) : b = c := by
  have hentries : b.entries = c.entries := by
    refine eq_of_mem_iff b.ordered c.ordered fun r => ?_
    have hr := h r.targetCage r.syscall
    constructor
    · intro hb
      exact lookup_eq_some_iff.mp (hr ▸ lookup_of_mem hb)
    · intro hc
      exact lookup_eq_some_iff.mp (hr.symm ▸ lookup_of_mem hc)
  cases b
  cases c
  exact (Bindings.mk.injEq ..).mpr hentries

/-- Making a registration that is there already changes nothing. -/
theorem insert_of_lookup {bindings : Bindings} {r : Registration}
    (h : bindings.lookup r.targetCage r.syscall = some r.binding) :
    bindings.insert r = bindings := by
  apply ext_lookup
  intro cage syscall
  rw [lookup_insert]
  split
  case isTrue hfor =>
    obtain ⟨rfl, rfl⟩ := Registration.isFor_iff.mp hfor
    exact h.symm
  case isFalse => rfl

/-! ## Counting -/

/-- What a filter keeps and what it drops add up to what there was. -/
theorem size_filter_add (bindings : Bindings) (keep : Registration → Bool) :
    (bindings.filter keep).size + (bindings.filter fun r => !keep r).size = bindings.size := by
  simp only [size, filter, ← List.countP_eq_length_filter]
  rw [List.length_eq_countP_add_countP keep (l := bindings.entries)]
  refine congrArg (_ + ·) (List.countP_congr fun r _ => ?_)
  simp

end Bindings

end Interposition
