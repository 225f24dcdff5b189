/-
  Writing among others.

  A file is written in as many writes as it takes, the others have their turns in between, and a
  write may take any part of what it is given.  What has to be known is what each of the writes
  does; `meets_writeAll` says what then becomes of the whole.
-/
import Interposition.Proofs.Host.Contract

namespace Interposition.Program

variable {World : Type} {os : OperatingSystem World} {contract : Contract World} {file : FileHandle}
  {bytes : List UInt8} {world : World}

/-- **Writing**: if what is known of the bytes written so far is not made false by the others, and a
    write adds to it the bytes it has taken, then it is known of all the bytes in the end, or an
    error is reported. -/
theorem meets_writeAll (holds : List UInt8 → World → Prop)
    (hstable : ∀ written, contract.Stable (holds written))
    (hwrite : ∀ written rest now answer between, holds written now → contract.invariant now →
      os.answers now (.write file rest) answer between →
      contract.Allows now (.asks (.write file rest)) between ∧
        match answer with
        | .ok count => holds (written ++ rest.take count) between
        | .error _ => holds written between)
    (hstart : holds [] world) :
    (writeAll file bytes).Meets os contract
      (fun result now => (∃ written, holds written now) ∧ (result = .ok () → holds bytes now))
      world := by
  refine meets_iterate
    (fun rest now => ∃ written, written ++ rest = bytes ∧ holds written now) ?_ ?_ ?_
  · rintro rest now next ⟨written, hbytes, hholds⟩ hrely hinv
    exact ⟨written, hbytes, hstable written hholds hrely hinv⟩
  · exact ⟨[], rfl, hstart⟩
  · rintro rest now - ⟨written, hbytes, hholds⟩
    split
    · next hempty =>
      rw [List.isEmpty_iff.mp hempty, List.append_nil] at hbytes
      subst hbytes
      exact ⟨⟨_, hholds⟩, fun _ => hholds⟩
    · have hround : (request (.write file rest)).Meets os contract (fun answer later =>
          ∃ written, holds written later ∧ written ++ (match answer with
            | .ok count => rest.drop count
            | .error _ => rest) = bytes) now := by
        refine meets_request fun later hrely hinv answer between hanswer => ?_
        obtain ⟨hallows, hnext⟩ :=
          hwrite written rest later answer between (hstable written hholds hrely hinv) hinv hanswer
        cases answer with
        | ok count =>
          refine ⟨hallows, _, hnext, ?_⟩
          rw [List.append_assoc, List.take_append_drop, hbytes]
        | error e => exact ⟨hallows, written, hnext, hbytes⟩
      refine hround.bind fun answer later hlater => ?_
      obtain ⟨written, hholds, hbytes⟩ := hlater
      cases answer with
      | ok count =>
        cases count with
        | zero => exact ⟨⟨written, hholds⟩, nofun⟩
        | succ count => exact ⟨written, hbytes, hholds⟩
      | error e =>
        by_cases heintr : e.errno? = some .eintr
        · simp only [if_pos heintr]
          exact ⟨written, hbytes, hholds⟩
        · simp only [if_neg heintr]
          exact ⟨⟨written, hholds⟩, nofun⟩

end Interposition.Program
