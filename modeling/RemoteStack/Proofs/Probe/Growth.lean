import RemoteStack.Proofs.Memory.Separate
import RemoteStack.Proofs.Probe.Strict

/-!
# Memories that answer more

A memory is `Within` a larger one that answers each read that it answers, and in the same way:
the larger one may answer others. An image is within each image of separate regions that has
all of its regions (`within_ofImage`), as a region that lies next to one of them neither
answers for it nor lengthens what it answers. A strict probe cannot tell the two memories apart
unless it failed on a read that the smaller one does not answer (`Strict.run_grown`).
-/

namespace RemoteStack

/-- The failure is that of a read that the memory did not answer. -/
def DecodeError.IsUnreadable : DecodeError → Prop
  | .unreadableMemory .. => True
  | _ => False

/-- Each answer of the memory is the answer of the larger one. -/
def Memory.Within (memory larger : Memory) : Prop :=
  ∀ n address length bytes, memory n address length = .ok bytes →
    larger n address length = .ok bytes

/-- Regions that are added apart from those of an image leave its answers as they are. -/
theorem Memory.within_ofImage {image larger : MemoryImage} (separate : larger.Separate)
    (added : ∀ region ∈ image.regions, region ∈ larger.regions) :
    (Memory.ofImage image).Within (.ofImage larger) := by
  intro n address length bytes answered
  show larger.read address length = .ok bytes
  obtain ⟨region, found, covers, rfl⟩ := MemoryImage.read_eq_ok_iff.1 answered
  have keeps := separate.keeps (added region (MemoryImage.mem_of_region? found))
  exact keeps.read_of_covers covers length

namespace Probe

variable {α : Type} {memory larger : Memory}

/-- A strict probe runs on a larger memory as it did, or else it met a read that was not
answered. -/
theorem Strict.run_grown {probe : Probe α} (h : probe.Strict) (within : memory.Within larger)
    (served : Nat) :
    probe.run larger served = probe.run memory served ∨
      ∃ error, (probe.run memory served).outcome = .error error ∧ error.IsUnreadable := by
  induction probe generalizing served with
  | done | failed | overflow => exact .inl rfl
  | report event rest ih =>
    rcases ih h served with same | unreadable
    · exact .inl (by simp only [run, same])
    · exact .inr unreadable
  | ask address length rest ih =>
    cases answered : memory served address length with
    | ok bytes =>
      have answer := within served address length bytes answered
      simp only [run, answered, answer]
      rcases ih (.ok bytes) (h.1 _) (served + 1) with same | unreadable
      · exact .inl (by rw [same])
      · exact .inr unreadable
    | error source =>
      -- whatever the larger memory answers, the probe ended here on the smaller one
      obtain ⟨context, failed⟩ := h.2 source
      refine .inr ⟨.unreadableMemory address length context source, ?_, trivial⟩
      simp only [run, answered, failed]

end Probe

end RemoteStack
