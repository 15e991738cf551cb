import RemoteStack.Memory.Image

/-!
# Reading the memory of a process

A `Memory` is whatever answers reads: it is told how many reads came before, so that the
process may change between two of them. A captured image is the memory that does not
change (`Memory.ofImage`), and `Memory.withFaults` disturbs single reads of another memory.
-/

namespace RemoteStack

/-- Answers the read of a number of bytes at an address, given how many reads came before:
with at most as many bytes as were asked for, or with the reason why there are none. -/
abbrev Memory : Type := Nat → Address → Nat → Except AccessError Bytes

inductive Disturbance where
  | fail (text : String)
  /-- No more than the first bytes of the answer arrive. -/
  | short (length : Nat)
  deriving DecidableEq, Repr

/-- The disturbance of the read that a number of reads came before. -/
structure Fault where
  read : Nat
  disturbance : Disturbance
  deriving DecidableEq, Repr

namespace Memory

/-- The memory that a captured image answers for. -/
def ofImage (image : MemoryImage) : Memory := fun _ address length => image.read address length

/-- The memory of a process that cannot be reached: nothing is mapped. -/
def unmapped : Memory := fun _ address _ => .error (.unmapped address)

/-- The memory with some reads disturbed; of several faults of a read the first counts. -/
def withFaults (memory : Memory) (faults : List Fault) : Memory := fun n address length =>
  match faults.find? (·.read == n) with
  | none => memory n address length
  | some ⟨_, .fail text⟩ => .error (.refused text)
  | some ⟨_, .short most⟩ => (memory n address length).map (·.take most)

end Memory

end RemoteStack
