import RemoteStack.Proofs.Memory.Refinement

/-!
# Coherence of answers

An image is `Coherent` if no address has two answers: each byte of the answer to a read is the
answer to a read of the byte's own address. Nothing keeps regions from overlapping, and where
they do, the image is not coherent (`overlap_not_coherent`). What holds whatever was mapped:

* **prefix** — an answer is coherent as far as no region starts within it (`read_coherent`),
  because until then the same region is the nearest below;
* **separate regions** — no region starts within another one, so that images of separate
  regions are coherent (`Separate.coherent`).
-/

namespace RemoteStack.MemoryImage

/-- Each byte of an answer is the answer to a read of the byte's own address, if there is such
an address. -/
def Coherent (image : MemoryImage) : Prop :=
  ∀ address length bytes, image.read address length = .ok bytes →
    ∀ i (within : i < bytes.length), address.toNat + i < UInt64.size →
      image.read (.ofNat (address.toNat + i)) 1 = .ok [bytes[i]]

variable {image : MemoryImage} {region : Region} {address other : Address} {length : Nat}
  {bytes : Bytes}

/-- Where no region starts in between, the region of an address answers for a later one. -/
theorem region?_of_le (found : image.region? address = some region)
    (later : address.toNat ≤ other.toNat)
    (alone : ∀ next ∈ image.regions,
      ¬(address.toNat < next.start.toNat ∧ next.start.toNat ≤ other.toNat)) :
    image.region? other = some region := by
  obtain ⟨start_le, above, below, split, higher⟩ := List.find?_eq_some_iff_append.1 found
  have start_le : region.start.toNat ≤ address.toNat := by simpa using start_le
  refine List.find?_eq_some_iff_append.2 ⟨?_, above, below, split, ?_⟩
  · simpa using Nat.le_trans start_le later
  · intro next hnext
    have inImage : next ∈ image.regions := by
      rw [split]
      exact List.mem_append_left _ hnext
    have past : address.toNat < next.start.toNat := by simpa using higher next hnext
    have := alone next inImage
    simp only [Bool.not_eq_true', decide_eq_false_iff_not, Nat.not_le]
    omega

/-- Whatever the regions are, an answer is coherent as far as none of them starts within it. -/
theorem read_coherent (answered : image.read address length = .ok bytes) {i : Nat}
    (within : i < bytes.length) (inSpace : address.toNat + i < UInt64.size)
    (alone : ∀ next ∈ image.regions,
      ¬(address.toNat < next.start.toNat ∧ next.start.toNat ≤ address.toNat + i)) :
    image.read (.ofNat (address.toNat + i)) 1 = .ok [bytes[i]] := by
  obtain ⟨region, found, covers, rfl⟩ := read_eq_ok_iff.1 answered
  have place : (Address.ofNat (address.toNat + i)).toNat = address.toNat + i :=
    Address.toNat_ofNat inSpace
  have found' : image.region? (.ofNat (address.toNat + i)) = some region := by
    apply region?_of_le found
    · rw [place]
      exact Nat.le_add_right _ _
    · rw [place]
      exact alone
  have start_le := covers.1
  simp only [Bytes.slice, List.length_take, List.length_drop] at within
  have covers' : region.Covers (Address.ofNat (address.toNat + i)).toNat := by
    rw [place]
    constructor <;> omega
  have offset : address.toNat + i - region.start.toNat =
      address.toNat - region.start.toNat + i := by omega
  rw [read_of_region? found' covers', place, offset, Bytes.slice,
    List.drop_eq_getElem_cons (by omega), List.take_succ_cons, List.take_zero]
  simp only [Bytes.slice, List.getElem_take, List.getElem_drop]

/-- No region starts within another one. -/
theorem Separate.coherent (h : image.Separate) : image.Coherent := by
  intro address length bytes answered i within inSpace
  apply read_coherent answered within inSpace
  rintro next hnext ⟨past, upTo⟩
  obtain ⟨region, found, covers, rfl⟩ := read_eq_ok_iff.1 answered
  have start_le := covers.1
  simp only [Bytes.slice, List.length_take, List.length_drop] at within
  have nextLength := List.length_pos_iff.2 (h.nonEmpty next hnext)
  have distinct : next ≠ region := by
    rintro rfl
    omega
  rcases h.apart region (mem_of_region? found) next hnext distinct with before | after <;> omega

/-- After any operations an answer is coherent as far as no region starts within it; and if
nothing that was mapped reaches into a region that starts elsewhere, all answers are coherent. -/
theorem performAll_coherent (operations : List Operation) :
    let image := operations.foldl perform empty
    (∀ address length bytes, image.read address length = .ok bytes →
      ∀ i (within : i < bytes.length), address.toNat + i < UInt64.size →
        (∀ next ∈ image.regions,
          ¬(address.toNat < next.start.toNat ∧ next.start.toNat ≤ address.toNat + i)) →
        image.read (.ofNat (address.toNat + i)) 1 = .ok [bytes[i]]) ∧
      (ByteMap.empty.AdmitsAll operations → image.Coherent) := by
  intro image
  constructor
  · intro address length bytes answered i within inSpace alone
    exact read_coherent answered within inSpace alone
  · intro admits
    exact (separate_empty.performAll admits).1.coherent

/-- A region that is mapped into another one answers instead of it, but only when it is read
from its own start on. -/
theorem overlap_not_coherent :
    ¬∀ operations : List Operation, (operations.foldl perform empty).Coherent := by
  intro coherent
  have answer := coherent [.map (.ofNat 4096) [1, 2, 3, 4], .map (.ofNat 4098) [255]]
    (.ofNat 4096) 4 [1, 2, 3, 4] (by decide +kernel) 2 (by decide) (by decide +kernel)
  exact absurd answer (by decide +kernel)

end RemoteStack.MemoryImage
