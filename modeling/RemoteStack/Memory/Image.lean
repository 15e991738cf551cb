import RemoteStack.DecodeError
import RemoteStack.LittleEndian

/-!
# Captured memory

A `MemoryImage` is a set of regions of captured bytes, at most one of which starts at each
address. An address is answered by the region with the greatest start that is not above
it: the regions stand in descending order of their starts, so that this is the first one
to start at or below the address. Nothing keeps regions from overlapping. Where two do, the one
that starts nearer answers, and where that one ends, nothing does.
-/

namespace RemoteStack

/-- Captured bytes and the address that they start at. -/
structure Region where
  start : Address
  bytes : Bytes
  deriving DecidableEq, Repr

/-- The memory captured from a process. -/
structure MemoryImage where
  regions : List Region
  /-- The regions stand in descending order of their starts. -/
  descending : regions.Pairwise fun high low => low.start.toNat < high.start.toNat

namespace MemoryImage

def empty : MemoryImage := ⟨[], .nil⟩

/-! ## Regions -/

/-- Puts a region at its place, instead of one that starts at the same address. -/
def insert (region : Region) : List Region → List Region
  | [] => [region]
  | head :: rest =>
    if head.start.toNat < region.start.toNat then region :: head :: rest
    else if head.start.toNat = region.start.toNat then region :: rest
    else head :: insert region rest

theorem mem_of_mem_insert {region other : Region} {regions : List Region}
    (h : other ∈ insert region regions) : other = region ∨ other ∈ regions := by
  induction regions with
  | nil => simpa [insert] using h
  | cons head rest ih =>
    unfold insert at h
    split at h
    · simpa using h
    · split at h
      · rcases List.mem_cons.1 h with h | h
        · exact .inl h
        · exact .inr (List.mem_cons_of_mem _ h)
      · rcases List.mem_cons.1 h with h | h
        · exact .inr (h ▸ List.mem_cons_self)
        · exact (ih h).imp_right (List.mem_cons_of_mem _)

theorem pairwise_insert (region : Region) {regions : List Region}
    (h : regions.Pairwise fun high low => low.start.toNat < high.start.toNat) :
    (insert region regions).Pairwise fun high low => low.start.toNat < high.start.toNat := by
  induction regions with
  | nil => simp [insert]
  | cons head rest ih =>
    have ⟨above, rest_descending⟩ := List.pairwise_cons.1 h
    unfold insert
    split
    · refine List.pairwise_cons.2 ⟨fun low mem => ?_, h⟩
      rcases List.mem_cons.1 mem with rfl | mem
      · assumption
      · have := above low mem; omega
    · split
      · refine List.pairwise_cons.2 ⟨fun low mem => ?_, rest_descending⟩
        have := above low mem; omega
      · refine List.pairwise_cons.2 ⟨fun low mem => ?_, ih rest_descending⟩
        rcases mem_of_mem_insert mem with rfl | mem
        · omega
        · exact above low mem

/-- The region that answers for an address: the nearest one to start at or below it. -/
def region? (image : MemoryImage) (address : Address) : Option Region :=
  image.regions.find? fun region => region.start.toNat ≤ address.toNat

/-! ## Changing the image -/

/-- Maps bytes at an address, instead of a region that starts there. -/
def map (image : MemoryImage) (start : Address) (bytes : Bytes) : MemoryImage :=
  ⟨insert ⟨start, bytes⟩ image.regions, pairwise_insert _ image.descending⟩

/-- The bytes of the region that starts at an address. -/
def bytesAt? (image : MemoryImage) (start : Address) : Option Bytes :=
  (image.regions.find? (·.start == start)).map (·.bytes)

/-- Removes the region that starts at an address. -/
def unmap (image : MemoryImage) (start : Address) : MemoryImage :=
  ⟨image.regions.filter (·.start != start), image.descending.filter _⟩

/-- The bytes with those from `offset` on overwritten. -/
def overwrite (bytes : Bytes) (offset : Nat) (patch : Bytes) : Bytes :=
  bytes.take offset ++ patch ++ bytes.drop (offset + patch.length)

def write (image : MemoryImage) (address : Address) (patch : Bytes) :
    Except AccessError MemoryImage :=
  match image.region? address with
  | none => .error (.unmapped address)
  | some region =>
    let offset := address.toNat - region.start.toNat
    if offset + patch.length ≤ region.bytes.length then
      .ok (image.map region.start (overwrite region.bytes offset patch))
    else .error (.unmapped address)

/-! ## Reading -/

/-- At most `length` bytes from the address to the end of its region. An address without a
region, or at the end of one, is not mapped, even when no bytes are asked for. -/
def read (image : MemoryImage) (address : Address) (length : Nat) : Except AccessError Bytes :=
  match image.region? address with
  | none => .error (.unmapped address)
  | some region =>
    match region.bytes.drop (address.toNat - region.start.toNat) with
    | [] => .error (.unmapped address)
    | rest => .ok (rest.take length)

end MemoryImage

end RemoteStack
