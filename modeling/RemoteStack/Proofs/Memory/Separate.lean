import Mathlib.Data.List.Nodup
import RemoteStack.Proofs.Memory.Region

/-!
# Which region answers

What an image does, said by the regions that it has:

* **regions** — no two of them start at one address (`eq_of_start_eq`), so the regions after an
  operation are those before it but for the one that starts where the operation says
  (`mem_map`, `mem_unmap`, `bytesAt?_eq_some_iff`);
* **answers** — a read brings a slice of the region that is nearest below the address, and a
  write goes into that region (`read_eq_ok_iff`, `write_of_region?`), or else the address is not
  mapped (`read_eq_error`, `write_eq_error`);
* **separate regions** — where the image `Keeps` a region apart from the others, as it does each
  of regions that are `Separate`, the region answers for all of its addresses
  (`Keeps.read_of_covers`), and what is written to it stays within it (`Keeps.write`).
-/

namespace RemoteStack

namespace MemoryImage

variable {image : MemoryImage} {region other : Region} {start address : Address}
  {bytes patch : Bytes} {length : Nat}

/-! ## Regions by their starts -/

theorem nodup_starts (image : MemoryImage) : (image.regions.map (·.start)).Nodup := by
  refine List.pairwise_map.2 (image.descending.imp ?_)
  intro high low lower same
  rw [same] at lower
  exact Nat.lt_irrefl _ lower

theorem eq_of_start_eq (mem : region ∈ image.regions) (hother : other ∈ image.regions)
    (same : region.start = other.start) : region = other :=
  List.inj_on_of_nodup_map image.nodup_starts mem hother same

theorem mem_map : region ∈ (image.map start bytes).regions ↔
    region = ⟨start, bytes⟩ ∨ region ∈ image.regions ∧ region.start ≠ start := by
  constructor
  · intro mem
    by_cases same : region.start = start
    · exact .inl (eq_of_start_eq mem (mem_insert_self _ _) same)
    · rcases mem_of_mem_insert mem with rfl | mem
      · exact absurd rfl same
      · exact .inr ⟨mem, same⟩
  · rintro (rfl | ⟨mem, elsewhere⟩)
    · exact mem_insert_self _ _
    · exact mem_insert_of_mem mem fun same => elsewhere (Address.ext_toNat same)

theorem mem_unmap : region ∈ (image.unmap start).regions ↔
    region ∈ image.regions ∧ region.start ≠ start := by
  simp [unmap, List.mem_filter]

theorem bytesAt?_eq_some_iff :
    image.bytesAt? start = some bytes ↔ ⟨start, bytes⟩ ∈ image.regions := by
  constructor
  · intro h
    obtain ⟨region, found, rfl⟩ := Option.map_eq_some_iff.1 h
    obtain rfl : region.start = start := by simpa using List.find?_some found
    exact List.mem_of_find?_eq_some found
  · intro mem
    cases found : image.regions.find? (·.start == start) with
    | none =>
      have := List.find?_eq_none.1 found _ mem
      simp at this
    | some region =>
      have same : region.start = start := by simpa using List.find?_some found
      have := eq_of_start_eq (List.mem_of_find?_eq_some found) mem same
      rw [bytesAt?, found, this]
      rfl

/-! ## Answers -/

theorem mem_of_region? (found : image.region? address = some region) : region ∈ image.regions :=
  List.mem_of_find?_eq_some found

theorem start_le_of_region? (found : image.region? address = some region) :
    region.start.toNat ≤ address.toNat := by
  simpa using List.find?_some found

theorem read_eq_error (outside : ∀ region, image.region? address = some region →
    ¬region.Covers address.toNat) (length : Nat) :
    image.read address length = .error (.unmapped address) := by
  unfold read
  cases found : image.region? address with
  | none => rfl
  | some region =>
    have past : region.bytes.length ≤ address.toNat - region.start.toNat := by
      have from_start := start_le_of_region? found
      have := outside region found
      simp only [Region.Covers] at this
      omega
    dsimp only
    rw [List.drop_eq_nil_of_le past]

theorem read_eq_ok_iff : image.read address length = .ok bytes ↔
    ∃ region, image.region? address = some region ∧ region.Covers address.toNat ∧
      bytes = region.bytes.slice (address.toNat - region.start.toNat) length := by
  constructor
  · intro h
    by_contra outside
    rw [read_eq_error ?_ length] at h
    · cases h
    · intro region found covers
      refine outside ⟨region, found, covers, ?_⟩
      rw [read_of_region? found covers] at h
      exact (Except.ok.inj h).symm
  · rintro ⟨region, found, covers, rfl⟩
    exact read_of_region? found covers length

theorem length_le_of_read (answered : image.read address length = .ok bytes) :
    bytes.length ≤ length := by
  obtain ⟨region, _, _, rfl⟩ := read_eq_ok_iff.1 answered
  exact List.length_take_le _ _

/-- A shorter read brings the front of what a longer one brings. -/
theorem read_take (answered : image.read address length = .ok bytes) {shorter : Nat}
    (le : shorter ≤ length) : image.read address shorter = .ok (bytes.take shorter) := by
  obtain ⟨region, found, covers, rfl⟩ := read_eq_ok_iff.1 answered
  refine read_eq_ok_iff.2 ⟨region, found, covers, ?_⟩
  rw [Bytes.slice, List.take_take, Nat.min_eq_left le]
  rfl

theorem write_of_region? (found : image.region? address = some region)
    (within : address.toNat - region.start.toNat + patch.length ≤ region.bytes.length) :
    image.write address patch = .ok (image.map region.start
      (overwrite region.bytes (address.toNat - region.start.toNat) patch)) := by
  unfold write
  rw [found]
  exact if_pos within

theorem write_eq_error (outside : ∀ region, image.region? address = some region →
    region.bytes.length < address.toNat - region.start.toNat + patch.length) :
    image.write address patch = .error (.unmapped address) := by
  unfold write
  cases found : image.region? address with
  | none => rfl
  | some region => exact if_neg (Nat.not_le.2 (outside region found))

/-! ## Separate regions -/

/-- The regions of the image are not empty and share no byte. -/
structure Separate (image : MemoryImage) : Prop where
  nonEmpty : ∀ region ∈ image.regions, region.bytes ≠ []
  apart : ∀ region ∈ image.regions, ∀ other ∈ image.regions, other ≠ region → other.Apart region

instance (image : MemoryImage) : Decidable image.Separate :=
  decidable_of_iff
    ((∀ region ∈ image.regions, region.bytes ≠ []) ∧
      ∀ region ∈ image.regions, ∀ other ∈ image.regions, other ≠ region → other.Apart region)
    ⟨fun h => ⟨h.1, h.2⟩, fun h => ⟨h.nonEmpty, h.apart⟩⟩

/-- The image has the region, and no other one reaches into it. -/
structure Keeps (image : MemoryImage) (region : Region) : Prop where
  mem : region ∈ image.regions
  apart : ∀ other ∈ image.regions, other ≠ region → other.Apart region

theorem Separate.keeps (h : image.Separate) (mem : region ∈ image.regions) :
    image.Keeps region :=
  ⟨mem, h.apart region mem⟩

namespace Keeps

theorem region?_eq (h : image.Keeps region) (covers : region.Covers address.toNat) :
    image.region? address = some region :=
  region?_of_mem h.mem h.apart covers

theorem read_of_covers (h : image.Keeps region) (covers : region.Covers address.toNat)
    (length : Nat) : image.read address length =
      .ok (region.bytes.slice (address.toNat - region.start.toNat) length) :=
  read_of_region? (h.region?_eq covers) covers length

/-- The image shows what stands within a kept region. -/
theorem shows (h : image.Keeps region) (nonNull : ¬start.isNull)
    (from_start : region.start.toNat ≤ start.toNat)
    (within : start.toNat + length ≤ region.start.toNat + region.bytes.length)
    (inSpace : start.toNat + length ≤ UInt64.size) :
    image.Shows ⟨start, region.bytes.slice (start.toNat - region.start.toNat) length⟩ := by
  have part : (region.bytes.slice (start.toNat - region.start.toNat) length).length = length :=
    Bytes.length_slice (by omega)
  refine ⟨nonNull, by rwa [part], ?_⟩
  intro offset shorter inside upTo
  rw [part] at inside upTo
  have place : (Address.ofNat (start.toNat + offset)).toNat = start.toNat + offset :=
    Address.toNat_ofNat (by omega)
  have covers : region.Covers (Address.ofNat (start.toNat + offset)).toNat := by
    rw [place]
    exact ⟨by omega, by omega⟩
  rw [h.read_of_covers covers, place, Bytes.slice_slice _ _ upTo, Nat.sub_add_comm from_start]

/-- A region that is mapped apart from those that start elsewhere is kept. -/
theorem map (apart : ∀ other ∈ image.regions, other.start ≠ start →
    other.Apart ⟨start, bytes⟩) : (image.map start bytes).Keeps ⟨start, bytes⟩ := by
  refine ⟨mem_map.2 (.inl rfl), ?_⟩
  intro other hother ne
  rcases mem_map.1 hother with rfl | ⟨hother, elsewhere⟩
  · exact absurd rfl ne
  · exact apart other hother elsewhere

/-- A write within a kept region succeeds, and the image keeps the region with the bytes
overwritten. -/
theorem write (h : image.Keeps region) {offset : Nat} (pos : patch ≠ [])
    (within : offset + patch.length ≤ region.bytes.length)
    (place : address.toNat = region.start.toNat + offset) :
    image.write address patch = .ok (image.map region.start (overwrite region.bytes offset patch)) ∧
      (image.map region.start (overwrite region.bytes offset patch)).Keeps
        ⟨region.start, overwrite region.bytes offset patch⟩ := by
  have length := List.length_pos_iff.2 pos
  have covers : region.Covers address.toNat := by
    rw [place]
    exact ⟨Nat.le_add_right _ _, by omega⟩
  constructor
  · rw [write_of_region? (h.region?_eq covers) (by omega), place, Nat.add_sub_cancel_left]
  · apply Keeps.map
    intro other hother elsewhere
    -- overwriting does not move the end of the region
    have apart := h.apart other hother fun same => elsewhere (congrArg Region.start same)
    simpa only [Region.Apart, length_overwrite within] using apart

end Keeps

end MemoryImage

end RemoteStack
