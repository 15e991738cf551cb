import RemoteStack.Proofs.Memory.ByteMap

/-!
# Images refine byte maps

While every region that is mapped is not empty and shares no byte with the regions that start
elsewhere, an image after any operations answers as the byte map after the same operations
does (`performAll_refines`):

* **view** — the cells of an image are those of its regions (`MemoryImage.cells`), and where
  the regions are separate each region shows all of its cells (`Separate.cells_of_covers`);
* **step** — an admitted operation changes the view as it changes a byte map, and leaves the
  regions separate (`Separate.perform`);
* **answers** — reads, writes and removals answer what the view says (`Separate.refines`).
-/

namespace RemoteStack

/-! ## The view of an image -/

namespace MemoryImage

/-- What the regions of the image have at each address. -/
def cells (image : MemoryImage) : ByteMap := fun n => image.regions.findSome? (·.cell? n)

/-- A write that fails leaves the image as it is. -/
def perform (image : MemoryImage) : Operation → MemoryImage
  | .map start bytes => image.map start bytes
  | .unmap start => image.unmap start
  | .write address patch =>
    match image.write address patch with
    | .ok written => written
    | .error _ => image

variable {image : MemoryImage} {region other : Region} {start address : Address}
  {bytes patch : Bytes} {n : Nat} {cell : Cell}

theorem exists_region_of_cells (h : image.cells n = some cell) :
    ∃ region ∈ image.regions, region.cell? n = some cell :=
  List.exists_of_findSome?_eq_some h

namespace Separate

/-- An address lies in one region at most. -/
theorem eq_of_covers (h : image.Separate) (mem : region ∈ image.regions)
    (hother : other ∈ image.regions) (covers : region.Covers n) (covers' : other.Covers n) :
    other = region := by
  by_contra distinct
  obtain ⟨_, _⟩ := covers
  obtain ⟨_, _⟩ := covers'
  rcases h.apart region mem other hother distinct with before | after <;> omega

/-- Each region shows all of its cells. -/
theorem cells_of_covers (h : image.Separate) (mem : region ∈ image.regions)
    (covers : region.Covers n) : image.cells n = region.cell? n := by
  cases found : image.cells n with
  | none =>
    have := List.findSome?_eq_none_iff.1 found region mem
    exact this.symm
  | some cell =>
    obtain ⟨other, hother, hcell⟩ := exists_region_of_cells found
    obtain rfl := h.eq_of_covers mem hother covers (Region.covers_of_cell? hcell)
    exact hcell.symm

theorem cells_eq_some_iff (h : image.Separate) :
    image.cells n = some cell ↔ ∃ region ∈ image.regions, region.cell? n = some cell := by
  refine ⟨exists_region_of_cells, ?_⟩
  rintro ⟨region, mem, hcell⟩
  rw [h.cells_of_covers mem (Region.covers_of_cell? hcell), hcell]

/-! ## Operations on the view -/

theorem unmap (h : image.Separate) (start : Address) : (image.unmap start).Separate where
  nonEmpty region mem := h.nonEmpty region (mem_unmap.1 mem).1
  apart region mem other hother :=
    h.apart region (mem_unmap.1 mem).1 other (mem_unmap.1 hother).1

theorem cells_unmap (h : image.Separate) (start : Address) :
    (image.unmap start).cells = image.cells.unmap start := by
  funext n
  apply Option.ext
  intro cell
  rw [(h.unmap start).cells_eq_some_iff, ByteMap.unmap, Option.filter_eq_some_iff,
    h.cells_eq_some_iff]
  constructor
  · rintro ⟨region, mem, hcell⟩
    obtain ⟨mem, elsewhere⟩ := mem_unmap.1 mem
    refine ⟨⟨region, mem, hcell⟩, ?_⟩
    rw [(Region.cell?_eq_some_iff.1 hcell).2.1]
    exact bne_iff_ne.2 elsewhere
  · rintro ⟨⟨region, mem, hcell⟩, elsewhere⟩
    rw [(Region.cell?_eq_some_iff.1 hcell).2.1] at elsewhere
    exact ⟨region, mem_unmap.2 ⟨mem, bne_iff_ne.1 elsewhere⟩, hcell⟩

/-- What may be mapped lies apart from the regions that start elsewhere. -/
theorem apart_of_admits (h : image.Separate) (admits : image.cells.Admits (.map start bytes)) :
    ∀ other ∈ image.regions, other.start ≠ start → other.Apart ⟨start, bytes⟩ := by
  obtain ⟨nonEmpty, free⟩ := admits
  intro other hother elsewhere
  have length := List.length_pos_iff.2 nonEmpty
  have otherLength := List.length_pos_iff.2 (h.nonEmpty other hother)
  by_contra meet
  simp only [Region.Apart, not_or, Nat.not_le] at meet
  -- neither is empty, so two that are not apart share the byte at the later of their starts
  have covers : other.Covers (start.toNat + (other.start.toNat - start.toNat)) := by
    constructor <;> omega
  obtain ⟨byte, _, hcell⟩ := Region.exists_cell_of_covers covers
  have shared := free (other.start.toNat - start.toNat) (by omega) ⟨other.start, byte⟩
    (by rw [Option.mem_def, h.cells_of_covers hother covers, hcell])
  exact elsewhere shared

theorem map (h : image.Separate) (admits : image.cells.Admits (.map start bytes)) :
    (image.map start bytes).Separate where
  nonEmpty region mem := by
    rcases mem_map.1 mem with rfl | ⟨mem, _⟩
    · exact admits.1
    · exact h.nonEmpty region mem
  apart region mem other hother ne := by
    have apart := h.apart_of_admits admits
    rcases mem_map.1 mem with rfl | ⟨mem, elsewhere⟩
    · rcases mem_map.1 hother with rfl | ⟨hother, otherElsewhere⟩
      · exact absurd rfl ne
      · exact apart other hother otherElsewhere
    · rcases mem_map.1 hother with rfl | ⟨hother, _⟩
      · exact (apart region mem elsewhere).symm
      · exact h.apart region mem other hother ne

theorem cells_map (h : image.Separate) (admits : image.cells.Admits (.map start bytes)) :
    (image.map start bytes).cells = image.cells.map start bytes := by
  funext n
  apply Option.ext
  intro cell
  rw [(h.map admits).cells_eq_some_iff, ByteMap.map, ← h.cells_unmap, Option.or_eq_some_iff,
    (h.unmap start).cells_eq_some_iff]
  constructor
  · rintro ⟨region, mem, hcell⟩
    rcases mem_map.1 mem with rfl | ⟨mem, elsewhere⟩
    · exact .inl hcell
    · refine .inr ⟨?_, region, mem_unmap.2 ⟨mem, elsewhere⟩, hcell⟩
      -- the new region is apart from the one that has the cell
      cases hnew : Region.cell? ⟨start, bytes⟩ n with
      | none => rfl
      | some new =>
        obtain ⟨_, _⟩ := Region.covers_of_cell? hcell
        obtain ⟨_, _⟩ := Region.covers_of_cell? hnew
        rcases h.apart_of_admits admits region mem elsewhere with before | after <;> omega
  · rintro (hcell | ⟨_, region, mem, hcell⟩)
    · exact ⟨_, mem_map.2 (.inl rfl), hcell⟩
    · exact ⟨region, mem_map.2 (.inr (mem_unmap.1 mem)), hcell⟩

/-- A write within a region is admitted as a mapping that replaces the region. -/
theorem admits_overwrite (h : image.Separate) (mem : region ∈ image.regions) {offset : Nat}
    (within : offset + patch.length ≤ region.bytes.length) :
    image.cells.Admits (.map region.start (overwrite region.bytes offset patch)) := by
  have length := length_overwrite within
  refine ⟨?_, ?_⟩
  · rw [← List.length_pos_iff, length, List.length_pos_iff]
    exact h.nonEmpty region mem
  · intro i hi cell hcell
    have covers : region.Covers (region.start.toNat + i) := by
      constructor <;> omega
    rw [Option.mem_def, h.cells_of_covers mem covers] at hcell
    exact (Region.cell?_eq_some_iff.1 hcell).2.1

theorem cells_write (h : image.Separate) (mem : region ∈ image.regions) {offset : Nat}
    (within : offset + patch.length ≤ region.bytes.length)
    (place : address.toNat = region.start.toNat + offset) :
    (image.map region.start (overwrite region.bytes offset patch)).cells =
      image.cells.write address.toNat patch := by
  funext n
  rw [h.cells_map (h.admits_overwrite mem within), ByteMap.map, ByteMap.write, Region.cell?,
    Bytes.at?_overwrite within, place]
  by_cases covers : region.Covers n
  · obtain ⟨byte, hbyte, hcell⟩ := Region.exists_cell_of_covers covers
    have old : region.bytes.at? region.start.toNat n = some byte := by
      rw [Bytes.at?, if_pos covers.1, hbyte]
    rw [h.cells_of_covers mem covers, hcell, old]
    cases patch.at? (region.start.toNat + offset) n <;> rfl
  · have outside : n < region.start.toNat ∨ region.start.toNat + region.bytes.length ≤ n := by
      simp only [Region.Covers] at covers
      omega
    have unpatched : patch.at? (region.start.toNat + offset) n = none :=
      Bytes.at?_eq_none (by omega)
    rw [unpatched, Bytes.at?_eq_none outside]
    show (image.cells n).filter _ = image.cells n
    cases hcell : image.cells n with
    | none => rfl
    | some cell =>
      obtain ⟨other, hother, found⟩ := exists_region_of_cells hcell
      refine Option.filter_some_pos (bne_iff_ne.2 ?_)
      rw [(Region.cell?_eq_some_iff.1 found).2.1]
      intro same
      rw [eq_of_start_eq hother mem same] at found
      exact covers (Region.covers_of_cell? found)

/-! ## Addresses within a region -/

theorem regionAt?_eq_some_iff (h : image.Separate) : image.cells.regionAt? n = some start ↔
    ∃ region ∈ image.regions, region.start = start ∧ region.Covers n := by
  rw [ByteMap.regionAt?, Option.map_eq_some_iff]
  constructor
  · rintro ⟨cell, hcell, rfl⟩
    obtain ⟨region, mem, found⟩ := exists_region_of_cells hcell
    exact ⟨region, mem, (Region.cell?_eq_some_iff.1 found).2.1.symm,
      Region.covers_of_cell? found⟩
  · rintro ⟨region, mem, rfl, covers⟩
    obtain ⟨byte, _, found⟩ := Region.exists_cell_of_covers covers
    exact ⟨_, (h.cells_of_covers mem covers).trans found, rfl⟩

theorem inside_iff (h : image.Separate) {length : Nat} (pos : 0 < length) :
    image.cells.Inside n length ↔ ∃ region ∈ image.regions,
      region.start.toNat ≤ n ∧ n + length ≤ region.start.toNat + region.bytes.length := by
  constructor
  · rintro ⟨mapped, same⟩
    obtain ⟨cell, hcell⟩ := Option.isSome_iff_exists.1 mapped
    obtain ⟨region, mem, found⟩ := exists_region_of_cells hcell
    have covers := Region.covers_of_cell? found
    have first := h.regionAt?_eq_some_iff.2 ⟨region, mem, rfl, covers⟩
    -- the last of the addresses lies in the region of the first
    have last := (same (length - 1) (by omega)).trans first
    obtain ⟨other, hother, sameStart, covers'⟩ := h.regionAt?_eq_some_iff.1 last
    obtain rfl := eq_of_start_eq hother mem sameStart
    exact ⟨other, mem, covers.1, by have := covers'.2; omega⟩
  · rintro ⟨region, mem, from_start, before_end⟩
    have covers : ∀ i < length, region.Covers (n + i) := by
      intro i hi
      constructor <;> omega
    have first := h.regionAt?_eq_some_iff.2 ⟨region, mem, rfl, covers 0 pos⟩
    refine ⟨?_, ?_⟩
    · obtain ⟨_, _, found⟩ := Region.exists_cell_of_covers (covers 0 pos)
      exact Option.isSome_of_eq_some ((h.cells_of_covers mem (covers 0 pos)).trans found)
    · intro i hi
      rw [h.regionAt?_eq_some_iff.2 ⟨region, mem, rfl, covers i hi⟩]
      exact first.symm

/-- A write within one region succeeds and changes the bytes that it says. -/
theorem write_of_inside (h : image.Separate) (pos : patch ≠ [])
    (inside : image.cells.Inside address.toNat patch.length) :
    ∃ written, image.write address patch = .ok written ∧ written.Separate ∧
      written.cells = image.cells.write address.toNat patch := by
  obtain ⟨region, mem, from_start, before_end⟩ :=
    (h.inside_iff (List.length_pos_iff.2 pos)).1 inside
  have within : address.toNat - region.start.toNat + patch.length ≤ region.bytes.length := by
    omega
  have place : address.toNat = region.start.toNat + (address.toNat - region.start.toNat) := by
    omega
  obtain ⟨written, _⟩ := (h.keeps mem).write pos within place
  exact ⟨_, written, h.map (h.admits_overwrite mem within), h.cells_write mem within place⟩

theorem write_of_not_inside (h : image.Separate) (pos : patch ≠ [])
    (outside : ¬image.cells.Inside address.toNat patch.length) :
    image.write address patch = .error (.unmapped address) := by
  apply write_eq_error
  intro region found
  by_contra within
  refine outside ((h.inside_iff (List.length_pos_iff.2 pos)).2
    ⟨region, mem_of_region? found, start_le_of_region? found, ?_⟩)
  have := start_le_of_region? found
  omega

/-! ## Runs of operations -/

theorem perform (h : image.Separate) {operation : Operation}
    (admits : image.cells.Admits operation) : (image.perform operation).Separate ∧
      (image.perform operation).cells = image.cells.perform operation := by
  cases operation with
  | map start bytes => exact ⟨h.map admits, h.cells_map admits⟩
  | unmap start => exact ⟨h.unmap start, h.cells_unmap start⟩
  | write address patch =>
    rw [MemoryImage.perform, ByteMap.perform]
    split_ifs with inside
    · obtain ⟨written, hwritten, separate, cells⟩ := h.write_of_inside admits inside
      rw [hwritten]
      exact ⟨separate, cells⟩
    · rw [h.write_of_not_inside admits inside]
      exact ⟨h, rfl⟩

theorem performAll (h : image.Separate) {operations : List Operation}
    (admits : image.cells.AdmitsAll operations) :
    (operations.foldl MemoryImage.perform image).Separate ∧
      (operations.foldl MemoryImage.perform image).cells =
        operations.foldl ByteMap.perform image.cells := by
  induction operations generalizing image with
  | nil => exact ⟨h, rfl⟩
  | cons operation rest ih =>
    obtain ⟨separate, cells⟩ := h.perform admits.1
    rw [List.foldl_cons, List.foldl_cons, ← cells]
    exact ih separate (cells ▸ admits.2)

/-! ## Answers -/

/-- The run of the cells of a region, from one of its addresses on, is a slice of its bytes. -/
theorem run_cells (h : image.Separate) (mem : region ∈ image.regions) (offset count : Nat) :
    image.cells.run region.start (region.start.toNat + offset) count =
      region.bytes.slice offset count := by
  induction count generalizing offset with
  | zero => rfl
  | succ count ih =>
    rw [ByteMap.run]
    by_cases within : offset < region.bytes.length
    · have covers : region.Covers (region.start.toNat + offset) := by
        constructor <;> omega
      obtain ⟨byte, hbyte, hcell⟩ := Region.exists_cell_of_covers covers
      rw [Nat.add_sub_cancel_left] at hbyte
      obtain ⟨_, rfl⟩ := List.getElem?_eq_some_iff.1 hbyte
      rw [h.cells_of_covers mem covers, hcell]
      show (if region.start = region.start then _ else _) = _
      rw [if_pos rfl, Nat.add_assoc, ih, Bytes.slice, Bytes.slice,
        List.drop_eq_getElem_cons within, List.take_succ_cons]
    · rw [Bytes.slice, List.drop_eq_nil_of_le (Nat.not_lt.1 within), List.take_nil]
      cases hcell : image.cells (region.start.toNat + offset) with
      | none => rfl
      | some cell =>
        -- past the end of the region there may be a cell, but of another one
        refine if_neg fun same => ?_
        obtain ⟨other, hother, found⟩ := exists_region_of_cells hcell
        obtain rfl := eq_of_start_eq hother mem
          ((Region.cell?_eq_some_iff.1 found).2.1.symm.trans same)
        have := (Region.covers_of_cell? found).2
        omega

theorem read_eq (h : image.Separate) (address : Address) (count : Nat) :
    image.read address count =
      match image.cells.read address.toNat count with
      | some bytes => .ok bytes
      | none => .error (.unmapped address) := by
  rw [ByteMap.read]
  cases hcell : image.cells address.toNat with
  | none =>
    apply read_eq_error
    intro region found covers
    obtain ⟨_, _, shown⟩ := Region.exists_cell_of_covers covers
    rw [← h.cells_of_covers (mem_of_region? found) covers, hcell] at shown
    cases shown
  | some cell =>
    obtain ⟨region, mem, found⟩ := exists_region_of_cells hcell
    have covers := Region.covers_of_cell? found
    have place : address.toNat = region.start.toNat + (address.toNat - region.start.toNat) := by
      have := covers.1
      omega
    have run := h.run_cells mem (address.toNat - region.start.toNat) count
    rw [← place] at run
    rw [(h.keeps mem).read_of_covers covers, ← run, ← (Region.cell?_eq_some_iff.1 found).2.1]
    rfl

theorem cells_iff_of_bytesAt? (h : image.Separate) (hbytes : image.bytesAt? start = some bytes)
    (byte : UInt8) :
    image.cells n = some ⟨start, byte⟩ ↔ bytes.at? start.toNat n = some byte := by
  have mem := bytesAt?_eq_some_iff.1 hbytes
  have shown : bytes.at? start.toNat n = some byte ↔
      Region.cell? ⟨start, bytes⟩ n = some ⟨start, byte⟩ := by
    simp [Region.cell?]
  rw [shown, h.cells_eq_some_iff]
  constructor
  · rintro ⟨region, hregion, hcell⟩
    rwa [← eq_of_start_eq hregion mem (Region.cell?_eq_some_iff.1 hcell).2.1.symm]
  · intro hcell
    exact ⟨_, mem, hcell⟩

theorem cells_ne_of_bytesAt? (h : image.bytesAt? start = none) (byte : UInt8) :
    image.cells n ≠ some ⟨start, byte⟩ := by
  intro hcell
  obtain ⟨⟨other, bytes⟩, mem, found⟩ := exists_region_of_cells hcell
  obtain rfl : start = other := (Region.cell?_eq_some_iff.1 found).2.1
  rw [bytesAt?_eq_some_iff.2 mem] at h
  cases h

/-- Removing a region makes its addresses unreadable, and no others. -/
theorem read_unmap (h : image.Separate) (start address : Address) (count : Nat) :
    (image.unmap start).read address count =
      if image.cells.regionAt? address.toNat = some start then .error (.unmapped address)
      else image.read address count := by
  by_cases mapped : ∃ region ∈ image.regions, region.Covers address.toNat
  · obtain ⟨region, mem, covers⟩ := mapped
    have owner := h.regionAt?_eq_some_iff.2 ⟨region, mem, rfl, covers⟩
    rw [owner]
    split_ifs with removed
    · apply read_eq_error
      intro other found covers'
      obtain ⟨hother, elsewhere⟩ := mem_unmap.1 (mem_of_region? found)
      rw [h.eq_of_covers mem hother covers covers'] at elsewhere
      exact elsewhere (Option.some.inj removed)
    · have stays : region ∈ (image.unmap start).regions :=
        mem_unmap.2 ⟨mem, fun same => removed (congrArg some same)⟩
      rw [((h.unmap start).keeps stays).read_of_covers covers, (h.keeps mem).read_of_covers covers]
  · have unread : image.read address count = .error (.unmapped address) := by
      apply read_eq_error
      intro region found covers
      exact mapped ⟨region, mem_of_region? found, covers⟩
    rw [unread, ite_self]
    apply read_eq_error
    intro region found covers
    exact mapped ⟨region, (mem_unmap.1 (mem_of_region? found)).1, covers⟩

end Separate

/-- The image answers every operation as the byte map says that it does. -/
structure Refines (image : MemoryImage) (cells : ByteMap) : Prop where
  view : image.cells = cells
  /-- A read brings the bytes from the address on, up to the end of the region that the address
  lies in, and fails where there is no region. -/
  read : ∀ address count, image.read address count =
    match cells.read address.toNat count with
    | some bytes => .ok bytes
    | none => .error (.unmapped address)
  /-- A write within one region succeeds, and changes the bytes that it says and nothing else. -/
  write_inside : ∀ address patch, patch ≠ [] → cells.Inside address.toNat patch.length →
    ∃ written, image.write address patch = .ok written ∧
      written.cells = cells.write address.toNat patch
  /-- Every other write fails, and leaves the image as it is. -/
  write_outside : ∀ address patch, patch ≠ [] → ¬cells.Inside address.toNat patch.length →
    image.write address patch = .error (.unmapped address) ∧
      image.perform (.write address patch) = image
  /-- The bytes that are taken away are those of the region that starts at the address, if
  there is one. -/
  removed : ∀ start,
    match image.bytesAt? start with
    | some bytes => bytes ≠ [] ∧
        ∀ n byte, cells n = some ⟨start, byte⟩ ↔ bytes.at? start.toNat n = some byte
    | none => ∀ n byte, cells n ≠ some ⟨start, byte⟩
  unmap : ∀ start, (image.unmap start).cells = cells.unmap start
  /-- Afterwards the addresses of that region cannot be read, and all others are read as before. -/
  read_unmap : ∀ start address count, (image.unmap start).read address count =
    if cells.regionAt? address.toNat = some start then .error (.unmapped address)
    else image.read address count

theorem Separate.refines (h : image.Separate) : image.Refines image.cells where
  view := rfl
  read := h.read_eq
  write_inside address patch pos inside := by
    obtain ⟨written, hwritten, _, cells⟩ := h.write_of_inside pos inside
    exact ⟨written, hwritten, cells⟩
  write_outside address patch pos outside := by
    have failed := h.write_of_not_inside pos outside
    refine ⟨failed, ?_⟩
    rw [MemoryImage.perform, failed]
  removed start := by
    cases hbytes : image.bytesAt? start with
    | none => exact fun n byte => cells_ne_of_bytesAt? hbytes byte
    | some bytes =>
      exact ⟨h.nonEmpty _ (bytesAt?_eq_some_iff.1 hbytes),
        fun n byte => h.cells_iff_of_bytesAt? hbytes byte⟩
  unmap := h.cells_unmap
  read_unmap := h.read_unmap

theorem separate_empty : empty.Separate where
  nonEmpty _ mem := by cases mem
  apart _ mem := by cases mem

/-- After the same operations an image answers as a byte map does, if nothing that is mapped is
empty or reaches into a region that starts elsewhere. -/
theorem performAll_refines (operations : List Operation)
    (admits : ByteMap.empty.AdmitsAll operations) :
    (operations.foldl perform empty).Refines (operations.foldl ByteMap.perform .empty) := by
  obtain ⟨separate, cells⟩ := separate_empty.performAll admits
  have start : empty.cells = ByteMap.empty := rfl
  rw [start] at cells
  rw [← cells]
  exact separate.refines

/-- Two regions stand side by side: a write into the first one changes it, one that would cross
into the second one changes nothing, and the second one is removed. -/
theorem performAll_refines_neighbours :
    let operations : List Operation :=
      [.map (.ofNat 4096) [1, 2, 3, 4], .map (.ofNat 4100) [5, 6], .write (.ofNat 4097) [8, 9],
       .write (.ofNat 4099) [7, 7], .unmap (.ofNat 4100)]
    ByteMap.empty.AdmitsAll operations ∧
      (operations.foldl perform empty).Refines (operations.foldl ByteMap.perform .empty) ∧
      (operations.foldl perform empty).read (.ofNat 4097) 8 = .ok [8, 9, 4] := by
  intro operations
  have admits : ByteMap.empty.AdmitsAll operations := by decide +kernel
  have refines := performAll_refines operations admits
  refine ⟨admits, refines, ?_⟩
  rw [refines.read]
  decide +kernel

end MemoryImage

end RemoteStack
