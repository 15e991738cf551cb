import Mathlib.Data.List.Pairwise
import RemoteStack.Memory.Image

/-!
# Images of separate regions

What a read finds in an image whose regions share no byte. Within one region a read is a
slice of its bytes (`Bytes.slice`), and a slice is what was last written there
(`slice_overwrite_self`, `slice_overwrite_of_apart`). An image that is made from regions that
are `Spread` over the address space `Holds` each of them (`Spread.holds`), and it `Shows` what
stands within one of them (`Holds.shows_part`).
-/

namespace RemoteStack

/-! ## Slices -/

/-- The bytes from `offset` on, at most `length` of them. -/
def Bytes.slice (bytes : Bytes) (offset length : Nat) : Bytes := (bytes.drop offset).take length

/-- A slice that ends within another one is a slice of the bytes. -/
theorem Bytes.slice_slice (bytes : Bytes) (start : Nat) {offset length upTo : Nat}
    (within : offset + length ≤ upTo) :
    (bytes.slice start upTo).slice offset length = bytes.slice (start + offset) length := by
  simp only [Bytes.slice, List.drop_take, List.take_take, List.drop_drop]
  rw [Nat.min_eq_left (by omega)]

theorem Bytes.length_slice {bytes : Bytes} {offset length : Nat}
    (within : offset + length ≤ bytes.length) : (bytes.slice offset length).length = length := by
  rw [Bytes.slice, List.length_take, List.length_drop]
  omega

namespace MemoryImage

variable {bytes patch : Bytes} {offset start length : Nat}

theorem length_overwrite (h : offset + patch.length ≤ bytes.length) :
    (overwrite bytes offset patch).length = bytes.length := by
  simp only [overwrite, List.length_append, List.length_take, List.length_drop]
  omega

theorem getElem?_overwrite (h : offset + patch.length ≤ bytes.length) (i : Nat) :
    (overwrite bytes offset patch)[i]? =
      if i < offset then bytes[i]?
      else if i < offset + patch.length then patch[i - offset]?
      else bytes[i]? := by
  have before : (bytes.take offset).length = offset := by
    rw [List.length_take]
    omega
  unfold overwrite
  rw [List.append_assoc, List.getElem?_append, before]
  split
  · rw [List.getElem?_take, if_pos ‹_›]
  · rw [List.getElem?_append]
    by_cases within : i < offset + patch.length
    · rw [if_pos (by omega), if_pos within]
    · rw [if_neg (by omega), if_neg within, List.getElem?_drop]
      congr 1
      omega

theorem slice_overwrite_self (h : offset + patch.length ≤ bytes.length) :
    (overwrite bytes offset patch).slice offset patch.length = patch := by
  apply List.ext_getElem?
  intro i
  rw [Bytes.slice, List.getElem?_take, List.getElem?_drop, getElem?_overwrite h]
  by_cases within : i < patch.length
  · rw [if_pos within, if_neg (by omega), if_pos (by omega), Nat.add_sub_cancel_left]
  · rw [if_neg within, List.getElem?_eq_none (by omega)]

theorem slice_overwrite_of_apart (h : offset + patch.length ≤ bytes.length)
    (apart : start + length ≤ offset ∨ offset + patch.length ≤ start) :
    (overwrite bytes offset patch).slice start length = bytes.slice start length := by
  apply List.ext_getElem?
  intro i
  rw [Bytes.slice, Bytes.slice, List.getElem?_take, List.getElem?_take, List.getElem?_drop,
    List.getElem?_drop, getElem?_overwrite h]
  by_cases within : i < length
  · rw [if_pos within, if_pos within]
    rcases apart with before | after
    · rw [if_pos (by omega)]
    · rw [if_neg (by omega), if_neg (by omega)]
  · rw [if_neg within, if_neg within]

end MemoryImage

/-! ## Regions -/

/-- The regions share no byte. -/
def Region.Apart (region other : Region) : Prop :=
  region.start.toNat + region.bytes.length ≤ other.start.toNat ∨
    other.start.toNat + other.bytes.length ≤ region.start.toNat

instance : Std.Symm Region.Apart := ⟨fun _ _ => Or.symm⟩

instance (region other : Region) : Decidable (region.Apart other) :=
  inferInstanceAs (Decidable (_ ∨ _))

/-- The address of this number lies in the region. -/
def Region.Covers (region : Region) (n : Nat) : Prop :=
  region.start.toNat ≤ n ∧ n < region.start.toNat + region.bytes.length

instance (region : Region) (n : Nat) : Decidable (region.Covers n) :=
  inferInstanceAs (Decidable (_ ∧ _))

namespace MemoryImage

/-- The image answers reads within the region with its bytes. -/
structure Holds (image : MemoryImage) (region : Region) : Prop where
  nonNull : ¬region.start.isNull
  inSpace : region.start.toNat + region.bytes.length ≤ UInt64.size
  read : ∀ offset length, offset < region.bytes.length →
    image.read (.ofNat (region.start.toNat + offset)) length =
      .ok (region.bytes.slice offset length)

theorem Holds.read_all {image : MemoryImage} {region : Region} (h : image.Holds region)
    (nonEmpty : region.bytes ≠ []) :
    image.read region.start region.bytes.length = .ok region.bytes := by
  have all := h.read 0 region.bytes.length (List.length_pos_iff.2 nonEmpty)
  rw [Nat.add_zero, Address.ofNat_toNat] at all
  rw [all, Bytes.slice, List.drop_zero, List.take_length]

/-- The image answers the reads that stay within the region with its bytes. What lies behind
them is left open: there may be more bytes, or none. -/
structure Shows (image : MemoryImage) (region : Region) : Prop where
  nonNull : ¬region.start.isNull
  inSpace : region.start.toNat + region.bytes.length ≤ UInt64.size
  read : ∀ offset length, offset < region.bytes.length → offset + length ≤ region.bytes.length →
    image.read (.ofNat (region.start.toNat + offset)) length =
      .ok (region.bytes.slice offset length)

theorem Holds.shows {image : MemoryImage} {region : Region} (h : image.Holds region) :
    image.Shows region where
  nonNull := h.nonNull
  inSpace := h.inSpace
  read offset length before _ := h.read offset length before

/-- What stands within a region that is held is shown, wherever it begins and ends. -/
theorem Holds.shows_part {image : MemoryImage} {region : Region} (h : image.Holds region)
    {offset length : Nat} (before : offset < region.bytes.length)
    (within : offset + length ≤ region.bytes.length) :
    image.Shows ⟨.ofNat (region.start.toNat + offset), region.bytes.slice offset length⟩ := by
  have inSpace := h.inSpace
  have place : (Address.ofNat (region.start.toNat + offset)).toNat =
      region.start.toNat + offset := Address.toNat_ofNat (by omega)
  have part : (region.bytes.slice offset length).length = length := Bytes.length_slice within
  refine ⟨?_, ?_, ?_⟩
  · intro null
    have null : Address.ofNat (region.start.toNat + offset) = .null := beq_iff_eq.1 null
    have zero : region.start.toNat + offset = 0 := by
      rw [← place, null]
      rfl
    refine h.nonNull (beq_iff_eq.2 (Address.ext_toNat ?_))
    show region.start.toNat = 0
    omega
  · show (Address.ofNat _).toNat + _ ≤ _
    rw [place, part]
    omega
  · intro further shorter inside upTo
    rw [part] at inside upTo
    show image.read (.ofNat ((Address.ofNat _).toNat + _)) _ = _
    rw [place, Nat.add_assoc, h.read _ _ (by omega), Bytes.slice_slice _ _ upTo]

/-- A region that is shown leaves room for null. -/
theorem Shows.length_lt {image : MemoryImage} {region : Region} (h : image.Shows region) :
    region.bytes.length < UInt64.size := by
  have inSpace := h.inSpace
  have pos : region.start.toNat ≠ 0 := by
    intro zero
    refine h.nonNull (beq_iff_eq.2 (Address.ext_toNat ?_))
    rw [zero]
    rfl
  omega

/-- Within the region that answers for an address, a read is a slice of its bytes. -/
theorem read_of_region? {image : MemoryImage} {region : Region} {address : Address}
    (found : image.region? address = some region) (covers : region.Covers address.toNat)
    (length : Nat) : image.read address length =
      .ok (region.bytes.slice (address.toNat - region.start.toNat) length) := by
  obtain ⟨from_start, before_end⟩ := covers
  unfold read
  rw [found]
  dsimp only
  cases hrest : region.bytes.drop (address.toNat - region.start.toNat) with
  | nil =>
    have := List.drop_eq_nil_iff.1 hrest
    omega
  | cons => rw [Bytes.slice, hrest]

/-- The region that answers for an address is the one that the address lies in. -/
theorem region?_of_mem {image : MemoryImage} {region : Region} (mem : region ∈ image.regions)
    (apart : ∀ other ∈ image.regions, other ≠ region → other.Apart region) {address : Address}
    (covers : region.Covers address.toNat) : image.region? address = some region := by
  obtain ⟨from_start, before_end⟩ := covers
  -- the look-up takes the first region that does not start above the address, so none of
  -- those that stand before this one may do so
  obtain ⟨above, below, split⟩ := List.append_of_mem mem
  refine List.find?_eq_some_iff_append.2 ⟨by simpa using from_start, above, below, split, ?_⟩
  intro other hother
  have descending := image.descending
  rw [split] at descending
  have higher : region.start.toNat < other.start.toNat :=
    (List.pairwise_append.1 descending).2.2 other hother region List.mem_cons_self
  have distinct : other ≠ region := by
    rintro rfl
    exact absurd higher (Nat.lt_irrefl _)
  have inImage : other ∈ image.regions := by
    rw [split]
    exact List.mem_append_left _ hother
  simp only [Bool.not_eq_true', decide_eq_false_iff_not, Nat.not_le]
  rcases apart other inImage distinct with before | after <;> omega

theorem holds_of_mem {image : MemoryImage} {region : Region} (mem : region ∈ image.regions)
    (apart : ∀ other ∈ image.regions, other ≠ region → other.Apart region)
    (nonNull : ¬region.start.isNull)
    (inSpace : region.start.toNat + region.bytes.length ≤ UInt64.size) : image.Holds region := by
  refine ⟨nonNull, inSpace, ?_⟩
  intro offset length within
  have place : (Address.ofNat (region.start.toNat + offset)).toNat =
      region.start.toNat + offset := Address.toNat_ofNat (by omega)
  have covers : region.Covers (Address.ofNat (region.start.toNat + offset)).toNat := by
    rw [place]
    exact ⟨Nat.le_add_right _ _, Nat.add_lt_add_left within _⟩
  rw [read_of_region? (region?_of_mem mem apart covers) covers, place, Nat.add_sub_cancel_left]

/-! ## Images from regions -/

def ofRegions : List Region → MemoryImage
  | [] => empty
  | region :: rest => (ofRegions rest).map region.start region.bytes

/-- The regions are not empty, lie within the address space and not at null, and share no byte. -/
structure Spread (regions : List Region) : Prop where
  nonNull : ∀ region ∈ regions, ¬region.start.isNull
  nonEmpty : ∀ region ∈ regions, region.bytes ≠ []
  inSpace : ∀ region ∈ regions, region.start.toNat + region.bytes.length ≤ UInt64.size
  apart : regions.Pairwise Region.Apart

instance (regions : List Region) : Decidable (Spread regions) :=
  decidable_of_iff
    ((∀ region ∈ regions, ¬region.start.isNull) ∧ (∀ region ∈ regions, region.bytes ≠ []) ∧
      (∀ region ∈ regions, region.start.toNat + region.bytes.length ≤ UInt64.size) ∧
      regions.Pairwise Region.Apart)
    ⟨fun h => ⟨h.1, h.2.1, h.2.2.1, h.2.2.2⟩,
      fun h => ⟨h.nonNull, h.nonEmpty, h.inSpace, h.apart⟩⟩

theorem mem_insert_self (region : Region) (regions : List Region) :
    region ∈ insert region regions := by
  induction regions with
  | nil => exact List.mem_cons_self
  | cons head rest ih =>
    unfold insert
    split
    · exact List.mem_cons_self
    · split
      · exact List.mem_cons_self
      · exact List.mem_cons_of_mem _ ih

/-- A region stays when another one comes that starts elsewhere. -/
theorem mem_insert_of_mem {region other : Region} {regions : List Region}
    (mem : other ∈ regions) (elsewhere : other.start.toNat ≠ region.start.toNat) :
    other ∈ insert region regions := by
  induction regions with
  | nil => cases mem
  | cons head rest ih =>
    unfold insert
    split
    · exact List.mem_cons_of_mem _ mem
    · rcases List.mem_cons.1 mem with rfl | mem
      · rw [if_neg elsewhere]
        exact List.mem_cons_self
      · split
        · exact List.mem_cons_of_mem _ mem
        · exact List.mem_cons_of_mem _ (ih mem)

theorem mem_of_mem_ofRegions {region : Region} {regions : List Region}
    (mem : region ∈ (ofRegions regions).regions) : region ∈ regions := by
  induction regions with
  | nil => cases mem
  | cons head rest ih =>
    rcases mem_of_mem_insert mem with rfl | mem
    · exact List.mem_cons_self
    · exact List.mem_cons_of_mem _ (ih mem)

namespace Spread

theorem tail {region : Region} {rest : List Region} (h : Spread (region :: rest)) :
    Spread rest where
  nonNull other mem := h.nonNull other (List.mem_cons_of_mem _ mem)
  nonEmpty other mem := h.nonEmpty other (List.mem_cons_of_mem _ mem)
  inSpace other mem := h.inSpace other (List.mem_cons_of_mem _ mem)
  apart := (List.pairwise_cons.1 h.apart).2

theorem nodup_starts {regions : List Region} (h : Spread regions) :
    (regions.map (·.start)).Nodup := by
  induction regions with
  | nil => exact List.nodup_nil
  | cons region rest ih =>
    refine List.nodup_cons.2 ⟨?_, ih h.tail⟩
    intro mem
    obtain ⟨other, hother, same⟩ := List.mem_map.1 mem
    have same : other.start.toNat = region.start.toNat := congrArg Address.toNat same
    have length := List.length_pos_iff.2 (h.nonEmpty region List.mem_cons_self)
    have otherLength := List.length_pos_iff.2 (h.nonEmpty other (List.mem_cons_of_mem _ hother))
    -- neither is empty, so two that start at one place would share its byte
    rcases (List.pairwise_cons.1 h.apart).1 other hother with before | after <;> omega

/-- No region takes the place of another one. -/
theorem mem_ofRegions {regions : List Region} (h : Spread regions) {region : Region}
    (mem : region ∈ regions) : region ∈ (ofRegions regions).regions := by
  induction regions with
  | nil => cases mem
  | cons head rest ih =>
    rcases List.mem_cons.1 mem with rfl | mem
    · exact mem_insert_self _ _
    · apply mem_insert_of_mem (ih h.tail mem)
      intro same
      refine (List.nodup_cons.1 h.nodup_starts).1 (List.mem_map.2 ⟨region, mem, ?_⟩)
      exact Address.ext_toNat same

theorem holds {regions : List Region} (h : Spread regions) {region : Region}
    (mem : region ∈ regions) : (ofRegions regions).Holds region := by
  refine holds_of_mem (h.mem_ofRegions mem) (fun other hother ne => ?_) (h.nonNull region mem)
    (h.inSpace region mem)
  exact h.apart.forall (mem_of_mem_ofRegions hother) mem ne

end Spread

end MemoryImage

end RemoteStack
