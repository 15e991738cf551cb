import RemoteStack.Proofs.Memory.Separate

/-!
# Byte maps

A `ByteMap` says which byte stands at an address, and in which region, without a word about
how regions are stored or found. It has the operations of an image: regions are mapped and
removed (`ByteMap.map`, `ByteMap.unmap`), bytes are overwritten within one region
(`ByteMap.write`, `ByteMap.Inside`) and read up to its end (`ByteMap.read`). An operation is
admitted (`ByteMap.Admits`) if what it maps is not empty and reaches into no region that starts
elsewhere, and if what it writes is not empty.
-/

namespace RemoteStack

/-! ## Byte maps -/

/-- A byte, and the start of the region that it belongs to. -/
structure Cell where
  region : Address
  byte : UInt8
  deriving DecidableEq, Repr

/-- What stands at each address. -/
abbrev ByteMap : Type := Nat → Option Cell

/-- The byte that stands at address `n` when the bytes stand at `start`. -/
def Bytes.at? (bytes : Bytes) (start n : Nat) : Option UInt8 :=
  if start ≤ n then bytes[n - start]? else none

/-- What the region has at an address. -/
def Region.cell? (region : Region) (n : Nat) : Option Cell :=
  (region.bytes.at? region.start.toNat n).map (Cell.mk region.start)

/-- An operation on captured memory; to map a number of zeros is to map these bytes. -/
inductive Operation where
  | map (start : Address) (bytes : Bytes)
  | unmap (start : Address)
  | write (address : Address) (patch : Bytes)
  deriving DecidableEq, Repr

namespace ByteMap

def empty : ByteMap := fun _ => none

def regionAt? (cells : ByteMap) (n : Nat) : Option Address := (cells n).map (·.region)

/-- Takes the cells of a region away. -/
def unmap (cells : ByteMap) (start : Address) : ByteMap := fun n =>
  (cells n).filter (·.region != start)

/-- Puts the cells of a region, instead of those of one that starts at the same address. -/
def map (cells : ByteMap) (start : Address) (bytes : Bytes) : ByteMap := fun n =>
  (Region.cell? ⟨start, bytes⟩ n).or (cells.unmap start n)

/-- Changes the bytes of as many cells as there are bytes in the patch. -/
def write (cells : ByteMap) (address : Nat) (patch : Bytes) : ByteMap := fun n =>
  match patch.at? address n with
  | some byte => (cells n).map ({ · with byte })
  | none => cells n

/-- So many addresses, from one that lies in a region, lie in that region. -/
def Inside (cells : ByteMap) (address length : Nat) : Prop :=
  (cells address).isSome ∧
    ∀ i < length, cells.regionAt? (address + i) = cells.regionAt? address

instance (cells : ByteMap) (address length : Nat) : Decidable (cells.Inside address length) :=
  inferInstanceAs (Decidable (_ ∧ _))

/-- The bytes from an address on, up to the end of the region and at most `count` of them. -/
def run (cells : ByteMap) (region : Address) (n : Nat) : Nat → Bytes
  | 0 => []
  | count + 1 =>
    match cells n with
    | some cell => if cell.region = region then cell.byte :: cells.run region (n + 1) count else []
    | none => []

/-- What a read brings: there is nothing to read outside of regions. -/
def read (cells : ByteMap) (address count : Nat) : Option Bytes :=
  (cells address).map fun cell => cells.run cell.region address count

/-- A write that would leave the region changes nothing. -/
def perform (cells : ByteMap) : Operation → ByteMap
  | .map start bytes => cells.map start bytes
  | .unmap start => cells.unmap start
  | .write address patch =>
    if cells.Inside address.toNat patch.length then cells.write address.toNat patch else cells

/-- What is mapped is not empty and lies on no byte of a region that starts elsewhere, and what
is written is not empty. -/
def Admits (cells : ByteMap) : Operation → Prop
  | .map start bytes => bytes ≠ [] ∧
      ∀ i < bytes.length, ∀ cell ∈ cells (start.toNat + i), cell.region = start
  | .unmap _ => True
  | .write _ patch => patch ≠ []

instance (cells : ByteMap) : (operation : Operation) → Decidable (cells.Admits operation)
  | .map _ _ => inferInstanceAs (Decidable (_ ∧ _))
  | .unmap _ => inferInstanceAs (Decidable True)
  | .write _ patch => inferInstanceAs (Decidable (patch ≠ []))

def AdmitsAll (cells : ByteMap) : List Operation → Prop
  | [] => True
  | operation :: rest => cells.Admits operation ∧ (cells.perform operation).AdmitsAll rest

instance AdmitsAll.decidable (cells : ByteMap) :
    (operations : List Operation) → Decidable (cells.AdmitsAll operations)
  | [] => inferInstanceAs (Decidable True)
  | operation :: rest =>
    have := AdmitsAll.decidable (cells.perform operation) rest
    inferInstanceAs (Decidable (_ ∧ _))

end ByteMap

/-! ## Cells of a region -/

theorem Bytes.at?_eq_none {bytes : Bytes} {start n : Nat}
    (outside : n < start ∨ start + bytes.length ≤ n) : bytes.at? start n = none := by
  unfold at?
  split
  · exact List.getElem?_eq_none (by omega)
  · rfl

theorem Bytes.at?_overwrite {bytes patch : Bytes} {start offset n : Nat}
    (within : offset + patch.length ≤ bytes.length) :
    (MemoryImage.overwrite bytes offset patch).at? start n =
      (patch.at? (start + offset) n).or (bytes.at? start n) := by
  unfold at?
  by_cases from_start : start ≤ n
  · rw [if_pos from_start, if_pos from_start, MemoryImage.getElem?_overwrite within]
    by_cases before : n - start < offset
    · rw [if_pos before, if_neg (by omega), Option.none_or]
    · have reached : start + offset ≤ n := by omega
      rw [if_neg before, if_pos reached, ← Nat.sub_sub]
      by_cases patched : n - start < offset + patch.length
      · rw [if_pos patched, List.getElem?_eq_getElem (by omega), Option.some_or]
      · rw [if_neg patched, List.getElem?_eq_none (by omega : patch.length ≤ _), Option.none_or]
  · rw [if_neg from_start, if_neg from_start, if_neg (by omega), Option.none_or]

namespace Region

variable {region : Region} {n : Nat} {cell : Cell}

theorem cell?_eq_some_iff : region.cell? n = some cell ↔ region.start.toNat ≤ n ∧
    cell.region = region.start ∧ region.bytes[n - region.start.toNat]? = some cell.byte := by
  unfold cell? Bytes.at?
  split
  · rw [Option.map_eq_some_iff]
    constructor
    · rintro ⟨byte, found, rfl⟩
      exact ⟨‹_›, rfl, found⟩
    · rintro ⟨_, same, found⟩
      exact ⟨cell.byte, found, same ▸ rfl⟩
  · simp [*]

theorem covers_of_cell? (h : region.cell? n = some cell) : region.Covers n := by
  obtain ⟨from_start, _, found⟩ := cell?_eq_some_iff.1 h
  have := (List.getElem?_eq_some_iff.1 found).1
  exact ⟨from_start, by omega⟩

theorem exists_cell_of_covers (covers : region.Covers n) :
    ∃ byte, region.bytes[n - region.start.toNat]? = some byte ∧
      region.cell? n = some ⟨region.start, byte⟩ := by
  obtain ⟨from_start, before_end⟩ := covers
  have within : n - region.start.toNat < region.bytes.length := by omega
  have found := List.getElem?_eq_getElem within
  exact ⟨_, found, cell?_eq_some_iff.2 ⟨from_start, rfl, found⟩⟩

end Region

end RemoteStack
