import RemoteStack.Proofs.Encoding.TextObject
import RemoteStack.Proofs.Memory.Separate
import RemoteStack.Reader.Collection

/-!
# Reading trailing arrays

A trailing array stands behind the head of its object, as one piece of memory that nothing need
follow. What a reader finds of it:

* **units** — as many units from the front as are asked for, as long as there is one
  (`MemoryImage.Shows.read_units`): a read that starts behind the last unit starts at an address
  that need not be mapped;
* **tuples** — the items up to the limit, in their order (`Reader.tuple_of_mapped`). An empty tuple
  has no items to read, but its items are read nevertheless, so it is found only if something is
  mapped behind its head (`Reader.empty_tuple_not_found`). An empty byte string has no such read.
-/

namespace RemoteStack

open LittleEndian (FitsSigned)

/-! ## Units -/

theorem Text.take_encodeUnits (size count : Nat) (units : List Nat) :
    (encodeUnits size units).take (count * size) = encodeUnits size (units.take count) := by
  induction units generalizing count with
  | nil => simp [encodeUnits]
  | cons unit rest ih =>
    cases count with
    | zero => simp [encodeUnits]
    | succ count =>
      have bytes : encodeUnits size (unit :: rest) =
          LittleEndian.encode size unit ++ encodeUnits size rest := List.flatMap_cons
      have length := LittleEndian.length_encode size unit
      rw [bytes, Nat.succ_mul, Nat.add_comm, List.take_append, length, Nat.add_sub_cancel_left, ih,
        List.take_of_length_le (by omega)]
      rfl

/-- The bytes hold the units, one after the other, from the place of the field on. -/
def Layout.StoresUnits (layout : Layout) (bytes : Bytes) (name : String) (size : Nat)
    (units : List Nat) : Prop :=
  ∀ field, layout.field name = .ok field → field.offset + units.length * size ≤ bytes.length ∧
    bytes.slice field.offset (units.length * size) = Text.encodeUnits size units

instance (layout : Layout) (bytes : Bytes) (name : String) (size : Nat) (units : List Nat) :
    Decidable (layout.StoresUnits bytes name size units) :=
  layout.decideField name fun _ => inferInstanceAs (Decidable (_ ∧ _))

namespace Layout.StoresUnits

variable {layout : Layout} {bytes : Bytes} {name : String} {size count : Nat} {units : List Nat}
  {field : Field}

/-- Where there is a unit, the array begins before the bytes end. -/
theorem offset_lt (stores : layout.StoresUnits bytes name size units)
    (hfield : layout.field name = .ok field) (pos : 0 < size) (nonEmpty : units ≠ []) :
    field.offset < bytes.length := by
  obtain ⟨within, _⟩ := stores field hfield
  have := Nat.mul_pos (List.length_pos_iff.2 nonEmpty) pos
  omega

/-- The first units are the front of the array. -/
theorem slice_take (stores : layout.StoresUnits bytes name size units)
    (hfield : layout.field name = .ok field) (le : count ≤ units.length) :
    bytes.slice field.offset (count * size) = Text.encodeUnits size (units.take count) := by
  obtain ⟨_, slice⟩ := stores field hfield
  have front : count * size ≤ units.length * size := Nat.mul_le_mul_right size le
  have taken := congrArg (List.take (count * size)) slice
  rwa [Bytes.slice, List.take_take, Nat.min_eq_left front, Text.take_encodeUnits] at taken

end Layout.StoresUnits

namespace MemoryImage.Shows

variable {image : MemoryImage} {region : Region} {layout : Layout} {name : String}
  {size count : Nat} {units : List Nat} {field : Field}

/-- A read of some of the units brings these, and a word counts their bytes. -/
theorem read_units (h : image.Shows region)
    (stores : layout.StoresUnits region.bytes name size units)
    (hfield : layout.field name = .ok field) (pos : 0 < size) (nonEmpty : units ≠ [])
    (le : count ≤ units.length) :
    count * size < UInt64.size ∧
      image.read (.ofNat (region.start.toNat + field.offset)) (count * size) =
        .ok (Text.encodeUnits size (units.take count)) := by
  obtain ⟨within, _⟩ := stores field hfield
  have front : count * size ≤ units.length * size := Nat.mul_le_mul_right size le
  have inside := h.length_lt
  refine ⟨Nat.lt_of_le_of_lt (Nat.le_trans front (by omega)) inside, ?_⟩
  rw [h.read _ _ (stores.offset_lt hfield pos nonEmpty) (by omega), stores.slice_take hfield le]

end MemoryImage.Shows

/-! ## Tuples -/

/-- The image maps a tuple from its head to its last item, and need not go on behind that. -/
structure MemoryImage.MapsTuple (image : MemoryImage) (version : Version) (object : Address)
    (items : List Address) : Prop where
  /-- The items are pointers of the machine. -/
  narrow : ∀ item ∈ items, item.toNat < LittleEndian.span version.abi.wordSize
  /-- Their number fits the field that counts them. -/
  counted : FitsSigned version.abi.wordSize items.length
  shown : ∃ layout bytes, Catalog.builtin.layoutFor .tuple version = .ok layout ∧
    image.Shows ⟨object, bytes⟩ ∧ layout.Stores bytes "ob_size" items.length ∧
    layout.StoresUnits bytes "ob_item" version.abi.wordSize (items.map Address.toNat)

/-- The place of a trailing array, which lies in the address space. -/
def Version.PlacesItems (version : Version) (kind : ObjectKind) (name : String)
    (object place : Address) : Prop :=
  ∃ layout field, Catalog.builtin.layoutFor kind version = .ok layout ∧
    layout.field name = .ok field ∧ field.addressIn object = .ok place

namespace Reader

variable {reader : Reader} {image : MemoryImage} {object : Address} {items : List Address}

/-- An address is found in a word that holds its number. -/
theorem addresses_of_units {abi : Abi}
    (narrow : ∀ item ∈ items, item.toNat < LittleEndian.span abi.wordSize) :
    (((Text.encodeUnits abi.wordSize (items.map Address.toNat)).chunks abi.wordSize).map fun item =>
      Address.ofNat (LittleEndian.unsigned item)) = items := by
  have fits : ∀ unit ∈ items.map Address.toNat, unit < LittleEndian.span abi.wordSize := by
    intro unit mem
    obtain ⟨item, hitem, rfl⟩ := List.mem_map.1 mem
    exact narrow item hitem
  rw [← Function.comp_def Address.ofNat, ← List.map_map, Text.unsigned_chunks abi.wordSize_pos fits,
    List.map_map]
  exact (List.map_congr_left fun item _ => Address.ofNat_toNat item).trans (List.map_id _)

theorem on_arrayLength_eq_ok_iff {count size length : Nat} :
    (arrayLength count size).on image = .ok length ↔
      count * size < UInt64.size ∧ count * size = length := by
  by_cases fits : count * size < UInt64.size
  · simp [arrayLength_of_lt fits, fits]
  · rw [arrayLength_of_le (Nat.le_of_not_lt fits)]
    simp [fits, Probe.on]

/-- What a tuple is read as: the items behind its head, as many as the limit allows, if the read
of them is answered. -/
theorem on_tuple_eq_ok_iff {layout : Layout} {field : Field} {bytes : Bytes} {count : Nat}
    (size : reader.Declares .tuple (.word "ob_size"))
    (hlayout : reader.catalog.layoutFor .tuple reader.version = .ok layout)
    (shows : image.Shows ⟨object, bytes⟩) (stores : layout.Stores bytes "ob_size" count)
    (counted : FitsSigned reader.version.abi.wordSize count)
    (hfield : layout.field "ob_item" = .ok field) (htype : field.type = .items .address) :
    (reader.tuple object).on image = .ok items ↔
      ∃ place found, field.addressIn object = .ok place ∧
        min count reader.limits.maxTupleItems * reader.version.abi.wordSize < UInt64.size ∧
        image.read place (min count reader.limits.maxTupleItems * reader.version.abi.wordSize) =
          .ok found ∧
        ((found.chunks reader.version.abi.wordSize).map fun item =>
          .ofNat (LittleEndian.unsigned item)) = items := by
  unfold tuple
  simp only [Probe.bind_eq, Probe.pure_eq]
  rw [if_neg shows.nonNull, Probe.on_bind_of_ok (on_integer size hlayout shows stores counted),
    Probe.on_bind_of_ok (on_clampedCount_min object _ _), Probe.on_bind_of_ok (on_layout hlayout)]
  simp only [Probe.on_bind_eq_ok_iff, on_itemsPlace_eq_ok_iff shows.nonNull hfield htype,
    on_arrayLength_eq_ok_iff, Probe.on_readUpTo_eq_ok_iff, Probe.on_done, Outcome.ok.injEq,
    exists_and_left, and_assoc, exists_eq_left']

/-- A tuple that has items is read as the first of them, in their order. -/
theorem on_tuple_of_ne_nil {layout : Layout} {field : Field} {bytes : Bytes}
    (size : reader.Declares .tuple (.word "ob_size"))
    (hlayout : reader.catalog.layoutFor .tuple reader.version = .ok layout)
    (shows : image.Shows ⟨object, bytes⟩) (stores : layout.Stores bytes "ob_size" items.length)
    (counted : FitsSigned reader.version.abi.wordSize items.length)
    (hfield : layout.field "ob_item" = .ok field) (htype : field.type = .items .address)
    (units : layout.StoresUnits bytes "ob_item" reader.version.abi.wordSize
      (items.map Address.toNat))
    (narrow : ∀ item ∈ items, item.toNat < LittleEndian.span reader.version.abi.wordSize)
    (nonEmpty : items ≠ []) :
    (reader.tuple object).on image = .ok (items.take reader.limits.maxTupleItems) := by
  have pos := reader.version.abi.wordSize_pos
  have someUnits : items.map Address.toNat ≠ [] := by simpa using nonEmpty
  have enough : min items.length reader.limits.maxTupleItems ≤
      (items.map Address.toNat).length := by
    simp only [List.length_map]
    omega
  have before := units.offset_lt hfield pos someUnits
  obtain ⟨fits, hread⟩ := shows.read_units units hfield pos someUnits enough
  have first : (items.map Address.toNat).take (min items.length reader.limits.maxTupleItems) =
      (items.take reader.limits.maxTupleItems).map Address.toNat := by
    rw [List.map_take, List.take_eq_take_iff, List.length_map]
    omega
  rw [first] at hread
  refine (on_tuple_eq_ok_iff size hlayout shows stores counted hfield htype).2
    ⟨_, _, shows.addressIn before, fits, hread, addresses_of_units ?_⟩
  intro item mem
  exact narrow item (List.mem_of_mem_take mem)

/-- A tuple that is mapped from its head to its last item is read as its first items, in their
order, if it has any. An empty one is read as empty just if the place behind its head lies in a
region, although there is no item at it. -/
theorem tuple_of_mapped (version : Version) (limits : Limits) {image : MemoryImage}
    {object : Address} {items : List Address} (maps : image.MapsTuple version object items) :
    let reader : Reader := { version, limits }
    (items ≠ [] → (reader.tuple object).on image = .ok (items.take limits.maxTupleItems)) ∧
      (items = [] → ((reader.tuple object).on image = .ok [] ↔
        ∃ place region, version.PlacesItems .tuple "ob_item" object place ∧
          image.region? place = some region ∧ region.Covers place.toNat)) := by
  intro reader
  have size : reader.Declares .tuple (.word "ob_size") := declares_of_objectFields rfl (by decide)
  have array : reader.Declares .tuple (.items "ob_item" .address) :=
    declares_of_objectFields rfl (by decide)
  obtain ⟨layout, bytes, hlayout, shows, stores, units⟩ := maps.shown
  obtain ⟨field, hfield, htype, _⟩ := array.exists_field_in hlayout
  constructor
  · exact on_tuple_of_ne_nil size hlayout shows stores maps.counted hfield htype units maps.narrow
  · rintro rfl
    -- no item is asked for, but asked for it is
    have none : min ([] : List Address).length limits.maxTupleItems * version.abi.wordSize = 0 := by
      simp
    rw [on_tuple_eq_ok_iff size hlayout shows stores maps.counted hfield htype, none]
    constructor
    · rintro ⟨place, _, hplace, _, hread, _⟩
      obtain ⟨region, answers, covers, _⟩ := MemoryImage.read_eq_ok_iff.1 hread
      exact ⟨place, region, ⟨layout, field, hlayout, hfield, hplace⟩, answers, covers⟩
    · rintro ⟨place, region, ⟨other, otherField, hother, hotherField, hplace⟩, answers, covers⟩
      obtain rfl := Except.ok.inj (hlayout.symm.trans hother)
      obtain rfl := Except.ok.inj (hfield.symm.trans hotherField)
      refine ⟨place, [], hplace, by decide,
        MemoryImage.read_eq_ok_iff.2 ⟨region, answers, covers, ?_⟩, ?_⟩
      · simp [Bytes.slice]
      · rw [Bytes.chunks_of_length_lt version.abi.wordSize_pos]
        rfl

/-- Three items that end a region, of which two are asked for. -/
theorem two_of_three_items :
    let version : Version := ⟨⟨2, 7⟩, .python2, ⟨.four, .lp64⟩, by decide, by decide⟩
    let object : Address := .ofNat 0x1000
    let items : List Address := [.ofNat 0xfffffffe, .null, .ofNat 0x2000]
    let head : Bytes := List.replicate 8 0 ++ [3, 0, 0, 0]
    let bytes : Bytes := head ++ [254, 255, 255, 255] ++ [0, 0, 0, 0] ++ [0, 0x20, 0, 0]
    let region : Region := ⟨.ofNat 0xffc, [1, 2, 3, 4] ++ bytes⟩
    let image := MemoryImage.ofRegions [region]
    let reader : Reader := { version, limits := { maxTupleItems := 2 } }
    image.MapsTuple version object items ∧
      (reader.tuple object).on image = .ok [.ofNat 0xfffffffe, .null] := by
  intro version object items head bytes region image reader
  have spread : MemoryImage.Spread [region] := by decide
  have holds : image.Holds region := spread.holds List.mem_cons_self
  have shows : image.Shows ⟨object, bytes⟩ :=
    holds.shows_part (by decide : 4 < region.bytes.length) (by decide : 4 + 24 ≤ _)
  have maps : image.MapsTuple version object items :=
    ⟨by decide, by decide, _, bytes, rfl, shows, by decide +kernel, by decide +kernel⟩
  exact ⟨maps, (tuple_of_mapped version { maxTupleItems := 2 } maps).1 (by decide)⟩

/-- An empty tuple that ends its region is not found: the read of its items, of no bytes, starts
where nothing is mapped. -/
theorem empty_tuple_not_found :
    ¬∀ (version : Version) (limits : Limits) (image : MemoryImage) (object : Address)
      (items : List Address), image.MapsTuple version object items →
        let reader : Reader := { version, limits }
        (reader.tuple object).on image = .ok (items.take limits.maxTupleItems) := by
  intro found
  let version : Version := ⟨⟨2, 7⟩, .python2, ⟨.four, .lp64⟩, by decide, by decide⟩
  let object : Address := .ofNat 0x1000
  let head : Bytes := List.replicate 12 0
  let image := MemoryImage.ofRegions [⟨object, head⟩]
  have spread : MemoryImage.Spread [⟨object, head⟩] := by decide
  have shows : image.Shows ⟨object, head⟩ := (spread.holds List.mem_cons_self).shows
  have maps : image.MapsTuple version object [] :=
    ⟨by decide, by decide, _, head, rfl, shows, by decide +kernel, by decide +kernel⟩
  have empty := congrArg Outcome.toOption (found version {} image object [] maps)
  exact absurd empty (by decide +kernel)

/-! ## Byte strings -/

/-- A count that is taken is not negative, and is cut to the limit. -/
theorem on_clampedCount_eq_ok_iff {claimed : Int} {limit count : Nat} :
    (clampedCount object claimed limit).on image = .ok count ↔
      0 ≤ claimed ∧ min claimed.toNat limit = count := by
  by_cases negative : claimed < 0
  · simp only [clampedCount, if_pos negative]
    constructor
    · intro h
      cases h
    · rintro ⟨h, _⟩
      omega
  · have cut : (clampedCount object claimed.toNat limit).on image = .ok (min claimed.toNat limit) :=
      on_clampedCount_min object claimed.toNat limit
    rw [Int.toNat_of_nonneg (by omega)] at cut
    rw [cut]
    simp
    omega

/-- What a byte string is read as: the characters behind its head, as many as the limit allows.
Where none are, none are read. -/
theorem on_sizedChars_eq_some_iff {kind : ObjectKind} {layout : Layout} {field : Field}
    (nonNull : ¬object.isNull)
    (hlayout : reader.catalog.layoutFor kind reader.version = .ok layout)
    (hfield : layout.field "ob_sval" = .ok field) {item : ItemKind}
    (htype : field.type = .items item) {chars : Bytes} :
    (reader.sizedChars object kind).on image = .ok (some chars) ↔
      ∃ size place, (reader.integer object kind "ob_size").on image = .ok size ∧ 0 ≤ size ∧
        field.addressIn object = .ok place ∧
        let length := min size.toNat reader.limits.maxStringLength
        if length = 0 then chars = [] else image.read place length = .ok chars := by
  unfold sizedChars
  simp only [Probe.bind_eq, Probe.pure_eq]
  rw [if_neg nonNull]
  constructor
  · intro h
    simp only [Probe.on_bind_eq_ok_iff, on_clampedCount_eq_ok_iff] at h
    obtain ⟨size, hsize, _, ⟨nonNegative, rfl⟩, found, hfound, place, hplace, h⟩ := h
    obtain rfl := Outcome.ok.inj ((on_layout hlayout).symm.trans hfound)
    refine ⟨size, place, hsize, nonNegative,
      (on_itemsPlace_eq_ok_iff nonNull hfield htype).1 hplace, ?_⟩
    by_cases none : min size.toNat reader.limits.maxStringLength = 0
    · simpa [none, eq_comm] using h
    · rw [if_neg none] at h ⊢
      obtain ⟨found, hread, h⟩ := Probe.on_bind_eq_ok_iff.1 h
      obtain rfl : found = chars := by simpa using h
      exact Probe.on_readUpTo_eq_ok_iff.1 hread
  · rintro ⟨size, place, hsize, nonNegative, hplace, h⟩
    rw [Probe.on_bind_of_ok hsize,
      Probe.on_bind_of_ok (on_clampedCount_eq_ok_iff.2 ⟨nonNegative, rfl⟩),
      Probe.on_bind_of_ok (on_layout hlayout),
      Probe.on_bind_of_ok (on_itemsPlace nonNull hfield htype hplace)]
    by_cases none : min size.toNat reader.limits.maxStringLength = 0
    · simpa [none, eq_comm] using h
    · simp only [if_neg none] at h ⊢
      rw [Probe.on_bind_of_ok (Probe.on_readUpTo h _)]
      rfl

end Reader

end RemoteStack
