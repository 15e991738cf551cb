import RemoteStack.Proofs.Encoding.LittleEndian
import RemoteStack.Proofs.Layout.Declared
import RemoteStack.Proofs.Layout.Placement
import RemoteStack.Proofs.Memory.Region
import RemoteStack.Proofs.Probe.Still
import RemoteStack.Proofs.Reader.Failure

/-!
# Writing objects

An object is written as zeros, into which values are written field by field
(`Layout.object`). What its fields then hold, and what a reader finds in them:

* **bytes** — each field holds the value that was written to it, or zero
  (`Layout.stores_object`), because no two fields share a byte;
* **fields** — a field that `Stores` a value in a region that the image holds is read as the
  value: an integer if it fits the field (`Reader.on_integer`), an address if it fits a pointer
  (`Reader.on_address`).
-/

namespace RemoteStack

/-! ## Bytes of an object -/

namespace Layout

/-- The bytes with the value written into the field of the name. -/
def store (layout : Layout) (name : String) (value : Int) (bytes : Bytes) : Bytes :=
  match layout.field name with
  | .ok field => MemoryImage.overwrite bytes field.offset (LittleEndian.encode field.size value)
  | .error _ => bytes

/-- An object with values in its fields, zeros elsewhere, and room behind it. -/
def object (layout : Layout) (room : Nat) : List (String × Int) → Bytes
  | [] => List.replicate (layout.size + room) 0
  | (name, value) :: rest => layout.store name value (layout.object room rest)

/-- The value that is written to a name; of several the first, and zero without any. -/
def valueOf (values : List (String × Int)) (name : String) : Int := (values.lookup name).getD 0

/-- The bytes hold the value in the field of the name, if there is one. -/
def Stores (layout : Layout) (bytes : Bytes) (name : String) (value : Int) : Prop :=
  ∀ field, layout.field name = .ok field → field.offset + field.size ≤ bytes.length ∧
    bytes.slice field.offset field.size = LittleEndian.encode field.size value

/-- A property of the field of a name, if there is one, can be decided on that field. -/
def decideField (layout : Layout) (name : String) {P : Field → Prop}
    (decide : ∀ field, Decidable (P field)) :
    Decidable (∀ field, layout.field name = .ok field → P field) :=
  match _ : layout.field name with
  | .ok found =>
    match decide found with
    | .isTrue holds => .isTrue fun _ hfield => Except.ok.inj hfield ▸ holds
    | .isFalse fails => .isFalse fun all => fails (all found rfl)
  | .error _ => .isTrue nofun

instance (layout : Layout) (bytes : Bytes) (name : String) (value : Int) :
    Decidable (layout.Stores bytes name value) :=
  layout.decideField name fun _ => inferInstanceAs (Decidable (_ ∧ _))

variable {layout : Layout} {bytes : Bytes} {name : String} {value : Int}

theorem length_store (h : layout.WellPlaced) (enough : layout.size ≤ bytes.length)
    (name : String) (value : Int) : (layout.store name value bytes).length = bytes.length := by
  unfold store
  split
  · rename_i field hfield
    have := h.end_le hfield
    refine MemoryImage.length_overwrite ?_
    rw [LittleEndian.length_encode]
    omega
  · rfl

theorem stores_store_self (h : layout.WellPlaced) (enough : layout.size ≤ bytes.length)
    (name : String) (value : Int) : layout.Stores (layout.store name value bytes) name value := by
  intro field hfield
  have within : field.offset + field.size ≤ bytes.length :=
    Nat.le_trans (h.end_le hfield) enough
  have length := LittleEndian.length_encode field.size value
  have patched : field.offset + (LittleEndian.encode field.size value).length ≤ bytes.length := by
    rwa [length]
  have slice := MemoryImage.slice_overwrite_self patched
  rw [length] at slice
  refine ⟨by rwa [length_store h enough], ?_⟩
  rw [store, hfield]
  exact slice

/-- What is stored in another field stays. -/
theorem Stores.store {other : String} {otherValue : Int}
    (stores : layout.Stores bytes name value) (h : layout.WellPlaced)
    (enough : layout.size ≤ bytes.length) (ne : name ≠ other) :
    layout.Stores (layout.store other otherValue bytes) name value := by
  intro field hfield
  obtain ⟨within, slice⟩ := stores field hfield
  refine ⟨by rwa [length_store h enough], ?_⟩
  unfold Layout.store
  split
  · rename_i otherField hother
    rw [MemoryImage.slice_overwrite_of_apart, slice]
    · rw [LittleEndian.length_encode]
      exact Nat.le_trans (h.end_le hother) enough
    · rw [LittleEndian.length_encode]
      exact h.apart hfield hother ne
  · exact slice

theorem length_object (h : layout.WellPlaced) (room : Nat) (values : List (String × Int)) :
    (layout.object room values).length = layout.size + room := by
  induction values with
  | nil => exact List.length_replicate
  | cons entry rest ih =>
    rw [object, length_store h (by omega), ih]

/-- Each field holds the value that was written to it. -/
theorem stores_object (h : layout.WellPlaced) (room : Nat) (values : List (String × Int))
    (name : String) : layout.Stores (layout.object room values) name (valueOf values name) := by
  induction values with
  | nil =>
    intro field hfield
    have := h.end_le hfield
    refine ⟨by rw [length_object h]; omega, ?_⟩
    -- no value was written, and a slice of zeros is a zero of its size
    show ((List.replicate _ (0 : UInt8)).drop _).take _ = LittleEndian.encode field.size 0
    rw [List.drop_replicate, List.take_replicate, LittleEndian.encode_zero]
    congr 1
    omega
  | cons entry rest ih =>
    obtain ⟨other, otherValue⟩ := entry
    have enough : layout.size ≤ (layout.object room rest).length := by
      rw [length_object h]
      omega
    -- the first of the values is written last, over whatever its field held
    by_cases same : name = other
    · subst same
      have first : valueOf ((name, otherValue) :: rest) name = otherValue := by
        rw [valueOf, List.lookup_cons_self]
        rfl
      rw [first]
      exact stores_store_self h enough name otherValue
    · have later : valueOf ((other, otherValue) :: rest) name = valueOf rest name := by
        have differs : (name == other) = false := beq_eq_false_iff_ne.2 same
        rw [valueOf, List.lookup_cons, differs]
        rfl
      rw [later]
      exact ih.store h enough same

end Layout

/-- The bytes of an object of a kind, as its layout has it; none where there is no layout. -/
def Version.objectBytes (version : Version) (kind : ObjectKind) (write : Layout → Bytes) : Bytes :=
  match Catalog.builtin.layoutFor kind version with
  | .ok layout => write layout
  | .error _ => []

theorem Version.objectBytes_eq {version : Version} {kind : ObjectKind} {layout : Layout}
    (h : Catalog.builtin.layoutFor kind version = .ok layout) (write : Layout → Bytes) :
    version.objectBytes kind write = write layout := by
  rw [objectBytes, h]

/-! ## Reading within a region -/

/-- The place of a trailing array is found without a read. -/
theorem Layout.on_read_items {layout : Layout} {object place : Address} {name : String}
    {field : Field} (nonNull : ¬object.isNull) (hfield : layout.field name = .ok field)
    {item : ItemKind} (htype : field.type = .items item)
    (hplace : field.addressIn object = .ok place) (image : MemoryImage) :
    (layout.read object name).on image = .ok (.items place) := by
  unfold Layout.read
  simp only [Probe.bind_eq, Probe.pure_eq, if_neg nonNull, hfield, Probe.ofExcept,
    Probe.done_bind, hplace, htype]
  rw [Probe.on_bind_of_ok rfl]
  rfl

namespace MemoryImage

variable {image : MemoryImage} {region : Region} {layout : Layout} {name : String} {field : Field}

namespace Shows

theorem addressIn (h : image.Shows region) {field : Field}
    (within : field.offset < region.bytes.length) :
    field.addressIn region.start = .ok (.ofNat (region.start.toNat + field.offset)) := by
  have := h.inSpace
  rw [Field.addressIn, Address.add?, if_pos (by omega)]

/-- A strict read within the region brings its slice. -/
theorem on_readExactly (h : image.Shows region) {offset length : Nat} (pos : 0 < length)
    (within : offset + length ≤ region.bytes.length) (context : String) :
    (Probe.readExactly (.ofNat (region.start.toNat + offset)) length context).on image =
      .ok (region.bytes.slice offset length) := by
  refine Probe.on_readExactly (h.read _ _ (by omega) within) ?_ context
  rw [Bytes.slice, List.length_take, List.length_drop]
  omega

theorem on_read_integer (h : image.Shows region) (hfield : layout.field name = .ok field)
    {width : IntWidth} (htype : field.type = .integer width) (pos : 0 < field.size)
    (within : field.offset + field.size ≤ region.bytes.length) :
    (layout.read region.start name).on image =
      .ok (.integer (LittleEndian.signed (region.bytes.slice field.offset field.size))) := by
  unfold Layout.read
  simp only [Probe.bind_eq, Probe.pure_eq, if_neg h.nonNull, hfield, Probe.ofExcept,
    Probe.done_bind, h.addressIn (by omega : field.offset < region.bytes.length), htype]
  rw [Probe.on_bind_of_ok rfl, Probe.on_bind_of_ok (h.on_readExactly pos within _)]
  rfl

theorem on_read_address (h : image.Shows region) (hfield : layout.field name = .ok field)
    (htype : field.type = .address) (pos : 0 < field.size)
    (within : field.offset + field.size ≤ region.bytes.length) :
    (layout.read region.start name).on image = .ok (.address (.ofNat
      (LittleEndian.unsigned (region.bytes.slice field.offset field.size)))) := by
  unfold Layout.read
  simp only [Probe.bind_eq, Probe.pure_eq, if_neg h.nonNull, hfield, Probe.ofExcept,
    Probe.done_bind, h.addressIn (by omega : field.offset < region.bytes.length), htype]
  rw [Probe.on_bind_of_ok rfl, Probe.on_bind_of_ok (h.on_readExactly pos within _)]
  rfl

theorem on_read_struct (h : image.Shows region) (hfield : layout.field name = .ok field)
    {size align : Nat} (htype : field.type = .struct size align) (pos : 0 < size)
    (within : field.offset + size ≤ region.bytes.length) :
    (layout.read region.start name).on image =
      .ok (.bytes (region.bytes.slice field.offset size)) := by
  unfold Layout.read
  simp only [Probe.bind_eq, Probe.pure_eq, if_neg h.nonNull, hfield, Probe.ofExcept,
    Probe.done_bind, h.addressIn (by omega : field.offset < region.bytes.length), htype]
  rw [Probe.on_bind_of_ok rfl, Probe.on_bind_of_ok (h.on_readExactly pos within _)]
  rfl

theorem on_read_chars (h : image.Shows region) (hfield : layout.field name = .ok field)
    {capacity : Nat} {terminated : Bool} (htype : field.type = .chars capacity terminated)
    (pos : 0 < capacity) (within : field.offset + capacity ≤ region.bytes.length) :
    (layout.read region.start name).on image =
      let bytes := region.bytes.slice field.offset capacity
      .ok (.chars (if terminated then bytes.untilZero else bytes)) := by
  unfold Layout.read
  simp only [Probe.bind_eq, Probe.pure_eq, if_neg h.nonNull, hfield, Probe.ofExcept,
    Probe.done_bind, h.addressIn (by omega : field.offset < region.bytes.length), htype]
  rw [Probe.on_bind_of_ok rfl,
    Probe.on_bind_of_ok (Probe.on_readUpTo (h.read _ _ (by omega) within) _)]
  rfl

end Shows

end MemoryImage

/-! ## Reading stored values -/

/-- An integer field takes between one and eight bytes. -/
theorem IntWidth.size_bounds (abi : Abi) (width : IntWidth) :
    0 < width.size abi ∧ width.size abi ≤ 8 := by
  obtain ⟨pointerWidth, dataModel⟩ := abi
  cases width <;> cases pointerWidth <;> cases dataModel <;> decide

theorem Abi.wordSize_pos (abi : Abi) : 0 < abi.wordSize :=
  (IntWidth.size_bounds abi .word).1

namespace Reader

variable {reader : Reader} {image : MemoryImage} {kind : ObjectKind} {layout : Layout}
  {object : Address} {bytes : Bytes} {name : String}

theorem on_layout (h : reader.catalog.layoutFor kind reader.version = .ok layout) :
    (reader.layout kind).on image = .ok layout := by
  simp only [Reader.layout, Probe.bind_eq, h]
  rw [Probe.on_bind_of_ok (Probe.on_reportAll _)]
  rfl

/-- An integer field of the layout that is found is read for the integer. -/
theorem on_integer_of_read (hlayout : reader.catalog.layoutFor kind reader.version = .ok layout)
    {value : Int} (hread : (layout.read object name).on image = .ok (.integer value)) :
    (reader.integer object kind name).on image = .ok value := by
  simp only [Reader.integer, Probe.bind_eq, Probe.pure_eq]
  rw [Probe.on_bind_of_ok (on_layout hlayout), Probe.on_bind_of_ok hread]
  rfl

theorem on_address_of_read (hlayout : reader.catalog.layoutFor kind reader.version = .ok layout)
    {target : Address} (hread : (layout.read object name).on image = .ok (.address target)) :
    (reader.address object kind name).on image = .ok target := by
  simp only [Reader.address, Probe.bind_eq, Probe.pure_eq]
  rw [Probe.on_bind_of_ok (on_layout hlayout), Probe.on_bind_of_ok hread]
  rfl

theorem on_itemsPlace (nonNull : ¬object.isNull) {field : Field}
    (hfield : layout.field name = .ok field) {item : ItemKind} (htype : field.type = .items item)
    {place : Address} (hplace : field.addressIn object = .ok place) :
    (itemsPlace layout object name).on image = .ok place := by
  have hread := Layout.on_read_items nonNull hfield htype hplace image
  unfold itemsPlace
  simp only [Probe.bind_eq, Probe.pure_eq]
  rw [Probe.on_bind_of_ok hread]
  rfl

/-- The place of a trailing array is all that is found of it, if it lies in the address space. -/
theorem on_itemsPlace_eq_ok_iff (nonNull : ¬object.isNull) {field : Field}
    (hfield : layout.field name = .ok field) {item : ItemKind} (htype : field.type = .items item)
    {place : Address} : (itemsPlace layout object name).on image = .ok place ↔
      field.addressIn object = .ok place := by
  constructor
  · intro h
    cases hplace : field.addressIn object with
    | ok found =>
      have same := (on_itemsPlace nonNull hfield htype hplace).symm.trans h
      exact congrArg Except.ok (Outcome.ok.inj same)
    | error failure =>
      simp only [itemsPlace, Layout.read, Probe.bind_eq, if_neg nonNull, hfield, Probe.ofExcept,
        Probe.done_bind, hplace, Probe.failed_bind] at h
      cases h
  · exact on_itemsPlace nonNull hfield htype

/-- The field that was written is the one that is read, in the size of its type. -/
theorem exists_stored {type : FieldType} (declared : reader.Declares kind ⟨name, type⟩)
    (hlayout : reader.catalog.layoutFor kind reader.version = .ok layout) {value : Int}
    (stores : layout.Stores bytes name value) :
    ∃ field, layout.field name = .ok field ∧ field.type = type ∧
      field.size = type.size reader.version.abi ∧ field.offset + field.size ≤ bytes.length ∧
      bytes.slice field.offset field.size = LittleEndian.encode field.size value := by
  obtain ⟨field, hfield, htype, hsize⟩ := declared.exists_field_in hlayout
  obtain ⟨within, slice⟩ := stores field hfield
  exact ⟨field, hfield, htype, hsize, within, slice⟩

/-- A stored integer is read modulo the span of its field. -/
theorem on_integer_bmod {width : IntWidth} (declared : reader.Declares kind ⟨name, .integer width⟩)
    (hlayout : reader.catalog.layoutFor kind reader.version = .ok layout)
    (shows : image.Shows ⟨object, bytes⟩) {value : Int} (stores : layout.Stores bytes name value) :
    (reader.integer object kind name).on image =
      .ok (value.bmod (LittleEndian.span (width.size reader.version.abi))) := by
  obtain ⟨field, hfield, htype, hsize, within, slice⟩ :=
    exists_stored declared hlayout stores
  obtain ⟨pos, most⟩ := width.size_bounds reader.version.abi
  rw [FieldType.size] at hsize
  have hread := shows.on_read_integer hfield htype (hsize ▸ pos) within
  rw [slice, hsize, LittleEndian.signed_encode most] at hread
  exact on_integer_of_read hlayout hread

theorem on_integer {width : IntWidth} (declared : reader.Declares kind ⟨name, .integer width⟩)
    (hlayout : reader.catalog.layoutFor kind reader.version = .ok layout)
    (shows : image.Shows ⟨object, bytes⟩) {value : Int} (stores : layout.Stores bytes name value)
    (fits : LittleEndian.FitsSigned (width.size reader.version.abi) value) :
    (reader.integer object kind name).on image = .ok value := by
  rw [on_integer_bmod declared hlayout shows stores, fits.bmod]

/-- A stored address that fits a pointer is read. -/
theorem on_address (declared : reader.Declares kind ⟨name, .address⟩)
    (hlayout : reader.catalog.layoutFor kind reader.version = .ok layout)
    (shows : image.Shows ⟨object, bytes⟩) {target : Address}
    (stores : layout.Stores bytes name target.toNat)
    (fits : target.toNat < LittleEndian.span reader.version.abi.wordSize) :
    (reader.address object kind name).on image = .ok target := by
  obtain ⟨field, hfield, htype, hsize, within, slice⟩ :=
    exists_stored declared hlayout stores
  rw [FieldType.size] at hsize
  have hread := shows.on_read_address hfield htype (hsize ▸ Abi.wordSize_pos _) within
  rw [slice, hsize, LittleEndian.unsigned_encode_of_lt fits, Address.ofNat_toNat] at hread
  exact on_address_of_read hlayout hread

/-! ## Reading objects -/

/-- The image holds the region, and a pointer can lead there. -/
structure Reaches (reader : Reader) (image : MemoryImage) (region : Region) : Prop where
  holds : image.Holds region
  narrow : region.start.toNat < LittleEndian.span reader.version.abi.wordSize

variable {values : List (String × Int)}

/-- An object that is held is read with its layout, and stores what was written to it. -/
theorem exists_layout_of_object (known : reader.catalog = .builtin) {decl : FieldDecl}
    (mem : (kind, decl) ∈ Catalog.captureFields reader.version.family)
    (holds : image.Holds ⟨object, reader.version.objectBytes kind (·.object 0 values)⟩) :
    ∃ layout, reader.catalog.layoutFor kind reader.version = .ok layout ∧
      image.Holds ⟨object, layout.object 0 values⟩ ∧
      ∀ name, layout.Stores (layout.object 0 values) name (Layout.valueOf values name) := by
  obtain ⟨layout, _, hlayout, _⟩ := (covers_of_builtin known).exists_field mem
  have builtin := hlayout
  rw [known] at builtin
  rw [Version.objectBytes_eq builtin] at holds
  exact ⟨layout, hlayout, holds,
    Layout.stores_object (Catalog.wellPlaced_of_layoutFor hlayout) 0 values⟩

theorem on_integer_bmod_of_object (known : reader.catalog = .builtin) (width : IntWidth)
    (mem : (kind, ⟨name, .integer width⟩) ∈ Catalog.captureFields reader.version.family)
    (holds : image.Holds ⟨object, reader.version.objectBytes kind (·.object 0 values)⟩)
    {value : Int} (written : Layout.valueOf values name = value) :
    (reader.integer object kind name).on image =
      .ok (value.bmod (LittleEndian.span (width.size reader.version.abi))) := by
  obtain ⟨layout, hlayout, hobject, stores⟩ := exists_layout_of_object known mem holds
  exact on_integer_bmod ((covers_of_builtin known).declared mem) hlayout hobject.shows
    (written ▸ stores name)

theorem on_integer_of_object (known : reader.catalog = .builtin) (width : IntWidth)
    (mem : (kind, ⟨name, .integer width⟩) ∈ Catalog.captureFields reader.version.family)
    (holds : image.Holds ⟨object, reader.version.objectBytes kind (·.object 0 values)⟩)
    {value : Int} (written : Layout.valueOf values name = value)
    (fits : LittleEndian.FitsSigned (width.size reader.version.abi) value) :
    (reader.integer object kind name).on image = .ok value := by
  rw [on_integer_bmod_of_object known width mem holds written, fits.bmod]

theorem on_address_of_object (known : reader.catalog = .builtin)
    (mem : (kind, ⟨name, .address⟩) ∈ Catalog.captureFields reader.version.family)
    (holds : image.Holds ⟨object, reader.version.objectBytes kind (·.object 0 values)⟩)
    {target : Address} (written : Layout.valueOf values name = target.toNat)
    (fits : target.toNat < LittleEndian.span reader.version.abi.wordSize) :
    (reader.address object kind name).on image = .ok target := by
  obtain ⟨layout, hlayout, hobject, stores⟩ := exists_layout_of_object known mem holds
  exact on_address ((covers_of_builtin known).declared mem) hlayout hobject.shows
    (written ▸ stores name) fits

end Reader

end RemoteStack
