import RemoteStack.Proofs.Encoding.Object
import RemoteStack.Proofs.Memory.Separate
import RemoteStack.Proofs.Probe.Sequence

/-!
# Writing and reading fields

What stands in the fields of a layout, whatever was declared, and whatever order it was written
in.

* **values** — a `Content` is a value that a field of its type has room for, with its bytes
  (`Content.encode`) and the value that is to be found in them (`Content.found`);
* **reads** — a field that has a content is read as its value, by one read of the size of the
  field, or by none if it is a trailing array (`Layout.on_read_content`, `Layout.requests_read`);
* **writes** — a write to a field of an object stays within the field
  (`MemoryImage.KeepsObject.write_content`), so that after a sequence of them each field has the
  content that was written there (`MemoryImage.KeepsObject.writeContents`).
-/

namespace RemoteStack

/-! ## Values -/

/-- What may be written into a field of a type; of a trailing array, its first element. -/
inductive Content (abi : Abi) : FieldType → Type where
  | integer {width : IntWidth} (value : Int)
      (fits : LittleEndian.FitsSigned (width.size abi) value) : Content abi (.integer width)
  | address (target : Address) (fits : target.toNat < LittleEndian.span abi.wordSize) :
      Content abi .address
  | chars {capacity : Nat} {terminated : Bool} (bytes : Bytes)
      (length : bytes.length = capacity) : Content abi (.chars capacity terminated)
  | struct {size align : Nat} (bytes : Bytes) (length : bytes.length = size) :
      Content abi (.struct size align)
  | items {item : ItemKind} (element : Bytes) (length : element.length = item.size abi) :
      Content abi (.items item)

namespace Content

variable {abi : Abi} {type : FieldType}

/-- The bytes of the content. -/
def encode : {type : FieldType} → Content abi type → Bytes
  | .integer width, integer value _ => LittleEndian.encode (width.size abi) value
  | .address, address target _ => LittleEndian.encode abi.wordSize target.toNat
  | .chars _ _, chars bytes _ => bytes
  | .struct _ _, struct bytes _ => bytes
  | .items _, items element _ => element

/-- The value of the content, if it is found at a place. -/
def found (place : Address) : {type : FieldType} → Content abi type → FieldValue
  | .integer _, integer value _ => .integer value
  | .address, address target _ => .address target
  | .chars _ terminated, chars bytes _ => .chars (if terminated then bytes.untilZero else bytes)
  | .struct _ _, struct bytes _ => .bytes bytes
  | .items _, items _ _ => .items place

theorem length_encode (content : Content abi type) : content.encode.length = type.size abi := by
  cases content with
  | integer | address => exact LittleEndian.length_encode _ _
  | chars _ length | struct _ length | items _ length => exact length

end Content

/-! ## Reads -/

/-- The field is no trailing array: what it holds lies within the object. -/
def Field.IsInline (field : Field) : Prop := ∀ item, field.type ≠ .items item

/-- The reads that are made for a field at a place. -/
def Field.reads (field : Field) (place : Address) : List Request :=
  match field.type with
  | .items _ => []
  | _ => [⟨place, field.size⟩]

namespace Layout

variable {layout : Layout} {name : String} {field : Field}

/-- Whatever the memory answers, a field is asked for once, and a trailing array not at all. -/
theorem requests_read {object place : Address} (nonNull : ¬object.isNull)
    (hfield : layout.field name = .ok field) (hplace : field.addressIn object = .ok place)
    {abi : Abi} (sized : field.size = field.type.size abi) (memory : Memory) (served : Nat) :
    ((layout.read object name).run memory served).requests = field.reads place := by
  unfold Layout.read Field.reads
  simp only [Probe.bind_eq, Probe.pure_eq, if_neg nonNull, hfield, hplace, Probe.ofExcept,
    Probe.done_bind, Probe.trace, Probe.report_bind, Probe.run]
  cases htype : field.type <;> rw [htype] at sized
  case integer | address =>
    rw [Probe.requests_bind_done]
    exact Probe.requests_readExactly _ _ _ _ _
  case chars =>
    rw [Probe.requests_bind_done, sized]
    exact Probe.requests_readUpTo _ _ _ _ _
  case struct =>
    rw [Probe.requests_bind_done, sized]
    exact Probe.requests_readExactly _ _ _ _ _
  case items => rfl

/-- A field that has a content is read as its value. -/
theorem on_read_content {image : MemoryImage} {region : Region} (shows : image.Shows region)
    (hfield : layout.field name = .ok field) {abi : Abi} (sized : field.size = field.type.size abi)
    (pos : 0 < field.size) (within : field.offset + field.size ≤ region.bytes.length)
    (content : Content abi field.type)
    (stored : field.IsInline → region.bytes.slice field.offset field.size = content.encode) :
    (layout.read region.start name).on image =
      .ok (content.found (.ofNat (region.start.toNat + field.offset))) := by
  obtain ⟨fieldName, offset, size, type⟩ := field
  cases content with
  | @integer width value fits =>
    have most := (width.size_bounds abi).2
    rw [shows.on_read_integer hfield rfl pos within, stored nofun]
    simp only [Content.encode, Content.found]
    rw [LittleEndian.signed_encode most, fits.bmod]
  | address target fits =>
    rw [shows.on_read_address hfield rfl pos within, stored nofun]
    simp only [Content.encode, Content.found]
    rw [LittleEndian.unsigned_encode_of_lt fits, Address.ofNat_toNat]
  | chars bytes length =>
    -- the read asks for the capacity, which is the size of the field
    obtain rfl : size = bytes.length := sized.trans length.symm
    subst length
    rw [shows.on_read_chars hfield rfl pos within, stored nofun]
    rfl
  | struct bytes length =>
    obtain rfl : size = bytes.length := sized.trans length.symm
    subst length
    rw [shows.on_read_struct hfield rfl pos within, stored nofun]
    rfl
  | items =>
    exact Layout.on_read_items shows.nonNull hfield rfl (shows.addressIn (by omega)) image

end Layout

/-! ## Writes -/

/-- Contents for the fields of layouts, each of the type of its field. -/
abbrev Contents (abi : Abi) : Type := (field : Field) → Content abi field.type

/-- Writes the contents of fields into the object at an address, in the order of the fields. -/
def MemoryImage.writeContents {abi : Abi} (contents : Contents abi) (object : Address)
    (image : MemoryImage) : List Field → Except AccessError MemoryImage
  | [] => .ok image
  | field :: rest => do
    let place := .ofNat (object.toNat + field.offset)
    let next ← image.write place (contents field).encode
    writeContents contents object next rest

/-- The fields stand one after the other, have the sizes of their types, and none is empty. -/
structure Layout.Sized (layout : Layout) : Prop extends layout.WellPlaced where
  size_eq : ∀ field ∈ layout.fields, field.size = field.type.size layout.abi
  pos : ∀ field ∈ layout.fields, 0 < field.size

theorem Layout.ofDecls_sized (kind : ObjectKind) (range : ReleaseRange) {abi : Abi}
    {decls : List FieldDecl} (pos : ∀ decl ∈ decls, 0 < decl.type.size abi) :
    (ofDecls kind range abi decls).Sized where
  toWellPlaced := ofDecls_wellPlaced kind range abi decls
  size_eq field mem := by
    obtain ⟨decl, _, _, type, size⟩ := exists_decl_of_mem_place mem
    rw [size, type]
    rfl
  pos field mem := by
    obtain ⟨decl, hdecl, _, _, size⟩ := exists_decl_of_mem_place mem
    rw [size]
    exact pos decl hdecl

/-- What stands in the region in the place of a field of an object. -/
def Region.fieldBytes (region : Region) (object : Address) (field : Field) : Bytes :=
  region.bytes.slice (object.toNat - region.start.toNat + field.offset) field.size

/-- The image keeps the region, and an object of the layout lies within it. -/
structure MemoryImage.KeepsObject (image : MemoryImage) (layout : Layout) (object : Address)
    (region : Region) : Prop where
  keeps : image.Keeps region
  from_start : region.start.toNat ≤ object.toNat
  within : object.toNat + layout.size ≤ region.start.toNat + region.bytes.length
  inSpace : object.toNat + layout.size ≤ UInt64.size

namespace MemoryImage.KeepsObject

variable {image : MemoryImage} {layout : Layout} {object : Address} {region : Region}

/-- A write of the content of a field succeeds, and puts it into this field only. -/
theorem write_content (h : image.KeepsObject layout object region) (sized : layout.Sized)
    {field : Field} (mem : field ∈ layout.fields) (content : Content layout.abi field.type) :
    ∃ next written, image.write (.ofNat (object.toNat + field.offset)) content.encode = .ok next ∧
      next.KeepsObject layout object written ∧
      written.fieldBytes object field = content.encode ∧
      ∀ other ∈ layout.fields, other ≠ field →
        written.fieldBytes object other = region.fieldBytes object other := by
  have length : content.encode.length = field.size := by
    rw [content.length_encode, sized.size_eq field mem]
  have pos := sized.pos field mem
  have inside := sized.inside field mem
  obtain ⟨keeps, from_start, within, inSpace⟩ := h
  have fits : object.toNat - region.start.toNat + field.offset + content.encode.length ≤
      region.bytes.length := by
    omega
  have nonEmpty : content.encode ≠ [] := by
    rw [← List.length_pos_iff, length]
    exact pos
  have place : (Address.ofNat (object.toNat + field.offset)).toNat =
      region.start.toNat + (object.toNat - region.start.toNat + field.offset) := by
    rw [Address.toNat_ofNat (by omega)]
    omega
  obtain ⟨written, kept⟩ := keeps.write nonEmpty fits place
  refine ⟨_, _, written, ⟨kept, from_start, ?_, inSpace⟩, ?_, ?_⟩
  · rwa [length_overwrite fits]
  · rw [Region.fieldBytes, ← length]
    exact slice_overwrite_self fits
  · intro other hother ne
    show (overwrite region.bytes _ _).slice
      (object.toNat - region.start.toNat + other.offset) other.size = region.fieldBytes object other
    apply slice_overwrite_of_apart fits
    rw [length]
    have apart : other.Apart field := sized.apart_of_mem hother mem ne
    unfold Field.Apart at apart
    omega

/-- After a sequence of writes the fields that were written have their contents, and those that
had theirs before have them still. -/
theorem writeContents (h : image.KeepsObject layout object region) (sized : layout.Sized)
    (contents : Contents layout.abi) {order : List Field}
    (mem : ∀ field ∈ order, field ∈ layout.fields) :
    ∃ last written, image.writeContents contents object order = .ok last ∧
      last.KeepsObject layout object written ∧
      ∀ field ∈ layout.fields,
        (field ∈ order ∨ region.fieldBytes object field = (contents field).encode) →
          written.fieldBytes object field = (contents field).encode := by
  induction order generalizing image region with
  | nil =>
    refine ⟨image, region, rfl, h, ?_⟩
    rintro field _ (none | before)
    · cases none
    · exact before
  | cons first rest ih =>
    obtain ⟨hfirst, hrest⟩ := List.forall_mem_cons.1 mem
    obtain ⟨next, between, hnext, keeps, self, others⟩ :=
      h.write_content sized hfirst (contents first)
    obtain ⟨last, written, hlast, kept, fields⟩ := ih keeps hrest
    refine ⟨last, written, ?_, kept, ?_⟩
    · rw [MemoryImage.writeContents, hnext]
      exact hlast
    · intro field hfield before
      apply fields field hfield
      -- the field that is written now has its content, whatever it had before
      by_cases same : field = first
      · rw [same]
        exact .inr self
      · rw [others field hfield same]
        exact before.imp_left fun written => (List.mem_cons.1 written).resolve_left same

/-- The bytes of the object. -/
def bytes (_ : image.KeepsObject layout object region) : Bytes :=
  region.bytes.slice (object.toNat - region.start.toNat) layout.size

theorem shows (h : image.KeepsObject layout object region) (nonNull : ¬object.isNull) :
    image.Shows ⟨object, h.bytes⟩ :=
  h.keeps.shows nonNull h.from_start h.within h.inSpace

theorem length_bytes (h : image.KeepsObject layout object region) :
    h.bytes.length = layout.size := by
  have from_start := h.from_start
  have within := h.within
  exact Bytes.length_slice (by omega)

theorem slice_bytes (h : image.KeepsObject layout object region) (sized : layout.Sized)
    {field : Field} (mem : field ∈ layout.fields) :
    h.bytes.slice field.offset field.size = region.fieldBytes object field :=
  Bytes.slice_slice _ _ (sized.inside field mem)

/-- A field of an object that the image keeps is read as the content that it has. -/
theorem run_read (h : image.KeepsObject layout object region) (sized : layout.Sized)
    (distinct : (layout.fields.map (·.name)).Nodup) (nonNull : ¬object.isNull) {field : Field}
    (mem : field ∈ layout.fields) (content : Content layout.abi field.type)
    (stored : field.IsInline → region.fieldBytes object field = content.encode)
    (served : Nat) :
    let place : Address := .ofNat (object.toNat + field.offset)
    let run := (layout.read object field.name).run (.ofImage image) served
    place.toNat = object.toNat + field.offset ∧ run.outcome = .ok (content.found place) ∧
      run.requests = field.reads place := by
  have inSpace := h.inSpace
  have shows := h.shows nonNull
  have hfield := Layout.field_of_mem distinct mem
  have size_eq := sized.size_eq field mem
  have pos := sized.pos field mem
  have inside := sized.inside field mem
  have within : field.offset + field.size ≤ h.bytes.length := by rwa [h.length_bytes]
  refine ⟨Address.toNat_ofNat (by omega), ?_, ?_⟩
  · rw [Probe.outcome_ofImage]
    refine Layout.on_read_content shows hfield size_eq pos within content ?_
    rwa [h.slice_bytes sized mem]
  · have before : field.offset < h.bytes.length := by omega
    exact Layout.requests_read nonNull hfield (shows.addressIn before) size_eq _ _

end MemoryImage.KeepsObject

/-! ## Round trip -/

namespace Layout

/-- Fields of the layout, in any order, of which none but trailing arrays is left out. -/
structure Order (layout : Layout) (order : List Field) : Prop where
  mem : ∀ field ∈ order, field ∈ layout.fields
  complete : ∀ field ∈ layout.fields, field.IsInline → field ∈ order

/-- Whatever fields are declared, an object of them that is mapped apart from everything else
and written field by field, in any order, is read as what was written: each field by one read of
its size at its place, and a trailing array as its place, without a read. -/
theorem fields_round_trip (kind : ObjectKind) (range : ReleaseRange) (abi : Abi)
    (decls : List FieldDecl) (distinct : (decls.map (·.name)).Nodup)
    (pos : ∀ decl ∈ decls, 0 < decl.type.size abi) (contents : Contents abi)
    {order : List Field} (complete : (ofDecls kind range abi decls).Order order)
    (image : MemoryImage) {object : Address} {bytes : Bytes} (nonNull : ¬object.isNull)
    (size : bytes.length = (ofDecls kind range abi decls).size)
    (inSpace : object.toNat + (ofDecls kind range abi decls).size ≤ UInt64.size)
    (apart : ∀ other ∈ image.regions, other.start ≠ object → other.Apart ⟨object, bytes⟩)
    (served : Nat) :
    ∃ written, (image.map object bytes).writeContents contents object order = .ok written ∧
      ∀ field ∈ (ofDecls kind range abi decls).fields,
        let place : Address := .ofNat (object.toNat + field.offset)
        let run := ((ofDecls kind range abi decls).read object field.name).run (.ofImage written)
          served
        place.toNat = object.toNat + field.offset ∧
          run.outcome = .ok ((contents field).found place) ∧ run.requests = field.reads place := by
  have sized := ofDecls_sized kind range pos
  have names : ((ofDecls kind range abi decls).fields.map (·.name)).Nodup := by
    rw [ofDecls, map_name_place]
    exact distinct
  have mapped : (image.map object bytes).KeepsObject (ofDecls kind range abi decls) object
      ⟨object, bytes⟩ :=
    ⟨.map apart, Nat.le_refl _, Nat.le_of_eq (by rw [size]), inSpace⟩
  obtain ⟨written, last, hwritten, kept, stored⟩ :=
    mapped.writeContents sized contents complete.mem
  refine ⟨written, hwritten, ?_⟩
  intro field mem
  apply kept.run_read sized names nonNull mem
  intro inline
  exact stored field mem (.inl (complete.complete field mem inline))

/-- Written from the last field to the first, all but the trailing array, right between two other
regions. -/
theorem fields_round_trip_backwards :
    let abi : Abi := ⟨.four, .llp64⟩
    let decls : List FieldDecl :=
      [⟨"flag", .integer .byte⟩, ⟨"count", .integer .long⟩, ⟨"next", .address⟩,
        ⟨"tag", .chars 5 true⟩, ⟨"head", .struct 3 2⟩, ⟨"digits", .items .digit15⟩]
    let contents : Contents abi := fun
      | ⟨_, _, _, .integer width⟩ => .integer (-1) (by cases width <;> decide)
      | ⟨_, _, _, .address⟩ => .address (.ofNat 0xfffffff0) (by decide)
      | ⟨_, _, _, .chars capacity _⟩ =>
        .chars ((97 :: 98 :: List.replicate capacity 0).take capacity) (by
          rw [List.length_take, List.length_cons, List.length_cons, List.length_replicate]
          exact Nat.min_eq_left (Nat.le_add_right capacity 2))
      | ⟨_, _, _, .struct size _⟩ => .struct (List.replicate size 7) List.length_replicate
      | ⟨_, _, _, .items item⟩ => .items (List.replicate (item.size abi) 9) List.length_replicate
    let layout := ofDecls .long Family.python2.range abi decls
    let order := layout.fields.reverse.tail
    let object : Address := .ofNat 0x1000
    let zeros : Bytes := List.replicate 24 0
    let image := (MemoryImage.empty.map (.ofNat 0xffe) [1, 1]).map (.ofNat 0x1018) [2]
    layout.Order order ∧
      ∃ written, (image.map object zeros).writeContents contents object order = .ok written ∧
        let run (name : String) := (layout.read object name).run (.ofImage written) 0
        ((run "count").outcome = .ok (.integer (-1)) ∧
          (run "count").requests = [⟨.ofNat 0x1004, 4⟩]) ∧
        ((run "next").outcome = .ok (.address (.ofNat 0xfffffff0)) ∧
          (run "next").requests = [⟨.ofNat 0x1008, 4⟩]) ∧
        ((run "tag").outcome = .ok (.chars [97, 98]) ∧
          (run "tag").requests = [⟨.ofNat 0x100c, 5⟩]) ∧
        ((run "digits").outcome = .ok (.items (.ofNat 0x1016)) ∧ (run "digits").requests = []) := by
  intro abi decls contents layout order object zeros image
  have inline : ∀ field ∈ layout.fields, field ∈ order ∨ field.type = .items .digit15 := by
    decide
  have complete : layout.Order order := by
    refine ⟨by decide, ?_⟩
    intro field mem noItems
    exact (inline field mem).resolve_right (noItems .digit15)
  have apart : ∀ other ∈ image.regions, other.start ≠ object → other.Apart ⟨object, zeros⟩ := by
    decide
  obtain ⟨written, hwritten, reads⟩ :=
    fields_round_trip .long Family.python2.range abi decls (by decide) (by decide) contents complete
      image (by decide : ¬object.isNull) (by decide : zeros.length = _) (by decide) apart 0
  have count := reads ⟨"count", 4, 4, .integer .long⟩ (by decide)
  have next := reads ⟨"next", 8, 4, .address⟩ (by decide)
  have tag := reads ⟨"tag", 12, 5, .chars 5 true⟩ (by decide)
  have digits := reads ⟨"digits", 22, 2, .items .digit15⟩ (by decide)
  exact ⟨complete, written, hwritten, count.2, next.2, tag.2, digits.2⟩

end Layout

end RemoteStack
