import RemoteStack.Proofs.Encoding.Object
import RemoteStack.Proofs.Encoding.Text
import RemoteStack.Reader.Text

/-!
# Writing text objects

How byte strings and texts are written as objects of a version, and that a reader of the
version takes them back:

* **byte strings** — characters behind a head that counts them (`Layout.charsObject`,
  `Reader.on_sizedChars`); the array is the last field, so it may run over the end of the
  layout without touching the count;
* **Unicode texts** — an object that counts units and leads to them (`StoredText.regions`);
* **texts** — the one or the other, as the version has it (`Reader.on_text`).
-/

namespace RemoteStack

open LittleEndian (FitsSigned)

/-! ## Writing -/

/-- A byte string: its characters, with a zero behind them, and their number. -/
def Layout.charsObject (layout : Layout) (chars : Bytes) : Bytes :=
  match layout.field "ob_sval" with
  | .ok field => MemoryImage.overwrite
      (layout.object (chars.length + 1) [("ob_size", chars.length)]) field.offset chars
  | .error _ => []

/-- The units of a text in the size that the build uses. -/
def DataModel.units (model : DataModel) (text : String) : List Nat :=
  match model with
  | .lp64 => Text.Ucs4.units text
  | .llp64 => Text.Utf16.units text

/-- A text with the place of its object and, where that leads to units, their place. -/
structure StoredText where
  text : String
  object : Address
  buffer : Address

namespace StoredText

/-- The bytes of the units; a text without units still has a place. -/
def bufferBytes (stored : StoredText) (abi : Abi) : Bytes :=
  match abi.dataModel.units stored.text with
  | [] => [0]
  | units => Text.encodeUnits abi.unicodeUnit units

/-- The regions that the text is written to. -/
def regions (stored : StoredText) (version : Version) : List Region :=
  match version.family with
  | .python2 =>
    [⟨stored.object, version.objectBytes .string
      (·.charsObject (Text.Utf8.encode stored.text))⟩]
  | .python3 =>
    [⟨stored.buffer, stored.bufferBytes version.abi⟩,
     ⟨stored.object, version.objectBytes .unicode fun layout => layout.object 0
       [("length", (version.abi.dataModel.units stored.text).length),
        ("str", stored.buffer.toNat)]⟩]

/-- How many units the text takes: bytes in a byte string. -/
def length (stored : StoredText) (version : Version) : Nat :=
  match version.family with
  | .python2 => (Text.Utf8.encode stored.text).length
  | .python3 => (version.abi.dataModel.units stored.text).length

end StoredText

/-- A size is within the limit, and fits the field that it is written to. -/
structure Version.FitsSize (version : Version) (limits : Limits) (size : Nat) : Prop where
  short : size ≤ limits.maxStringLength
  counted : FitsSigned version.abi.wordSize size

instance (version : Version) (limits : Limits) (size : Nat) :
    Decidable (version.FitsSize limits size) :=
  decidable_of_iff (size ≤ limits.maxStringLength ∧ FitsSigned version.abi.wordSize size)
    ⟨fun h => ⟨h.1, h.2⟩, fun h => ⟨h.short, h.counted⟩⟩

/-! ## Reading -/

theorem Abi.unicodeUnit_pos (abi : Abi) : 0 < abi.unicodeUnit := by
  unfold unicodeUnit
  cases abi.dataModel <;> decide

/-- The characters of a byte string are its last field. -/
theorem Catalog.builtin_chars_last (abi : Abi) : ∀ kind ∈ [ObjectKind.string, .bytes],
    ∀ release ∈ Release.supported, ∀ chosen ∈ builtin.select? kind release,
      (chosen.1.layout abi).fields.getLast? =
        (chosen.1.layout abi).fields.find? (·.name == "ob_sval") := by
  obtain ⟨pointerWidth, dataModel⟩ := abi
  cases pointerWidth <;> cases dataModel <;> decide +kernel

theorem Catalog.chars_last {kind : ObjectKind} (mem : kind ∈ [ObjectKind.string, .bytes])
    {version : Version} {layout : Layout} {field : Field}
    (hlayout : builtin.layoutFor kind version = .ok layout)
    (hfield : layout.field "ob_sval" = .ok field) : layout.fields.getLast? = some field := by
  obtain ⟨entry, index, hchosen, rfl⟩ := layoutFor_eq_ok_iff.1 hlayout
  rw [builtin_chars_last version.abi kind mem version.release version.release_mem_supported
    (entry, index) hchosen]
  exact Layout.field_eq_ok hfield

namespace Layout

variable {layout : Layout} {field : Field} {chars : Bytes}

theorem charsObject_eq (hfield : layout.field "ob_sval" = .ok field) :
    layout.charsObject chars = MemoryImage.overwrite
      (layout.object (chars.length + 1) [("ob_size", chars.length)]) field.offset chars := by
  rw [charsObject, hfield]

theorem end_chars_lt (h : layout.WellPlaced) (hfield : layout.field "ob_sval" = .ok field)
    (chars : Bytes) :
    field.offset + chars.length <
      (layout.object (chars.length + 1) [("ob_size", chars.length)]).length := by
  have := h.end_le hfield
  rw [length_object h]
  omega

theorem length_charsObject (h : layout.WellPlaced) (hfield : layout.field "ob_sval" = .ok field) :
    (layout.charsObject chars).length = layout.size + (chars.length + 1) := by
  rw [charsObject_eq hfield,
    MemoryImage.length_overwrite (Nat.le_of_lt (end_chars_lt h hfield chars)), length_object h]

theorem slice_charsObject (h : layout.WellPlaced) (hfield : layout.field "ob_sval" = .ok field) :
    (layout.charsObject chars).slice field.offset chars.length = chars := by
  rw [charsObject_eq hfield]
  exact MemoryImage.slice_overwrite_self (Nat.le_of_lt (end_chars_lt h hfield chars))

/-- The characters stand behind the count. -/
theorem stores_size_charsObject (h : layout.WellPlaced)
    (hfield : layout.field "ob_sval" = .ok field) (hlast : layout.fields.getLast? = some field) :
    layout.Stores (layout.charsObject chars) "ob_size" chars.length := by
  intro size hsize
  obtain ⟨within, slice⟩ :=
    stores_object h (chars.length + 1) [("ob_size", (chars.length : Int))] "ob_size" size hsize
  -- the characters may run over the end of the layout, but the count stands before them
  have distinct : size ≠ field := by
    rintro rfl
    exact absurd ((name_of_field hsize).symm.trans (name_of_field hfield)) (by decide)
  have before := h.end_le_last hsize hlast distinct
  have room := Nat.le_of_lt (end_chars_lt h hfield chars)
  rw [charsObject_eq hfield, MemoryImage.length_overwrite room,
    MemoryImage.slice_overwrite_of_apart room (.inl before)]
  exact ⟨within, slice⟩

end Layout

namespace Reader

variable {reader : Reader} {image : MemoryImage}

/-- A count is cut to the limit. -/
theorem on_clampedCount_min (object : Address) (count limit : Nat) :
    (clampedCount object count limit).on image = .ok (min count limit) := by
  unfold clampedCount
  simp only [Probe.bind_eq, Probe.pure_eq, Int.toNat_natCast]
  rw [if_neg (Int.not_lt.2 (Int.natCast_nonneg count))]
  split <;> rfl

/-- A count within the limit is taken as it is. -/
theorem on_clampedCount (object : Address) {count limit : Nat} (h : count ≤ limit) :
    (clampedCount object count limit).on image = .ok count := by
  rw [on_clampedCount_min, Nat.min_eq_left h]

/-- A byte string is read as the characters that it was written from. -/
theorem on_sizedChars (known : reader.catalog = .builtin) {kind : ObjectKind}
    (size : (kind, .word "ob_size") ∈ Catalog.captureFields reader.version.family)
    (items : (kind, .items "ob_sval" .char) ∈ Catalog.captureFields reader.version.family)
    (bytes : kind ∈ [ObjectKind.string, .bytes]) {object : Address} {chars : Bytes}
    (holds : image.Holds ⟨object, reader.version.objectBytes kind (·.charsObject chars)⟩)
    (fits : reader.version.FitsSize reader.limits chars.length) :
    (reader.sizedChars object kind).on image = .ok (some chars) := by
  have covers := covers_of_builtin known
  obtain ⟨layout, field, hlayout, hfield, htype, _⟩ := covers.exists_field items
  have builtin := hlayout
  rw [known] at builtin
  have placed := Catalog.wellPlaced_of_layoutFor hlayout
  rw [Version.objectBytes_eq builtin] at holds
  have stores : layout.Stores (layout.charsObject chars) "ob_size" chars.length :=
    Layout.stores_size_charsObject placed hfield (Catalog.chars_last bytes builtin hfield)
  have within : field.offset < (layout.charsObject chars).length := by
    have := placed.end_le hfield
    rw [Layout.length_charsObject placed hfield]
    omega
  have place : (itemsPlace layout object "ob_sval").on image =
      .ok (.ofNat (object.toNat + field.offset)) :=
    on_itemsPlace holds.nonNull hfield htype (holds.shows.addressIn within)
  unfold sizedChars
  simp only [Probe.bind_eq, Probe.pure_eq]
  rw [if_neg holds.nonNull,
    Probe.on_bind_of_ok (on_integer (covers.declared size) hlayout holds.shows stores fits.counted),
    Probe.on_bind_of_ok (on_clampedCount object fits.short),
    Probe.on_bind_of_ok (on_layout hlayout), Probe.on_bind_of_ok place]
  by_cases empty : chars.length = 0
  · rw [if_pos empty, List.length_eq_zero_iff.1 empty]
    rfl
  · rw [if_neg empty, Probe.on_bind_of_ok (Probe.on_readUpTo (holds.read _ _ within) _),
      Layout.slice_charsObject placed hfield]
    rfl

theorem decodeUnits_nil (abi : Abi) : decodeUnits abi [] = "" := by
  unfold decodeUnits
  cases abi.dataModel <;> rfl

theorem decodeUnits_encodeUnits (abi : Abi) (text : String) :
    decodeUnits abi (Text.encodeUnits abi.unicodeUnit (abi.dataModel.units text)) = text := by
  obtain ⟨pointerWidth, dataModel⟩ := abi
  cases dataModel with
  | lp64 => exact Text.Ucs4.decode_encode text
  | llp64 => exact Text.Utf16.decode_encode text

/-- A Unicode text is read as the text that it was written from. -/
theorem on_unicode (known : reader.catalog = .builtin) (family : reader.version.family = .python3)
    {stored : StoredText}
    (reaches : ∀ region ∈ stored.regions reader.version, reader.Reaches image region)
    (fits : reader.version.FitsSize reader.limits (stored.length reader.version)) :
    (reader.unicode stored.object).on image = .ok (some stored.text) := by
  simp only [StoredText.regions, StoredText.length, family] at reaches fits
  obtain ⟨holdsBuffer, narrow⟩ := reaches _ List.mem_cons_self
  obtain ⟨holds, _⟩ := reaches _ (List.mem_cons_of_mem _ List.mem_cons_self)
  have length : (reader.integer stored.object .unicode "length").on image =
      .ok (reader.version.abi.dataModel.units stored.text).length :=
    on_integer_of_object known .word (mem_of_family family (by decide)) holds rfl fits.counted
  have str : (reader.address stored.object .unicode "str").on image = .ok stored.buffer :=
    on_address_of_object known (mem_of_family family (by decide)) holds rfl narrow
  have whole := decodeUnits_encodeUnits reader.version.abi stored.text
  unfold unicode
  simp only [Probe.bind_eq, Probe.pure_eq]
  rw [if_neg holds.nonNull, Probe.on_bind_of_ok length,
    Probe.on_bind_of_ok (on_clampedCount _ fits.short), Probe.on_bind_of_ok str]
  unfold StoredText.bufferBytes at holdsBuffer
  cases hunits : reader.version.abi.dataModel.units stored.text with
  | nil =>
    -- the units of an empty text are not read
    rw [hunits] at whole
    rw [← whole]
    simp only [List.length_nil, BEq.rfl, Bool.or_true, if_true]
    exact congrArg (Outcome.ok ∘ some) (decodeUnits_nil _).symm
  | cons unit rest =>
    rw [hunits] at holdsBuffer whole
    have bytes : (Text.encodeUnits reader.version.abi.unicodeUnit (unit :: rest)).length =
        (unit :: rest).length * reader.version.abi.unicodeUnit := Text.length_encodeUnits _ _
    -- the units lie in the memory, so a word counts their bytes
    have fitting : (unit :: rest).length * reader.version.abi.unicodeUnit < UInt64.size := by
      rw [← bytes]
      exact holdsBuffer.shows.length_lt
    have nonEmpty : Text.encodeUnits reader.version.abi.unicodeUnit (unit :: rest) ≠ [] := by
      rw [← List.length_pos_iff, bytes]
      exact Nat.mul_pos (Nat.succ_pos _) reader.version.abi.unicodeUnit_pos
    have hread := holdsBuffer.read_all nonEmpty
    rw [bytes] at hread
    rw [if_neg (by simpa using holdsBuffer.nonNull), arrayLength_of_lt fitting, Probe.done_bind,
      Probe.on_bind_of_ok (Probe.on_readUpTo hread _), whole]
    rfl

/-- A text is read as it was written, in the kind of texts that the version has. -/
theorem on_text (known : reader.catalog = .builtin) {stored : StoredText}
    (reaches : ∀ region ∈ stored.regions reader.version, reader.Reaches image region)
    (fits : reader.version.FitsSize reader.limits (stored.length reader.version)) :
    (reader.text stored.object).on image = .ok (some stored.text) := by
  unfold text
  cases family : reader.version.family with
  | python2 =>
    simp only [StoredText.regions, StoredText.length, family] at reaches fits
    have chars := on_sizedChars known (mem_of_family family (by decide))
      (mem_of_family family (by decide)) (by decide) (reaches _ List.mem_cons_self).holds fits
    simp only [Probe.bind_eq, Probe.pure_eq]
    rw [Probe.on_bind_of_ok chars]
    exact congrArg (Outcome.ok ∘ some) (Text.Utf8.decode_encode stored.text)
  | python3 => exact on_unicode known family reaches fits

theorem on_byteString (known : reader.catalog = .builtin) {object : Address} {chars : Bytes}
    (holds : image.Holds ⟨object,
      reader.version.objectBytes reader.version.lineTableKind (·.charsObject chars)⟩)
    (fits : reader.version.FitsSize reader.limits chars.length) :
    (reader.byteString object).on image = .ok (some chars) := by
  unfold byteString
  unfold Version.lineTableKind at holds ⊢
  cases family : reader.version.family <;> rw [family] at holds <;>
    exact on_sizedChars known (mem_of_family family (by decide))
      (mem_of_family family (by decide)) (by decide) holds fits

end Reader

end RemoteStack
