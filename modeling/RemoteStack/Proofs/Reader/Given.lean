import RemoteStack.Proofs.Encoding.Object
import RemoteStack.Proofs.Memory.Separate
import RemoteStack.Proofs.Probe.Given
import RemoteStack.Proofs.Reader.Logged

/-!
# What fields give

A declared number or pointer of an object is one read, and its value is what that read brings
(`Reader.Brings`), on whatever memory:

* **integers** — `Reader.Declares.gives_integer_iff`; the value fits the field if the memory
  answers with no more than it is asked for (`Memory.Measured`, `Reader.Declares.fits_of_gives`);
* **pointers** — `Reader.Declares.gives_address_iff`;
* **arrays** — the place and the number of the items take no read (`Reader.gives_itemsPlace_iff`,
  `Reader.gives_clampedCount_iff`).
-/

namespace RemoteStack

/-- No answer is longer than what was asked for. -/
def Memory.Measured (memory : Memory) : Prop :=
  ∀ n address length bytes, memory n address length = .ok bytes → bytes.length ≤ length

theorem Memory.measured_ofImage (image : MemoryImage) : (Memory.ofImage image).Measured :=
  fun _ _ _ _ answered => MemoryImage.length_le_of_read answered

/-! ## Numbers in bytes -/

namespace LittleEndian

theorem fitsSigned_bmod (value : Int) (size : Nat) :
    FitsSigned size (value.bmod (span size)) := by
  have pos := span_pos size
  have least := Int.le_bmod (x := value) pos
  have most := Int.bmod_lt (x := value) pos
  constructor <;> omega

/-- Whatever the bytes are, the number that they denote fits a word. -/
theorem fitsSigned_signed (bytes : Bytes) : FitsSigned (min bytes.length 8) (signed bytes) :=
  fitsSigned_bmod _ _

end LittleEndian

namespace Reader

open Probe

variable {reader : Reader} {memory : Memory} {served : Nat} {object : Address}
  {kind : ObjectKind} {name : String} {decl : FieldDecl} {request : Request} {bytes : Bytes}
  {made : List Request}

/-! ## One field -/

/-- A field of an object is asked for by one request. -/
theorem AsksFor.eq {other : Request} (h : reader.AsksFor object kind decl request)
    (hother : reader.AsksFor object kind decl other) : request = other := by
  obtain ⟨layout, field, hlayout, hfield, hplace, length⟩ := h
  obtain ⟨layout', field', hlayout', hfield', hplace', length'⟩ := hother
  obtain rfl := Except.ok.inj (hlayout.symm.trans hlayout')
  obtain rfl := Except.ok.inj (hfield.symm.trans hfield')
  obtain ⟨address, size⟩ := request
  obtain ⟨address', size'⟩ := other
  obtain rfl : address = address' := Except.ok.inj (hplace.symm.trans hplace')
  obtain rfl : size = size' := length.trans length'.symm
  rfl

/-- The read of a number is that of the field, and all of it arrives. -/
structure Brings (reader : Reader) (memory : Memory) (number : Nat) (object : Address)
    (kind : ObjectKind) (decl : FieldDecl) (request : Request) (bytes : Bytes) : Prop where
  asks : reader.AsksFor object kind decl request
  answered : memory number request.address request.length = .ok bytes
  enough : request.length ≤ bytes.length

/-- All of the field arrives, and no more, from a memory that keeps to what is asked for. -/
theorem Brings.length_eq (h : reader.Brings memory served object kind decl request bytes)
    (measured : memory.Measured) : bytes.length = decl.type.size reader.version.abi := by
  obtain ⟨_, _, _, _, _, length⟩ := h.asks
  rw [← length]
  exact Nat.le_antisymm (measured _ _ _ _ h.answered) h.enough

/-- The choice of a layout takes no read. -/
theorem gives_layout_bind_iff {α : Type} {layout : Layout} {next : Layout → Probe α} {value : α}
    (hlayout : reader.catalog.layoutFor kind reader.version = .ok layout) :
    ((reader.layout kind).bind next).Gives memory served value made ↔
      (next layout).Gives memory served value made := by
  simp only [Reader.layout, Probe.bind_eq, hlayout, Probe.ofExcept, Probe.bind_assoc,
    Probe.done_bind]
  exact gives_reportAll_bind_iff

theorem gives_layout {layout : Layout}
    (hlayout : reader.catalog.layoutFor kind reader.version = .ok layout) :
    (reader.layout kind).Gives memory served layout [] := by
  rw [← bind_done (reader.layout kind), gives_layout_bind_iff hlayout]
  exact gives_done_iff.2 ⟨rfl, rfl⟩

/-- What a number or pointer that is read whole is made from its bytes. -/
def valueOf (type : FieldType) (bytes : Bytes) : FieldValue :=
  match type with
  | .address => .address (.ofNat (LittleEndian.unsigned bytes))
  | _ => .integer (LittleEndian.signed bytes)

/-- A number or pointer is read by one read, and is what that brings. -/
theorem Declares.gives_read_iff {type : FieldType} (declared : reader.Declares kind ⟨name, type⟩)
    (scalar : type.IsScalar) (nonNull : ¬object.isNull) {value : FieldValue} :
    ((reader.layout kind).bind fun layout => layout.read object name).Gives memory served value
        made ↔
      ∃ request bytes, reader.Brings memory served object kind ⟨name, type⟩ request bytes ∧
        value = valueOf type bytes ∧ made = [request] := by
  obtain ⟨layout, field, hlayout, hfield, htype, hsize⟩ := declared.exists_field
  rw [gives_layout_bind_iff hlayout]
  unfold Layout.read
  simp only [bind_eq, pure_eq, if_neg nonNull, hfield, Probe.ofExcept, done_bind]
  cases hplace : field.addressIn object with
  | error failure =>
    constructor
    · intro h
      exact absurd h (not_gives_failed _ _)
    · rintro ⟨request, bytes, ⟨⟨other, otherField, hother, hotherField, hrequest, _⟩, _, _⟩, _⟩
      obtain rfl := Except.ok.inj (hlayout.symm.trans hother)
      obtain rfl := Except.ok.inj (hfield.symm.trans hotherField)
      rw [hplace] at hrequest
      cases hrequest
  | ok place =>
    have asks : reader.AsksFor object kind ⟨name, type⟩ ⟨place, field.size⟩ :=
      ⟨layout, field, hlayout, hfield, hplace, hsize⟩
    have whole (value : Bytes → FieldValue) (found : FieldValue) (context : String) :
        ((Probe.readExactly place field.size context).bind fun bytes =>
            .done (value bytes)).Gives memory served found made ↔
          ∃ request bytes, reader.Brings memory served object kind ⟨name, type⟩ request bytes ∧
            found = value bytes ∧ made = [request] := by
      simp only [gives_bind_iff, gives_readExactly_iff, gives_done_iff]
      constructor
      · rintro ⟨bytes, _, _, ⟨answered, enough, rfl⟩, ⟨rfl, rfl⟩, rfl⟩
        exact ⟨_, bytes, ⟨asks, answered, enough⟩, rfl, rfl⟩
      · rintro ⟨request, bytes, ⟨asked, answered, enough⟩, rfl, rfl⟩
        obtain rfl := asks.eq asked
        exact ⟨bytes, _, [], ⟨answered, enough, rfl⟩, ⟨rfl, rfl⟩, rfl⟩
    simp only [done_bind, Probe.trace, report_bind, gives_report_iff]
    cases type with
    | integer => simp only [htype]; exact whole (valueOf (.integer _)) value _
    | address => simp only [htype]; exact whole (valueOf .address) value _
    | chars | struct | items => exact scalar.elim

/-- What is made of the value that is read, without a read, is made of the bytes. -/
theorem Declares.gives_read_bind_iff {α : Type} {type : FieldType}
    (declared : reader.Declares kind ⟨name, type⟩) (scalar : type.IsScalar)
    (nonNull : ¬object.isNull) {next : FieldValue → Probe α} {result : Bytes → α}
    (hnext : ∀ bytes, next (valueOf type bytes) = .done (result bytes)) {value : α} :
    ((reader.layout kind).bind fun layout => (layout.read object name).bind next).Gives memory
        served value made ↔
      ∃ request bytes, reader.Brings memory served object kind ⟨name, type⟩ request bytes ∧
        value = result bytes ∧ made = [request] := by
  rw [← bind_assoc, gives_bind_iff]
  simp only [declared.gives_read_iff scalar nonNull]
  constructor
  · rintro ⟨_, _, _, ⟨request, bytes, brings, rfl, rfl⟩, given, rfl⟩
    rw [hnext, gives_done_iff] at given
    obtain ⟨rfl, rfl⟩ := given
    exact ⟨request, bytes, brings, rfl, rfl⟩
  · rintro ⟨request, bytes, brings, rfl, rfl⟩
    refine ⟨_, [request], [], ⟨request, bytes, brings, rfl, rfl⟩, ?_, rfl⟩
    rw [hnext]
    exact gives_done_iff.2 ⟨rfl, rfl⟩

/-- An integer field is one read, and its value is the number in the bytes that arrive. -/
theorem Declares.gives_integer_iff {width : IntWidth}
    (declared : reader.Declares kind ⟨name, .integer width⟩) (nonNull : ¬object.isNull)
    {value : Int} :
    (reader.integer object kind name).Gives memory served value made ↔
      ∃ request bytes,
        reader.Brings memory served object kind ⟨name, .integer width⟩ request bytes ∧
          value = LittleEndian.signed bytes ∧ made = [request] := by
  apply declared.gives_read_bind_iff trivial nonNull
  intro bytes
  rfl

/-- A pointer field is one read, and its value is the address in the bytes that arrive. -/
theorem Declares.gives_address_iff (declared : reader.Declares kind ⟨name, .address⟩)
    (nonNull : ¬object.isNull) {value : Address} :
    (reader.address object kind name).Gives memory served value made ↔
      ∃ request bytes, reader.Brings memory served object kind ⟨name, .address⟩ request bytes ∧
        value = .ofNat (LittleEndian.unsigned bytes) ∧ made = [request] := by
  apply declared.gives_read_bind_iff trivial nonNull
  intro bytes
  rfl

/-- A field of an object that has a value was asked for once. -/
theorem Declares.asks_of_integer {width : IntWidth}
    (declared : reader.Declares kind ⟨name, .integer width⟩) (nonNull : ¬object.isNull)
    {value : Int} (given : (reader.integer object kind name).Gives memory served value made) :
    ∃ request, reader.AsksFor object kind ⟨name, .integer width⟩ request ∧ made = [request] := by
  obtain ⟨request, _, brings, _, rfl⟩ := (declared.gives_integer_iff nonNull).1 given
  exact ⟨request, brings.asks, rfl⟩

theorem Declares.asks_of_address (declared : reader.Declares kind ⟨name, .address⟩)
    (nonNull : ¬object.isNull) {value : Address}
    (given : (reader.address object kind name).Gives memory served value made) :
    ∃ request, reader.AsksFor object kind ⟨name, .address⟩ request ∧ made = [request] := by
  obtain ⟨request, _, brings, _, rfl⟩ := (declared.gives_address_iff nonNull).1 given
  exact ⟨request, brings.asks, rfl⟩

/-- What follows an integer field comes behind its one read. -/
theorem Declares.gives_integer_bind_iff {α : Type} {width : IntWidth}
    (declared : reader.Declares kind ⟨name, .integer width⟩) (nonNull : ¬object.isNull)
    {next : Int → Probe α} {result : α} :
    ((reader.integer object kind name).bind next).Gives memory served result made ↔
      ∃ value request rest, (reader.integer object kind name).Gives memory served value [request] ∧
        (next value).Gives memory (served + 1) result rest ∧ made = request :: rest := by
  apply gives_bind_iff_of_single
  intro value first given
  obtain ⟨request, _, rfl⟩ := declared.asks_of_integer nonNull given
  exact ⟨request, rfl⟩

/-- What follows a pointer field comes behind its one read. -/
theorem Declares.gives_address_bind_iff {α : Type}
    (declared : reader.Declares kind ⟨name, .address⟩) (nonNull : ¬object.isNull)
    {next : Address → Probe α} {result : α} :
    ((reader.address object kind name).bind next).Gives memory served result made ↔
      ∃ value request rest, (reader.address object kind name).Gives memory served value [request] ∧
        (next value).Gives memory (served + 1) result rest ∧ made = request :: rest := by
  apply gives_bind_iff_of_single
  intro value first given
  obtain ⟨request, _, rfl⟩ := declared.asks_of_address nonNull given
  exact ⟨request, rfl⟩

/-- The value of an integer field fits the field. -/
theorem Declares.fits_of_gives {width : IntWidth}
    (declared : reader.Declares kind ⟨name, .integer width⟩) (nonNull : ¬object.isNull)
    (measured : memory.Measured) {value : Int}
    (given : (reader.integer object kind name).Gives memory served value made) :
    LittleEndian.FitsSigned (width.size reader.version.abi) value := by
  obtain ⟨request, bytes, brings, rfl, _⟩ := (declared.gives_integer_iff nonNull).1 given
  have length : bytes.length = width.size reader.version.abi := brings.length_eq measured
  have fits := LittleEndian.fitsSigned_signed bytes
  rwa [length, Nat.min_eq_left (width.size_bounds _).2] at fits

/-! ## Arrays -/

/-- A count that is taken is not negative, and is cut to the limit, without a read. -/
theorem gives_clampedCount_iff {claimed : Int} {limit count : Nat} :
    (clampedCount object claimed limit).Gives memory served count made ↔
      0 ≤ claimed ∧ count = min claimed.toNat limit ∧ made = [] := by
  unfold clampedCount
  by_cases negative : claimed < 0
  · rw [if_pos negative]
    constructor
    · intro h
      exact absurd h (not_gives_failed _ _)
    · rintro ⟨nonNegative, _⟩
      omega
  · rw [if_neg negative]
    have taken : (done (min claimed.toNat limit)).Gives memory served count made ↔
        0 ≤ claimed ∧ count = min claimed.toNat limit ∧ made = [] := by
      rw [gives_done_iff]
      exact ⟨fun h => ⟨by omega, h⟩, fun h => h.2⟩
    -- only the log tells whether the count was cut
    by_cases above : limit < claimed.toNat
    · simpa [above, Probe.trace] using taken
    · simpa [above] using taken

/-- The place of the items of an object takes no read. -/
theorem gives_itemsPlace_iff {layout : Layout} {field : Field} {item : ItemKind}
    (nonNull : ¬object.isNull) (hfield : layout.field name = .ok field)
    (htype : field.type = .items item) {place : Address} :
    (itemsPlace layout object name).Gives memory served place made ↔
      field.addressIn object = .ok place ∧ made = [] := by
  unfold itemsPlace Layout.read
  simp only [bind_eq, pure_eq, if_neg nonNull, hfield, Probe.ofExcept, done_bind, htype]
  cases hplace : field.addressIn object with
  | error failure => simp
  | ok found => simp [Probe.trace, eq_comm]

end Reader

end RemoteStack
