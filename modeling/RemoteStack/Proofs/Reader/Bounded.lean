import RemoteStack.Proofs.Probe.Bounded
import RemoteStack.Proofs.Reader.Failure
import RemoteStack.Stack.Walk

/-!
# How often readers read

A field is one read at most, and none if the object is null or the field is a trailing array;
so each probe of a capture is bounded by the number of fields that it asks for. The numbers
depend on the family alone:

* **texts** — the length and the characters; the Unicode texts of 3.x keep their characters
  behind a pointer, which is a third read;
* **frames** — `Walk.decode_bounded` counts the link, the code object and its two names, the
  trace function, and what the line is found from;
* **thread states** — `Reader.threadState_bounded`.

No read is made at the null address: a field of an object lies above the object, and the
buffer of a text is read only if it is not null.
-/

namespace RemoteStack

namespace Family

/-- The most reads that a name takes. -/
def textReads : Family → Nat
  | .python2 => 2
  | .python3 => 3

/-- The reads that a code object takes. -/
def codeReads : Family → Nat
  | .python2 => 5
  | .python3 => 6

/-- The most reads that a frame takes. -/
def frameReads : Family → Nat
  | .python2 => 15
  | .python3 => 18

/-- The reads that a thread state takes. -/
def stateReads : Family → Nat
  | .python2 => 6
  | .python3 => 8

theorem five_le_codeReads (family : Family) : 5 ≤ family.codeReads := by
  cases family <;> decide

/-- A frame takes its link and its code object, two names, and four reads for its line. -/
theorem frameReads_eq (family : Family) :
    4 + family.textReads + family.textReads + family.codeReads + 1 + 1 = family.frameReads := by
  cases family <;> rfl

/-- The flags about recursion come before the six fields that every release has. -/
theorem stateReads_eq (family : Family) : 6 + (family.stateReads - 6) + 0 = family.stateReads := by
  cases family <;> rfl

end Family

open Probe

/-! ## Fields -/

/-- A field of an object does not stand at the null address. -/
theorem Field.addressIn_nonNull {field : Field} {object place : Address}
    (h : field.addressIn object = .ok place) (nonNull : ¬object.isNull) : ¬place.isNull := by
  intro null
  obtain rfl : place = .null := eq_of_beq null
  unfold addressIn at h
  split at h
  · rename_i moved hmoved
    cases h
    have sum : 0 = object.toNat + field.offset := Address.toNat_of_add? hmoved
    have zero : object.toNat = Address.null.toNat := by
      show object.toNat = 0
      omega
    exact nonNull (beq_iff_eq.2 (Address.ext_toNat zero))
  · cases h

namespace Layout

variable (layout : Layout) (object : Address) (name : String)

theorem read_bounded : (layout.read object name).BoundedBy 1 := by
  unfold Layout.read
  simp only [bind_eq, pure_eq]
  split
  · trivial
  rename_i nonNull
  have found : (ofExcept (layout.field name)).BoundedBy 0 := bounded_ofExcept fun _ _ => trivial
  apply found.bind
  intro field _
  apply (bounded_ofExcept fun _ h => field.addressIn_nonNull h nonNull).bind
  intro place placed
  apply (bounded_trace _).bind
  intro _ _
  -- one case for each type of field
  split
  · exact (bounded_readExactly placed _ _).bind fun _ _ => trivial
  · exact (bounded_readExactly placed _ _).bind fun _ _ => trivial
  · exact (bounded_readUpTo placed _ _).bind fun _ _ => trivial
  · exact (bounded_readExactly placed _ _).bind fun _ _ => trivial
  · trivial

/-- The place of a trailing array is found without a read. -/
theorem read_items_bounded {field : Field} {item : ItemKind}
    (hfield : layout.field name = .ok field) (htype : field.type = .items item) :
    (layout.read object name).Bounded 0 fun value =>
      ∀ place, value = .items place → ¬place.isNull := by
  unfold Layout.read
  simp only [bind_eq, pure_eq, hfield, Probe.ofExcept, done_bind, htype]
  split
  · rintro _ ⟨⟩
  rename_i nonNull
  apply (bounded_ofExcept fun _ h => field.addressIn_nonNull h nonNull).bind
  intro place placed
  apply (bounded_trace _).bind
  rintro _ _ _ ⟨⟩
  exact placed

end Layout

namespace Reader

variable (reader : Reader) (object : Address)

theorem layout_bounded (kind : ObjectKind) :
    (reader.layout kind).Bounded 0 fun layout =>
      reader.catalog.layoutFor kind reader.version = .ok layout :=
  (bounded_reportAll _).bind fun _ _ => bounded_ofExcept fun _ found => found

theorem address_bounded (kind : ObjectKind) (name : String) :
    (reader.address object kind name).BoundedBy 1 := by
  apply (reader.layout_bounded kind).bind
  intro layout _
  apply (layout.read_bounded object name).bind
  intro value _
  cases value <;> trivial

theorem integer_bounded (kind : ObjectKind) (name : String) :
    (reader.integer object kind name).BoundedBy 1 := by
  apply (reader.layout_bounded kind).bind
  intro layout _
  apply (layout.read_bounded object name).bind
  intro value _
  cases value <;> trivial

theorem itemsPlace_bounded {layout : Layout} {name : String} {field : Field} {item : ItemKind}
    (hfield : layout.field name = .ok field) (htype : field.type = .items item) :
    (itemsPlace layout object name).Bounded 0 fun place => ¬place.isNull := by
  apply (layout.read_items_bounded object name hfield htype).bind
  intro value hvalue
  cases value with
  | items place => exact hvalue place rfl
  | null | integer | address | chars | bytes => trivial

/-- A count is found without a read, and is within the limit. -/
theorem clampedCount_bounded (claimed : Int) (limit : Nat) :
    (clampedCount object claimed limit).Bounded 0 (· ≤ limit) := by
  unfold clampedCount
  simp only [bind_eq, pure_eq]
  split
  · trivial
  · split <;> exact Nat.min_le_right _ _

/-- So is the length of an array, and it is that of all items. -/
theorem arrayLength_bounded (count itemSize : Nat) :
    (arrayLength count itemSize).Bounded 0 (· = count * itemSize) := by
  unfold arrayLength
  split
  · rfl
  · trivial

/-! ## Texts -/

variable {reader}

theorem sizedChars_bounded (h : reader.Covers) {kind : ObjectKind}
    (chars : (kind, .items "ob_sval" .char) ∈ Catalog.captureFields reader.version.family) :
    (reader.sizedChars object kind).BoundedBy 2 := by
  unfold sizedChars
  simp only [bind_eq, pure_eq]
  split
  · trivial
  obtain ⟨layout, field, hlayout, hfield, htype, _⟩ := h.exists_field chars
  apply (reader.integer_bounded object kind _).bind
  intro claimed _
  apply (clampedCount_bounded object claimed _).bind
  intro length _
  apply (reader.layout_bounded kind).bind
  intro _ found
  obtain rfl := Except.ok.inj (hlayout.symm.trans found)
  apply (itemsPlace_bounded object hfield htype).bind
  intro place placed
  split
  · trivial
  · exact (bounded_readUpTo placed _ _).bind fun _ _ => trivial

theorem byteString_bounded (h : reader.Covers) : (reader.byteString object).BoundedBy 2 := by
  unfold byteString Version.lineTableKind
  cases family : reader.version.family <;>
    exact sizedChars_bounded object h (mem_of_family family (by decide))

theorem unicode_bounded : (reader.unicode object).BoundedBy 3 := by
  unfold unicode
  simp only [bind_eq, pure_eq]
  split
  · trivial
  apply (reader.integer_bounded object _ _).bind
  intro claimed _
  apply (clampedCount_bounded object claimed _).bind
  intro units _
  apply (reader.address_bounded object _ _).bind
  intro buffer _
  split
  · trivial
  · rename_i more
    have nonNull : ¬buffer.isNull := by
      intro null
      exact more (by rw [null, Bool.true_or])
    apply (arrayLength_bounded units _).bind
    intro length _
    exact (bounded_readUpTo nonNull _ _).bind fun _ _ => trivial

theorem text_bounded (h : reader.Covers) :
    (reader.text object).BoundedBy reader.version.family.textReads := by
  unfold text
  cases family : reader.version.family with
  | python2 =>
    exact (sizedChars_bounded object h (mem_of_family family (by decide))).bind
      fun _ _ => trivial
  | python3 => exact unicode_bounded object

/-! ## Code objects and thread states -/

theorem code_bounded : (reader.code object).BoundedBy reader.version.family.codeReads := by
  rw [← Nat.sub_add_cancel (Family.five_le_codeReads _)]
  unfold code
  simp only [bind_eq, pure_eq]
  apply (reader.integer_bounded object _ _).bind
  intro argCount _
  apply (reader.address_bounded object _ _).bind
  intro name _
  apply (reader.address_bounded object _ _).bind
  intro filename _
  apply (reader.integer_bounded object _ _).bind
  intro firstLine _
  apply (reader.address_bounded object _ _).bind
  intro lineTable _
  unfold Version.codeShape
  cases reader.version.family with
  | python2 => trivial
  | python3 =>
    exact (reader.integer_bounded object _ _).bind fun _ _ => trivial

theorem overflowFlags_bounded (h : reader.Covers) {layout : Layout}
    (hlayout : reader.catalog.layoutFor .threadState reader.version = .ok layout) :
    (reader.overflowFlags layout object).BoundedBy (reader.version.family.stateReads - 6) := by
  unfold overflowFlags
  cases family : reader.version.family with
  | python2 =>
    rw [Catalog.hasField_eq_false (h.flagless family) hlayout]
    trivial
  | python3 =>
    split
    · apply (reader.integer_bounded object _ _).bind
      intro overflowed _
      exact (reader.integer_bounded object _ _).bind fun _ _ => trivial
    · trivial

theorem threadStateWith_bounded (overflow : Option OverflowFlags) :
    (reader.threadStateWith object overflow).BoundedBy 6 := by
  unfold threadStateWith
  simp only [bind_eq, pure_eq]
  apply (reader.integer_bounded object _ _).bind
  intro stored _
  apply (reader.address_bounded object _ _).bind
  intro next _
  apply (reader.address_bounded object _ _).bind
  intro interpreter _
  apply (reader.address_bounded object _ _).bind
  intro frame _
  apply (reader.integer_bounded object _ _).bind
  intro depth _
  exact (reader.integer_bounded object _ _).bind fun _ _ => trivial

theorem threadState_bounded (h : reader.Covers) :
    (reader.threadState object).BoundedBy reader.version.family.stateReads := by
  by_cases null : object.isNull
  · unfold threadState
    rw [if_pos null]
    trivial
  · rw [threadState_eq reader null, ← reader.version.family.stateReads_eq]
    apply (reader.layout_bounded .threadState).bind
    intro layout found
    apply (overflowFlags_bounded object h found).bind
    intro overflow _
    exact threadStateWith_bounded object overflow

end Reader

/-! ## Frames -/

namespace Resolver

variable {resolver : Resolver} (frame : Address)

theorem nameOr_bounded (h : resolver.reader.Covers) (object : Address) :
    (resolver.nameOr object).BoundedBy resolver.reader.version.family.textReads :=
  (Reader.text_bounded object h).bind_done _

theorem currentLine_bounded (h : resolver.reader.Covers) (code : Code) :
    (resolver.currentLine frame code).BoundedBy 4 := by
  unfold currentLine
  simp only [bind_eq, pure_eq]
  apply (resolver.reader.address_bounded frame _ _).bind
  intro tracer _
  split
  · exact (resolver.reader.integer_bounded frame _ _).bind fun _ _ => trivial
  · apply (resolver.reader.integer_bounded frame _ _).bind
    intro last _
    split
    · trivial
    · apply (Reader.byteString_bounded code.lineTable h).bind
      intro table? _
      cases table? <;> trivial

theorem position_bounded (h : resolver.reader.Covers) :
    (resolver.position frame).BoundedBy
      (4 + resolver.reader.version.family.textReads + resolver.reader.version.family.textReads +
        resolver.reader.version.family.codeReads + 1) := by
  unfold position
  simp only [bind_eq, pure_eq]
  apply (resolver.reader.address_bounded frame _ _).bind
  intro codeAddress _
  split
  · -- a frame without a code object takes one read more
    exact ((resolver.reader.integer_bounded frame _ _).bind_done _).of_le (by omega)
  apply (Reader.code_bounded codeAddress).bind
  intro code _
  apply (nameOr_bounded h code.name).bind
  intro function _
  apply (nameOr_bounded h code.filename).bind
  intro file _
  apply (currentLine_bounded frame h code).bind
  intro line _
  trivial

end Resolver

theorem Walk.decode_bounded {walk : Walk} (h : walk.resolver.reader.Covers) :
    walk.decode.BoundedBy walk.resolver.reader.version.family.frameReads := by
  rw [← Family.frameReads_eq]
  apply (walk.resolver.reader.address_bounded walk.next _ _).bind
  intro link _
  exact (Resolver.position_bounded walk.next h).bind_done _

end RemoteStack
