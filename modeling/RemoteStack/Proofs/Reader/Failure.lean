import RemoteStack.Proofs.Layout.Declared
import RemoteStack.Proofs.Probe.Ensures
import RemoteStack.Proofs.Reader.ThreadState
import RemoteStack.Stack.Position

/-!
# How readers fail

A failure `IsLocal` if it concerns what lies at one address: memory that does not answer,
that answers with too little, or that holds no object. Where the catalog covers the version,
a reader that is asked for part of an object fails in no other way, on whatever memory:

* **fields** — `Layout.read_ensures` says how a field of a layout fails and what a result
  looks like, and `address_failsLocally` and `integer_failsLocally` are the two ways in
  which everything else uses it;
* **objects** — each probe of the capture is a sequence of such reads, so its lemma here is
  the list of the fields that it asks for;
* **overflows** — only a text overflows, and what reads texts does so with one of them
  (`Reader.OverflowsOn`, `Resolver.position_overflowsOnlyIf`).
-/

namespace RemoteStack

/-- The failure concerns what lies at one address. -/
def DecodeError.IsLocal : DecodeError → Prop
  | .unreadableMemory .. | .truncatedRead .. | .invalidObject .. => True
  | _ => False

/-- The failure ends a chain of frames or threads, and keeps what was decoded before. -/
def DecodeError.EndsChain : DecodeError → Prop
  | .corruptedChain .. => True
  | error => error.IsLocal

theorem DecodeError.IsLocal.endsChain {error : DecodeError} (h : error.IsLocal) :
    error.EndsChain := by
  cases error with
  | corruptedChain => trivial
  | _ => exact h

theorem DecodeError.EndsChain.not_isFatal {error : DecodeError} (h : error.EndsChain) :
    ¬error.isFatal := by
  cases error <;> first | exact Bool.false_ne_true | exact h.elim

/-- On every memory the probe has a result, or a failure that concerns one address, or it
overflows although `O` holds. -/
abbrev Probe.FailsLocally {α : Type} (O : Prop) (probe : Probe α) : Prop :=
  probe.Ensures O DecodeError.IsLocal fun _ => True

variable {O : Prop}

theorem Probe.readUpTo_failsLocally (address : Address) (length : Nat) (context : String) :
    (readUpTo address length context).FailsLocally O :=
  ensures_readUpTo (fun _ => trivial) fun _ => trivial

theorem Probe.readExactly_failsLocally (address : Address) (length : Nat) (context : String) :
    (readExactly address length context).FailsLocally O :=
  ensures_readExactly (fun _ => trivial) (fun _ => trivial) fun _ _ => trivial

/-! ## Fields -/

/-- A value as it is read from a field of the type. -/
def FieldValue.OfType : FieldValue → FieldType → Prop
  | .integer _, .integer _ | .address _, .address | .chars _, .chars _ _
  | .bytes _, .struct _ _ | .items _, .items _ => True
  | _, _ => False

theorem Field.addressIn_isLocal {field : Field} {object : Address} {error : DecodeError}
    (h : field.addressIn object = .error error) : error.IsLocal := by
  unfold addressIn at h
  split at h
  · cases h
  · cases h
    trivial

/-- A field of an object is read as its type says, or fails locally. -/
theorem Layout.read_ensures {layout : Layout} {object : Address} {name : String} {field : Field}
    (nonNull : ¬object.isNull) (hfield : layout.field name = .ok field) :
    (layout.read object name).Ensures O DecodeError.IsLocal (·.OfType field.type) := by
  unfold Layout.read
  simp only [Probe.bind_eq, Probe.pure_eq, if_neg nonNull, hfield, Probe.ofExcept,
    Probe.done_bind]
  have reachable : (Probe.ofExcept (field.addressIn object)).FailsLocally O :=
    Probe.ensures_ofExcept.2 ⟨fun error h => field.addressIn_isLocal h, fun _ _ => trivial⟩
  apply reachable.bind
  intro place _
  simp only [Probe.ensures_bind, Probe.ensures_trace]
  cases field.type with
  | integer | address | struct =>
    exact (Probe.readExactly_failsLocally place _ _).bind fun _ _ => trivial
  | chars => exact (Probe.readUpTo_failsLocally place _ _).bind fun _ _ => trivial
  | items => exact trivial

namespace Reader

variable {reader : Reader} {object : Address} {kind : ObjectKind} {name : String}

/-- The catalog of the reader covers its version. -/
def Covers (reader : Reader) : Prop := reader.catalog.Covers reader.version

theorem covers_of_builtin (known : reader.catalog = .builtin) : reader.Covers := by
  rw [Covers, known]
  exact Catalog.builtin_covers reader.version

/-- The catalog of the reader declares the field for objects of the kind in its version. -/
def Declares (reader : Reader) (kind : ObjectKind) (decl : FieldDecl) : Prop :=
  reader.catalog.declared? reader.version.release kind decl.name = some decl

/-- A declared field stands in a layout that is found, with its type. -/
theorem Declares.exists_field {decl : FieldDecl} (h : reader.Declares kind decl) :
    ∃ layout field, reader.catalog.layoutFor kind reader.version = .ok layout ∧
      layout.field decl.name = .ok field ∧ field.type = decl.type ∧
      field.size = decl.type.size reader.version.abi :=
  Catalog.exists_field h

/-- In whatever layout is found the declared field stands. -/
theorem Declares.exists_field_in {type : FieldType} (h : reader.Declares kind ⟨name, type⟩)
    {layout : Layout} (hlayout : reader.catalog.layoutFor kind reader.version = .ok layout) :
    ∃ field, layout.field name = .ok field ∧ field.type = type ∧
      field.size = type.size reader.version.abi := by
  obtain ⟨found, field, hfound, hfield⟩ := h.exists_field
  obtain rfl : found = layout := Except.ok.inj (hfound.symm.trans hlayout)
  exact ⟨field, hfield⟩

theorem Covers.declared (h : reader.Covers) {decl : FieldDecl}
    (mem : (kind, decl) ∈ Catalog.captureFields reader.version.family) :
    reader.Declares kind decl :=
  h.declares kind decl mem

/-- What readers of single objects ask for is declared in every version. -/
theorem declares_of_objectFields (known : reader.catalog = .builtin) {decl : FieldDecl}
    (mem : (kind, decl) ∈ Catalog.objectFields) : reader.Declares kind decl := by
  rw [Declares, known]
  exact Catalog.builtin_declares_objects _ reader.version.release_mem_supported _ mem

/-- A covered field stands in a layout that is found, with its type. -/
theorem Covers.exists_field (h : reader.Covers) {decl : FieldDecl}
    (mem : (kind, decl) ∈ Catalog.captureFields reader.version.family) :
    ∃ layout field, reader.catalog.layoutFor kind reader.version = .ok layout ∧
      layout.field decl.name = .ok field ∧ field.type = decl.type ∧
      field.size = decl.type.size reader.version.abi :=
  (h.declared mem).exists_field

theorem mem_of_common {access : ObjectKind × FieldDecl} (h : access ∈ Catalog.commonFields) :
    access ∈ Catalog.captureFields reader.version.family :=
  List.mem_append_left _ h

theorem mem_of_family {access : ObjectKind × FieldDecl} {family : Family}
    (hfamily : reader.version.family = family) (h : access ∈ Catalog.familyFields family) :
    access ∈ Catalog.captureFields reader.version.family :=
  List.mem_append_right _ (hfamily ▸ h)

/-- Line tables are byte strings in every version. -/
theorem declares_lineTable (known : reader.catalog = .builtin) :
    reader.Declares reader.version.lineTableKind (.word "ob_size") ∧
      reader.Declares reader.version.lineTableKind (.items "ob_sval" .char) := by
  have covers : reader.Covers := covers_of_builtin known
  unfold Version.lineTableKind
  cases family : reader.version.family <;>
    exact ⟨covers.declared (mem_of_family family (by decide)),
      covers.declared (mem_of_family family (by decide))⟩

/-- The choice of a layout that is found only reports events. -/
theorem layout_ensures {layout : Layout} {P : DecodeError → Prop}
    (h : reader.catalog.layoutFor kind reader.version = .ok layout) :
    (reader.layout kind).Ensures O P (· = layout) := by
  simp only [Reader.layout, Probe.bind_eq, h, Probe.ofExcept, Probe.ensures_bind,
    Probe.ensures_reportAll, Probe.ensures_done]

/-- A covered field is read as its type says, or fails locally. -/
theorem Covers.read_ensures (h : reader.Covers) (nonNull : ¬object.isNull) {type : FieldType}
    (mem : (kind, ⟨name, type⟩) ∈ Catalog.captureFields reader.version.family) :
    ((reader.layout kind).bind fun layout => layout.read object name).Ensures O
      DecodeError.IsLocal (·.OfType type) := by
  obtain ⟨layout, field, hlayout, hfield, htype, _⟩ := h.exists_field mem
  apply (layout_ensures hlayout).bind
  intro _ found
  subst found
  obtain rfl : field.type = type := htype
  exact Layout.read_ensures nonNull hfield

theorem address_failsLocally (h : reader.Covers) (nonNull : ¬object.isNull)
    (mem : (kind, ⟨name, .address⟩) ∈ Catalog.captureFields reader.version.family) :
    (reader.address object kind name).FailsLocally O := by
  simp only [Reader.address, Probe.bind_eq, Probe.pure_eq]
  rw [← Probe.bind_assoc]
  apply (h.read_ensures nonNull mem).bind
  intro value hvalue
  -- a field that is declared as an address is read as nothing else
  cases value with
  | address => trivial
  | null | integer | chars | bytes | items => exact hvalue.elim

theorem integer_failsLocally (h : reader.Covers) (nonNull : ¬object.isNull) (width : IntWidth)
    (mem : (kind, ⟨name, .integer width⟩) ∈ Catalog.captureFields reader.version.family) :
    (reader.integer object kind name).FailsLocally O := by
  simp only [Reader.integer, Probe.bind_eq, Probe.pure_eq]
  rw [← Probe.bind_assoc]
  apply (h.read_ensures nonNull mem).bind
  intro value hvalue
  cases value with
  | integer => trivial
  | null | address | chars | bytes | items => exact hvalue.elim

theorem itemsPlace_failsLocally {layout : Layout} {field : Field} {item : ItemKind}
    (nonNull : ¬object.isNull) (hfield : layout.field name = .ok field)
    (htype : field.type = .items item) : (itemsPlace layout object name).FailsLocally O := by
  unfold itemsPlace
  apply (Layout.read_ensures nonNull hfield).bind
  intro value hvalue
  rw [htype] at hvalue
  cases value with
  | items => trivial
  | null | integer | address | chars | bytes => exact hvalue.elim

theorem clampedCount_failsLocally (object : Address) (claimed : Int) (limit : Nat) :
    (clampedCount object claimed limit).FailsLocally O := by
  unfold clampedCount
  simp only [Probe.bind_eq, Probe.pure_eq]
  split
  · trivial
  · split <;> trivial

/-- Only a length overflows. -/
theorem arrayLength_failsLocally (count itemSize : Nat) :
    (arrayLength count itemSize).FailsLocally True := by
  unfold arrayLength
  split <;> trivial

/-! ## Texts -/

theorem sizedChars_failsLocally (h : reader.Covers)
    (size : (kind, .word "ob_size") ∈ Catalog.captureFields reader.version.family)
    (chars : (kind, .items "ob_sval" .char) ∈ Catalog.captureFields reader.version.family) :
    (reader.sizedChars object kind).FailsLocally O := by
  unfold sizedChars
  simp only [Probe.bind_eq, Probe.pure_eq]
  split
  · trivial
  · rename_i nonNull
    obtain ⟨layout, field, hlayout, hfield, htype, _⟩ := h.exists_field chars
    apply (integer_failsLocally h nonNull .word size).bind
    intro claimed _
    apply (clampedCount_failsLocally object claimed _).bind
    intro length _
    apply (layout_ensures hlayout).bind
    intro _ found
    subst found
    apply (itemsPlace_failsLocally nonNull hfield htype).bind
    intro place _
    split
    · trivial
    · exact (Probe.readUpTo_failsLocally place _ _).bind fun _ _ => trivial

theorem byteString_failsLocally (h : reader.Covers) :
    (reader.byteString object).FailsLocally O := by
  unfold byteString Version.lineTableKind
  cases family : reader.version.family <;>
    exact sizedChars_failsLocally h (mem_of_family family (by decide))
      (mem_of_family family (by decide))

theorem unicode_failsLocally (h : reader.Covers) (family : reader.version.family = .python3) :
    (reader.unicode object).FailsLocally True := by
  unfold unicode
  simp only [Probe.bind_eq, Probe.pure_eq]
  split
  · trivial
  · rename_i nonNull
    apply (integer_failsLocally h nonNull .word (mem_of_family family (by decide))).bind
    intro claimed _
    apply (clampedCount_failsLocally object claimed _).bind
    intro units _
    apply (address_failsLocally h nonNull (mem_of_family family (by decide))).bind
    intro buffer _
    split
    · trivial
    apply (arrayLength_failsLocally _ _).bind
    intro length _
    exact (Probe.readUpTo_failsLocally buffer _ _).bind fun _ _ => trivial

/-- The texts of 2.x do not overflow. -/
theorem text_failsLocally_of_python2 (h : reader.Covers)
    (family : reader.version.family = .python2) : (reader.text object).FailsLocally O := by
  have chars : (reader.sizedChars object .string).FailsLocally O :=
    sizedChars_failsLocally h (mem_of_family family (by decide))
      (mem_of_family family (by decide))
  unfold text
  rw [family]
  exact chars.bind fun _ _ => trivial

theorem text_failsLocally (h : reader.Covers) : (reader.text object).FailsLocally True := by
  cases family : reader.version.family with
  | python2 => exact text_failsLocally_of_python2 h family
  | python3 =>
    unfold text
    rw [family]
    exact unicode_failsLocally h family

/-- Some text that the memory holds overflows. The target is of 3.x then, and the limit on texts
allows 2^62 units (`OverflowsOn.conditions`). -/
def OverflowsOn (reader : Reader) (memory : Memory) : Prop :=
  ∃ object served, ((reader.text object).run memory served).outcome = .overflow

theorem text_overflowsOnlyIf (memory : Memory) (object : Address) :
    (reader.text object).OverflowsOnlyIf memory (reader.OverflowsOn memory) :=
  fun served broken => ⟨object, served, broken⟩

theorem OverflowsOn.family {memory : Memory} (h : reader.OverflowsOn memory)
    (covers : reader.Covers) : reader.version.family = .python3 := by
  obtain ⟨object, served, broken⟩ := h
  cases family : reader.version.family with
  | python3 => rfl
  | python2 =>
    have fails : (reader.text object).FailsLocally False :=
      text_failsLocally_of_python2 covers family
    exact (fails.of_overflow broken).elim

/-! ## Code objects and thread states -/

theorem code_failsLocally (h : reader.Covers) (nonNull : ¬object.isNull) :
    (reader.code object).FailsLocally O := by
  unfold code
  simp only [Probe.bind_eq, Probe.pure_eq]
  apply (integer_failsLocally h nonNull .int (mem_of_common (by decide))).bind
  intro argCount _
  apply (address_failsLocally h nonNull (mem_of_common (by decide))).bind
  intro nameObject _
  apply (address_failsLocally h nonNull (mem_of_common (by decide))).bind
  intro filename _
  apply (integer_failsLocally h nonNull .int (mem_of_common (by decide))).bind
  intro firstLine _
  apply (address_failsLocally h nonNull (mem_of_common (by decide))).bind
  intro lineTable _
  unfold Version.codeShape
  cases family : reader.version.family with
  | python2 => trivial
  | python3 =>
    apply (integer_failsLocally h nonNull .int (mem_of_family family (by decide))).bind
    intro keywordOnly _
    trivial

theorem overflowFlags_failsLocally (h : reader.Covers) (nonNull : ¬object.isNull)
    {layout : Layout}
    (hlayout : reader.catalog.layoutFor .threadState reader.version = .ok layout) :
    (reader.overflowFlags layout object).FailsLocally O := by
  unfold overflowFlags
  cases family : reader.version.family with
  | python2 =>
    -- there is no field to ask for, so the absence of its declaration is no failure
    rw [Catalog.hasField_eq_false (h.flagless family) hlayout]
    trivial
  | python3 =>
    split
    · apply (integer_failsLocally h nonNull .byte (mem_of_family family (by decide))).bind
      intro overflowed _
      exact (integer_failsLocally h nonNull .byte (mem_of_family family (by decide))).bind
        fun _ _ => trivial
    · trivial

theorem threadStateWith_failsLocally (h : reader.Covers) (nonNull : ¬object.isNull)
    (overflow : Option OverflowFlags) :
    (reader.threadStateWith object overflow).FailsLocally O := by
  unfold threadStateWith
  simp only [Probe.bind_eq, Probe.pure_eq]
  apply (integer_failsLocally h nonNull .long (mem_of_common (by decide))).bind
  intro stored _
  apply (address_failsLocally h nonNull (mem_of_common (by decide))).bind
  intro next _
  apply (address_failsLocally h nonNull (mem_of_common (by decide))).bind
  intro interpreter _
  apply (address_failsLocally h nonNull (mem_of_common (by decide))).bind
  intro frame _
  apply (integer_failsLocally h nonNull .int (mem_of_common (by decide))).bind
  intro depth _
  exact (integer_failsLocally h nonNull .int (mem_of_common (by decide))).bind
    fun _ _ => trivial

theorem threadState_failsLocally (h : reader.Covers) (nonNull : ¬object.isNull) :
    (reader.threadState object).FailsLocally O := by
  obtain ⟨layout, _, hlayout, _⟩ :=
    h.exists_field (mem_of_common (by decide : (.threadState, .pointer "next") ∈ _))
  rw [Probe.FailsLocally, threadState_eq reader nonNull]
  apply (layout_ensures hlayout).bind
  intro _ found
  subst found
  exact (overflowFlags_failsLocally h nonNull hlayout).bind
    fun overflow _ => threadStateWith_failsLocally h nonNull overflow

end Reader

/-! ## Positions -/

namespace Resolver

variable {resolver : Resolver} {frame : Address}

theorem nameOr_failsLocally (h : resolver.reader.Covers) (object : Address) :
    (resolver.nameOr object).FailsLocally True :=
  (Reader.text_failsLocally h).bind fun _ _ => trivial

theorem currentLine_failsLocally (h : resolver.reader.Covers) (nonNull : ¬frame.isNull)
    (code : Code) : (resolver.currentLine frame code).FailsLocally O := by
  unfold currentLine
  simp only [Probe.bind_eq, Probe.pure_eq]
  apply (Reader.address_failsLocally h nonNull (Reader.mem_of_common (by decide))).bind
  intro tracer _
  split
  · exact (Reader.integer_failsLocally h nonNull .int
      (Reader.mem_of_common (by decide))).bind fun _ _ => trivial
  · apply (Reader.integer_failsLocally h nonNull .int
      (Reader.mem_of_common (by decide))).bind
    intro last _
    split
    · trivial
    · apply (Reader.byteString_failsLocally h).bind
      intro table? _
      cases table? <;> trivial

theorem position_failsLocally (h : resolver.reader.Covers) (nonNull : ¬frame.isNull) :
    (resolver.position frame).FailsLocally True := by
  unfold position
  simp only [Probe.bind_eq, Probe.pure_eq]
  apply (Reader.address_failsLocally h nonNull (Reader.mem_of_common (by decide))).bind
  intro codeAddress _
  split
  · exact (Reader.integer_failsLocally h nonNull .int
      (Reader.mem_of_common (by decide))).bind fun _ _ => trivial
  · rename_i hcode
    apply (Reader.code_failsLocally h hcode).bind
    intro code _
    apply (nameOr_failsLocally h code.name).bind
    intro function _
    apply (nameOr_failsLocally h code.filename).bind
    intro file _
    apply (currentLine_failsLocally h nonNull code).bind
    intro line _
    trivial

/-- A position overflows with one of its names. -/
theorem position_overflowsOnlyIf (h : resolver.reader.Covers) (nonNull : ¬frame.isNull)
    (memory : Memory) :
    (resolver.position frame).OverflowsOnlyIf memory (resolver.reader.OverflowsOn memory) := by
  have name (object : Address) : (resolver.nameOr object).OverflowsOnlyIf memory
      (resolver.reader.OverflowsOn memory) :=
    (resolver.reader.text_overflowsOnlyIf memory object).bind fun _ _ => nofun
  unfold position
  simp only [Probe.bind_eq, Probe.pure_eq]
  refine (Reader.address_failsLocally h nonNull
    (Reader.mem_of_common (by decide))).overflowsOnlyIf.bind fun codeAddress => ?_
  split
  · exact (Reader.integer_failsLocally h nonNull .int
      (Reader.mem_of_common (by decide))).overflowsOnlyIf.bind fun _ => nofun
  · rename_i hcode
    refine (Reader.code_failsLocally h hcode).overflowsOnlyIf.bind fun code => ?_
    refine (name code.name).bind fun function => (name code.filename).bind fun file => ?_
    exact (currentLine_failsLocally h nonNull code).overflowsOnlyIf.bind fun _ _ => nofun

end Resolver

end RemoteStack
