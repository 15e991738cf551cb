import RemoteStack.Proofs.Reader.Logged

/-!
# How many characters are read at once

Every reader of characters first reads the fields that lead to them, and then the characters,
in one read. `Reader.ReadsChars most fields` describes such reads: the fields in order, and
behind them one read of at most `most` bytes; a run may end anywhere before.

* **bytes** — byte strings and C strings are read in pieces that the limit on strings bounds, as
  their characters are bytes (`sizedChars_makes`, `cString_makes`);
* **units** — a Unicode text is cut to as many units as the limit says, and a unit has two or
  four bytes: the read is bounded by the bytes of so many units (`unicode_makes`) and can exceed
  the limit itself (`unicode_exceeds_limit`).
-/

namespace RemoteStack

open Probe

namespace Reader

variable {α : Type} {reader : Reader} {kind : ObjectKind} {name : String} {object : Address}

/-- The reads of characters that fields lead to: the fields one by one in their order, and behind
all of them the characters, at most `most` bytes in one read. A run may end before. -/
inductive ReadsChars (reader : Reader) (most : Nat) :
    List (ObjectKind × FieldDecl) → List Request → Prop
  | ended (fields : List (ObjectKind × FieldDecl)) : ReadsChars reader most fields []
  | field {kind : ObjectKind} {decl : FieldDecl} {rest : List (ObjectKind × FieldDecl)}
      {object : Address} {request : Request} {later : List Request}
      (asks : reader.AsksFor object kind decl request)
      (reads : ReadsChars reader most rest later) :
      ReadsChars reader most ((kind, decl) :: rest) (request :: later)
  | chars {request : Request} (le : request.length ≤ most) : ReadsChars reader most [] [request]

variable {most : Nat} {fields : List (ObjectKind × FieldDecl)}

/-- A probe that reads nothing has ended before the first field. -/
theorem makes_of_silent {probe : Probe α} (h : probe.Makes (· = [])) :
    probe.Makes (reader.ReadsChars most fields) := by
  apply h.mono
  rintro _ rfl
  exact .ended _

/-! ## Fields -/

/-- What is read after a field comes behind it. -/
theorem Declares.read_makes {type : FieldType} (declared : reader.Declares kind ⟨name, type⟩)
    (scalar : type.IsScalar) (nonNull : ¬object.isNull) {next : FieldValue → Probe α}
    (h : ∀ value, (next value).Makes (reader.ReadsChars most fields)) :
    (((reader.layout kind).bind fun layout => layout.read object name).bind next).Makes
      (reader.ReadsChars most ((kind, ⟨name, type⟩) :: fields)) := by
  have failed : ∀ made, made = [] ∨ reader.AskedOnce object kind ⟨name, type⟩ made →
      reader.ReadsChars most ((kind, ⟨name, type⟩) :: fields) made := by
    rintro _ (rfl | ⟨request, asks, rfl⟩)
    · exact .ended _
    · exact .field asks (.ended _)
  apply ((declared.read_logs scalar nonNull).mono failed fun _ _ => id).bind
  rintro value _ ⟨request, asks, rfl⟩
  apply (h value).mono
  intro later reads
  exact .field asks reads

theorem integer_makes {width : IntWidth} (declared : reader.Declares kind ⟨name, .integer width⟩)
    (nonNull : ¬object.isNull) {next : Int → Probe α}
    (h : ∀ value, (next value).Makes (reader.ReadsChars most fields)) :
    ((reader.integer object kind name).bind next).Makes
      (reader.ReadsChars most ((kind, ⟨name, .integer width⟩) :: fields)) := by
  simp only [Reader.integer, bind_eq, pure_eq]
  rw [← bind_assoc, bind_assoc]
  apply declared.read_makes trivial nonNull
  intro value
  cases value with
  | integer value => exact h value
  | null | address | chars | bytes | items => exact .ended _

/-- A null object has a null pointer in every field, which takes no read. -/
theorem address_null_bounded (reader : Reader) (kind : ObjectKind) (name : String) :
    (reader.address .null kind name).Bounded 0 (· = .null) := by
  apply (reader.layout_bounded kind).bind
  intro layout _
  exact rfl

theorem address_makes (declared : reader.Declares kind ⟨name, .address⟩) {next : Address → Probe α}
    (silent : (next .null).Makes (· = []))
    (h : ∀ target, (next target).Makes (reader.ReadsChars most fields)) :
    ((reader.address object kind name).bind next).Makes
      (reader.ReadsChars most ((kind, ⟨name, .address⟩) :: fields)) := by
  by_cases null : object = .null
  · subst null
    apply (address_null_bounded reader kind name).bind_logs (.ended _)
    rintro _ rfl
    exact makes_of_silent silent
  · have nonNull : ¬object.isNull := by simpa [Address.isNull] using null
    simp only [Reader.address, bind_eq, pure_eq]
    rw [← bind_assoc, bind_assoc]
    apply declared.read_makes trivial nonNull
    intro value
    cases value with
    | address target => exact h target
    | items place => exact h place
    | null => exact makes_of_silent silent
    | integer | chars | bytes => exact .ended _

/-! ## Characters -/

/-- Characters behind all fields are read at most once, within the bound. -/
theorem readUpTo_makes (address : Address) {length : Nat} (context : String)
    (le : length ≤ most) : (readUpTo address length context).Makes (reader.ReadsChars most []) :=
  logs_readUpTo (.chars le) fun _ => .chars le

theorem cString_makes (address : Address) (most : Nat) :
    (cString address most).Makes (reader.ReadsChars most []) := by
  unfold cString
  split
  · exact .ended _
  · exact (readUpTo_makes address _ (Nat.le_refl most)).bind_done _

/-- A byte string is read in one piece that the limit bounds. -/
theorem sizedChars_makes (size : reader.Declares kind (.word "ob_size"))
    (chars : reader.Declares kind (.items "ob_sval" .char)) (object : Address) :
    (reader.sizedChars object kind).Makes
      (reader.ReadsChars reader.limits.maxStringLength [(kind, .word "ob_size")]) := by
  unfold sizedChars
  simp only [bind_eq, pure_eq]
  split
  · exact .ended _
  rename_i nonNull
  apply integer_makes size nonNull
  intro claimed
  apply (clampedCount_bounded object claimed _).bind_logs (.ended _)
  intro length le
  apply (reader.layout_bounded kind).bind_logs (.ended _)
  intro layout hlayout
  obtain ⟨field, hfield, htype, _⟩ := chars.exists_field_in hlayout
  apply (itemsPlace_bounded object hfield htype).bind_logs (.ended _)
  intro place _
  split
  · exact .ended _
  · exact (readUpTo_makes place _ le).bind_done _

theorem byteString_makes (known : reader.catalog = .builtin) (object : Address) :
    (reader.byteString object).Makes (reader.ReadsChars reader.limits.maxStringLength
      [(reader.version.lineTableKind, .word "ob_size")]) := by
  obtain ⟨size, chars⟩ := declares_lineTable known
  exact sizedChars_makes size chars object

/-- The fields that lead to the units of a Unicode text. -/
def unicodeFields : List (ObjectKind × FieldDecl) :=
  [(.unicode, .word "length"), (.unicode, .pointer "str")]

/-- The units of a Unicode text are read in one piece of as many units as the limit says. -/
theorem unicode_makes (known : reader.catalog = .builtin) (object : Address) :
    (reader.unicode object).Makes (reader.ReadsChars
      (reader.limits.maxStringLength * reader.version.abi.unicodeUnit) unicodeFields) := by
  unfold unicode
  simp only [bind_eq, pure_eq]
  split
  · exact .ended _
  rename_i nonNull
  have length : reader.Declares .unicode (.word "length") :=
    declares_of_objectFields known (by decide)
  have buffer : reader.Declares .unicode (.pointer "str") :=
    declares_of_objectFields known (by decide)
  apply integer_makes length nonNull
  intro claimed
  apply (clampedCount_bounded object claimed _).bind_logs (.ended _)
  intro units le
  apply address_makes buffer
  · exact rfl
  intro place
  split
  · exact .ended _
  apply (arrayLength_bounded units _).bind_logs (.ended _)
  rintro length rfl
  exact (readUpTo_makes place _ (Nat.mul_le_mul_right _ le)).bind_done _

/-- The names of functions and files are byte strings in the 2.x releases. -/
theorem text_makes_of_python2 (known : reader.catalog = .builtin)
    (family : reader.version.family = .python2) (object : Address) :
    (reader.text object).Makes
      (reader.ReadsChars reader.limits.maxStringLength [(.string, .word "ob_size")]) := by
  have covers : reader.Covers := covers_of_builtin known
  have size : reader.Declares .string (.word "ob_size") :=
    covers.declared (mem_of_family family (by decide))
  have chars : reader.Declares .string (.items "ob_sval" .char) :=
    covers.declared (mem_of_family family (by decide))
  simp only [text, family, bind_eq, pure_eq]
  exact (sizedChars_makes size chars object).bind_done _

/-- In the 3.x releases they are Unicode texts. -/
theorem text_makes_of_python3 (known : reader.catalog = .builtin)
    (family : reader.version.family = .python3) (object : Address) :
    (reader.text object).Makes (reader.ReadsChars
      (reader.limits.maxStringLength * reader.version.abi.unicodeUnit) unicodeFields) := by
  simp only [text, family]
  exact unicode_makes known object

/-- A C string that stands behind two pointers; where one of them is null there is none. -/
theorem cString_behind_makes {otherKind : ObjectKind} {otherName : String}
    (first : reader.Declares kind (.pointer name))
    (second : reader.Declares otherKind (.pointer otherName)) (object : Address) (most : Nat) :
    ((reader.address object kind name).bind fun target =>
      (reader.address target otherKind otherName).bind fun chars => cString chars most).Makes
        (reader.ReadsChars most [(kind, .pointer name), (otherKind, .pointer otherName)]) := by
  apply address_makes first
  · apply Bounded.bind_logs (address_null_bounded reader otherKind otherName)
    · exact rfl
    · rintro _ rfl
      exact rfl
  · intro target
    apply address_makes second
    · exact rfl
    · intro chars
      exact cString_makes chars most

/-! ## Runs -/

/-- On every memory, whatever it answers: the characters of byte strings and C strings are read
in one piece of no more bytes than the limit, and those of Unicode texts in one of no more units.
-/
theorem characters_within_limit (version : Version) (limits : Limits) (object : Address)
    (memory : Memory) (served : Nat) :
    let reader : Reader := { version, limits }
    let most := limits.maxStringLength
    let unit := version.abi.unicodeUnit
    reader.ReadsChars most [(version.lineTableKind, .word "ob_size")]
        ((reader.byteString object).run memory served).requests ∧
      reader.ReadsChars (most * unit) unicodeFields
        ((reader.unicode object).run memory served).requests ∧
      (version.family = .python2 → reader.ReadsChars most [(.string, .word "ob_size")]
        ((reader.text object).run memory served).requests) ∧
      (version.family = .python3 → reader.ReadsChars (most * unit) unicodeFields
        ((reader.text object).run memory served).requests) ∧
      reader.ReadsChars most [(.object, .pointer "ob_type"), (.type, .pointer "tp_name")]
        ((reader.typeName object).run memory served).requests ∧
      reader.ReadsChars most [(.cfunction, .pointer "m_ml"), (.methodDef, .pointer "ml_name")]
        ((reader.builtinName object).run memory served).requests := by
  intro reader most unit
  have known : reader.catalog = .builtin := rfl
  refine ⟨(byteString_makes known object).requests memory served,
    (unicode_makes known object).requests memory served, ?_, ?_, ?_, ?_⟩
  · intro family
    exact (text_makes_of_python2 known family object).requests memory served
  · intro family
    exact (text_makes_of_python3 known family object).requests memory served
  · have objectType : reader.Declares .object (.pointer "ob_type") :=
      declares_of_objectFields known (by decide)
    have typeName : reader.Declares .type (.pointer "tp_name") :=
      declares_of_objectFields known (by decide)
    exact (cString_behind_makes objectType typeName object most).requests memory served
  · have method : reader.Declares .cfunction (.pointer "m_ml") :=
      declares_of_objectFields known (by decide)
    have methodName : reader.Declares .methodDef (.pointer "ml_name") :=
      declares_of_objectFields known (by decide)
    exact (cString_behind_makes method methodName object most).requests memory served

/-- A text of three units of four bytes is read in one piece of twelve bytes, where strings are
limited to four. -/
theorem unicode_exceeds_limit :
    ¬∀ (version : Version) (limits : Limits) (object : Address) (memory : Memory) (served : Nat),
      let reader : Reader := { version, limits }
      reader.ReadsChars limits.maxStringLength unicodeFields
        ((reader.unicode object).run memory served).requests := by
  intro within
  let version : Version := ⟨⟨3, 1⟩, .python3, ⟨.four, .lp64⟩, by decide, by decide⟩
  let limits : Limits := { maxStringLength := 4 }
  let reader : Reader := { version, limits }
  let object : Address := .ofNat 0x1000
  let text : Bytes := List.replicate 8 0 ++ [3, 0, 0, 0] ++ [0, 0x20, 0, 0] ++ List.replicate 4 0
  let units : Bytes := [97, 0, 0, 0, 98, 0, 0, 0, 99, 0, 0, 0]
  let image := (MemoryImage.empty.map object text).map (.ofNat 0x2000) units
  have requests : ((reader.unicode object).run (.ofImage image) 0).requests =
      [⟨.ofNat 0x1008, 4⟩, ⟨.ofNat 0x100c, 4⟩, ⟨.ofNat 0x2000, 12⟩] := by
    decide +kernel
  have reads := within version limits object (.ofImage image) 0
  change reader.ReadsChars _ _ ((reader.unicode object).run _ _).requests at reads
  rw [requests] at reads
  -- behind the two fields stands the read of the characters
  cases reads with
  | field _ reads =>
    cases reads with
    | field _ reads =>
      cases reads with
      | chars le => exact absurd le (by decide)

end Reader

end RemoteStack
