import RemoteStack.Proofs.Encoding.Array
import RemoteStack.Proofs.Encoding.Cut
import RemoteStack.Proofs.Reader.Given

/-!
# Texts of which a part arrives

A text has its number of units in the head of its object, and its units behind the head or a
pointer. A memory that serves the head in full may serve as few of the units as it likes, from the
first on (`Reader.ServesText`), and a limit may ask for fewer than there are:

* **heads** — the fields are given as they were written (`Reader.ServesField.gives_integer`,
  `Reader.ServesField.gives_address`);
* **units** — whatever arrives of them is a beginning of the bytes of the text, and is decoded to
  a beginning of the text (`Version.decodeText_take`);
* **texts** — so there is always a text, and it is cut and not altered
  (`Reader.text_of_part`).
-/

namespace RemoteStack

open Probe
open LittleEndian (FitsSigned)

/-! ## The bytes of a text -/

namespace Version

/-- The size of a unit of a text: texts of the 2.x releases are bytes. -/
def textUnit (version : Version) : Nat :=
  match version.family with
  | .python2 => 1
  | .python3 => version.abi.unicodeUnit

/-- The bytes of the units of a text. -/
def textBytes (version : Version) (text : String) : Bytes :=
  match version.family with
  | .python2 => Text.Utf8.encode text
  | .python3 => Text.encodeUnits version.abi.unicodeUnit (version.abi.dataModel.units text)

/-- How many units a text has. -/
def textLength (version : Version) (text : String) : Nat :=
  match version.family with
  | .python2 => (Text.Utf8.encode text).length
  | .python3 => (version.abi.dataModel.units text).length

/-- The text of some bytes. -/
def decodeText (version : Version) (bytes : Bytes) : String :=
  match version.family with
  | .python2 => Text.Utf8.decode bytes
  | .python3 => Reader.decodeUnits version.abi bytes

variable (version : Version) (text : String)

theorem decodeText_textBytes : version.decodeText (version.textBytes text) = text := by
  unfold decodeText textBytes
  cases version.family with
  | python2 => exact Text.Utf8.decode_encode text
  | python3 => exact Reader.decodeUnits_encodeUnits version.abi text

/-- A beginning of the bytes of a text is decoded to a beginning of the text, and no more than a
replacement character behind it. -/
theorem decodeText_take (count : Nat) :
    Text.Shortens (version.decodeText ((version.textBytes text).take count)) text := by
  unfold decodeText textBytes
  obtain ⟨_, family, ⟨_, model⟩, _, _⟩ := version
  cases family with
  | python2 => exact Text.Utf8.shortens_take text count
  | python3 =>
    cases model with
    | lp64 => exact Text.shortens_of_prefix (Text.Ucs4.decode_take_prefix text count)
    | llp64 => exact Text.Utf16.shortens_take text count

/-- Units of four bytes leave no replacement character behind. -/
theorem decodeText_take_prefix (family : version.family = .python3)
    (model : version.abi.dataModel = .lp64) (count : Nat) :
    (version.decodeText ((version.textBytes text).take count)).toList <+: text.toList := by
  obtain ⟨_, _, ⟨_, _⟩, _, _⟩ := version
  cases family
  cases model
  exact Text.Ucs4.decode_take_prefix text count

end Version

/-! ## What a memory serves -/

namespace Reader

variable {reader : Reader} {memory : Memory} {served number : Nat} {object place : Address}
  {kind : ObjectKind} {name : String} {text : String} {arrived : Bytes}

/-- The read of a field of the object is answered with the bytes of a number, with all of them. -/
def ServesField (reader : Reader) (memory : Memory) (number : Nat) (object : Address)
    (kind : ObjectKind) (decl : FieldDecl) (value : Int) : Prop :=
  ∃ request, reader.AsksFor object kind decl request ∧
    memory number request.address request.length =
      .ok (LittleEndian.encode request.length value)

/-- The head of a text object is served in full: the number of the units, and their place, which
stands behind the number or is led to by a pointer. The read of the units is the next one. -/
inductive ServesHead (reader : Reader) (memory : Memory) (served : Nat) (object : Address)
    (length : Nat) : Nat → Address → Prop
  | bytes {place : Address} (family : reader.version.family = .python2)
      (size : reader.ServesField memory served object .string (.word "ob_size") length)
      (placed : reader.version.PlacesItems .string "ob_sval" object place) :
      ServesHead reader memory served object length (served + 1) place
  | units {place : Address} (family : reader.version.family = .python3)
      (size : reader.ServesField memory served object .unicode (.word "length") length)
      (pointer : reader.ServesField memory (served + 1) object .unicode (.pointer "str")
        place.toNat)
      (narrow : place.toNat < LittleEndian.span reader.version.abi.wordSize) :
      ServesHead reader memory served object length (served + 2) place

/-- The read of so many units brings `arrived`. None is made for no units, or at null. -/
def Fetches (memory : Memory) (number : Nat) (place : Address) (count size : Nat)
    (arrived : Bytes) : Prop :=
  if count = 0 ∨ place.isNull then arrived = []
  else memory number place (count * size) = .ok arrived

instance (memory : Memory) (number : Nat) (place : Address) (count size : Nat) (arrived : Bytes) :
    Decidable (Fetches memory number place count size arrived) :=
  inferInstanceAs (Decidable (if count = 0 ∨ place.isNull then arrived = []
    else memory number place (count * size) = .ok arrived))

/-- The memory serves the head of the object of a text in full, and of the units that are asked
for, as many as the limit allows, those that arrive: any number of bytes, from the first on. -/
structure ServesText (reader : Reader) (memory : Memory) (served : Nat) (object : Address)
    (text : String) (arrived : Bytes) : Prop where
  nonNull : ¬object.isNull
  /-- The number of the units fits the field that counts them. -/
  counted : FitsSigned reader.version.abi.wordSize (reader.version.textLength text)
  /-- The units lie in the address space. -/
  stored : reader.version.textLength text * reader.version.textUnit < UInt64.size
  served : ∃ number place,
    reader.ServesHead memory served object (reader.version.textLength text) number place ∧
      Fetches memory number place
        (min (reader.version.textLength text) reader.limits.maxStringLength)
        reader.version.textUnit arrived
  front : arrived <+: (reader.version.textBytes text).take
    (min (reader.version.textLength text) reader.limits.maxStringLength * reader.version.textUnit)

/-! ## Heads -/

/-- A field that is served in full brings its bytes. -/
theorem ServesField.brings {decl : FieldDecl} {value : Int}
    (h : reader.ServesField memory number object kind decl value) :
    ∃ request, reader.Brings memory number object kind decl request
      (LittleEndian.encode (decl.type.size reader.version.abi) value) := by
  obtain ⟨request, asks, answered⟩ := h
  have length : request.length = decl.type.size reader.version.abi := by
    obtain ⟨_, _, _, _, _, length⟩ := asks
    exact length
  rw [length] at answered
  exact ⟨request, asks, length ▸ answered, by simp [length]⟩

theorem ServesField.gives_integer {width : IntWidth} {value : Int}
    (h : reader.ServesField memory number object kind ⟨name, .integer width⟩ value)
    (declared : reader.Declares kind ⟨name, .integer width⟩) (nonNull : ¬object.isNull)
    (fits : FitsSigned (width.size reader.version.abi) value) :
    ∃ request, (reader.integer object kind name).Gives memory number value [request] := by
  obtain ⟨request, brings⟩ := h.brings
  refine ⟨request, (declared.gives_integer_iff nonNull).2 ⟨request, _, brings, ?_, rfl⟩⟩
  show value = LittleEndian.signed (LittleEndian.encode (width.size reader.version.abi) value)
  rw [LittleEndian.signed_encode (width.size_bounds _).2, fits.bmod]

theorem ServesField.gives_address {target : Address}
    (h : reader.ServesField memory number object kind ⟨name, .address⟩ target.toNat)
    (declared : reader.Declares kind ⟨name, .address⟩) (nonNull : ¬object.isNull)
    (narrow : target.toNat < LittleEndian.span reader.version.abi.wordSize) :
    ∃ request, (reader.address object kind name).Gives memory number target [request] := by
  obtain ⟨request, brings⟩ := h.brings
  refine ⟨request, (declared.gives_address_iff nonNull).2 ⟨request, _, brings, ?_, rfl⟩⟩
  show target = .ofNat (LittleEndian.unsigned
    (LittleEndian.encode reader.version.abi.wordSize target.toNat))
  rw [LittleEndian.unsigned_encode_of_lt narrow, Address.ofNat_toNat]

/-! ## Texts -/

/-- The read of the units gives what arrives, or nothing without a read. -/
theorem Fetches.gives {α : Type} {count size length : Nat} {unread : Prop} [Decidable unread]
    (h : Fetches memory number place count size arrived) (next : Bytes → α)
    (hunread : unread ↔ count = 0 ∨ place.isNull) (hlength : length = count * size)
    (context : String) :
    ∃ made, (if unread then done (next []) else (readUpTo place length context).bind fun bytes =>
      done (next bytes)).Gives memory number (next arrived) made := by
  unfold Fetches at h
  by_cases none : count = 0 ∨ place.isNull
  · rw [if_pos none] at h
    rw [if_pos (hunread.2 none), h]
    exact ⟨[], gives_done_iff.2 ⟨rfl, rfl⟩⟩
  · rw [if_neg none] at h
    rw [if_neg (mt hunread.1 none), hlength]
    exact ⟨_, (gives_readUpTo_iff.2 ⟨h, rfl⟩).bind (gives_done_iff.2 ⟨rfl, rfl⟩)⟩

/-- The characters of a byte string are those that arrive. -/
theorem gives_sizedChars {count : Nat} {request : Request} (nonNull : ¬object.isNull)
    (known : reader.catalog = .builtin) (chars : reader.Declares kind (.items "ob_sval" .char))
    (size : (reader.integer object kind "ob_size").Gives memory served count [request])
    (placed : reader.version.PlacesItems kind "ob_sval" object place)
    (fetches : Fetches memory (served + 1) place (min count reader.limits.maxStringLength) 1
      arrived) :
    ∃ made, (reader.sizedChars object kind).Gives memory served (some arrived) made := by
  obtain ⟨layout, field, hlayout, hfield, hplace⟩ := placed
  rw [← known] at hlayout
  obtain ⟨_, hfound, htype, _⟩ := chars.exists_field_in hlayout
  obtain rfl := Except.ok.inj (hfound.symm.trans hfield)
  have counted : (clampedCount object count reader.limits.maxStringLength).Gives memory
      (served + 1) (min count reader.limits.maxStringLength) [] :=
    gives_clampedCount_iff.2 ⟨by omega, by simp, rfl⟩
  have items : (itemsPlace layout object "ob_sval").Gives memory (served + 1) place [] :=
    (gives_itemsPlace_iff nonNull hfield htype).2 ⟨hplace, rfl⟩
  -- the characters of an object are not at the null address, and each is one byte
  have mapped : ¬place.isNull := Field.addressIn_nonNull hplace nonNull
  have unread : min count reader.limits.maxStringLength = 0 ↔
      min count reader.limits.maxStringLength = 0 ∨ place.isNull := by simp [mapped]
  have bytes := (Nat.mul_one (min count reader.limits.maxStringLength)).symm
  obtain ⟨made, last⟩ := fetches.gives some unread bytes s!"{kind.name}.ob_sval"
  unfold sizedChars
  simp only [bind_eq, pure_eq, if_neg nonNull]
  exact ⟨_, size.bind (counted.bind ((gives_layout_bind_iff hlayout).2 (items.bind last)))⟩

/-- The units of a Unicode text are those that arrive. -/
theorem gives_unicode {count : Nat} {first second : Request} (nonNull : ¬object.isNull)
    (length : (reader.integer object .unicode "length").Gives memory served count [first])
    (pointer : (reader.address object .unicode "str").Gives memory (served + 1) place [second])
    (fits : count * reader.version.abi.unicodeUnit < UInt64.size)
    (fetches : Fetches memory (served + 2) place (min count reader.limits.maxStringLength)
      reader.version.abi.unicodeUnit arrived) :
    ∃ made, (reader.unicode object).Gives memory served
      (some (decodeUnits reader.version.abi arrived)) made := by
  have counted : (clampedCount object count reader.limits.maxStringLength).Gives memory
      (served + 1) (min count reader.limits.maxStringLength) [] :=
    gives_clampedCount_iff.2 ⟨by omega, by simp, rfl⟩
  have unread : (place.isNull || min count reader.limits.maxStringLength == 0) = true ↔
      min count reader.limits.maxStringLength = 0 ∨ place.isNull = true := by
    rw [Bool.or_eq_true, beq_iff_eq, or_comm]
  obtain ⟨made, last⟩ := fetches.gives (fun bytes => some (decodeUnits reader.version.abi bytes))
    unread rfl "unicode.str"
  rw [decodeUnits_nil] at last
  have asked : min count reader.limits.maxStringLength * reader.version.abi.unicodeUnit <
      UInt64.size :=
    Nat.lt_of_le_of_lt (Nat.mul_le_mul_right _ (Nat.min_le_left _ _)) fits
  unfold unicode
  simp only [bind_eq, pure_eq, if_neg nonNull]
  refine ⟨_ ++ (_ ++ (_ ++ made)), length.bind (counted.bind (pointer.bind ?_))⟩
  rw [arrayLength_of_lt asked]
  exact last

/-- What is read of a text that is served is what the bytes that arrive are decoded to. -/
theorem ServesText.outcome (h : reader.ServesText memory served object text arrived)
    (known : reader.catalog = .builtin) :
    ((reader.text object).run memory served).outcome =
      .ok (some (reader.version.decodeText arrived)) := by
  have covers := covers_of_builtin known
  obtain ⟨nonNull, counted, stored, ⟨number, place, head, fetches⟩, _⟩ := h
  cases head with
  | bytes family size placed =>
    have declared : reader.Declares .string (.word "ob_size") :=
      covers.declared (mem_of_family family (by decide))
    have chars : reader.Declares .string (.items "ob_sval" .char) :=
      covers.declared (mem_of_family family (by decide))
    rw [show reader.version.textUnit = 1 by rw [Version.textUnit, family]] at fetches
    obtain ⟨request, given⟩ := size.gives_integer declared nonNull counted
    obtain ⟨made, result⟩ := gives_sizedChars nonNull known chars given placed fetches
    simp only [Reader.text, Version.decodeText, family, bind_eq, pure_eq]
    rw [outcome_bind_of_ok result.outcome]
    rfl
  | units family size pointer narrow =>
    have declared : reader.Declares .unicode (.word "length") :=
      covers.declared (mem_of_family family (by decide))
    have buffer : reader.Declares .unicode (.pointer "str") :=
      covers.declared (mem_of_family family (by decide))
    rw [show reader.version.textUnit = reader.version.abi.unicodeUnit by
      rw [Version.textUnit, family]] at fetches stored
    obtain ⟨first, length⟩ := size.gives_integer declared nonNull counted
    obtain ⟨second, target⟩ := pointer.gives_address buffer nonNull narrow
    obtain ⟨made, result⟩ := gives_unicode nonNull length target stored fetches
    simp only [Reader.text, Version.decodeText, family]
    exact result.outcome

/-- A text of which the memory serves the head in full, and of the units that are asked for any
number of bytes, from the first on, is read: as itself if all of its bytes arrive, and otherwise
as a beginning of it, with no more than a replacement character behind it, and with none where the
units have four bytes. -/
theorem text_of_part (version : Version) (limits : Limits) {memory : Memory} {served : Nat}
    {object : Address} {text : String} {arrived : Bytes}
    (serves : Reader.ServesText { version, limits } memory served object text arrived) :
    let reader : Reader := { version, limits }
    ∃ found, ((reader.text object).run memory served).outcome = .ok (some found) ∧
      (arrived = version.textBytes text → found = text) ∧ Text.Shortens found text ∧
      (version.family = .python3 → version.abi.dataModel = .lp64 →
        found.toList <+: text.toList) := by
  intro reader
  obtain ⟨count, rfl⟩ : ∃ count, arrived = (version.textBytes text).take count :=
    ⟨_, List.prefix_iff_eq_take.1 (serves.front.trans (List.take_prefix _ _))⟩
  refine ⟨_, serves.outcome rfl, ?_, version.decodeText_take text count,
    fun family model => version.decodeText_take_prefix text family model count⟩
  intro all
  show version.decodeText _ = text
  rw [all, version.decodeText_textBytes]

/-- Three characters in four units of two bytes. The limit asks for two of the units, the second of
which begins a pair. -/
theorem pair_cut_by_limit :
    let version : Version := ⟨⟨3, 1⟩, .python3, ⟨.four, .llp64⟩, by decide, by decide⟩
    let reader : Reader := { version, limits := { maxStringLength := 2 } }
    let object : Address := .ofNat 0x1000
    let head : Bytes := List.replicate 8 0 ++ [4, 0, 0, 0] ++ [0, 0x20, 0, 0] ++ List.replicate 4 0
    let units : Bytes := [0x61, 0, 0x3d, 0xd8, 0, 0xde, 0x62, 0]
    let memory := Memory.ofImage (.ofRegions [⟨object, head⟩, ⟨.ofNat 0x2000, units⟩])
    reader.ServesText memory 0 object "a😀b" [0x61, 0, 0x3d, 0xd8] ∧
      ∃ found, ((reader.text object).run memory 0).outcome = .ok (some found) ∧
        found = "a\uFFFD" ∧ Text.Shortens found "a😀b" := by
  intro version reader object head units memory
  have size : reader.ServesField memory 0 object .unicode (.word "length") 4 :=
    ⟨⟨.ofNat 0x1008, 4⟩, ⟨_, _, rfl, rfl, by decide +kernel, by decide⟩, by decide +kernel⟩
  have pointer : reader.ServesField memory 1 object .unicode (.pointer "str") 0x2000 :=
    ⟨⟨.ofNat 0x100c, 4⟩, ⟨_, _, rfl, rfl, by decide +kernel, by decide⟩, by decide +kernel⟩
  have serves : reader.ServesText memory 0 object "a😀b" [0x61, 0, 0x3d, 0xd8] :=
    ⟨by decide, by decide +kernel, by decide +kernel,
      ⟨2, .ofNat 0x2000, .units rfl size pointer (by decide), by decide +kernel⟩, by decide +kernel⟩
  obtain ⟨found, outcome, _, shortens, _⟩ := text_of_part version { maxStringLength := 2 } serves
  refine ⟨serves, found, outcome, ?_, shortens⟩
  have computed : ((reader.text object).run memory 0).outcome.toOption = some (some "a\uFFFD") := by
    decide +kernel
  rw [outcome] at computed
  exact Option.some.inj (Option.some.inj computed)

end Reader

end RemoteStack
