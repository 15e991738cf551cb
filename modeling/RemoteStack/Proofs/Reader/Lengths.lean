import RemoteStack.Proofs.Encoding.Digits
import RemoteStack.Proofs.Reader.Given

/-!
# How long the reads of arrays are

The items of an array are read in one piece, behind the fields that tell how many there are. Its
length is the number of the items times their size, which a word of 64 bits has to count:

* **step** — where a word counts the bytes, all items are asked for, and where it does not, the
  program stops before the read (`Run.TakesArray`, `takesArray_of_read`); no length goes round;
* **digits** — few are read of an integer, so their bytes are always counted (`takesArray_long`);
* **units and items** — as many are read as a field claims and a limit allows
  (`takesArray_unicode`, `takesArray_tuple`). Limits below 2^61 and fields of four bytes keep their
  bytes within a word (`bytes_lt_of_limit`, `bytes_lt_of_narrow`);
* **texts** — only units of four bytes overflow, where a limit allows 2^62 of them and a field has
  room for their number (`OverflowsOn.conditions`), and then they do (`units_overflow`).
-/

namespace RemoteStack

open Probe
open LittleEndian (FitsSigned)

/-- Behind the reads before it, the run asks for all items of the array if a word counts their
bytes, and otherwise it overflows and does not ask for the array. -/
structure Run.TakesArray {α : Type} (run : Run α) (earlier : List Request) (place : Address)
    (count size : Nat) : Prop where
  whole : count * size < UInt64.size →
    run.outcome ≠ .overflow ∧ run.requests = earlier ++ [⟨place, count * size⟩]
  overflow : UInt64.size ≤ count * size → run.outcome = .overflow ∧ run.requests = earlier

namespace Reader

variable {reader : Reader} {object : Address} {memory : Memory} {served : Nat} {claimed : Int}
  {first second : List Request}

/-! ## Steps -/

/-- What is read of an array and needs no more reads. -/
theorem takesArray_of_read {α : Type} {read : Nat → Probe Bytes} {next : Bytes → Probe α}
    {place : Address} {count size : Nat}
    (asks : ∀ length, ((read length).run memory served).requests = [⟨place, length⟩])
    (fails : ∀ length, ((read length).bind next).FailsLocally False)
    (silent : ∀ bytes, (next bytes).BoundedBy 0) :
    (((arrayLength count size).bind fun length => (read length).bind next).run memory
      served).TakesArray [] place count size where
  whole := by
    intro counted
    rw [arrayLength_of_lt counted, done_bind]
    refine ⟨fun overflow => (fails _).of_overflow overflow, ?_⟩
    have unread (bytes : Bytes) (served : Nat) : ((next bytes).run memory served).requests = [] :=
      List.eq_nil_of_length_eq_zero
        (Nat.le_zero.1 ((silent bytes).readsWithin memory served).length_le)
    rw [requests_bind_of_silent unread, asks]
    rfl
  overflow := by
    intro exceeds
    rw [arrayLength_of_le exceeds]
    exact ⟨rfl, rfl⟩

/-- The reads of a part that has a result come before those of the rest. -/
theorem takesArray_bind {α β : Type} {probe : Probe α} {next : α → Probe β} {value : α}
    {rest : List Request} {place : Address} {count size : Nat}
    (h : probe.Gives memory served value first)
    (hnext : ((next value).run memory (served + first.length)).TakesArray rest place count size) :
    ((probe.bind next).run memory served).TakesArray (first ++ rest) place count size where
  whole := by
    intro counted
    obtain ⟨outcome, requests⟩ := hnext.whole counted
    rw [outcome_bind_of_ok h.outcome, h.requests_bind, h.requests, requests, List.append_assoc]
    exact ⟨outcome, rfl⟩
  overflow := by
    intro exceeds
    obtain ⟨outcome, requests⟩ := hnext.overflow exceeds
    rw [outcome_bind_of_ok h.outcome, h.requests_bind, h.requests, requests]
    exact ⟨outcome, rfl⟩

theorem takesArray_bind_unread {α β : Type} {probe : Probe α} {next : α → Probe β} {value : α}
    {rest : List Request} {place : Address} {count size : Nat}
    (h : probe.Gives memory served value [])
    (hnext : ((next value).run memory served).TakesArray rest place count size) :
    ((probe.bind next).run memory served).TakesArray rest place count size :=
  takesArray_bind h hnext

/-! ## Reads -/

/-- The units of a Unicode text are taken behind its length and its pointer. -/
theorem takesArray_unicode {buffer : Address} (nonNull : ¬object.isNull)
    (length : (reader.integer object .unicode "length").Gives memory served claimed first)
    (pointer : (reader.address object .unicode "str").Gives memory (served + first.length) buffer
      second)
    (some : 0 < claimed) (limited : 0 < reader.limits.maxStringLength)
    (mapped : ¬buffer.isNull) :
    ((reader.unicode object).run memory served).TakesArray (first ++ second) buffer
      (min claimed.toNat reader.limits.maxStringLength) reader.version.abi.unicodeUnit := by
  have counted : (clampedCount object claimed reader.limits.maxStringLength).Gives memory
      (served + first.length) (min claimed.toNat reader.limits.maxStringLength) [] :=
    gives_clampedCount_iff.2 ⟨by omega, rfl, rfl⟩
  have units : ¬(buffer.isNull || min claimed.toNat reader.limits.maxStringLength == 0) := by
    simp [mapped]
    omega
  rw [← List.append_nil second]
  unfold unicode
  simp only [bind_eq, pure_eq]
  rw [if_neg nonNull]
  refine takesArray_bind length (takesArray_bind_unread counted (takesArray_bind pointer ?_))
  rw [if_neg units]
  apply takesArray_of_read
  · exact fun length => requests_readUpTo buffer length _ memory _
  · exact fun length => (readUpTo_failsLocally buffer length _).bind fun _ _ => trivial
  · exact fun bytes => trivial

/-- The items of a tuple are taken behind their number, also if there are none. -/
theorem takesArray_tuple {place : Address} (known : reader.catalog = .builtin)
    (nonNull : ¬object.isNull)
    (size : (reader.integer object .tuple "ob_size").Gives memory served claimed first)
    (counted : 0 ≤ claimed) (placed : reader.version.PlacesItems .tuple "ob_item" object place) :
    ((reader.tuple object).run memory served).TakesArray first place
      (min claimed.toNat reader.limits.maxTupleItems) reader.version.abi.wordSize := by
  have array : reader.Declares .tuple (.items "ob_item" .address) :=
    declares_of_objectFields known (by decide)
  obtain ⟨layout, field, hlayout, hfield, hplace⟩ := placed
  rw [← known] at hlayout
  obtain ⟨_, hfound, htype, _⟩ := array.exists_field_in hlayout
  obtain rfl := Except.ok.inj (hfound.symm.trans hfield)
  have count : (clampedCount object claimed reader.limits.maxTupleItems).Gives memory
      (served + first.length) (min claimed.toNat reader.limits.maxTupleItems) [] :=
    gives_clampedCount_iff.2 ⟨counted, rfl, rfl⟩
  have items : (itemsPlace layout object "ob_item").Gives memory (served + first.length) place [] :=
    (gives_itemsPlace_iff nonNull hfield htype).2 ⟨hplace, rfl⟩
  rw [← List.append_nil first]
  unfold tuple
  simp only [bind_eq, pure_eq]
  rw [if_neg nonNull]
  refine takesArray_bind size (takesArray_bind_unread count
    (takesArray_bind_unread (gives_layout hlayout) (takesArray_bind_unread items ?_)))
  apply takesArray_of_read
  · exact fun length => requests_readUpTo place length _ memory _
  · exact fun length => (readUpTo_failsLocally place length _).bind fun _ _ => trivial
  · exact fun bytes => trivial

/-- The digits of an integer that is not refused for their number. -/
theorem digits_bytes_lt {release : Release} {count : Nat} (few : count ≤ release.mostDigits) :
    count * release.digitForm.bytes < UInt64.size := by
  have small : count * release.digitForm.bytes ≤ 16 := by
    unfold Release.mostDigits at few
    unfold Release.digitForm
    split at few <;> rename_i early <;> simp [early] <;> omega
  exact Nat.lt_of_le_of_lt small (by decide)

/-- They are taken behind their number. -/
theorem takesArray_long {version : Version} {limits : Limits} {size : Int} {place : Address}
    (family : version.family = .python3) :
    let reader : Reader := { version, limits }
    (reader.integer object .long "ob_size").Gives memory served size first → size ≠ 0 →
      size.natAbs ≤ version.release.mostDigits →
      version.PlacesItems .long "ob_digit" object place →
        ((reader.long object).run memory served).TakesArray first place size.natAbs
          version.release.digitForm.bytes := by
  rintro reader counted nonzero few ⟨_, _, hfound, hother, hplace⟩
  obtain ⟨_, layout, field, hlayout, hfield, hform⟩ := declares_digits family limits
  obtain rfl := Except.ok.inj (hlayout.symm.trans hfound)
  obtain rfl := Except.ok.inj (hfield.symm.trans hother)
  obtain ⟨_, _, _, _, most⟩ := digitForm_bounds version.release
  rw [← List.append_nil first]
  unfold long
  simp only [bind_eq, pure_eq]
  refine takesArray_bind counted (takesArray_bind_unread (gives_layout hlayout) ?_)
  simp only [hfield, Probe.ofExcept, done_bind, hform, most, hplace]
  rw [if_neg (by omega), if_neg (by omega)]
  apply takesArray_of_read
  · exact fun length => requests_readExactly place length _ memory _
  · -- whatever the digits are, they are an integer or are refused
    intro length
    apply (readExactly_failsLocally place length _).bind
    intro bytes _
    generalize (if size < 0 then _ else _ : Int) = value
    split <;> trivial
  · intro bytes
    generalize (if size < 0 then _ else _ : Int) = value
    split <;> trivial

/-! ## Lengths that a word counts -/

/-- Limits below 2^61 keep the bytes of units and items within a word. -/
theorem bytes_lt_of_limit {claimed limit size : Nat} (limited : limit < 2 ^ 61) (small : size ≤ 8) :
    min claimed limit * size < UInt64.size := by
  have most : min claimed limit * size ≤ limit * 8 :=
    Nat.mul_le_mul (Nat.min_le_right _ _) small
  show _ < 2 ^ 64
  omega

/-- So do, whatever the limits are, counts that stand in fields of four bytes. -/
theorem bytes_lt_of_narrow {kind : ObjectKind} {name : String}
    (declared : reader.Declares kind (.word name)) (nonNull : ¬object.isNull)
    (narrow : reader.version.abi.pointerWidth = .four) (measured : memory.Measured)
    (given : (reader.integer object kind name).Gives memory served claimed first)
    {limit size : Nat} (small : size ≤ 8) : min claimed.toNat limit * size < UInt64.size := by
  have fits : FitsSigned reader.version.abi.wordSize claimed :=
    declared.fits_of_gives nonNull measured given
  simp only [Abi.wordSize, narrow, PointerWidth.bytes, FitsSigned, LittleEndian.span] at fits
  have most : min claimed.toNat limit * size ≤ claimed.toNat * 8 :=
    Nat.mul_le_mul (Nat.min_le_left _ _) small
  show _ < 2 ^ 64
  omega

/-- Whatever the memory answers, a field holds a number of at most eight bytes. -/
theorem toNat_lt_of_gives {kind : ObjectKind} {name : String} {width : IntWidth}
    (declared : reader.Declares kind ⟨name, .integer width⟩) (nonNull : ¬object.isNull)
    (given : (reader.integer object kind name).Gives memory served claimed first) :
    claimed.toNat < 2 ^ 63 := by
  obtain ⟨_, bytes, _, rfl, _⟩ := (declared.gives_integer_iff nonNull).1 given
  have fits := LittleEndian.fitsSigned_signed bytes
  have most : LittleEndian.span (min bytes.length 8) ≤ 2 ^ 64 := by
    rw [LittleEndian.span_eq_two_pow]
    exact Nat.pow_le_pow_right (by decide) (Nat.mul_le_mul_left 8 (Nat.min_le_right _ 8))
  have := fits.2
  omega

/-! ## Texts that overflow -/

/-- A text overflows behind its length, if it claims more units than a word counts the bytes
of. -/
theorem exists_length_of_overflow (covers : reader.Covers)
    (family : reader.version.family = .python3) (nonNull : ¬object.isNull)
    (broken : ((reader.unicode object).run memory served).outcome = .overflow) :
    ∃ claimed first, (reader.integer object .unicode "length").Gives memory served claimed first ∧
      UInt64.size ≤
        min claimed.toNat reader.limits.maxStringLength * reader.version.abi.unicodeUnit := by
  have length : (reader.integer object .unicode "length").FailsLocally False :=
    integer_failsLocally covers nonNull .word (mem_of_family family (by decide))
  have pointer : (reader.address object .unicode "str").FailsLocally False :=
    address_failsLocally covers nonNull (mem_of_family family (by decide))
  unfold unicode at broken
  simp only [bind_eq, pure_eq] at broken
  rw [if_neg nonNull] at broken
  obtain ⟨claimed, first, given, broken⟩ := length.exists_gives broken
  have count : (clampedCount object claimed reader.limits.maxStringLength).FailsLocally False :=
    clampedCount_failsLocally _ _ _
  obtain ⟨units, _, counted, broken⟩ := count.exists_gives broken
  obtain ⟨_, rfl, rfl⟩ := gives_clampedCount_iff.1 counted
  obtain ⟨buffer, _, _, broken⟩ := pointer.exists_gives broken
  refine ⟨claimed, first, given, ?_⟩
  split at broken
  · cases broken
  · apply Nat.le_of_not_lt
    intro fits
    rw [arrayLength_of_lt fits, done_bind] at broken
    have read : (readUpTo buffer (min claimed.toNat reader.limits.maxStringLength *
        reader.version.abi.unicodeUnit) "unicode.str").FailsLocally False :=
      readUpTo_failsLocally buffer _ _
    obtain ⟨_, _, _, broken⟩ := read.exists_gives broken
    cases broken

/-- Only a text of 3.x in units of four bytes overflows, where the limit allows 2^62 of them, and
where words have eight bytes, if the memory gives no more than it is asked for. -/
theorem OverflowsOn.conditions {version : Version} {limits : Limits}
    (h : Reader.OverflowsOn { version, limits } memory) :
    version.family = .python3 ∧ version.abi.dataModel = .lp64 ∧
      UInt64.size ≤ limits.maxStringLength * 4 ∧
      (memory.Measured → version.abi.pointerWidth = .eight) := by
  have covers : Reader.Covers { version, limits } := Catalog.builtin_covers version
  have family : version.family = .python3 := h.family covers
  obtain ⟨object, served, broken⟩ := h
  unfold text at broken
  simp only [family] at broken
  have nonNull : ¬object.isNull := by
    intro null
    unfold unicode at broken
    rw [if_pos null] at broken
    cases broken
  obtain ⟨claimed, first, given, exceeds⟩ :=
    exists_length_of_overflow covers family nonNull broken
  have declared : Reader.Declares { version, limits } .unicode (.word "length") :=
    declares_of_objectFields rfl (by decide)
  have claims := toNat_lt_of_gives declared nonNull given
  have size : UInt64.size = 2 ^ 64 := rfl
  have model : version.abi.dataModel = .lp64 := by
    cases model : version.abi.dataModel with
    | lp64 => rfl
    | llp64 =>
      simp only [Abi.unicodeUnit, model, DataModel.unicodeUnit] at exceeds
      omega
  refine ⟨family, model, ?_, ?_⟩
  · simp only [Abi.unicodeUnit, model, DataModel.unicodeUnit] at exceeds
    omega
  · intro measured
    cases width : version.abi.pointerWidth with
    | eight => rfl
    | four =>
      have small : version.abi.unicodeUnit ≤ 8 := by
        simp [Abi.unicodeUnit, model, DataModel.unicodeUnit]
      exact absurd exceeds
        (Nat.not_le.2 (bytes_lt_of_narrow declared nonNull width measured given small))

/-! ## Runs -/

/-- On every memory, whatever it answers: the units of a Unicode text and the items of a tuple are
all asked for, as many as are claimed and the limit allows, just if a word counts their bytes, as
it does below a limit of 2^61 and on a machine of four bytes; otherwise the program stops before
the read. The digits of an integer, unless they are refused for their number, are all asked for. -/
theorem arrays_whole_or_overflow (version : Version) (limits : Limits) (memory : Memory)
    (served : Nat) {object : Address} (nonNull : ¬object.isNull) :
    let reader : Reader := { version, limits }
    let abi := version.abi
    (∀ (claimed : Int) (buffer : Address) (first second : List Request),
      (reader.integer object .unicode "length").Gives memory served claimed first →
      (reader.address object .unicode "str").Gives memory (served + first.length) buffer second →
      0 < claimed → 0 < limits.maxStringLength → ¬buffer.isNull →
        let count := min claimed.toNat limits.maxStringLength
        ((reader.unicode object).run memory served).TakesArray (first ++ second) buffer count
            abi.unicodeUnit ∧
          (limits.maxStringLength < 2 ^ 61 ∨ abi.pointerWidth = .four ∧ memory.Measured →
            count * abi.unicodeUnit < UInt64.size)) ∧
      (∀ (claimed : Int) (place : Address) (first : List Request),
        (reader.integer object .tuple "ob_size").Gives memory served claimed first → 0 ≤ claimed →
        version.PlacesItems .tuple "ob_item" object place →
          let count := min claimed.toNat limits.maxTupleItems
          ((reader.tuple object).run memory served).TakesArray first place count abi.wordSize ∧
            (limits.maxTupleItems < 2 ^ 61 ∨ abi.pointerWidth = .four ∧ memory.Measured →
              count * abi.wordSize < UInt64.size)) ∧
      (version.family = .python3 → ∀ (size : Int) (place : Address) (first : List Request),
        (reader.integer object .long "ob_size").Gives memory served size first → size ≠ 0 →
        size.natAbs ≤ version.release.mostDigits →
        version.PlacesItems .long "ob_digit" object place →
          ((reader.long object).run memory served).TakesArray first place size.natAbs
              version.release.digitForm.bytes ∧
            size.natAbs * version.release.digitForm.bytes < UInt64.size) := by
  intro reader abi
  refine ⟨?_, ?_, ?_⟩
  · intro claimed buffer first second length pointer some limited mapped count
    have declared : reader.Declares .unicode (.word "length") :=
      declares_of_objectFields rfl (by decide)
    have small : abi.unicodeUnit ≤ 8 := by
      unfold Abi.unicodeUnit
      cases abi.dataModel <;> decide
    refine ⟨takesArray_unicode nonNull length pointer some limited mapped, ?_⟩
    rintro (limited | ⟨narrow, measured⟩)
    · exact bytes_lt_of_limit limited small
    · exact bytes_lt_of_narrow declared nonNull narrow measured length small
  · intro claimed place first size counted placed count
    have declared : reader.Declares .tuple (.word "ob_size") :=
      declares_of_objectFields rfl (by decide)
    have small : abi.wordSize ≤ 8 := by
      unfold Abi.wordSize
      cases abi.pointerWidth <;> decide
    refine ⟨takesArray_tuple rfl nonNull size counted placed, ?_⟩
    rintro (limited | ⟨narrow, measured⟩)
    · exact bytes_lt_of_limit limited small
    · exact bytes_lt_of_narrow declared nonNull narrow measured size small
  · intro family size place first counted nonzero few placed
    exact ⟨takesArray_long family counted nonzero few placed, digits_bytes_lt few⟩

/-- The two items of a tuple, eight bytes behind their number. -/
theorem two_items_asked_whole :
    let version : Version := ⟨⟨2, 7⟩, .python2, ⟨.four, .lp64⟩, by decide, by decide⟩
    let reader : Reader := { version, limits := {} }
    let object : Address := .ofNat 0x1000
    let bytes : Bytes := List.replicate 8 0 ++ [2, 0, 0, 0] ++ List.replicate 8 0
    let memory := Memory.ofImage (.ofRegions [⟨object, bytes⟩])
    ¬object.isNull ∧ ((reader.tuple object).run memory 0).requests =
      [⟨.ofNat 0x1008, 4⟩, ⟨.ofNat 0x100c, 8⟩] := by
  intro version reader object bytes memory
  have nonNull : ¬object.isNull := by decide
  have size : (reader.integer object .tuple "ob_size").Gives memory 0 2 [⟨.ofNat 0x1008, 4⟩] :=
    gives_ofImage_iff.2 ⟨Outcome.eq_ok_of_toOption (by decide +kernel), by decide +kernel⟩
  have placed : version.PlacesItems .tuple "ob_item" object (.ofNat 0x100c) :=
    ⟨_, _, rfl, rfl, by decide +kernel⟩
  obtain ⟨_, tuple, _⟩ := arrays_whole_or_overflow version {} memory 0 nonNull
  obtain ⟨taken, counted⟩ := tuple 2 (.ofNat 0x100c) _ size (by decide) placed
  exact ⟨nonNull, (taken.whole (counted (.inl (by decide)))).2⟩

/-- Without a limit, a text that claims 2^62 + 1 units of four bytes stops the program. -/
theorem units_overflow :
    ¬∀ (version : Version) (limits : Limits) (object : Address) (memory : Memory) (served : Nat),
      let reader : Reader := { version, limits }
      ((reader.unicode object).run memory served).outcome ≠ .overflow := by
  intro counted
  let version : Version := ⟨⟨3, 1⟩, .python3, ⟨.eight, .lp64⟩, by decide, by decide⟩
  let object : Address := .ofNat 0x1000
  let text : Bytes := List.replicate 16 0 ++ [1, 0, 0, 0, 0, 0, 0, 0x40] ++
    [0, 0x20, 0, 0, 0, 0, 0, 0] ++ List.replicate 8 0
  let units : Bytes := [97, 0, 0, 0, 98, 0, 0, 0, 99, 0, 0, 0]
  let image := MemoryImage.ofRegions [⟨object, text⟩, ⟨.ofNat 0x2000, units⟩]
  exact counted version { maxStringLength := 2 ^ 64 - 1 } object (.ofImage image) 0
    (by decide +kernel)

end Reader

end RemoteStack
