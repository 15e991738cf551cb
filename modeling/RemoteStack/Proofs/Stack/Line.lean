import RemoteStack.Proofs.Encoding.Array
import RemoteStack.Stack.Position

/-!
# Lines from line tables

Where the line of a frame follows from a line table, the table was read as a byte string, and of
byte strings no more is read than the limit says and the memory gives.

* **parts** — of a table, the front of what is available is read, up to the limit
  (`Reader.HoldsTable.part_eq`);
* **lines** — a position is said to be from a line table just if the line is that of the part that
  was read (`Resolver.position_of_lineTable`). If the table is available as a whole and within the
  limit, the part is the table;
* **long tables** — beyond the limit the line is that of the front of the table, and nothing tells
  it from a line of the whole table (`Resolver.half_table_not_whole`).
-/

namespace RemoteStack

/-! ## Tables -/

/-- An object is a byte string of as many characters as `size` says, of which those that are
available can be read: all of them, or the first ones where the memory ends before the last. -/
structure Reader.HoldsTable (reader : Reader) (image : MemoryImage) (object : Address) (size : Nat)
    (available : Bytes) : Prop where
  counted : (reader.integer object reader.version.lineTableKind "ob_size").on image = .ok size
  readable : ∃ place,
    reader.version.PlacesItems reader.version.lineTableKind "ob_sval" object place ∧
      (size = 0 ∧ available = [] ∨ image.read place size = .ok available)

namespace Reader

variable {reader : Reader} {image : MemoryImage} {object : Address} {part available : Bytes}

/-- A null object is no byte string. -/
theorem nonNull_of_byteString (found : (reader.byteString object).on image = .ok (some part)) :
    ¬object.isNull := by
  intro null
  unfold byteString sizedChars at found
  rw [if_pos null] at found
  cases found

/-- Of what is available of a byte string, the front up to the limit is read. -/
theorem HoldsTable.part_eq (known : reader.catalog = .builtin) {size : Nat}
    (holds : reader.HoldsTable image object size available)
    (read : (reader.byteString object).on image = .ok (some part)) :
    part = available.take reader.limits.maxStringLength := by
  obtain ⟨place, ⟨layout, field, hlayout, hfield, hplace⟩, readable⟩ := holds.readable
  rw [← known] at hlayout
  obtain ⟨found, hfound, htype, _⟩ := (declares_lineTable known).2.exists_field_in hlayout
  obtain rfl := Except.ok.inj (hfield.symm.trans hfound)
  obtain ⟨claimed, otherPlace, hclaimed, _, hotherPlace, hread⟩ :=
    (on_sizedChars_eq_some_iff (nonNull_of_byteString read) hlayout hfield htype).1 read
  obtain rfl := Except.ok.inj (hplace.symm.trans hotherPlace)
  obtain rfl := Outcome.ok.inj (holds.counted.symm.trans hclaimed)
  simp only [Int.toNat_natCast] at hread
  rcases readable with ⟨rfl, rfl⟩ | readable
  · simpa using hread
  · have length := MemoryImage.length_le_of_read readable
    have front : available.take (min size reader.limits.maxStringLength) =
        available.take reader.limits.maxStringLength := by
      rw [List.take_eq_take_iff]
      omega
    rw [← front]
    by_cases none : min size reader.limits.maxStringLength = 0
    · rw [if_pos none] at hread
      rw [hread, none, List.take_zero]
    · rw [if_neg none] at hread
      have taken := MemoryImage.read_take readable (Nat.min_le_left _ reader.limits.maxStringLength)
      exact Except.ok.inj (hread.symm.trans taken)

end Reader

/-! ## Lines -/

namespace Resolver

/-- How a frame has its line from a line table: no trace function is set, an instruction has run,
and the line is that of the part of the table that was read. -/
structure LineOfTable (resolver : Resolver) (image : MemoryImage) (frame : Address) (code : Code)
    (last : Int) (part : Bytes) (line : Nat) : Prop where
  untraced : (resolver.reader.address frame .frame "f_trace").on image = .ok .null
  instruction : (resolver.reader.integer frame .frame "f_lasti").on image = .ok last
  started : 0 ≤ last
  inRange : last ≤ lineMax
  read : (resolver.reader.byteString code.lineTable).on image = .ok (some part)
  line_eq : line = resolver.lineTable part (clampLine code.firstLine) last.toNat

/-- The code object and the names of a frame, from which its position is put together. -/
structure Names (resolver : Resolver) (image : MemoryImage) (frame : Address) (code : Code)
    (function file : String) : Prop where
  decoded : ∃ address, ¬address.isNull ∧
    (resolver.reader.address frame .frame "f_code").on image = .ok address ∧
    (resolver.reader.code address).on image = .ok code
  function : (resolver.nameOr code.name).on image = .ok function
  file : (resolver.nameOr code.filename).on image = .ok file

variable {resolver : Resolver} {image : MemoryImage} {frame : Address} {code : Code} {last : Int}
  {part : Bytes} {line : Nat}

/-- The table is asked when the frame is not traced and an instruction has run. -/
theorem LineOfTable.on_currentLine (h : resolver.LineOfTable image frame code last part line) :
    (resolver.currentLine frame code).on image = .ok (line, .lineTable) := by
  have started := h.started
  have inRange := h.inRange
  have asked : ¬(last < 0 || (lineMax : Int) < last) = true := by simp; omega
  unfold currentLine
  simp only [Probe.bind_eq, Probe.pure_eq]
  rw [Probe.on_bind_of_ok h.untraced, if_neg (by decide), Probe.on_bind_of_ok h.instruction,
    if_neg asked, Probe.on_bind_of_ok h.read, h.line_eq]
  rfl

/-- A line is said to be from a table only if the table was asked. -/
theorem currentLine_eq_lineTable_iff :
    (resolver.currentLine frame code).on image = .ok (line, .lineTable) ↔
      ∃ last part, resolver.LineOfTable image frame code last part line := by
  constructor
  · intro found
    unfold currentLine at found
    simp only [Probe.bind_eq, Probe.pure_eq] at found
    obtain ⟨tracer, htracer, found⟩ := Probe.on_bind_eq_ok_iff.1 found
    by_cases traced : tracer.isNull
    · obtain rfl : tracer = .null := by simpa [Address.isNull] using traced
      rw [if_neg (by decide)] at found
      obtain ⟨last, hlast, found⟩ := Probe.on_bind_eq_ok_iff.1 found
      by_cases outside : (last < 0 || (lineMax : Int) < last) = true
      · rw [if_pos outside] at found
        simp at found
      · rw [if_neg outside] at found
        obtain ⟨part, hpart, found⟩ := Probe.on_bind_eq_ok_iff.1 found
        simp at outside
        cases part with
        | none => simp at found
        | some part =>
          have line_eq : resolver.lineTable part (clampLine code.firstLine) last.toNat = line := by
            simpa using found
          exact ⟨last, part, htracer, hlast, outside.1, outside.2, hpart, line_eq.symm⟩
    · rw [if_pos (by simpa using traced)] at found
      obtain ⟨_, _, found⟩ := Probe.on_bind_eq_ok_iff.1 found
      simp at found
  · rintro ⟨last, part, h⟩
    exact h.on_currentLine

/-- A position is said to be from a line table just if the names of the frame can be read and its
line is found in the front of the table, as much of it as the memory gives and the limit on texts
allows. It is the line of the whole table if this is available and within the limit. -/
theorem position_of_lineTable (version : Version) (limits : Limits) (lineTable : LineTable)
    (image : MemoryImage) (frame : Address) (function file : String) (line : Nat) :
    let resolver : Resolver := { reader := { version, limits }, lineTable }
    ((resolver.position frame).on image = .ok ⟨function, file, line, .lineTable⟩ ↔
        ∃ code last part, resolver.Names image frame code function file ∧
          resolver.LineOfTable image frame code last part line) ∧
      ∀ code last part, resolver.LineOfTable image frame code last part line →
        (∀ size available, resolver.reader.HoldsTable image code.lineTable size available →
          part = available.take limits.maxStringLength) ∧
        ∀ table, resolver.reader.HoldsTable image code.lineTable table.length table →
          table.length ≤ limits.maxStringLength →
            line = lineTable table (clampLine code.firstLine) last.toNat := by
  intro resolver
  refine ⟨⟨?_, ?_⟩, ?_⟩
  · intro found
    unfold Resolver.position at found
    simp only [Probe.bind_eq, Probe.pure_eq] at found
    obtain ⟨address, haddress, found⟩ := Probe.on_bind_eq_ok_iff.1 found
    by_cases null : address.isNull
    · rw [if_pos null] at found
      obtain ⟨_, _, found⟩ := Probe.on_bind_eq_ok_iff.1 found
      simp at found
    · rw [if_neg null] at found
      simp only [Probe.on_bind_eq_ok_iff] at found
      obtain ⟨code, hcode, _, hfunction, _, hfile, ⟨_, _⟩, hline, _, _, found⟩ := found
      obtain ⟨rfl, rfl, rfl, rfl⟩ :
          _ = function ∧ _ = file ∧ _ = line ∧ _ = LineSource.lineTable := by
        simpa using found
      obtain ⟨last, part, h⟩ := currentLine_eq_lineTable_iff.1 hline
      exact ⟨code, last, part, ⟨⟨address, null, haddress, hcode⟩, hfunction, hfile⟩, h⟩
  · rintro ⟨code, last, part, names, h⟩
    obtain ⟨address, nonNull, haddress, hcode⟩ := names.decoded
    unfold Resolver.position
    simp only [Probe.bind_eq, Probe.pure_eq]
    rw [Probe.on_bind_of_ok haddress, if_neg nonNull, Probe.on_bind_of_ok hcode]
    rw [Probe.on_bind_of_ok names.function, Probe.on_bind_of_ok names.file,
      Probe.on_bind_of_ok h.on_currentLine]
    rfl
  · intro code last part h
    constructor
    · intro size available holds
      exact holds.part_eq rfl h.read
    · intro table holds short
      rw [h.line_eq, holds.part_eq rfl h.read]
      exact congrArg (lineTable · _ _) (List.take_of_length_le short)

/-- A frame that is at the last pair of its table, of which half is read. -/
def halfReadImage (version : Version) : MemoryImage := .ofRegions
  [⟨.ofNat 0x1000,
    version.objectBytes .frame (·.object 0 [("f_code", 0x2000), ("f_lasti", 2)])⟩,
   ⟨.ofNat 0x2000,
    version.objectBytes .code (·.object 0 [("co_firstlineno", 10), ("co_lnotab", 0x3000)])⟩,
   ⟨.ofNat 0x3000, version.objectBytes .string (·.charsObject [1, 1, 1, 1])⟩]

/-- Of two pairs the first is read. -/
theorem position_of_half_table :
    let version : Version := ⟨⟨2, 7⟩, .python2, ⟨.four, .lp64⟩, by decide, by decide⟩
    let resolver : Resolver := { reader := { version, limits := { maxStringLength := 2 } } }
    let frame : Address := .ofNat 0x1000
    (resolver.position frame).on (halfReadImage version) =
        .ok ⟨unknownName, unknownName, 11, .lineTable⟩ ∧
      ∃ code last part, resolver.Names (halfReadImage version) frame code unknownName unknownName ∧
        resolver.LineOfTable (halfReadImage version) frame code last part 11 := by
  intro version resolver frame
  have found : (resolver.position frame).on (halfReadImage version) =
      .ok ⟨unknownName, unknownName, 11, .lineTable⟩ :=
    Outcome.eq_ok_of_toOption (by decide +kernel)
  have line := position_of_lineTable version { maxStringLength := 2 } .paired
    (halfReadImage version) frame unknownName unknownName 11
  exact ⟨found, line.1.1 found⟩

/-- The second pair leads to the next line, and all of the table can be read, but the line of the
first pair is found, and is said to be from the table. -/
theorem half_table_not_whole :
    ¬∀ (version : Version) (limits : Limits) (image : MemoryImage) (frame address : Address)
      (code : Code) (last : Int) (table : Bytes) (position : Position),
      let resolver : Resolver := { reader := { version, limits } }
      (resolver.reader.address frame .frame "f_code").on image = .ok address →
      (resolver.reader.code address).on image = .ok code →
      (resolver.reader.integer frame .frame "f_lasti").on image = .ok last →
      resolver.reader.HoldsTable image code.lineTable table.length table →
      (resolver.position frame).on image = .ok position → position.lineSource = .lineTable →
        position.line = LineTable.paired table (clampLine code.firstLine) last.toNat := by
  intro whole
  let version : Version := ⟨⟨2, 7⟩, .python2, ⟨.four, .lp64⟩, by decide, by decide⟩
  let limits : Limits := { maxStringLength := 2 }
  let reader : Reader := { version, limits }
  have holds : reader.HoldsTable (halfReadImage version) (.ofNat 0x3000) 4 [1, 1, 1, 1] := by
    have read : (Probe.readUpTo (.ofNat 0x3014) 4 "").on (halfReadImage version) =
        .ok [1, 1, 1, 1] := Outcome.eq_ok_of_toOption (by decide +kernel)
    refine ⟨Outcome.eq_ok_of_toOption (by decide +kernel), .ofNat 0x3014, ?_, .inr ?_⟩
    · exact ⟨_, _, rfl, rfl, by decide +kernel⟩
    · exact Probe.on_readUpTo_eq_ok_iff.1 read
  have line := whole version limits (halfReadImage version) (.ofNat 0x1000) (.ofNat 0x2000)
    ⟨.ofNat 0x2000, 0, .null, .null, 10, .ofNat 0x3000, none⟩ 2 [1, 1, 1, 1]
    ⟨unknownName, unknownName, 11, .lineTable⟩
    (Outcome.eq_ok_of_toOption (by decide +kernel))
    (Outcome.eq_ok_of_toOption (by decide +kernel))
    (Outcome.eq_ok_of_toOption (by decide +kernel)) holds
    (Outcome.eq_ok_of_toOption (by decide +kernel)) rfl
  exact absurd line (by decide)

end Resolver

end RemoteStack
