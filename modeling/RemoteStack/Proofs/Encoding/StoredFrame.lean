import RemoteStack.Proofs.Encoding.TextObject
import RemoteStack.Stack.Walk

/-!
# Writing frames

A frame is written with its code object, the names and the line table that belong to it, each
object into a region of its own (`StoredFrame.regions`). What a walk decodes there is what was
written: the names, the line by the rule of its source (`StoredFrame.position`), and the link
to the calling frame (`StoredFrame.on_decode`).
-/

namespace RemoteStack

open LittleEndian (FitsSigned)

/-! ## Writing -/

/-- A line table with the place of its object. -/
structure StoredTable where
  bytes : Bytes
  object : Address

/-- A frame with its code object, and their places. A name or a table may be missing. -/
structure StoredFrame where
  address : Address
  code : Address
  function : Option StoredText
  file : Option StoredText
  firstLine : Int
  table : Option StoredTable
  lastInstruction : Int
  /-- The trace function, null without one. -/
  tracer : Address
  /-- The line that a trace function keeps up to date. -/
  line : Int

namespace StoredFrame

/-- Where a name is found; a name that is missing has no object. -/
def nameObject (name : Option StoredText) : Address := (name.map (·.object)).getD .null

/-- What stands for a name. -/
def nameText (name : Option StoredText) : String := (name.map (·.text)).getD unknownName

def tableObject (frame : StoredFrame) : Address := (frame.table.map (·.object)).getD .null

/-- What is written into the code object. -/
def codeValues (frame : StoredFrame) : List (String × Int) :=
  [("co_name", (nameObject frame.function).toNat), ("co_filename", (nameObject frame.file).toNat),
   ("co_firstlineno", frame.firstLine), ("co_lnotab", frame.tableObject.toNat)]

/-- What is written into the frame, with the link to its caller. -/
def frameValues (frame : StoredFrame) (back : Address) : List (String × Int) :=
  [("f_back", back.toNat), ("f_code", frame.code.toNat), ("f_trace", frame.tracer.toNat),
   ("f_lasti", frame.lastInstruction), ("f_lineno", frame.line)]

def nameRegions (version : Version) : Option StoredText → List Region
  | none => []
  | some stored => stored.regions version

def tableRegions (frame : StoredFrame) (version : Version) : List Region :=
  match frame.table with
  | none => []
  | some table =>
    [⟨table.object, version.objectBytes version.lineTableKind (·.charsObject table.bytes)⟩]

def regions (frame : StoredFrame) (version : Version) (back : Address) : List Region :=
  ⟨frame.address, version.objectBytes .frame (·.object 0 (frame.frameValues back))⟩ ::
  ⟨frame.code, version.objectBytes .code (·.object 0 frame.codeValues)⟩ ::
    (nameRegions version frame.function ++ nameRegions version frame.file ++
      frame.tableRegions version)

/-- Texts and tables are within the limits, and numbers fit the fields that they are written
to: lines and instructions a C `int`, the tracer a pointer. -/
structure Fits (frame : StoredFrame) (version : Version) (limits : Limits) : Prop where
  function : ∀ name ∈ frame.function, version.FitsSize limits (name.length version)
  file : ∀ name ∈ frame.file, version.FitsSize limits (name.length version)
  table : ∀ table ∈ frame.table, version.FitsSize limits table.bytes.length
  firstLine : FitsSigned 4 frame.firstLine
  lastInstruction : FitsSigned 4 frame.lastInstruction
  line : FitsSigned 4 frame.line
  tracer : frame.tracer.toNat < LittleEndian.span version.abi.wordSize

instance (frame : StoredFrame) (version : Version) (limits : Limits) :
    Decidable (frame.Fits version limits) :=
  decidable_of_iff
    ((∀ name ∈ frame.function, version.FitsSize limits (name.length version)) ∧
      (∀ name ∈ frame.file, version.FitsSize limits (name.length version)) ∧
      (∀ table ∈ frame.table, version.FitsSize limits table.bytes.length) ∧
      FitsSigned 4 frame.firstLine ∧ FitsSigned 4 frame.lastInstruction ∧
      FitsSigned 4 frame.line ∧ frame.tracer.toNat < LittleEndian.span version.abi.wordSize)
    ⟨fun ⟨function, file, table, firstLine, lastInstruction, line, tracer⟩ =>
        ⟨function, file, table, firstLine, lastInstruction, line, tracer⟩,
      fun ⟨function, file, table, firstLine, lastInstruction, line, tracer⟩ =>
        ⟨function, file, table, firstLine, lastInstruction, line, tracer⟩⟩

/-- The line of the frame and its source: that of the frame while it is traced, else that of
the table, and the first line without an instruction or a table. -/
def position (frame : StoredFrame) (lineTable : LineTable) : Nat × LineSource :=
  if frame.tracer.isNull then
    match frame.table with
    | some table =>
      if frame.lastInstruction < 0 then (frame.firstLine.toNat, .firstLine)
      else (lineTable table.bytes frame.firstLine.toNat frame.lastInstruction.toNat, .lineTable)
    | none => (frame.firstLine.toNat, .firstLine)
  else (frame.line.toNat, .traced)

def decoded (frame : StoredFrame) (lineTable : LineTable) (index : Nat)
    (previous : Option Address) : Frame where
  index
  address := frame.address
  function := nameText frame.function
  file := nameText frame.file
  line := (frame.position lineTable).1
  lineSource := (frame.position lineTable).2
  previous

end StoredFrame

/-! ## Reading -/

theorem Address.null_narrow (abi : Abi) : Address.null.toNat < LittleEndian.span abi.wordSize :=
  LittleEndian.span_pos _

/-- A C `int` is within the limit of lines. -/
theorem le_lineMax {number : Int} (fits : FitsSigned 4 number) : number ≤ lineMax := by
  obtain ⟨_, most⟩ := fits
  have room : (LittleEndian.span 4 : Int) = 0x100000000 := rfl
  show number ≤ 0xffffffff
  omega

theorem Resolver.clampLine_of_fits {line : Int} (fits : FitsSigned 4 line) :
    clampLine line = line.toNat := by
  have := le_lineMax fits
  unfold clampLine
  omega

namespace StoredFrame

variable {reader : Reader} {image : MemoryImage} {frame : StoredFrame} {back : Address}

theorem on_nameOr {resolver : Resolver} (known : resolver.reader.catalog = .builtin)
    {name : Option StoredText}
    (reaches : ∀ region ∈ nameRegions resolver.reader.version name,
      resolver.reader.Reaches image region)
    (fits : ∀ stored ∈ name, resolver.reader.version.FitsSize resolver.reader.limits
      (stored.length resolver.reader.version)) :
    (resolver.nameOr (nameObject name)).on image = .ok (nameText name) := by
  have text : (resolver.reader.text (nameObject name)).on image = .ok (name.map (·.text)) := by
    cases name with
    | none =>
      -- the null object is no text in either family, and is not read
      unfold Reader.text Reader.sizedChars Reader.unicode
      cases resolver.reader.version.family <;> rfl
    | some stored => exact Reader.on_text known reaches (fits stored rfl)
  unfold Resolver.nameOr
  simp only [Probe.bind_eq, Probe.pure_eq]
  rw [Probe.on_bind_of_ok text]
  rfl

theorem nameObject_narrow {name : Option StoredText}
    (reaches : ∀ region ∈ nameRegions reader.version name, reader.Reaches image region) :
    (nameObject name).toNat < LittleEndian.span reader.version.abi.wordSize := by
  cases name with
  | none => exact Address.null_narrow _
  | some stored =>
    simp only [nameRegions, StoredText.regions] at reaches
    cases family : reader.version.family with
    | python2 =>
      simp only [family] at reaches
      exact (reaches _ List.mem_cons_self).narrow
    | python3 =>
      simp only [family] at reaches
      exact (reaches _ (List.mem_cons_of_mem _ List.mem_cons_self)).narrow

theorem tableObject_narrow
    (reaches : ∀ region ∈ frame.tableRegions reader.version, reader.Reaches image region) :
    frame.tableObject.toNat < LittleEndian.span reader.version.abi.wordSize := by
  unfold tableRegions at reaches
  unfold tableObject
  cases htable : frame.table with
  | none => exact Address.null_narrow _
  | some table =>
    rw [htable] at reaches
    exact (reaches _ List.mem_cons_self).narrow

theorem on_tableObject (known : reader.catalog = .builtin)
    (reaches : ∀ region ∈ frame.tableRegions reader.version, reader.Reaches image region)
    (fits : ∀ table ∈ frame.table, reader.version.FitsSize reader.limits table.bytes.length) :
    (reader.byteString frame.tableObject).on image = .ok (frame.table.map (·.bytes)) := by
  unfold tableRegions at reaches
  unfold tableObject
  cases htable : frame.table with
  | none => rfl
  | some table =>
    rw [htable] at reaches
    exact Reader.on_byteString known (reaches _ List.mem_cons_self).holds (fits table htable)

/-- What the image holds of a frame, part by part. -/
structure Reached (frame : StoredFrame) (reader : Reader) (image : MemoryImage) (back : Address) :
    Prop where
  object : reader.Reaches image
    ⟨frame.address, reader.version.objectBytes .frame (·.object 0 (frame.frameValues back))⟩
  code : reader.Reaches image
    ⟨frame.code, reader.version.objectBytes .code (·.object 0 frame.codeValues)⟩
  function : ∀ region ∈ nameRegions reader.version frame.function, reader.Reaches image region
  file : ∀ region ∈ nameRegions reader.version frame.file, reader.Reaches image region
  table : ∀ region ∈ frame.tableRegions reader.version, reader.Reaches image region

theorem reached
    (reaches : ∀ region ∈ frame.regions reader.version back, reader.Reaches image region) :
    frame.Reached reader image back := by
  have rest := fun region mem =>
    reaches region (List.mem_cons_of_mem _ (List.mem_cons_of_mem _ mem))
  refine ⟨reaches _ List.mem_cons_self, reaches _ (List.mem_cons_of_mem _ List.mem_cons_self),
    ?_, ?_, ?_⟩
  · intro region mem
    exact rest region (List.mem_append_left _ (List.mem_append_left _ mem))
  · intro region mem
    exact rest region (List.mem_append_left _ (List.mem_append_right _ mem))
  · intro region mem
    exact rest region (List.mem_append_right _ mem)

/-- The code object that is read. -/
def decodedCode (frame : StoredFrame) (version : Version) : Code where
  address := frame.code
  argCount := 0
  name := nameObject frame.function
  filename := nameObject frame.file
  firstLine := frame.firstLine
  lineTable := frame.tableObject
  keywordOnlyArgCount :=
    match version.codeShape with
    | .classic => none
    | .keywordOnly => some 0

theorem on_code (known : reader.catalog = .builtin) (reached : frame.Reached reader image back)
    (fits : frame.Fits reader.version reader.limits) :
    (reader.code frame.code).on image = .ok (frame.decodedCode reader.version) := by
  have holds := reached.code.holds
  have zero : FitsSigned 4 0 := by decide
  have argCount : (reader.integer frame.code .code "co_argcount").on image = .ok 0 :=
    Reader.on_integer_of_object known .int (Reader.mem_of_common (by decide)) holds rfl zero
  have name : (reader.address frame.code .code "co_name").on image =
      .ok (nameObject frame.function) :=
    Reader.on_address_of_object known (Reader.mem_of_common (by decide)) holds rfl
      (nameObject_narrow reached.function)
  have filename : (reader.address frame.code .code "co_filename").on image =
      .ok (nameObject frame.file) :=
    Reader.on_address_of_object known (Reader.mem_of_common (by decide)) holds rfl
      (nameObject_narrow reached.file)
  have firstLine : (reader.integer frame.code .code "co_firstlineno").on image =
      .ok frame.firstLine :=
    Reader.on_integer_of_object known .int (Reader.mem_of_common (by decide)) holds rfl
      fits.firstLine
  have table : (reader.address frame.code .code "co_lnotab").on image = .ok frame.tableObject :=
    Reader.on_address_of_object known (Reader.mem_of_common (by decide)) holds rfl
      (tableObject_narrow reached.table)
  unfold Reader.code decodedCode
  simp only [Probe.bind_eq, Probe.pure_eq]
  rw [Probe.on_bind_of_ok argCount, Probe.on_bind_of_ok name, Probe.on_bind_of_ok filename,
    Probe.on_bind_of_ok firstLine, Probe.on_bind_of_ok table]
  unfold Version.codeShape
  cases family : reader.version.family with
  | python2 => rfl
  | python3 =>
    have keywordOnly : (reader.integer frame.code .code "co_kwonlyargcount").on image = .ok 0 :=
      Reader.on_integer_of_object known .int (Reader.mem_of_family family (by decide)) holds rfl
        zero
    simp only
    rw [Probe.on_bind_of_ok keywordOnly]
    rfl

variable {resolver : Resolver}

theorem on_currentLine (known : resolver.reader.catalog = .builtin)
    (reached : frame.Reached resolver.reader image back)
    (fits : frame.Fits resolver.reader.version resolver.reader.limits) :
    (resolver.currentLine frame.address (frame.decodedCode resolver.reader.version)).on image =
      .ok (frame.position resolver.lineTable) := by
  have holds := reached.object.holds
  have tracer : (resolver.reader.address frame.address .frame "f_trace").on image =
      .ok frame.tracer :=
    Reader.on_address_of_object known (Reader.mem_of_common (by decide)) holds rfl fits.tracer
  unfold Resolver.currentLine position
  simp only [Probe.bind_eq, Probe.pure_eq]
  rw [Probe.on_bind_of_ok tracer]
  by_cases untraced : frame.tracer.isNull
  · have last : (resolver.reader.integer frame.address .frame "f_lasti").on image =
        .ok frame.lastInstruction :=
      Reader.on_integer_of_object known .int (Reader.mem_of_common (by decide)) holds rfl
        fits.lastInstruction
    have table : (resolver.reader.byteString
        (frame.decodedCode resolver.reader.version).lineTable).on image =
          .ok (frame.table.map (·.bytes)) := on_tableObject known reached.table fits.table
    have firstLine : Resolver.clampLine (frame.decodedCode resolver.reader.version).firstLine =
        frame.firstLine.toNat := Resolver.clampLine_of_fits fits.firstLine
    rw [if_neg (by simpa using untraced), if_pos untraced, Probe.on_bind_of_ok last, firstLine]
    have small : ¬(lineMax : Int) < frame.lastInstruction :=
      Int.not_lt.2 (le_lineMax fits.lastInstruction)
    -- no instruction has run yet: the table is not asked
    by_cases early : frame.lastInstruction < 0
    · rw [if_pos (by simp [early])]
      cases frame.table <;> simp [early]
    · rw [if_neg (by simp [early, small]), Probe.on_bind_of_ok table]
      cases frame.table <;> simp [early]
  · have line : (resolver.reader.integer frame.address .frame "f_lineno").on image =
        .ok frame.line :=
      Reader.on_integer_of_object known .int (Reader.mem_of_common (by decide)) holds rfl fits.line
    rw [if_pos (by simpa using untraced), if_neg untraced, Probe.on_bind_of_ok line,
      Resolver.clampLine_of_fits fits.line]
    rfl

theorem on_position (known : resolver.reader.catalog = .builtin)
    (reached : frame.Reached resolver.reader image back)
    (fits : frame.Fits resolver.reader.version resolver.reader.limits) :
    (resolver.position frame.address).on image =
      .ok ⟨nameText frame.function, nameText frame.file, (frame.position resolver.lineTable).1,
        (frame.position resolver.lineTable).2⟩ := by
  have code : (resolver.reader.address frame.address .frame "f_code").on image = .ok frame.code :=
    Reader.on_address_of_object known (Reader.mem_of_common (by decide)) reached.object.holds rfl
      reached.code.narrow
  have decoded := on_code known reached fits
  have function : (resolver.nameOr (frame.decodedCode resolver.reader.version).name).on image =
      .ok (nameText frame.function) := on_nameOr known reached.function fits.function
  have file : (resolver.nameOr (frame.decodedCode resolver.reader.version).filename).on image =
      .ok (nameText frame.file) := on_nameOr known reached.file fits.file
  have line := on_currentLine known reached fits
  unfold Resolver.position
  simp only [Probe.bind_eq, Probe.pure_eq]
  rw [Probe.on_bind_of_ok code, if_neg reached.code.holds.nonNull, Probe.on_bind_of_ok decoded]
  rw [Probe.on_bind_of_ok function, Probe.on_bind_of_ok file, Probe.on_bind_of_ok line]
  rfl

theorem on_decode {walk : Walk} (known : walk.resolver.reader.catalog = .builtin)
    (standing : walk.next = frame.address)
    (reached : frame.Reached walk.resolver.reader image back)
    (fits : frame.Fits walk.resolver.reader.version walk.resolver.reader.limits)
    (narrow : back.toNat < LittleEndian.span walk.resolver.reader.version.abi.wordSize) :
    walk.decode.on image =
      .ok (frame.decoded walk.resolver.lineTable walk.depth back.nonNull?) := by
  have link : (walk.resolver.reader.address frame.address .frame "f_back").on image = .ok back :=
    Reader.on_address_of_object known (Reader.mem_of_common (by decide)) reached.object.holds rfl
      narrow
  unfold Walk.decode
  simp only [Probe.bind_eq, Probe.pure_eq]
  rw [standing, Probe.on_bind_of_ok link, Probe.on_bind_of_ok (on_position known reached fits)]
  rfl

end StoredFrame

end RemoteStack
