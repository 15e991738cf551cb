import RemoteStack.Proofs.Stack.LineRule

/-!
# Lines do not depend on names

Two images may differ in the names of the code object that a frame runs: in the pointers to them,
in the texts, and in whether there are any. As long as the names can be read, the frame has the
same line in both, from the same source (`Reader.AgreeButNames.position`), because no field of
the rule of lines is a name (`Resolver.LineRule`).
-/

namespace RemoteStack

open Probe

/-! ## Fields that agree -/

namespace Reader

variable {reader : Reader} {image other : MemoryImage} {served : Nat} {object : Address}
  {kind : ObjectKind} {name : String} {made : List Request}

/-- Both images answer alike the read of the field. -/
def AgreeOn (reader : Reader) (image other : MemoryImage) (object : Address) (kind : ObjectKind)
    (decl : FieldDecl) : Prop :=
  ∀ request, reader.AsksFor object kind decl request →
    other.read request.address request.length = image.read request.address request.length

theorem AgreeOn.integer {width : IntWidth} {value : Int}
    (agree : reader.AgreeOn image other object kind ⟨name, .integer width⟩)
    (declared : reader.Declares kind ⟨name, .integer width⟩) (nonNull : ¬object.isNull)
    (given : (reader.integer object kind name).Gives (.ofImage image) served value made)
    (later : Nat) : (reader.integer object kind name).Gives (.ofImage other) later value made := by
  apply given.of_alike later
  obtain ⟨request, asks, rfl⟩ := declared.asks_of_integer nonNull given
  exact List.forall_mem_singleton.2 (agree request asks)

theorem AgreeOn.address {value : Address}
    (agree : reader.AgreeOn image other object kind ⟨name, .address⟩)
    (declared : reader.Declares kind ⟨name, .address⟩) (nonNull : ¬object.isNull)
    (given : (reader.address object kind name).Gives (.ofImage image) served value made)
    (later : Nat) : (reader.address object kind name).Gives (.ofImage other) later value made := by
  apply given.of_alike later
  obtain ⟨request, asks, rfl⟩ := declared.asks_of_address nonNull given
  exact List.forall_mem_singleton.2 (agree request asks)

/-- A pointer is null or leads to a text that can be decoded. -/
def NullOrText (reader : Reader) (image : MemoryImage) (object : Address) : Prop :=
  object.isNull ∨ ∃ text, (reader.text object).on image = .ok (some text)

/-- The fields of a code object apart from its names. -/
def namelessFields (reader : Reader) : List FieldDecl :=
  [.int "co_argcount", .int "co_firstlineno", .pointer "co_lnotab"] ++
    match reader.version.codeShape with
    | .classic => []
    | .keywordOnly => [.int "co_kwonlyargcount"]

/-- The fields of a frame by which its line is found. -/
def lineFields : List FieldDecl :=
  [.pointer "f_code", .pointer "f_trace", .int "f_lasti", .int "f_lineno"]

theorem common_of_lineFields :
    ∀ decl ∈ lineFields, (ObjectKind.frame, decl) ∈ Catalog.commonFields := by
  decide

/-- The frame runs the code object at the address. -/
structure Runs (reader : Reader) (image : MemoryImage) (frame address : Address) : Prop where
  nonNull : ¬address.isNull
  code : (reader.address frame .frame "f_code").on image = .ok address

/-- Two images agree about a frame, its code object and the line table of that, but for the names,
which in the other image too are null or can be decoded. -/
structure AgreeButNames (reader : Reader) (image other : MemoryImage) (frame : Address) : Prop where
  ofFrame : ∀ decl ∈ lineFields, reader.AgreeOn image other frame .frame decl
  ofCode : ∀ address, reader.Runs image frame address → ∀ decl ∈ reader.namelessFields,
    reader.AgreeOn image other address .code decl
  ofTable : ∀ address table, reader.Runs image frame address →
    (reader.address address .code "co_lnotab").on image = .ok table →
    ∀ request ∈ (reader.byteString table).readsOn image,
      other.read request.address request.length = image.read request.address request.length
  names : ∀ address, reader.Runs image frame address → ∀ field ∈ ["co_name", "co_filename"],
    ∃ object, (reader.address address .code field).on other = .ok object ∧
      reader.NullOrText other object

/-- Whether there is a name or not, it is found by the rule of names. -/
theorem NullOrText.nameRule {resolver : Resolver} (h : resolver.reader.NullOrText other object) :
    ∃ text reads, ∀ later, resolver.NameRule (.ofImage other) later object text reads := by
  by_cases null : object.isNull
  · exact ⟨_, _, fun _ => .unknown null⟩
  · obtain ⟨text, htext⟩ := h.resolve_left null
    exact ⟨text, _, fun _ => .decoded null (gives_ofImage_iff.2 ⟨htext, rfl⟩)⟩

/-- The line table of the code object is where its field leads. -/
theorem CodeRule.on_lineTable {address : Address} {code : Code}
    (rule : reader.CodeRule (.ofImage image) served address code made) :
    (reader.address address .code "co_lnotab").on image = .ok code.lineTable := by
  cases rule with
  | fields _ _ _ _ hlineTable _ => exact (gives_ofImage_iff.1 hlineTable).1

/-! ## Positions that agree -/

namespace AgreeButNames

variable {resolver : Resolver} {frame address : Address} {code : Code} {line : Nat}
  {source : LineSource}

theorem keywordOnlyRule {count : Option Int} (h : reader.AgreeButNames image other frame)
    (covers : reader.Covers) (runs : reader.Runs image frame address)
    (rule : reader.KeywordOnlyRule (.ofImage image) served address count made) (later : Nat) :
    reader.KeywordOnlyRule (.ofImage other) later address count made := by
  cases rule with
  | classic shape => exact .classic shape
  | keywordOnly shape given =>
    have agree := h.ofCode address runs (.int "co_kwonlyargcount") (by simp [namelessFields, shape])
    exact .keywordOnly shape
      (agree.integer (declares_keywordOnly covers shape) runs.nonNull given later)

/-- A name of the code object in the other image is one read. -/
theorem nameField (h : reader.AgreeButNames image other frame) (field : String)
    (covers : reader.Covers) (runs : reader.Runs image frame address)
    (mem : field ∈ ["co_name", "co_filename"])
    (later : Nat) : ∃ object request,
      (reader.address address .code field).Gives (.ofImage other) later object [request] ∧
        reader.NullOrText other object := by
  obtain ⟨object, found, names⟩ := h.names address runs field mem
  have common : ∀ field ∈ ["co_name", "co_filename"],
      (ObjectKind.code, FieldDecl.pointer field) ∈ Catalog.commonFields := by decide
  have declared : reader.Declares .code (.pointer field) :=
    covers.declared (mem_of_common (common field mem))
  have given : (reader.address address .code field).Gives (.ofImage other) later object _ :=
    gives_ofImage_iff.2 ⟨found, rfl⟩
  obtain ⟨request, _, hrequest⟩ := declared.asks_of_address runs.nonNull given
  exact ⟨object, request, hrequest ▸ given, names⟩

/-- The code object differs in its names alone. -/
theorem codeRule (h : reader.AgreeButNames image other frame) (covers : reader.Covers)
    (runs : reader.Runs image frame address)
    (rule : reader.CodeRule (.ofImage image) served address code made) (later : Nat) :
    ∃ name filename reads,
      reader.CodeRule (.ofImage other) later address { code with name, filename } reads ∧
        reader.NullOrText other name ∧ reader.NullOrText other filename := by
  have declared {decl : FieldDecl} (mem : (ObjectKind.code, decl) ∈ Catalog.commonFields) :
      reader.Declares .code decl := covers.declared (mem_of_common mem)
  have agree (decl : FieldDecl) (mem : decl ∈ reader.namelessFields) :
      reader.AgreeOn image other address .code decl := h.ofCode address runs decl mem
  cases rule with
  | fields hargCount _ _ hfirstLine hlineTable hkeywordOnly =>
    obtain ⟨name, _, hname, hnames⟩ := h.nameField "co_name" covers runs (by decide) (later + 1)
    obtain ⟨filename, _, hfilename, hfilenames⟩ :=
      h.nameField "co_filename" covers runs (by decide) (later + 2)
    have argCount := (agree (.int "co_argcount") (by simp [namelessFields])).integer
      (declared (by decide)) runs.nonNull hargCount later
    have firstLine := (agree (.int "co_firstlineno") (by simp [namelessFields])).integer
      (declared (by decide)) runs.nonNull hfirstLine (later + 3)
    have lineTable := (agree (.pointer "co_lnotab") (by simp [namelessFields])).address
      (declared (by decide)) runs.nonNull hlineTable (later + 4)
    have keywordOnly := h.keywordOnlyRule covers runs hkeywordOnly (later + 5)
    exact ⟨name, filename, _,
      .fields argCount hname hfilename firstLine lineTable keywordOnly, hnames, hfilenames⟩

theorem frameInteger {value : Int}
    (h : reader.AgreeButNames image other frame) (covers : reader.Covers) (nonNull : ¬frame.isNull)
    (mem : .int name ∈ lineFields)
    (given : (reader.integer frame .frame name).Gives (.ofImage image) served value made)
    (later : Nat) : (reader.integer frame .frame name).Gives (.ofImage other) later value made :=
  (h.ofFrame _ mem).integer (covers.declared (mem_of_common (common_of_lineFields _ mem))) nonNull
    given later

theorem frameAddress {value : Address}
    (h : reader.AgreeButNames image other frame) (covers : reader.Covers) (nonNull : ¬frame.isNull)
    (mem : .pointer name ∈ lineFields)
    (given : (reader.address frame .frame name).Gives (.ofImage image) served value made)
    (later : Nat) : (reader.address frame .frame name).Gives (.ofImage other) later value made :=
  (h.ofFrame _ mem).address (covers.declared (mem_of_common (common_of_lineFields _ mem))) nonNull
    given later

theorem untraced {last : Int} {first second : Request}
    (h : resolver.reader.AgreeButNames image other frame) (covers : resolver.reader.Covers)
    (nonNull : ¬frame.isNull)
    (untraced : resolver.Untraced (.ofImage image) served frame last first second) (later : Nat) :
    resolver.Untraced (.ofImage other) later frame last first second := by
  obtain ⟨tracer, null, htracer⟩ := untraced.tracer
  exact ⟨⟨tracer, null, h.frameAddress covers nonNull (by decide) htracer later⟩,
    h.frameInteger covers nonNull (by decide) untraced.last (later + 1)⟩

/-- The line is found by the same reads. -/
theorem lineRule (h : resolver.reader.AgreeButNames image other frame)
    (covers : resolver.reader.Covers) (nonNull : ¬frame.isNull)
    (htable : ∀ request ∈ (resolver.reader.byteString code.lineTable).readsOn image,
      other.read request.address request.length = image.read request.address request.length)
    (rule : resolver.LineRule (.ofImage image) served frame code line source made)
    (later : Nat) (name filename : Address) :
    resolver.LineRule (.ofImage other) later frame { code with name, filename } line source
      made := by
  cases rule with
  | traced htracer set hline =>
    have tracer := h.frameAddress covers nonNull (by decide) htracer later
    exact .traced tracer set (h.frameInteger covers nonNull (by decide) hline (later + 1))
  | notStarted untraced negative =>
    exact .notStarted (h.untraced covers nonNull untraced later) negative
  | noTable untraced started null =>
    exact .noTable (h.untraced covers nonNull untraced later) started null
  | table untraced started some hbytes =>
    obtain ⟨_, reads⟩ := gives_ofImage_iff.1 hbytes
    have bytes := hbytes.of_alike (later + 2) (reads ▸ htable)
    exact .table (h.untraced covers nonNull untraced later) started some bytes

/-- The frame has the same line, from the same source, whatever its names are. -/
theorem position (h : resolver.reader.AgreeButNames image other frame)
    (covers : resolver.reader.Covers) (nonNull : ¬frame.isNull) {first : Position}
    (found : (resolver.position frame).on image = .ok first) :
    ∃ second, (resolver.position frame).on other = .ok second ∧ second.line = first.line ∧
      second.lineSource = first.lineSource := by
  have measured := Memory.measured_ofImage
  have rule := (Resolver.gives_position_iff covers nonNull (measured image)).1
    (gives_ofImage_iff.2 ⟨found, rfl⟩ : (resolver.position frame).Gives _ 0 first _)
  have on_of_rule {second : Position} {reads : List Request}
      (rule : resolver.PositionRule (.ofImage other) 0 frame second reads) :
      (resolver.position frame).on other = .ok second :=
    (gives_ofImage_iff.1 ((Resolver.gives_position_iff covers nonNull (measured other)).2 rule)).1
  generalize (resolver.position frame).readsOn image = reads at rule
  cases rule with
  | noCode haddress null hline =>
    have address := h.frameAddress covers nonNull (by decide) haddress 0
    have line := h.frameInteger covers nonNull (by decide) hline 1
    exact ⟨_, on_of_rule (.noCode address null line), rfl, rfl⟩
  | code haddress some hcode hfunction hfile hline =>
    have runs : resolver.reader.Runs image frame _ := ⟨some, (gives_ofImage_iff.1 haddress).1⟩
    have address := h.frameAddress covers nonNull (by decide) haddress 0
    obtain ⟨name, filename, _, code, names, filenames⟩ := h.codeRule covers runs hcode 1
    obtain ⟨function, _, function⟩ := names.nameRule
    obtain ⟨file, _, file⟩ := filenames.nameRule
    have line (later : Nat) := h.lineRule covers nonNull (h.ofTable _ _ runs hcode.on_lineTable)
      hline later name filename
    exact ⟨_, on_of_rule (.code address some code (function _) (file _) (line _)), rfl, rfl⟩

end AgreeButNames

end Reader

namespace Resolver

end Resolver

end RemoteStack
