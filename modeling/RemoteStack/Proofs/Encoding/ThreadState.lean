import RemoteStack.Proofs.Encoding.Contents
import RemoteStack.Proofs.Reader.ThreadState

/-!
# Writing and reading thread states

A thread state is read as what was written into the fields of its layout, on every machine and in
every release.

* **parts** — a thread state is what its fields are read as (`Reader.on_threadState_of_reads`), with
  the flags about recursion in the releases that have them (`Reader.on_overflowFlags_of_reads`);
* **contents** — so it is the state that the contents of its fields stand for
  (`ThreadState.ofContents`), in which at most eight fields have a part (`ThreadState.fieldNames`);
* **round trip** — this holds wherever the state was written, and in whatever order, and it holds
  still when the other fields are written again (`Reader.threadState_round_trip`).
-/

namespace RemoteStack

/-! ## Parts -/

theorem Layout.hasField_of_field {layout : Layout} {name : String} {field : Field}
    (hfield : layout.field name = .ok field) : layout.hasField name = true :=
  List.any_eq_true.2 ⟨field, mem_of_field hfield, beq_iff_eq.2 (name_of_field hfield)⟩

/-- What the releases of a family make of the two flags about recursion. -/
def Family.overflow (family : Family) (overflowed critical : Int) : Option OverflowFlags :=
  match family with
  | .python2 => none
  | .python3 => some ⟨overflowed != 0, critical != 0⟩

namespace Reader

variable {reader : Reader} {image : MemoryImage} {object : Address} {layout : Layout}

/-- The flags are read where the release has them, and asked for nowhere else. -/
theorem on_overflowFlags_of_reads (covers : reader.Covers)
    (hlayout : reader.catalog.layoutFor .threadState reader.version = .ok layout)
    {overflowed critical : Int}
    (reads : reader.version.family = .python3 →
      (reader.integer object .threadState "overflowed").on image = .ok overflowed ∧
        (reader.integer object .threadState "recursion_critical").on image = .ok critical) :
    (reader.overflowFlags layout object).on image =
      .ok (reader.version.family.overflow overflowed critical) := by
  unfold overflowFlags
  cases family : reader.version.family with
  | python2 =>
    rw [Catalog.hasField_eq_false (covers.flagless family) hlayout]
    rfl
  | python3 =>
    obtain ⟨hoverflowed, hcritical⟩ := reads family
    have declared : reader.Declares .threadState (.byte "overflowed") :=
      covers.declared (mem_of_family family (by decide))
    obtain ⟨field, hfield, _⟩ := declared.exists_field_in hlayout
    rw [if_pos (Layout.hasField_of_field hfield)]
    simp only [Probe.bind_eq, Probe.pure_eq]
    rw [Probe.on_bind_of_ok hoverflowed, Probe.on_bind_of_ok hcritical]
    rfl

/-- A thread state, from what each of its fields is read as. -/
theorem on_threadState_of_reads (nonNull : ¬object.isNull)
    (hlayout : reader.catalog.layoutFor .threadState reader.version = .ok layout)
    {overflow : Option OverflowFlags} {stored depth tracing : Int}
    {next interpreter frame : Address}
    (hoverflow : (reader.overflowFlags layout object).on image = .ok overflow)
    (hstored : (reader.integer object .threadState "thread_id").on image = .ok stored)
    (hnext : (reader.address object .threadState "next").on image = .ok next)
    (hinterpreter : (reader.address object .threadState "interp").on image = .ok interpreter)
    (hframe : (reader.address object .threadState "frame").on image = .ok frame)
    (hdepth : (reader.integer object .threadState "recursion_depth").on image = .ok depth)
    (htracing : (reader.integer object .threadState "use_tracing").on image = .ok tracing) :
    (reader.threadState object).on image =
      .ok ⟨object, next, interpreter, frame, depth, threadIdOf reader.version.abi stored,
        tracing != 0, overflow⟩ := by
  rw [threadState_eq reader nonNull, Probe.on_bind_of_ok (on_layout hlayout),
    Probe.on_bind_of_ok hoverflow]
  unfold threadStateWith
  simp only [Probe.bind_eq, Probe.pure_eq]
  rw [Probe.on_bind_of_ok hstored, Probe.on_bind_of_ok hnext, Probe.on_bind_of_ok hinterpreter,
    Probe.on_bind_of_ok hframe, Probe.on_bind_of_ok hdepth, Probe.on_bind_of_ok htracing]
  rfl

end Reader

/-! ## Thread states -/

namespace ThreadState

/-- The fields that have a part in a thread state. -/
def fieldNames (family : Family) : List String :=
  ["next", "interp", "frame", "recursion_depth", "thread_id", "use_tracing"] ++
    match family with
    | .python2 => []
    | .python3 => ["overflowed", "recursion_critical"]

/-- The thread state that contents of the fields stand for. The number of the thread is that of
the bytes in its field, as an unsigned one. -/
def ofContents (version : Version) (layout : Layout) {abi : Abi} (contents : Contents abi)
    (object : Address) : ThreadState where
  address := object
  next := contents.target layout "next"
  interpreter := contents.target layout "interp"
  frame := contents.target layout "frame"
  recursionDepth := contents.number layout "recursion_depth"
  threadId := ⟨LittleEndian.unsigned
    (LittleEndian.encode version.abi.longSize (contents.number layout "thread_id"))⟩
  useTracing := contents.number layout "use_tracing" != 0
  overflow := version.family.overflow (contents.number layout "overflowed")
    (contents.number layout "recursion_critical")

/-- Contents that agree in these fields stand for one thread state. -/
theorem ofContents_congr {version : Version} {layout : Layout} {abi : Abi}
    {contents others : Contents abi}
    (same : ∀ field ∈ layout.fields, field.name ∈ fieldNames version.family →
      others field = contents field) (object : Address) :
    ofContents version layout others object = ofContents version layout contents object := by
  have number {name : String} (mem : name ∈ fieldNames version.family) :
      others.number layout name = contents.number layout name := by
    rw [Contents.number, Contents.number, Contents.named?_congr same mem]
  have target {name : String} (mem : name ∈ fieldNames version.family) :
      others.target layout name = contents.target layout name := by
    rw [Contents.target, Contents.target, Contents.named?_congr same mem]
  have common {name : String} (mem : name ∈ fieldNames .python2) :
      name ∈ fieldNames version.family := List.mem_append_left _ mem
  have overflow : version.family.overflow (others.number layout "overflowed")
      (others.number layout "recursion_critical") =
        version.family.overflow (contents.number layout "overflowed")
          (contents.number layout "recursion_critical") := by
    cases family : version.family <;> rw [family] at number
    case python2 => rfl
    case python3 =>
      rw [number (by decide : "overflowed" ∈ _), number (by decide : "recursion_critical" ∈ _)]
  unfold ofContents
  rw [target (common (by decide : "next" ∈ _)), target (common (by decide : "interp" ∈ _)),
    target (common (by decide : "frame" ∈ _)), number (common (by decide : "recursion_depth" ∈ _)),
    number (common (by decide : "thread_id" ∈ _)), number (common (by decide : "use_tracing" ∈ _)),
    overflow]

end ThreadState

namespace Reader

/-- What is kept of the number of a thread is the number of the bytes that it was written as. -/
theorem threadIdOf_eq_unsigned (abi : Abi) (id : Int) :
    threadIdOf abi id = ⟨LittleEndian.unsigned (LittleEndian.encode abi.longSize id)⟩ := by
  rw [threadIdOf, ← LittleEndian.unsigned_encode, Int.toNat_natCast]

theorem ReadsContents.on_threadState {reader : Reader} {image : MemoryImage} {object : Address}
    {layout : Layout} {contents : Contents layout.abi}
    (h : reader.ReadsContents image .threadState object contents)
    (known : reader.catalog = .builtin) :
    (reader.threadState object).on image =
      .ok (.ofContents reader.version layout contents object) := by
  have covers := covers_of_builtin known
  have integer (width : IntWidth) {name : String}
      (mem : (.threadState, ⟨name, .integer width⟩) ∈
        Catalog.captureFields reader.version.family) :
      (reader.integer object .threadState name).on image = .ok (contents.number layout name) :=
    h.on_integer (covers.declared mem)
  have address {name : String}
      (mem : (.threadState, ⟨name, .address⟩) ∈ Catalog.captureFields reader.version.family) :
      (reader.address object .threadState name).on image = .ok (contents.target layout name) :=
    h.on_address (covers.declared mem)
  have overflow := on_overflowFlags_of_reads covers h.found fun family =>
    ⟨integer .byte (mem_of_family family (by decide)),
      integer .byte (mem_of_family family (by decide))⟩
  have state := on_threadState_of_reads h.nonNull h.found overflow
    (integer .long (mem_of_common (by decide))) (address (mem_of_common (by decide)))
    (address (mem_of_common (by decide))) (address (mem_of_common (by decide)))
    (integer .int (mem_of_common (by decide))) (integer .int (mem_of_common (by decide)))
  rwa [threadIdOf_eq_unsigned] at state

/-- In every version, a thread state that is written field by field into a region of the image is
read as what was written, and later writes that leave the fields of `fieldNames` as they are do
not change what is read. -/
theorem threadState_round_trip (version : Version) (limits : Limits) :
    ∃ layout, Catalog.builtin.layoutFor .threadState version = .ok layout ∧
      ∀ (contents : Contents version.abi) (order : List Field) (image : MemoryImage)
        (object : Address) (region : Region) (served : Nat), layout.Order order →
        ¬object.isNull → image.KeepsObject layout object region →
          let read (image : MemoryImage) :=
            ((threadState ⟨version, limits, .builtin⟩ object).run (.ofImage image) served).outcome
          ∃ written, image.writeContents contents object order = .ok written ∧
            read written = .ok (.ofContents version layout contents object) ∧
            ∀ (others : Contents version.abi) (again : List Field), layout.Order again →
              (∀ field ∈ layout.fields, field.name ∈ ThreadState.fieldNames version.family →
                others field = contents field) →
              ∃ rewritten, written.writeContents others object again = .ok rewritten ∧
                read rewritten = read written := by
  let reader : Reader := ⟨version, limits, .builtin⟩
  have known : reader.catalog = .builtin := rfl
  obtain ⟨layout, _, found, _⟩ := (covers_of_builtin known).exists_field
    (mem_of_common (by decide : (.threadState, .pointer "next") ∈ _))
  -- the layout is that of an entry on the machine of the version
  obtain ⟨entry, _, _, rfl⟩ := Catalog.layoutFor_eq_ok_iff.1 found
  refine ⟨_, found, ?_⟩
  intro contents order image object region served complete nonNull kept read
  obtain ⟨written, after, hwritten, keptAfter, reads⟩ :=
    kept.write_object nonNull known found contents complete
  have state : read written = .ok (.ofContents version _ contents object) :=
    (Probe.outcome_ofImage _ _ _).trans (reads.on_threadState known)
  refine ⟨written, hwritten, state, ?_⟩
  intro others again completeAgain same
  obtain ⟨rewritten, _, hrewritten, _, readsAgain⟩ :=
    keptAfter.write_object nonNull known found others completeAgain
  have stateAgain : read rewritten = .ok (.ofContents version _ others object) :=
    (Probe.outcome_ofImage _ _ _).trans (readsAgain.on_threadState known)
  refine ⟨rewritten, hrewritten, ?_⟩
  rw [stateAgain, state, ThreadState.ofContents_congr same]

/-- With a `long` of four bytes beside pointers of eight, in the middle of a region that was full
of other bytes and has neighbours on both sides, written from the last field to the first. -/
theorem threadState_round_trip_backwards :
    let version : Version := ⟨⟨3, 1⟩, .python3, ⟨.eight, .llp64⟩, by decide, by decide⟩
    let contents : Contents version.abi := fun
      | ⟨name, _, _, .integer width⟩ =>
        .integer (if name = "thread_id" then -2 else if name = "overflowed" then 0 else 7)
          (by split_ifs <;> cases width <;> decide)
      | ⟨name, _, _, .address⟩ =>
        .address (.ofNat (if name = "next" then 0xfffffffffffffff0 else 0x2000))
          (by split_ifs <;> decide)
      | ⟨_, _, _, .chars capacity _⟩ => .chars (List.replicate capacity 0) List.length_replicate
      | ⟨_, _, _, .struct size _⟩ => .struct (List.replicate size 0) List.length_replicate
      | ⟨_, _, _, .items item⟩ =>
        .items (List.replicate (item.size version.abi) 0) List.length_replicate
    let layout : Layout := .ofDecls .threadState Family.python3.range version.abi
      (Catalog.threadHead ++ Catalog.overflowFlags ++ Catalog.threadBody)
    let order := layout.fields.reverse
    let around : Bytes := List.replicate 192 0xaa
    let image := ((MemoryImage.empty.map (.ofNat 0xffe) [1, 1]).map (.ofNat 0x10c0) [2]).map
      (.ofNat 0x1000) around
    let object : Address := .ofNat 0x1010
    Catalog.builtin.layoutFor .threadState version = .ok layout ∧ layout.Order order ∧
      image.KeepsObject layout object ⟨.ofNat 0x1000, around⟩ ∧
      ∃ written, image.writeContents contents object order = .ok written ∧
        ((threadState ⟨version, {}, .builtin⟩ object).run (.ofImage written) 0).outcome =
          .ok ⟨object, .ofNat 0xfffffffffffffff0, .ofNat 0x2000, .ofNat 0x2000, 7, ⟨0xfffffffe⟩,
            true, some ⟨false, true⟩⟩ := by
  intro version contents layout order around image object
  have hlayout : Catalog.builtin.layoutFor .threadState version = .ok layout := by rfl
  have complete : layout.Order order :=
    ⟨fun _ => List.mem_reverse.1, fun _ mem _ => List.mem_reverse.2 mem⟩
  have kept : image.KeepsObject layout object ⟨.ofNat 0x1000, around⟩ :=
    ⟨.map (by decide +kernel), by decide, by decide +kernel, by decide⟩
  obtain ⟨found, hfound, reads⟩ := threadState_round_trip version {}
  obtain rfl : found = layout := Except.ok.inj (hfound.symm.trans hlayout)
  obtain ⟨written, hwritten, state, _⟩ :=
    reads contents order image object _ 0 complete (by decide) kept
  refine ⟨hlayout, complete, kept, written, hwritten, state.trans ?_⟩
  decide

end Reader

end RemoteStack
