import RemoteStack.Proofs.Encoding.StoredFrame
import RemoteStack.Proofs.Encoding.ThreadState
import RemoteStack.Proofs.Stack.Trace
import RemoteStack.Stack.Decoder

/-!
# Capturing what was written

A thread is written as its state and a chain of frames, each object into a region of its own
(`StoredThread.regions`). Where the regions are spread over an image, a capture of the thread
gives back what was written, whatever the version and the limits are:

* **frames** — a walk decodes a chain frame by frame (`Walk.on_take`): it ends with the last
  frame, because no two frames stand at the same place and there are no more than may be
  decoded;
* **thread** — the state leads to the innermost frame (`StoredThread.on_threadState`);
* **capture** — `Decoder.capture_stored`.
-/

namespace RemoteStack

open LittleEndian (FitsSigned)

/-! ## Chains of frames -/

namespace StoredFrame

/-- Where the chain starts; a chain without frames starts at null. -/
def start (frames : List StoredFrame) : Address := (frames.head?.map (·.address)).getD .null

/-- The regions of the frames, each of which links to the next one. -/
def chainRegions (version : Version) : List StoredFrame → List Region
  | [] => []
  | frame :: rest => frame.regions version (start rest) ++ chainRegions version rest

/-- The frames as they are decoded, numbered from `index` on. -/
def decodedFrom (lineTable : LineTable) (index : Nat) : List StoredFrame → List Frame
  | [] => []
  | frame :: rest =>
    frame.decoded lineTable index (rest.head?.map (·.address)) ::
      decodedFrom lineTable (index + 1) rest

/-- The frames as they are decoded: numbered, and each with the address of the next one. -/
def decodedAll (lineTable : LineTable) (frames : List StoredFrame) : List Frame :=
  frames.mapIdx fun index frame =>
    frame.decoded lineTable index (frames[index + 1]?.map (·.address))

theorem getElem?_decodedFrom (lineTable : LineTable) (index : Nat) (frames : List StoredFrame)
    (i : Nat) : (decodedFrom lineTable index frames)[i]? = frames[i]?.map fun frame =>
      frame.decoded lineTable (index + i) (frames[i + 1]?.map (·.address)) := by
  induction frames generalizing index i with
  | nil => rfl
  | cons frame rest ih =>
    cases i with
    | zero => cases rest <;> rfl
    | succ i =>
      show (decodedFrom lineTable (index + 1) rest)[i]? = _
      rw [ih, Nat.add_right_comm, ← Nat.add_assoc]
      rfl

theorem decodedFrom_zero (lineTable : LineTable) (frames : List StoredFrame) :
    decodedFrom lineTable 0 frames = decodedAll lineTable frames := by
  apply List.ext_getElem?
  intro i
  rw [getElem?_decodedFrom, decodedAll, List.getElem?_mapIdx, Nat.zero_add]

theorem addresses_sublist (version : Version) (frames : List StoredFrame) :
    (frames.map (·.address)).Sublist ((chainRegions version frames).map (·.start)) := by
  induction frames with
  | nil => exact List.Sublist.refl _
  | cons frame rest ih =>
    rw [chainRegions, List.map_append, List.map_cons, regions, List.map_cons, List.cons_append]
    exact (ih.trans (List.sublist_append_right _ _)).cons_cons _

variable {reader : Reader} {image : MemoryImage}

theorem start_narrow {frames : List StoredFrame}
    (reaches : ∀ region ∈ chainRegions reader.version frames, reader.Reaches image region) :
    (start frames).toNat < LittleEndian.span reader.version.abi.wordSize := by
  cases frames with
  | nil => exact Address.null_narrow _
  | cons => exact (reaches _ List.mem_cons_self).narrow

/-- The start of a chain that is held is null only if there are no frames. -/
theorem nonNull?_start {frames : List StoredFrame}
    (reaches : ∀ region ∈ chainRegions reader.version frames, reader.Reaches image region) :
    (start frames).nonNull? = frames.head?.map (·.address) := by
  cases frames with
  | nil => rfl
  | cons frame rest =>
    have nonNull : ¬frame.address.isNull := (reaches _ List.mem_cons_self).holds.nonNull
    exact if_neg nonNull

end StoredFrame

namespace Walk

open StoredFrame

variable {image : MemoryImage} {walk : Walk}

/-- The walk stands at the start of the frames, and may decode all of them. -/
structure ReadyFor (walk : Walk) (frames : List StoredFrame) : Prop where
  live : ¬walk.isFinished
  standing : walk.next = start frames
  room : walk.depth + frames.length ≤ walk.maxDepth
  distinct : (frames.map (·.address)).Nodup
  unvisited : ∀ frame ∈ frames, frame.address ∉ walk.visited

namespace ReadyFor

variable {frame : StoredFrame} {rest : List StoredFrame}

theorem mayDecode (ready : walk.ReadyFor (frame :: rest)) (nonNull : ¬frame.address.isNull) :
    walk.MayDecode where
  notEnded := by
    rintro (finished | null)
    · exact ready.live finished
    · rw [ready.standing] at null
      exact nonNull null
  depth_lt := by
    have := ready.room
    rw [List.length_cons] at this
    omega
  notVisited := by
    rw [ready.standing]
    exact ready.unvisited frame List.mem_cons_self

/-- After the first frame the walk is ready for the others. -/
theorem advance (ready : walk.ReadyFor (frame :: rest)) {decoded : Frame}
    (link : decoded.previous = rest.head?.map (·.address)) :
    (walk.advance decoded).ReadyFor rest where
  live := ready.live
  standing := by
    show decoded.previous.getD .null = start rest
    rw [link]
    rfl
  room := by
    have := ready.room
    rw [List.length_cons] at this
    rw [depth_advance]
    show walk.depth + 1 + rest.length ≤ walk.maxDepth
    omega
  distinct := (List.nodup_cons.1 ready.distinct).2
  unvisited other mem := by
    rintro visited
    rcases List.mem_cons.1 visited with same | earlier
    · rw [ready.standing] at same
      refine (List.nodup_cons.1 ready.distinct).1 (List.mem_map.2 ⟨other, mem, ?_⟩)
      exact same
    · exact ready.unvisited other (List.mem_cons_of_mem _ mem) earlier

end ReadyFor

/-- A walk that is ready for a written chain decodes all of it, and ends well. -/
theorem on_take {frames : List StoredFrame} (ready : walk.ReadyFor frames)
    (known : walk.resolver.reader.catalog = .builtin)
    (reaches : ∀ region ∈ chainRegions walk.resolver.reader.version frames,
      walk.resolver.reader.Reaches image region)
    (fits : ∀ frame ∈ frames, frame.Fits walk.resolver.reader.version walk.resolver.reader.limits)
    {count : Nat} (enough : frames.length < count) :
    (walk.take count).on image =
      .ok ⟨decodedFrom walk.resolver.lineTable walk.depth frames, none⟩ := by
  induction frames generalizing walk count with
  | nil =>
    obtain ⟨count, rfl⟩ := Nat.exists_eq_add_one_of_ne_zero (Nat.ne_of_gt enough)
    have ended : walk.HasEnded := by
      right
      rw [ready.standing]
      rfl
    rw [take_succ, pull_of_hasEnded ended]
    rfl
  | cons frame rest ih =>
    obtain ⟨count, rfl⟩ :=
      Nat.exists_eq_add_one_of_ne_zero (Nat.ne_of_gt (Nat.zero_lt_of_lt enough))
    have reached := frame.reached fun region mem =>
      reaches region (List.mem_append_left _ mem)
    have reachesRest := fun region mem => reaches region (List.mem_append_right _ mem)
    have may := ready.mayDecode reached.object.holds.nonNull
    have decoded := frame.on_decode known ready.standing reached (fits frame List.mem_cons_self)
      (start_narrow reachesRest)
    rw [nonNull?_start reachesRest] at decoded
    -- the decoded frame visits its address, and no later frame stands there
    have readyNext : (walk.advance (frame.decoded walk.resolver.lineTable walk.depth
        (rest.head?.map (·.address)))).ReadyFor rest := ready.advance rfl
    have others := ih readyNext known reachesRest
      (fun other mem => fits other (List.mem_cons_of_mem _ mem)) (Nat.lt_of_succ_lt_succ enough)
    rw [take_succ, pull_of_mayDecode may, Probe.bind_assoc,
      Probe.on_bind_of_ok (Probe.on_attempt_of_ok decoded)]
    simp only [Probe.done_bind]
    rw [Probe.on_bind_of_ok others]
    rfl

end Walk

/-! ## Threads -/

/-- A thread with the frames that it is running, innermost first. -/
structure StoredThread where
  state : Address
  /-- The state of the next thread. -/
  next : Address
  id : Int
  frames : List StoredFrame

namespace StoredThread

/-- What is written into the state. -/
def stateValues (thread : StoredThread) : List (String × Int) :=
  [("frame", (StoredFrame.start thread.frames).toNat), ("next", thread.next.toNat),
   ("thread_id", thread.id)]

def regions (thread : StoredThread) (version : Version) : List Region :=
  ⟨thread.state, version.objectBytes .threadState (·.object 0 thread.stateValues)⟩ ::
    StoredFrame.chainRegions version thread.frames

/-- The frames fit, there are no more than may be decoded, and the link fits a pointer. -/
structure Fits (thread : StoredThread) (version : Version) (limits : Limits) : Prop where
  frames : ∀ frame ∈ thread.frames, frame.Fits version limits
  depth : thread.frames.length ≤ limits.maxDepth
  next : thread.next.toNat < LittleEndian.span version.abi.wordSize

instance (thread : StoredThread) (version : Version) (limits : Limits) :
    Decidable (thread.Fits version limits) :=
  decidable_of_iff
    ((∀ frame ∈ thread.frames, frame.Fits version limits) ∧
      thread.frames.length ≤ limits.maxDepth ∧
      thread.next.toNat < LittleEndian.span version.abi.wordSize)
    ⟨fun h => ⟨h.1, h.2.1, h.2.2⟩, fun h => ⟨h.frames, h.depth, h.next⟩⟩

def captured (thread : StoredThread) (version : Version) (lineTable : LineTable) :
    ThreadSnapshot where
  frames := StoredFrame.decodedAll lineTable thread.frames
  error := none
  thread := Reader.threadIdOf version.abi thread.id
  threadState := thread.state

variable {thread : StoredThread} {reader : Reader} {image : MemoryImage}

theorem threadIdOf_bmod (abi : Abi) (id : Int) :
    Reader.threadIdOf abi (id.bmod (LittleEndian.span abi.longSize)) =
      Reader.threadIdOf abi id := by
  rw [Reader.threadIdOf, Reader.threadIdOf, Int.bmod_emod]

theorem on_threadState (known : reader.catalog = .builtin)
    (reaches : ∀ region ∈ thread.regions reader.version, reader.Reaches image region)
    (next : thread.next.toNat < LittleEndian.span reader.version.abi.wordSize) :
    ∃ state, (reader.threadState thread.state).on image = .ok state ∧
      state.address = thread.state ∧ state.frame = StoredFrame.start thread.frames ∧
      state.threadId = Reader.threadIdOf reader.version.abi thread.id := by
  have holds := (reaches _ List.mem_cons_self).holds
  have frameNarrow := StoredFrame.start_narrow fun region mem =>
    reaches region (List.mem_cons_of_mem _ mem)
  have zero : LittleEndian.FitsSigned 4 0 := by decide
  have zeroFlag : LittleEndian.FitsSigned 1 0 := by decide
  obtain ⟨layout, hlayout, _⟩ := Reader.exists_layout_of_object known
    (Reader.mem_of_common (by decide : (.threadState, .pointer "next") ∈ _)) holds
  -- the flags about recursion are written as zeros, where the version has them
  have flags := Reader.on_overflowFlags_of_reads (Reader.covers_of_builtin known) hlayout
    fun family =>
      ⟨Reader.on_integer_of_object known .byte (Reader.mem_of_family family (by decide)) holds rfl
          zeroFlag,
        Reader.on_integer_of_object known .byte (Reader.mem_of_family family (by decide)) holds rfl
          zeroFlag⟩
  have id : (reader.integer thread.state .threadState "thread_id").on image =
      .ok (thread.id.bmod (LittleEndian.span reader.version.abi.longSize)) :=
    Reader.on_integer_bmod_of_object known .long (Reader.mem_of_common (by decide)) holds rfl
  have link : (reader.address thread.state .threadState "next").on image = .ok thread.next :=
    Reader.on_address_of_object known (Reader.mem_of_common (by decide)) holds rfl next
  have interpreter : (reader.address thread.state .threadState "interp").on image = .ok .null :=
    Reader.on_address_of_object known (Reader.mem_of_common (by decide)) holds rfl
      (Address.null_narrow _)
  have frame : (reader.address thread.state .threadState "frame").on image =
      .ok (StoredFrame.start thread.frames) :=
    Reader.on_address_of_object known (Reader.mem_of_common (by decide)) holds rfl frameNarrow
  have depth : (reader.integer thread.state .threadState "recursion_depth").on image = .ok 0 :=
    Reader.on_integer_of_object known .int (Reader.mem_of_common (by decide)) holds rfl zero
  have tracing : (reader.integer thread.state .threadState "use_tracing").on image = .ok 0 :=
    Reader.on_integer_of_object known .int (Reader.mem_of_common (by decide)) holds rfl zero
  exact ⟨_, Reader.on_threadState_of_reads holds.nonNull hlayout flags id link interpreter frame
    depth tracing, rfl, rfl, threadIdOf_bmod reader.version.abi thread.id⟩

end StoredThread

/-! ## Captures -/

namespace Decoder

/-- A capture of a thread that was written, wherever its objects were placed, is the thread. -/
theorem capture_stored (decoder : Decoder) (thread : StoredThread)
    (fits : thread.Fits decoder.version decoder.limits)
    (spread : MemoryImage.Spread (thread.regions decoder.version))
    (narrow : ∀ region ∈ thread.regions decoder.version,
      region.start.toNat < LittleEndian.span decoder.version.abi.wordSize)
    (served : Nat) :
    ((decoder.capture thread.state).run
      (.ofImage (.ofRegions (thread.regions decoder.version))) served).outcome =
        .ok (thread.captured decoder.version decoder.lineTable) := by
  have reaches : ∀ region ∈ thread.regions decoder.reader.version,
      decoder.reader.Reaches (.ofRegions (thread.regions decoder.version)) region :=
    fun region mem => ⟨spread.holds mem, narrow region mem⟩
  obtain ⟨state, hstate, address, frame, id⟩ :=
    StoredThread.on_threadState rfl reaches fits.next
  -- regions that share no byte start at different places, so the frames do as well
  have starts := spread.nodup_starts
  rw [StoredThread.regions, List.map_cons] at starts
  have ready : (decoder.walk state.frame).ReadyFor thread.frames := by
    refine ⟨Bool.false_ne_true, frame, ?_, ?_, fun _ _ => List.not_mem_nil⟩
    · show 0 + thread.frames.length ≤ decoder.limits.maxDepth
      rw [Nat.zero_add]
      exact fits.depth
    · exact (StoredFrame.addresses_sublist decoder.version thread.frames).nodup
        (List.nodup_cons.1 starts).2
  have stack : (decoder.walk state.frame).stack.on
      (.ofRegions (thread.regions decoder.version)) =
        .ok ⟨StoredFrame.decodedAll decoder.lineTable thread.frames, none⟩ := by
    rw [← StoredFrame.decodedFrom_zero]
    exact Walk.on_take ready rfl (fun region mem => reaches region (List.mem_cons_of_mem _ mem))
      fits.frames (Nat.lt_succ_of_le fits.depth)
  rw [Probe.outcome_ofImage]
  unfold capture snapshot
  simp only [Probe.bind_eq, Probe.pure_eq]
  rw [Probe.on_bind_of_ok hstate, Probe.on_bind_of_ok stack, address, id]
  rfl

/-- A call from a traced frame without a file name, on a narrow machine with units of two
bytes: the name of the caller has a character of two units. -/
theorem capture_stored_call :
    let decoder : Decoder :=
      { version := ⟨⟨3, 1⟩, .python3, ⟨.four, .llp64⟩, by decide, by decide⟩ }
    let inner : StoredFrame :=
      ⟨.ofNat 0x1000, .ofNat 0x2000, some ⟨"f", .ofNat 0x3000, .ofNat 0x3100⟩,
        some ⟨"", .ofNat 0x3200, .ofNat 0x3300⟩, 10, some ⟨[4, 1, 6, 2], .ofNat 0x4000⟩, 5,
        .null, 0⟩
    let outer : StoredFrame :=
      ⟨.ofNat 0x5000, .ofNat 0x6000, some ⟨"é😀", .ofNat 0x7000, .ofNat 0x7100⟩, none, 20, none,
        -1, .ofNat 0xffffffff, 77⟩
    let thread : StoredThread := ⟨.ofNat 0x8000, .null, -2, [inner, outer]⟩
    let regions := thread.regions decoder.version
    thread.Fits decoder.version decoder.limits ∧ MemoryImage.Spread regions ∧
      (∀ region ∈ regions, region.start.toNat < LittleEndian.span decoder.version.abi.wordSize) ∧
      ((decoder.capture thread.state).run (.ofImage (.ofRegions regions)) 0).outcome =
        .ok {
          frames := [
            ⟨0, .ofNat 0x1000, "f", "", 11, .lineTable, some (.ofNat 0x5000)⟩,
            ⟨1, .ofNat 0x5000, "é😀", "<unknown>", 77, .traced, none⟩]
          error := none
          thread := ⟨0xfffffffe⟩
          threadState := .ofNat 0x8000 } := by
  intro decoder inner outer thread regions
  have fits : thread.Fits decoder.version decoder.limits := by
    decide +kernel
  have spread : MemoryImage.Spread regions := by
    decide +kernel
  have narrow : ∀ region ∈ regions,
      region.start.toNat < LittleEndian.span decoder.version.abi.wordSize := by
    decide +kernel
  refine ⟨fits, spread, narrow, ?_⟩
  rw [capture_stored decoder thread fits spread narrow 0]
  refine congrArg Outcome.ok ?_
  decide +kernel

end Decoder

end RemoteStack
