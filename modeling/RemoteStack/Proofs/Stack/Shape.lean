import Mathlib.Data.Fintype.Pigeonhole
import RemoteStack.Proofs.Probe.Still
import RemoteStack.Proofs.Stack.Sound

/-!
# Walks along chains of every shape

On an image the links fix one chain from each start (`Resolver.chain`). Where all its frames
can be decoded, the shape of the chain decides how far a walk goes and how it ends:

* **shape** — a chain ends after some frames (`Resolver.EndsAfter`), or comes back to one of
  them (`Resolver.EntersCycle`), and there is no third way, because there are only finitely
  many addresses (`Resolver.endsAfter_or_entersCycle`);
* **frames** — the walk yields the first frames of the chain (`Resolver.FramesFrom`,
  `Walk.Trace.along`), and it stops at the end, at the limit, or at a frame that it has yielded
  (`Resolver.StopsAfter`);
* **exactness** — put together, the length of the stack and its failure are those that the
  shape and the limit give (`Stack.ExactFor`, `Decoder.walk_exact`).
-/

namespace RemoteStack

namespace Address

instance : Finite Address := by
  apply Finite.of_injective fun address : Address => Fin.mk address.toNat address.toNat_lt
  intro a b same
  exact ext_toNat (Fin.mk.inj same)

theorem nonNull?_eq_none_iff {address : Address} :
    address.nonNull? = none ↔ address.isNull := by
  simp [nonNull?]

theorem nonNull?_eq_some_iff {address other : Address} :
    address.nonNull? = some other ↔ ¬address.isNull ∧ address = other := by
  simp [nonNull?]

end Address

/-! ## Chains on an image -/

namespace Resolver

/-- Where the link of the frame at an address leads. A link that cannot be read leads
nowhere. -/
def caller (resolver : Resolver) (image : MemoryImage) (frame : Address) : Address :=
  match (resolver.reader.address frame .frame "f_back").on image with
  | .ok link => link
  | .error _ | .overflow => .null

/-- The address that a number of links lead to from `start`. -/
def chain (resolver : Resolver) (image : MemoryImage) (start : Address) : Nat → Address
  | 0 => start
  | number + 1 => resolver.caller image (resolver.chain image start number)

/-- The link and the position of every frame that the links lead to can be read. -/
def Decodes (resolver : Resolver) (image : MemoryImage) (start : Address) : Prop :=
  ∀ number, ¬(resolver.chain image start number).isNull →
    (∃ link, (resolver.reader.address (resolver.chain image start number) .frame "f_back").on
      image = .ok link) ∧
    ∃ position, (resolver.position (resolver.chain image start number)).on image = .ok position

/-- The chain is null after `count` frames, and not before. -/
structure EndsAfter (resolver : Resolver) (image : MemoryImage) (start : Address)
    (count : Nat) : Prop where
  isNull : (resolver.chain image start count).isNull
  nonNull : ∀ number < count, ¬(resolver.chain image start number).isNull

/-- The chain is a tail of frames, and then a cycle of `period` frames for ever. -/
structure EntersCycle (resolver : Resolver) (image : MemoryImage) (start : Address)
    (tail period : Nat) : Prop where
  period_pos : 0 < period
  comesBack : resolver.chain image start (tail + period) = resolver.chain image start tail
  nonNull : ∀ number < tail + period, ¬(resolver.chain image start number).isNull
  distinct : ∀ number < tail + period, ∀ earlier < number,
    resolver.chain image start earlier ≠ resolver.chain image start number

variable {resolver : Resolver} {image : MemoryImage} {start : Address}

/-- From equal frames the chain goes on in the same way. -/
theorem chain_add_congr {first second : Nat}
    (same : resolver.chain image start first = resolver.chain image start second) (count : Nat) :
    resolver.chain image start (first + count) = resolver.chain image start (second + count) := by
  induction count with
  | zero => exact same
  | succ count ih => exact congrArg (resolver.caller image) ih

/-- A chain that ends does not come back to a frame: it would come back for ever. -/
theorem EndsAfter.distinct {count : Nat} (ends : resolver.EndsAfter image start count)
    {number earlier : Nat} (before : number < count) (lt : earlier < number) :
    resolver.chain image start earlier ≠ resolver.chain image start number := by
  intro same
  have again := chain_add_congr same (count - number)
  rw [Nat.add_sub_cancel' (Nat.le_of_lt before)] at again
  refine ends.nonNull (earlier + (count - number)) (by omega) ?_
  rw [again]
  exact ends.isNull

theorem exists_endsAfter (ended : ∃ number, (resolver.chain image start number).isNull) :
    ∃ count, resolver.EndsAfter image start count :=
  ⟨Nat.find ended, Nat.find_spec ended, fun _ before => Nat.find_min ended before⟩

/-- A chain that never ends enters a cycle with the first frame that it comes back to. -/
theorem exists_entersCycle (nonNull : ∀ number, ¬(resolver.chain image start number).isNull)
    (again : ∃ number, ∃ earlier < number,
      resolver.chain image start earlier = resolver.chain image start number) :
    ∃ tail period, resolver.EntersCycle image start tail period := by
  obtain ⟨tail, before, same⟩ := Nat.find_spec again
  have length : tail + (Nat.find again - tail) = Nat.find again :=
    Nat.add_sub_cancel' (Nat.le_of_lt before)
  refine ⟨tail, Nat.find again - tail, Nat.sub_pos_of_lt before, ?_, fun number _ => nonNull number,
    ?_⟩
  · rw [length]
    exact same.symm
  · rw [length]
    intro number sooner earlier lt same
    exact Nat.find_min again sooner ⟨earlier, lt, same⟩

/-- Every chain has one of the two shapes. -/
theorem endsAfter_or_entersCycle (resolver : Resolver) (image : MemoryImage) (start : Address) :
    (∃ count, resolver.EndsAfter image start count) ∨
      ∃ tail period, resolver.EntersCycle image start tail period := by
  by_cases ended : ∃ number, (resolver.chain image start number).isNull
  · exact .inl (exists_endsAfter ended)
  · right
    apply exists_entersCycle (fun number null => ended ⟨number, null⟩)
    obtain ⟨first, second, ne, same⟩ :=
      Finite.exists_ne_map_eq_of_infinite (resolver.chain image start)
    rcases Nat.lt_or_gt_of_ne ne with lt | gt
    · exact ⟨second, first, lt, same⟩
    · exact ⟨first, second, gt, same.symm⟩

/-! ## Frames along the chain -/

/-- The frame is what is decoded at its place in the chain. -/
structure FrameAt (resolver : Resolver) (image : MemoryImage) (start : Address) (number : Nat)
    (frame : Frame) : Prop where
  index : frame.index = number
  address : frame.address = resolver.chain image start number
  position : (resolver.position (resolver.chain image start number)).on image =
    .ok ⟨frame.function, frame.file, frame.line, frame.lineSource⟩
  previous : frame.previous = (resolver.chain image start (number + 1)).nonNull?

/-- The frames are those of the chain, the first of them the one of the given number. -/
def FramesFrom (resolver : Resolver) (image : MemoryImage) (start : Address) (number : Nat)
    (frames : List Frame) : Prop :=
  ∀ {i : Nat} {frame : Frame}, frames[i]? = some frame →
    resolver.FrameAt image start (number + i) frame

/-- The failure of a walk that has decoded as many frames of the chain as it may. -/
def limitReached (resolver : Resolver) (image : MemoryImage) (start : Address) (maxDepth : Nat) :
    DecodeError :=
  .corruptedChain (resolver.chain image start maxDepth) maxDepth .depthExceeded

/-- How a walk of at most `maxDepth` frames stops after the first frames of the chain. -/
inductive StopsAfter (resolver : Resolver) (image : MemoryImage) (start : Address)
    (maxDepth : Nat) : Nat → Option DecodeError → Prop
  | ended {count : Nat} : (resolver.chain image start count).isNull →
      StopsAfter resolver image start maxDepth count none
  | deep : ¬(resolver.chain image start maxDepth).isNull →
      StopsAfter resolver image start maxDepth maxDepth
        (some (resolver.limitReached image start maxDepth))
  | cycle {count earlier : Nat} : ¬(resolver.chain image start count).isNull →
      count < maxDepth → earlier < count →
      resolver.chain image start earlier = resolver.chain image start count →
      StopsAfter resolver image start maxDepth count
        (some (.corruptedChain (resolver.chain image start count) count .cycle))

end Resolver

namespace Walk

variable {image : MemoryImage} {start : Address} {served : Nat}
  {walk : Walk} {stack : Stack} {requests : List Request}

/-- A walk that stands on a chain of frames that can be decoded decodes the next one. -/
theorem exists_on_decode (decodes : walk.resolver.Decodes image start)
    (standing : walk.next = walk.resolver.chain image start walk.depth)
    (nonNull : ¬walk.next.isNull) :
    ∃ frame, walk.decode.on image = .ok frame ∧
      walk.resolver.FrameAt image start walk.depth frame := by
  rw [standing] at nonNull
  obtain ⟨⟨link, hlink⟩, position, hposition⟩ := decodes walk.depth nonNull
  have caller : walk.resolver.chain image start (walk.depth + 1) = link := by
    rw [Resolver.chain, Resolver.caller, hlink]
  refine ⟨⟨walk.depth, walk.next, position.function, position.file, position.line,
    position.lineSource, link.nonNull?⟩, ?_, rfl, standing, hposition, ?_⟩
  · unfold decode
    simp only [Probe.bind_eq]
    rw [standing, Probe.on_bind_of_ok hlink, Probe.on_bind_of_ok hposition]
    rfl
  · rw [caller]

/-- So its pull yields that frame. -/
theorem exists_outcome_pull (decodes : walk.resolver.Decodes image start)
    (standing : walk.next = walk.resolver.chain image start walk.depth) (may : walk.MayDecode)
    (served : Nat) :
    ∃ frame, (walk.pull.run (.ofImage image) served).outcome =
        .ok (some (.ok frame), walk.advance frame) ∧
      walk.resolver.FrameAt image start walk.depth frame := by
  have nonNull : ¬walk.next.isNull := fun null => may.notEnded (.inr null)
  obtain ⟨frame, decoded, frameAt⟩ := exists_on_decode decodes standing nonNull
  refine ⟨frame, ?_, frameAt⟩
  rw [Probe.outcome_ofImage, pull_of_mayDecode may,
    Probe.on_bind_of_ok (Probe.on_attempt_of_ok decoded)]
  rfl

/-- Nor does it break off there. -/
theorem BrokenTrace.elim_along {frames : List Frame}
    (t : BrokenTrace (.ofImage image) served walk frames requests)
    (h : walk.resolver.reader.Covers) (decodes : walk.resolver.Decodes image start)
    (standing : walk.next = walk.resolver.chain image start walk.depth) : False := by
  induction t with
  | @overflow served walk broken =>
    obtain ⟨_, yielded, _⟩ := exists_outcome_pull decodes standing (mayDecode_of_overflow broken)
      served
    rw [broken] at yielded
    cases yielded
  | @frame served walk next frame frames requests hrun _ ih =>
    cases pulled_of_run h hrun with
    | frame may =>
      obtain ⟨_, yielded, frameAt⟩ := exists_outcome_pull decodes standing may served
      rw [hrun] at yielded
      cases yielded
      have next : frame.previous.getD .null = walk.resolver.chain image start (walk.depth + 1) := by
        rw [frameAt.previous, Address.getD_nonNull?]
      exact ih h decodes next

/-- The frames of a walk are those of the chain that it stands on, and no read of it fails. -/
theorem Trace.along (t : Trace (.ofImage image) served walk stack requests)
    (h : walk.resolver.reader.Covers) (decodes : walk.resolver.Decodes image start)
    (standing : walk.next = walk.resolver.chain image start walk.depth) :
    walk.resolver.FramesFrom image start walk.depth stack.frames ∧
      ∀ error, stack.error = some error → ¬error.IsLocal := by
  induction t with
  | ended => exact ⟨nofun, nofun⟩
  | failed hrun =>
    refine ⟨nofun, ?_⟩
    rintro _ ⟨⟩
    cases pulled_of_run h hrun with
    | deep | cycle => exact id
    | failed may =>
      obtain ⟨frame, yielded, _⟩ := exists_outcome_pull decodes standing may _
      rw [hrun] at yielded
      cases yielded
  | @frame served walk next frame stack requests hrun _ ih =>
    cases pulled_of_run h hrun with
    | frame may =>
      obtain ⟨_, yielded, frameAt⟩ := exists_outcome_pull decodes standing may served
      rw [hrun] at yielded
      cases yielded
      have next : frame.previous.getD .null = walk.resolver.chain image start (walk.depth + 1) := by
        rw [frameAt.previous, Address.getD_nonNull?]
      obtain ⟨frames, failure⟩ := ih h decodes next
      refine ⟨?_, failure⟩
      intro i other hother
      cases i with
      | zero =>
        cases hother
        exact frameAt
      | succ i =>
        rw [show walk.depth + (i + 1) = walk.depth + 1 + i by omega]
        exact frames hother

end Walk

namespace Stack

variable {resolver : Resolver} {image : MemoryImage} {start : Address} {maxDepth : Nat}
  {stack : Stack} {frames : List Frame}

/-- After the first frames of a chain the next one is pending. -/
theorem pending_of_framesFrom (framesFrom : resolver.FramesFrom image start 0 frames) :
    pending start frames = (resolver.chain image start frames.length).nonNull? := by
  unfold pending
  cases last : frames.getLast? with
  | none =>
    rw [List.getLast?_eq_none_iff.1 last]
    rfl
  | some frame =>
    obtain ⟨front, rfl⟩ := List.getLast?_eq_some_iff.1 last
    have found : (front ++ [frame])[front.length]? = some frame := by simp
    have previous := (framesFrom found).previous
    rw [Nat.zero_add] at previous
    rw [List.length_append]
    exact previous

theorem addresses_of_framesFrom (framesFrom : resolver.FramesFrom image start 0 frames) :
    frames.map (·.address) = (List.range frames.length).map (resolver.chain image start) := by
  apply List.ext_getElem
  · simp
  · intro i within _
    rw [List.length_map] at within
    have address := (framesFrom (List.getElem?_eq_getElem within)).address
    rw [Nat.zero_add] at address
    rw [List.getElem_map, List.getElem_map, List.getElem_range, address]

/-- A sound stack of first frames stops as the chain does, if no read failed. -/
theorem SoundFrom.stopsAfter (sound : stack.SoundFrom start maxDepth)
    (framesFrom : resolver.FramesFrom image start 0 stack.frames)
    (readable : ∀ error, stack.error = some error → ¬error.IsLocal) :
    resolver.StopsAfter image start maxDepth stack.frames.length stack.error := by
  have endsWell := sound.endsWell
  unfold EndsWell at endsWell
  rw [pending_of_framesFrom framesFrom, addresses_of_framesFrom framesFrom] at endsWell
  cases herror : stack.error with
  | none =>
    rw [herror] at endsWell
    exact .ended (Address.nonNull?_eq_none_iff.1 endsWell)
  | some error =>
    rw [herror] at endsWell
    cases error with
    | corruptedChain address depth fault =>
      obtain ⟨count, left, hfault⟩ := endsWell
      rw [List.length_nil, Nat.zero_add] at count
      obtain ⟨nonNull, rfl⟩ := Address.nonNull?_eq_some_iff.1 left
      cases fault with
      | depthExceeded =>
        obtain rfl : stack.frames.length = maxDepth := count.symm.trans hfault
        rw [count]
        exact .deep nonNull
      | cycle =>
        obtain ⟨below, mem⟩ := hfault
        rw [List.append_nil] at mem
        obtain ⟨earlier, lt, same⟩ := List.mem_map.1 mem
        rw [count] at below ⊢
        exact .cycle nonNull (Nat.lt_of_le_of_ne sound.length_le below) (List.mem_range.1 lt) same
    | _ => exact absurd endsWell (readable _ herror)

end Stack

/-! ## Shapes and stops -/

namespace Resolver

variable {resolver : Resolver} {image : MemoryImage} {start : Address} {maxDepth length : Nat}
  {error? : Option DecodeError}

/-- A walk stops at the end of the chain, unless the limit comes first. -/
theorem EndsAfter.stop {count : Nat} (ends : resolver.EndsAfter image start count)
    (within : length ≤ count) (atMost : length ≤ maxDepth)
    (stops : resolver.StopsAfter image start maxDepth length error?) :
    (count ≤ maxDepth → length = count ∧ error? = none) ∧
      (maxDepth < count → length = maxDepth ∧
        error? = some (resolver.limitReached image start maxDepth)) := by
  cases stops with
  | ended null =>
    obtain rfl : length = count := by
      rcases Nat.lt_or_eq_of_le within with before | same
      · exact absurd null (ends.nonNull length before)
      · exact same
    exact ⟨fun _ => ⟨rfl, rfl⟩, fun beyond => absurd atMost (Nat.not_le.2 beyond)⟩
  | deep nonNull =>
    refine ⟨?_, fun _ => ⟨rfl, rfl⟩⟩
    intro enough
    obtain rfl : maxDepth = count := Nat.le_antisymm within enough
    exact absurd ends.isNull nonNull
  | cycle nonNull _ lt same =>
    have before : length < count := by
      apply Nat.lt_of_le_of_ne within
      rintro rfl
      exact nonNull ends.isNull
    exact absurd same (ends.distinct before lt)

theorem EntersCycle.nonNull_of_le {tail period number : Nat}
    (enters : resolver.EntersCycle image start tail period) (le : number ≤ tail + period) :
    ¬(resolver.chain image start number).isNull := by
  rcases Nat.lt_or_eq_of_le le with before | rfl
  · exact enters.nonNull number before
  · rw [enters.comesBack]
    exact enters.nonNull tail (Nat.lt_add_of_pos_right enters.period_pos)

/-- A walk stops where the chain comes back, unless the limit comes no later. -/
theorem EntersCycle.stop {tail period : Nat} (enters : resolver.EntersCycle image start tail period)
    (within : length ≤ tail + period)
    (stops : resolver.StopsAfter image start maxDepth length error?) :
    (tail + period < maxDepth → length = tail + period ∧
      error? =
        some (.corruptedChain (resolver.chain image start tail) (tail + period) .cycle)) ∧
      (maxDepth ≤ tail + period → length = maxDepth ∧
        error? = some (resolver.limitReached image start maxDepth)) := by
  cases stops with
  | ended null => exact absurd null (enters.nonNull_of_le within)
  | deep =>
    exact ⟨fun shallow => absurd within (Nat.not_le.2 shallow), fun _ => ⟨rfl, rfl⟩⟩
  | cycle _ shallow lt same =>
    obtain rfl : length = tail + period := by
      rcases Nat.lt_or_eq_of_le within with before | same'
      · exact absurd same (enters.distinct length before _ lt)
      · exact same'
    rw [enters.comesBack]
    exact ⟨fun _ => ⟨rfl, rfl⟩, fun deep => absurd shallow (Nat.not_lt.2 deep)⟩

end Resolver

/-- A stack that holds the frames of a chain, as many as its shape and the limit give, and
ends for the reason that they give. -/
structure Stack.ExactFor (resolver : Resolver) (image : MemoryImage) (start : Address)
    (maxDepth : Nat) (stack : Stack) : Prop where
  framesFrom : resolver.FramesFrom image start 0 stack.frames
  of_ends : ∀ {count : Nat}, resolver.EndsAfter image start count →
    (count ≤ maxDepth → stack.frames.length = count ∧ stack.error = none) ∧
      (maxDepth < count → stack.frames.length = maxDepth ∧
        stack.error = some (resolver.limitReached image start maxDepth))
  of_enters : ∀ {tail period : Nat}, resolver.EntersCycle image start tail period →
    (tail + period < maxDepth → stack.frames.length = tail + period ∧
      stack.error =
        some (.corruptedChain (resolver.chain image start tail) (tail + period) .cycle)) ∧
      (maxDepth ≤ tail + period → stack.frames.length = maxDepth ∧
        stack.error = some (resolver.limitReached image start maxDepth))

theorem Stack.SoundFrom.exactFor {resolver : Resolver} {image : MemoryImage} {start : Address}
    {maxDepth : Nat} {stack : Stack} (sound : stack.SoundFrom start maxDepth)
    (framesFrom : resolver.FramesFrom image start 0 stack.frames)
    (readable : ∀ error, stack.error = some error → ¬error.IsLocal) :
    stack.ExactFor resolver image start maxDepth where
  framesFrom := framesFrom
  of_ends := by
    intro count ends
    refine ends.stop ?_ sound.length_le (sound.stopsAfter framesFrom readable)
    apply Nat.le_of_not_lt
    intro beyond
    have found := List.getElem?_eq_getElem beyond
    apply sound.nonNull _ (List.mem_of_getElem? found)
    rw [(framesFrom found).address, Nat.zero_add]
    exact ends.isNull
  of_enters := by
    intro tail period enters
    refine enters.stop ?_ (sound.stopsAfter framesFrom readable)
    apply Nat.le_of_not_lt
    intro beyond
    have before : tail < tail + period := Nat.lt_add_of_pos_right enters.period_pos
    -- the frame that the chain comes back to would be yielded twice
    have distinct := sound.distinct
    rw [addresses_of_framesFrom framesFrom] at distinct
    have again := List.inj_on_of_nodup_map distinct (List.mem_range.2 beyond)
      (List.mem_range.2 (Nat.lt_trans before beyond)) enters.comesBack
    exact absurd again (Nat.ne_of_gt before)

namespace Decoder

/-- Where every frame of the chain from `start` can be decoded, the walk yields the frames of
the chain: all of them if it ends within the limit, each once if it comes back within the limit,
and otherwise as many as the limit allows. Every chain ends or comes back. -/
theorem walk_exact (decoder : Decoder) (image : MemoryImage) (start : Address)
    (decodes : decoder.resolver.Decodes image start) (served : Nat) :
    ((∃ count, decoder.resolver.EndsAfter image start count) ∨
      ∃ tail period, decoder.resolver.EntersCycle image start tail period) ∧
    ∃ stack requests, (decoder.walk start).Yields (.ofImage image) served stack requests ∧
      stack.ExactFor decoder.resolver image start decoder.limits.maxDepth := by
  refine ⟨decoder.resolver.endsAfter_or_entersCycle image start, ?_⟩
  rcases decoder.walk_trace_or_broken (.ofImage image) served start with
    ⟨stack, requests, t, sound⟩ | ⟨_, _, t, _⟩
  · obtain ⟨framesFrom, readable⟩ := t.along decoder.covers decodes rfl
    exact ⟨stack, requests, t.yields decoder.covers, sound.exactFor framesFrom readable⟩
  · exact (t.elim_along decoder.covers decodes rfl).elim

/-- A frame that a second one called, which called itself: the walk yields each once. -/
theorem walk_exact_of_cycle :
    let decoder : Decoder :=
      { version := ⟨⟨2, 7⟩, .python2, ⟨.eight, .lp64⟩, by decide, by decide⟩ }
    let inner : Address := .ofNat 0x1000
    let outer : Address := .ofNat 0x2000
    let bytes : Bytes := List.replicate 24 0 ++ [0, 0x20] ++ List.replicate 400 0
    let image := (MemoryImage.empty.map inner bytes).map outer bytes
    decoder.resolver.Decodes image inner ∧ decoder.resolver.EntersCycle image inner 1 1 ∧
      ∃ stack requests, (decoder.walk inner).Yields (.ofImage image) 0 stack requests ∧
        stack.frames.length = 2 ∧ stack.error = some (.corruptedChain outer 2 .cycle) := by
  intro decoder inner outer bytes image
  have later : ∀ number, decoder.resolver.chain image inner (number + 1) = outer := by
    intro number
    induction number with
    | zero => decide +kernel
    | succ number ih =>
      rw [Resolver.chain, ih]
      decide +kernel
  have link : ∀ frame ∈ [inner, outer],
      ((decoder.resolver.reader.address frame .frame "f_back").on image).toOption = some outer := by
    decide +kernel
  have position : ∀ frame ∈ [inner, outer],
      ((decoder.resolver.position frame).on image).toOption =
        some ⟨"<unknown>", "<unknown>", 0, .unknown⟩ := by
    decide +kernel
  have decodes : decoder.resolver.Decodes image inner := by
    intro number _
    have mem : decoder.resolver.chain image inner number ∈ [inner, outer] := by
      cases number with
      | zero => exact List.mem_cons_self
      | succ number =>
        rw [later]
        exact List.mem_cons_of_mem _ List.mem_cons_self
    exact ⟨⟨_, Outcome.eq_ok_of_toOption (link _ mem)⟩, _,
      Outcome.eq_ok_of_toOption (position _ mem)⟩
  have enters : decoder.resolver.EntersCycle image inner 1 1 := by
    refine ⟨by decide, (later 1).trans (later 0).symm, by decide +kernel, by decide +kernel⟩
  obtain ⟨_, stack, requests, yields, exactly⟩ := decoder.walk_exact image inner decodes 0
  obtain ⟨length, error⟩ := (exactly.of_enters enters).1 (by decide)
  rw [later 0] at error
  exact ⟨decodes, enters, stack, requests, yields, length, error⟩

end Decoder

end RemoteStack
