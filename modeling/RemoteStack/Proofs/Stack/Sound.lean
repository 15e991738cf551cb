import RemoteStack.Proofs.Stack.Trace
import RemoteStack.Stack.Decoder

/-!
# What every walk guarantees

The frames that a walk yields, whatever the memory answers, and a different answer to each
read included:

* **chain** — each frame stands where the link of the one before leads, and their indexes
  count on (`Frame.Chain`, `Steps.chain`);
* **freshness** — no frame is yielded twice, and none that was visited before
  (`Steps.fresh`);
* **ending** — the link that is left over says how the walk ended (`Stack.EndsWell`,
  `Trace.endsWell`), if it was not broken off;
* **soundness** — the three together for the walk of a decoder, and for a capture, which
  adds nothing of its own (`Decoder.walk_and_capture_sound`).
-/

namespace RemoteStack

theorem Address.getD_nonNull? (address : Address) :
    address.nonNull?.getD .null = address := by
  unfold nonNull?
  by_cases h : address.isNull
  · rw [if_pos h]
    exact (eq_of_beq h).symm
  · rw [if_neg h]
    rfl

/-! ## Chains of frames -/

/-- The frames follow each other from `start` on, and are numbered from `index` on. -/
inductive Frame.Chain : Nat → Address → List Frame → Prop
  | nil {index : Nat} {start : Address} : Chain index start []
  | cons {index : Nat} {start link : Address} {frame : Frame} {frames : List Frame} :
      frame.index = index → frame.address = start → ¬start.isNull →
      frame.previous = link.nonNull? → Chain (index + 1) link frames →
      Chain index start (frame :: frames)

namespace Stack

/-- Where the chain goes on after its frames: at its start, or at the last link. -/
def pending (start : Address) (frames : List Frame) : Option Address :=
  match frames.getLast? with
  | none => start.nonNull?
  | some last => last.previous

theorem pending_cons {frame : Frame} {link : Address} (h : frame.previous = link.nonNull?)
    (start : Address) (frames : List Frame) :
    pending start (frame :: frames) = pending link frames := by
  cases frames with
  | nil => exact h
  | cons next frames => rfl

end Stack

namespace Frame.Chain

variable {index : Nat} {start : Address} {frames : List Frame}

theorem index_eq (chain : Chain index start frames) {i : Nat} {frame : Frame}
    (h : frames[i]? = some frame) : frame.index = index + i := by
  induction chain generalizing i with
  | nil => cases h
  | cons index_eq _ _ _ _ ih =>
    cases i with
    | zero =>
      cases h
      exact index_eq
    | succ i =>
      rw [ih h]
      omega

theorem nonNull (chain : Chain index start frames) : ∀ frame ∈ frames, ¬frame.address.isNull := by
  induction chain with
  | nil =>
    intro frame mem
    exact absurd mem List.not_mem_nil
  | cons _ address nonNull _ _ ih =>
    intro frame mem
    rcases List.mem_cons.1 mem with rfl | mem
    · rw [address]
      exact nonNull
    · exact ih frame mem

theorem head_address (chain : Chain index start frames) {frame : Frame}
    (h : frames.head? = some frame) : frame.address = start := by
  cases chain with
  | nil => cases h
  | cons _ address =>
    cases h
    exact address

/-- The link of a frame leads to the next one. -/
theorem previous_eq (chain : Chain index start frames) {i : Nat} {frame next : Frame}
    (h : frames[i]? = some frame) (hnext : frames[i + 1]? = some next) :
    frame.previous = some next.address := by
  induction chain generalizing i with
  | nil => cases h
  | cons _ _ _ previous rest ih =>
    cases i with
    | zero =>
      cases h
      cases rest with
      | nil => cases hnext
      | cons _ address nonNull =>
        cases hnext
        rw [previous, address, Address.nonNull?, if_neg nonNull]
    | succ i => exact ih h hnext

end Frame.Chain

/-! ## Stacks of a walk -/

/-- How a walk of at most `maxDepth` frames ends, if it has visited `depth` frames before the
stack: without a failure nothing is pending; a chain is given up at the pending link, after all
frames that were decoded, because of the limit exactly when it is reached; and any other
failure is that of a read. -/
def Stack.EndsWell (start : Address) (maxDepth : Nat) (visited : List Address) (stack : Stack) :
    Prop :=
  match stack.error with
  | none => pending start stack.frames = none
  | some (.corruptedChain address depth fault) =>
    depth = visited.length + stack.frames.length ∧ pending start stack.frames = some address ∧
      match fault with
      | .depthExceeded => depth = maxDepth
      | .cycle => depth ≠ maxDepth ∧ address ∈ stack.frames.map (·.address) ++ visited
  | some error => error.IsLocal

theorem Stack.EndsWell.endsChain {start : Address} {maxDepth : Nat} {visited : List Address}
    {stack : Stack} (h : stack.EndsWell start maxDepth visited) {error : DecodeError}
    (herror : stack.error = some error) : error.EndsChain := by
  unfold EndsWell at h
  rw [herror] at h
  cases error with
  | corruptedChain => trivial
  | _ => exact h

/-- A frame in front, with the link to the rest, leaves the end as it is. -/
theorem Stack.EndsWell.push {frame : Frame} {link start : Address} {maxDepth : Nat}
    {visited : List Address} {stack : Stack}
    (h : stack.EndsWell link maxDepth (start :: visited)) (address : frame.address = start)
    (previous : frame.previous = link.nonNull?) :
    (stack.push frame).EndsWell start maxDepth visited := by
  obtain ⟨frames, error⟩ := stack
  have pending := pending_cons previous start frames
  cases error with
  | none => exact pending.trans h
  | some error =>
    cases error with
    | corruptedChain a depth fault =>
      obtain ⟨count, left, hfault⟩ := h
      refine ⟨?_, pending.trans left, ?_⟩
      · simp only [Stack.push, List.length_cons] at count ⊢
        omega
      · cases fault with
        | depthExceeded => exact hfault
        | cycle =>
          obtain ⟨shallow, mem⟩ := hfault
          refine ⟨shallow, ?_⟩
          simp only [Stack.push, List.map_cons, List.mem_append, List.mem_cons, address] at mem ⊢
          rcases mem with later | rfl | visited
          · exact .inl (.inr later)
          · exact .inl (.inl rfl)
          · exact .inr visited
    | _ => exact h

/-- Frames that a walk from `start` yields, in their order. -/
structure Frame.LinkedFrom (start : Address) (maxDepth : Nat) (frames : List Frame) : Prop where
  length_le : frames.length ≤ maxDepth
  index_eq : ∀ {i : Nat} {frame : Frame}, frames[i]? = some frame → frame.index = i
  nonNull : ∀ frame ∈ frames, ¬frame.address.isNull
  distinct : (frames.map (·.address)).Nodup
  head_address : ∀ {frame : Frame}, frames.head? = some frame → frame.address = start
  previous_eq : ∀ {i : Nat} {frame next : Frame}, frames[i]? = some frame →
    frames[i + 1]? = some next → frame.previous = some next.address

/-- A stack that a walk from `start` yields. -/
structure Stack.SoundFrom (start : Address) (maxDepth : Nat) (stack : Stack) : Prop
    extends Frame.LinkedFrom start maxDepth stack.frames where
  endsWell : stack.EndsWell start maxDepth []

namespace Walk

variable {memory : Memory} {served : Nat} {walk last : Walk} {stack : Stack} {frames : List Frame}
  {requests : List Request}

/-- The frames of a walk follow each other from where it stands. -/
theorem Steps.chain (steps : Steps memory served walk frames requests last)
    (h : walk.resolver.reader.Covers) : Frame.Chain walk.depth walk.next frames := by
  induction steps with
  | refl => exact .nil
  | @frame served walk next last frame frames requests hrun _ ih =>
    cases pulled_of_run h hrun with
    | @frame _ link may index address previous =>
      have rest : Frame.Chain (walk.depth + 1) (frame.previous.getD .null) frames := ih h
      rw [previous, Address.getD_nonNull?] at rest
      exact .cons index address (fun null => may.notEnded (.inr null)) previous rest

theorem Steps.fresh (steps : Steps memory served walk frames requests last)
    (h : walk.resolver.reader.Covers) :
    (frames.map (·.address)).Nodup ∧
      ∀ address ∈ frames.map (·.address), address ∉ walk.visited := by
  induction steps with
  | refl =>
    refine ⟨List.nodup_nil, ?_⟩
    intro address mem
    exact absurd mem List.not_mem_nil
  | @frame served walk next last frame frames requests hrun _ ih =>
    cases pulled_of_run h hrun with
    | frame may index address previous =>
      obtain ⟨distinct, unvisited⟩ := ih h
      have notLater : frame.address ∉ frames.map (·.address) := by
        intro later
        -- the rest of the walk has visited this frame
        refine unvisited _ later ?_
        rw [address]
        exact List.mem_cons_self
      refine ⟨List.nodup_cons.2 ⟨notLater, distinct⟩, ?_⟩
      intro a mem
      rcases List.mem_cons.1 mem with rfl | mem
      · show frame.address ∉ walk.visited
        rw [address]
        exact may.notVisited
      · exact fun visited => unvisited a mem (List.mem_cons_of_mem _ visited)

/-- The frames of a walk that has visited none before are linked. -/
theorem Steps.linkedFrom (steps : Steps memory served walk frames requests last)
    (h : walk.resolver.reader.Covers) (fresh : walk.visited = [])
    (within : frames.length ≤ walk.maxDepth) :
    Frame.LinkedFrom walk.next walk.maxDepth frames := by
  have depth : walk.depth = 0 := by rw [Walk.depth, fresh, List.length_nil]
  have chain := steps.chain h
  rw [depth] at chain
  refine ⟨within, ?_, chain.nonNull, (steps.fresh h).1, chain.head_address, chain.previous_eq⟩
  intro i frame mem
  rw [chain.index_eq mem, Nat.zero_add]

/-- A walk that is within its depth ends well. -/
theorem Trace.endsWell (t : Trace memory served walk stack requests)
    (h : walk.resolver.reader.Covers) (live : ¬walk.isFinished)
    (within : walk.depth ≤ walk.maxDepth) :
    stack.EndsWell walk.next walk.maxDepth walk.visited := by
  induction t with
  | ended ended => exact if_pos (ended.resolve_left live)
  | failed hrun =>
    cases pulled_of_run h hrun with
    -- the limit is checked before the visited frames, so a cycle is only seen below it
    | deep notEnded deep =>
      exact ⟨rfl, if_neg fun null => notEnded (.inr null), Nat.le_antisymm within deep⟩
    | cycle notEnded shallow visited =>
      exact ⟨rfl, if_neg fun null => notEnded (.inr null), Nat.ne_of_lt shallow, visited⟩
    | failed may hlocal =>
      rename_i error
      -- no read gives up a chain
      cases error <;> first | exact hlocal | exact False.elim hlocal
  | @frame served walk next frame stack requests hrun _ ih =>
    cases pulled_of_run h hrun with
    | @frame _ link may index address previous =>
      -- a link that was left out stands for null, so the walk goes on at the link itself
      have rest : stack.EndsWell (frame.previous.getD .null) walk.maxDepth
          (walk.next :: walk.visited) := ih h live may.depth_lt
      rw [previous, Address.getD_nonNull?] at rest
      exact rest.push address previous

theorem Trace.soundFrom (t : Trace memory served walk stack requests)
    (h : walk.resolver.reader.Covers) (live : ¬walk.isFinished) (fresh : walk.visited = []) :
    stack.SoundFrom walk.next walk.maxDepth := by
  obtain ⟨_, _, steps, _⟩ := t.exists_steps
  have depth : walk.depth = 0 := by rw [Walk.depth, fresh, List.length_nil]
  have within := t.length_le h
  rw [depth] at within
  have endsWell := t.endsWell h live (depth ▸ Nat.zero_le _)
  rw [fresh] at endsWell
  exact ⟨steps.linkedFrom h fresh within, endsWell⟩

theorem BrokenTrace.linkedFrom (t : BrokenTrace memory served walk frames requests)
    (h : walk.resolver.reader.Covers) (fresh : walk.visited = []) :
    Frame.LinkedFrom walk.next walk.maxDepth frames := by
  obtain ⟨_, _, steps, _, _⟩ := t.exists_steps
  have := t.length_lt h
  exact steps.linkedFrom h fresh (by omega)

end Walk

/-! ## Walks and captures of a decoder -/

namespace Decoder

theorem covers (decoder : Decoder) : decoder.reader.Covers :=
  Catalog.builtin_covers decoder.version

/-- A walk of a decoder has a trace, and what it yields is sound, unless it breaks off. -/
theorem walk_trace_or_broken (decoder : Decoder) (memory : Memory) (served : Nat)
    (start : Address) :
    (∃ stack requests, (decoder.walk start).Trace memory served stack requests ∧
      stack.SoundFrom start decoder.limits.maxDepth) ∨
    ∃ frames requests, (decoder.walk start).BrokenTrace memory served frames requests ∧
      Frame.LinkedFrom start decoder.limits.maxDepth frames := by
  rcases Walk.trace_or_broken memory served (decoder.walk start) decoder.covers with
    ⟨stack, requests, t⟩ | ⟨frames, requests, t⟩
  · exact .inl ⟨stack, requests, t, t.soundFrom decoder.covers Bool.false_ne_true rfl⟩
  · exact .inr ⟨frames, requests, t, t.linkedFrom decoder.covers rfl⟩

/-- A snapshot keeps the stack of its walk, and says whose it is. -/
theorem outcome_snapshot {decoder : Decoder} {state : ThreadState} {memory : Memory}
    {served : Nat} {stack : Stack} {requests : List Request}
    (t : (decoder.walk state.frame).Trace memory served stack requests)
    (sound : stack.SoundFrom state.frame decoder.limits.maxDepth) :
    ((decoder.snapshot state).run memory served).outcome =
      .ok { toStack := stack, thread := state.threadId, threadState := state.address } := by
  unfold snapshot
  simp only [Probe.bind_eq]
  rw [Probe.outcome_bind_of_ok (t.run_stack decoder.covers).1]
  cases herror : stack.error with
  | none => rfl
  | some error =>
    have kept : ¬error.isFatal := (sound.endsWell.endsChain herror).not_isFatal
    simp only [if_neg kept]
    rfl

/-- So it overflows with its walk. -/
theorem snapshot_of_broken {decoder : Decoder} {state : ThreadState} {memory : Memory}
    {served : Nat} {frames : List Frame} {requests : List Request}
    (t : (decoder.walk state.frame).BrokenTrace memory served frames requests) :
    ((decoder.snapshot state).run memory served).outcome = .overflow ∧
      ((decoder.snapshot state).run memory served).requests = requests := by
  have broken := t.breaksOff decoder.covers
  exact ⟨Probe.outcome_bind_of_overflow broken.outcome_stack,
    (Probe.requests_bind_of_overflow broken.outcome_stack).trans broken.requests_stack⟩

/-- The state of a thread is read without an overflow. -/
theorem threadState_ne_overflow (decoder : Decoder) (address : Address) (memory : Memory)
    (served : Nat) :
    ((decoder.reader.threadState address).run memory served).outcome ≠ .overflow := by
  by_cases null : address.isNull
  · unfold Reader.threadState
    rw [if_pos null]
    exact nofun
  · intro broken
    have fails : (decoder.reader.threadState address).FailsLocally False :=
      Reader.threadState_failsLocally decoder.covers null
    exact fails.of_overflow broken

/-- Whatever the memory answers, each walk of the decoder yields a sound stack and then
nothing, without another read; and a capture fails where the state of the thread cannot be
read, and otherwise is the stack of the walk from the innermost frame. Where a text overflows, which
takes a limit of 2^62 units or more, the walk breaks off instead, behind frames that are linked as
well, and then the capture overflows too. -/
theorem walk_and_capture_sound (decoder : Decoder) (memory : Memory) (served : Nat) :
    (∀ start,
      (∃ stack requests, (decoder.walk start).Yields memory served stack requests ∧
        stack.SoundFrom start decoder.limits.maxDepth) ∨
      decoder.reader.OverflowsOn memory ∧
        ∃ frames requests, (decoder.walk start).BreaksOff memory served frames requests ∧
          Frame.LinkedFrom start decoder.limits.maxDepth frames) ∧
    ∀ address,
      let read := (decoder.reader.threadState address).run memory served
      match read.outcome with
      | .error error => ((decoder.capture address).run memory served).outcome = .error error
      | .ok state =>
        (∃ stack requests,
          (decoder.walk state.frame).Yields memory (served + read.requests.length) stack
            requests ∧
          stack.SoundFrom state.frame decoder.limits.maxDepth ∧
          ((decoder.capture address).run memory served).outcome =
            .ok { toStack := stack, thread := state.threadId, threadState := state.address }) ∨
        decoder.reader.OverflowsOn memory ∧
          ∃ frames requests,
            (decoder.walk state.frame).BreaksOff memory (served + read.requests.length) frames
              requests ∧
            ((decoder.capture address).run memory served).outcome = .overflow
      | .overflow => False := by
  constructor
  · intro start
    rcases decoder.walk_trace_or_broken memory served start with
      ⟨stack, requests, t, sound⟩ | ⟨frames, requests, t, linked⟩
    · exact .inl ⟨stack, requests, t.yields decoder.covers, sound⟩
    · exact .inr ⟨t.overflowsOn decoder.covers, frames, requests, t.breaksOff decoder.covers,
        linked⟩
  · intro address
    unfold capture
    simp only [Probe.bind_eq]
    cases hread : ((decoder.reader.threadState address).run memory served).outcome with
    | error error => exact Probe.outcome_bind_of_error hread
    | overflow => exact decoder.threadState_ne_overflow address memory served hread
    | ok state =>
      simp only [Probe.outcome_bind_of_ok hread]
      rcases decoder.walk_trace_or_broken memory
          (served + ((decoder.reader.threadState address).run memory served).requests.length)
          state.frame with
        ⟨stack, requests, t, sound⟩ | ⟨frames, requests, t, _⟩
      · exact .inl ⟨stack, requests, t.yields decoder.covers, sound, outcome_snapshot t sound⟩
      · exact .inr ⟨t.overflowsOn decoder.covers, frames, requests, t.breaksOff decoder.covers,
          (snapshot_of_broken t).1⟩

/-- Two frames of 2.7, of which the second called the first: each link is what its bytes say. -/
example :
    let decoder : Decoder :=
      { version := ⟨⟨2, 7⟩, .python2, ⟨.eight, .lp64⟩, by decide, by decide⟩ }
    let zeros (count : Nat) : Bytes := List.replicate count 0
    let inner : Address := .ofNat 0x2000
    let outer : Address := .ofNat 0x3000
    let image := (MemoryImage.empty.map inner (zeros 25 ++ [0x30] ++ zeros 400)).map outer
      (zeros 426)
    ((decoder.walk inner).stack.run (.ofImage image) 0).outcome = .ok {
      frames := [
        ⟨0, inner, "<unknown>", "<unknown>", 0, .unknown, some outer⟩,
        ⟨1, outer, "<unknown>", "<unknown>", 0, .unknown, none⟩]
      error := none } := by
  decide +kernel

end Decoder

end RemoteStack
