import RemoteStack.Proofs.Reader.Bounded
import RemoteStack.Proofs.Stack.Fault
import RemoteStack.Proofs.Stack.ThreadList

/-!
# What captures cost

However corrupted a memory is, and however it changes, captures come to an end after a number
of reads that the version and the limits alone decide, and no read is made at the null
address. From the inside out:

* **pull** — a pull reads only if it may decode a frame, and then no more than a frame takes
  (`Walk.pull_bounded`);
* **walk** — the reads are counted by the frames that were started, of which there are at most
  `maxDepth` (`Walk.Trace.readsWithin`, `Walk.Trace.started_le`); where a walk breaks off, the
  frame that overflows is one of them (`Walk.BrokenTrace.readsWithin`);
* **capture** — one state and one walk (`Decoder.readsWithin_capture`);
* **list** — one capture for each thread, of which there are at most `maxThreads`
  (`Decoder.readsWithin_captureAll`).
-/

namespace RemoteStack

/-- How many frames were started: those of the stack, and one that could not be decoded. -/
def Stack.started (stack : Stack) : Nat :=
  stack.frames.length +
    match stack.error with
    | none | some (.corruptedChain ..) => 0
    | some _ => 1

theorem Stack.started_push (frame : Frame) (stack : Stack) :
    (stack.push frame).started = stack.started + 1 := by
  simp only [started, push, List.length_cons]
  omega

namespace Walk

variable {memory : Memory} {served : Nat} {walk : Walk} {stack : Stack} {frames : List Frame}
  {requests : List Request}

/-- The most reads that a frame of the walk takes. -/
abbrev frameReads (walk : Walk) : Nat := walk.resolver.reader.version.family.frameReads

/-! ## One pull -/

theorem pull_bounded (h : walk.resolver.reader.Covers) (may : walk.MayDecode) :
    walk.pull.BoundedBy walk.frameReads := by
  rw [pull_of_mayDecode may, ← Nat.zero_add walk.frameReads]
  apply (decode_bounded h).attempt.bind
  intro outcome _
  cases outcome <;> trivial

/-- A pull that yields a failure has made the reads of a frame if it started one. -/
theorem readsWithin_of_failed (h : walk.resolver.reader.Covers) {error : DecodeError} {next : Walk}
    (hrun : (walk.pull.run memory served).outcome = .ok (some (.error error), next)) :
    ReadsWithin (walk.frameReads * (Stack.mk [] (some error)).started)
      (walk.pull.run memory served).requests := by
  by_cases may : walk.MayDecode
  · have reads := (pull_bounded h may).readsWithin memory served
    cases pulled_of_run h hrun with
    | deep _ deep => exact absurd may.depth_lt (Nat.not_lt.2 deep)
    | cycle _ _ visited => exact absurd visited may.notVisited
    | failed _ hlocal =>
      have started : (Stack.mk [] (some error)).started = 1 := by
        cases error <;> first | rfl | exact hlocal.elim
      rwa [started, Nat.mul_one]
  · have silent : (walk.pull.run memory served).requests = [] :=
      List.eq_nil_of_length_eq_zero (Nat.eq_zero_of_not_pos (mt mayDecode_of_reads may))
    rw [silent]
    exact .nil

/-! ## All pulls -/

/-- A frame and the pulls after it start one frame more than these. -/
theorem readsWithin_pulls_succ (h : walk.resolver.reader.Covers) {frame : Frame} {next : Walk}
    {count started : Nat}
    (hrun : (walk.pull.run memory served).outcome = .ok (some (.ok frame), next))
    (rest : ReadsWithin (walk.frameReads * min count started) ((next.pulls count).run memory
      (served + (walk.pull.run memory served).requests.length)).requests) :
    ReadsWithin (walk.frameReads * min (count + 1) (started + 1))
      ((walk.pulls (count + 1)).run memory served).requests := by
  have may : walk.MayDecode := by
    cases pulled_of_run h hrun with
    | frame may => exact may
  rw [pulls_succ, Probe.requests_bind_of_ok hrun, Probe.requests_bind_done, Nat.succ_min_succ,
    Nat.mul_succ, Nat.add_comm]
  exact ((pull_bounded h may).readsWithin memory served).append rest

namespace Trace

/-- The first pulls of a walk start no more frames than there are pulls. -/
theorem readsWithin_pulls (t : Trace memory served walk stack requests)
    (h : walk.resolver.reader.Covers) (count : Nat) :
    ReadsWithin (walk.frameReads * min count stack.started)
      ((walk.pulls count).run memory served).requests := by
  induction t generalizing count with
  | ended ended =>
    rw [run_pulls_of_hasEnded ended]
    exact .nil
  | @failed served walk next error hrun =>
    cases count with
    | zero => exact .nil
    | succ count =>
      -- the failure is the only item, so the first pull makes all the reads
      have reads := ((Trace.failed hrun).run_pulls h (count + 1)).2.2 (by simp [Stack.itemCount])
      have atMostOne : (Stack.mk [] (some error)).started ≤ count + 1 := by
        simp only [Stack.started, List.length_nil]
        split <;> omega
      rw [reads, Nat.min_eq_right atMostOne]
      exact readsWithin_of_failed h hrun
  | frame hrun _ ih =>
    cases count with
    | zero => exact .nil
    | succ count =>
      obtain ⟨_, rfl⟩ := eq_advance_of_frame h hrun
      rw [Stack.started_push]
      exact readsWithin_pulls_succ h hrun (ih h count)

theorem readsWithin (t : Trace memory served walk stack requests)
    (h : walk.resolver.reader.Covers) :
    ReadsWithin (walk.frameReads * stack.started) requests := by
  have reads := t.readsWithin_pulls h stack.itemCount
  rw [(t.run_pulls h stack.itemCount).2.2 (Nat.le_refl _)] at reads
  exact reads.of_le (Nat.mul_le_mul_left _ (Nat.min_le_right _ _))

/-- No more frames are started than the walk may still decode. -/
theorem started_le (t : Trace memory served walk stack requests)
    (h : walk.resolver.reader.Covers) : stack.started ≤ walk.maxDepth - walk.depth := by
  induction t with
  | ended => exact Nat.zero_le _
  | @failed served walk next error hrun =>
    cases pulled_of_run h hrun with
    | deep | cycle => exact Nat.zero_le _
    | failed may =>
      have := may.depth_lt
      simp only [Stack.started, List.length_nil]
      split <;> omega
  | @frame served walk next frame stack requests hrun _ ih =>
    obtain ⟨depth_lt, rfl⟩ := eq_advance_of_frame h hrun
    have rest : stack.started ≤ walk.maxDepth - (walk.depth + 1) := ih h
    rw [Stack.started_push]
    omega

end Trace

namespace BrokenTrace

/-- Where a walk breaks off, the frame that overflows was started as well. -/
theorem readsWithin_pulls (t : BrokenTrace memory served walk frames requests)
    (h : walk.resolver.reader.Covers) (count : Nat) :
    ReadsWithin (walk.frameReads * min count (frames.length + 1))
      ((walk.pulls count).run memory served).requests := by
  induction t generalizing count with
  | overflow broken =>
    cases count with
    | zero => exact .nil
    | succ count =>
      have may := mayDecode_of_overflow broken
      rw [pulls_succ, Probe.requests_bind_of_overflow broken, List.length_nil,
        Nat.min_eq_right (Nat.le_add_left 1 count), Nat.mul_one]
      exact (pull_bounded h may).readsWithin _ _
  | frame hrun _ ih =>
    cases count with
    | zero => exact .nil
    | succ count =>
      obtain ⟨_, rfl⟩ := eq_advance_of_frame h hrun
      exact readsWithin_pulls_succ h hrun (ih h count)

theorem readsWithin (t : BrokenTrace memory served walk frames requests)
    (h : walk.resolver.reader.Covers) :
    ReadsWithin (walk.frameReads * (frames.length + 1)) requests := by
  have reads := t.readsWithin_pulls h (frames.length + 1)
  rwa [((t.run_pulls (frames.length + 1)).2.2 (Nat.lt_succ_self _)).2, Nat.min_self] at reads

end BrokenTrace

end Walk

namespace Decoder

variable {decoder : Decoder} {memory : Memory} {served : Nat}

/-! ## Captures -/

/-- The most reads that the capture of one thread makes. -/
def captureReads (decoder : Decoder) : Nat :=
  decoder.version.family.stateReads +
    decoder.version.family.frameReads * decoder.limits.maxDepth

theorem readsWithin_threadState (decoder : Decoder) (address : Address) (memory : Memory)
    (served : Nat) :
    ReadsWithin decoder.version.family.stateReads
      ((decoder.reader.threadState address).run memory served).requests :=
  (Reader.threadState_bounded address decoder.covers).readsWithin memory served

/-- A capture makes the reads of the state, and those of the frames that were started. -/
theorem readsWithin_capture (decoder : Decoder) (address : Address) (memory : Memory)
    (served : Nat) :
    ReadsWithin decoder.captureReads ((decoder.capture address).run memory served).requests := by
  have stateReads := decoder.readsWithin_threadState address memory served
  cases hstate : ((decoder.reader.threadState address).run memory served).outcome with
  | error error =>
    unfold capture
    simp only [Probe.bind_eq]
    rw [Probe.requests_bind_of_error hstate]
    exact stateReads.of_le (Nat.le_add_right _ _)
  | overflow => exact absurd hstate (decoder.threadState_ne_overflow address memory served)
  | ok state =>
    rcases capture_trace_or_broken hstate with ⟨_, _, t, _, reads⟩ | ⟨_, _, t, _, reads⟩
    · rw [reads]
      refine stateReads.append ((t.readsWithin decoder.covers).of_le ?_)
      exact Nat.mul_le_mul_left _ (t.started_le decoder.covers)
    · rw [reads]
      refine stateReads.append ((t.readsWithin decoder.covers).of_le ?_)
      exact Nat.mul_le_mul_left _ (t.length_lt decoder.covers)

variable {visited : List Address} {next : Address} {requests : List Request}

/-- A thread of a list makes the reads of a capture, and leaves room for one thread less. -/
theorem readsWithin_thread (may : decoder.MayCapture visited next)
    (rest : ReadsWithin ((decoder.limits.maxThreads - (next :: visited).length) *
      decoder.captureReads) requests) :
    ReadsWithin ((decoder.limits.maxThreads - visited.length) * decoder.captureReads)
      (((decoder.capture next).run memory served).requests ++ requests) := by
  have split : decoder.limits.maxThreads - visited.length =
      decoder.limits.maxThreads - (next :: visited).length + 1 := by
    have := may.count_lt
    rw [List.length_cons]
    omega
  rw [split, Nat.succ_mul, Nat.add_comm]
  exact (decoder.readsWithin_capture next memory served).append rest

/-- A list makes the reads of a capture for each thread that it may still go on with. -/
theorem ListTrace.readsWithin {snapshot : ProcessSnapshot}
    (t : decoder.ListTrace memory served visited next snapshot requests) :
    ReadsWithin ((decoder.limits.maxThreads - visited.length) * decoder.captureReads) requests := by
  induction t with
  | stopped => exact .nil
  | @failed served visited next error may hstate =>
    -- a capture that cannot read the state makes no other reads
    have reads : ((decoder.capture next).run memory served).requests =
        ((decoder.reader.threadState next).run memory served).requests :=
      Probe.requests_bind_of_error hstate
    rw [← reads, ← List.append_nil ((decoder.capture next).run memory served).requests]
    exact readsWithin_thread may (ReadsWithin.nil.of_le (Nat.zero_le _))
  | thread may _ _ _ ih => exact readsWithin_thread may ih

theorem BrokenListTrace.readsWithin {threads : List ThreadSnapshot}
    (t : decoder.BrokenListTrace memory served visited next threads requests) :
    ReadsWithin ((decoder.limits.maxThreads - visited.length) * decoder.captureReads) requests := by
  induction t with
  | @overflow served visited next state may =>
    rw [← List.append_nil ((decoder.capture next).run memory served).requests]
    exact readsWithin_thread may (ReadsWithin.nil.of_le (Nat.zero_le _))
  | thread may _ _ _ ih => exact readsWithin_thread may ih

/-- A capture of a process makes the reads of as many captures as there may be threads. -/
theorem readsWithin_captureAll (decoder : Decoder) (head : Address) (memory : Memory)
    (served : Nat) :
    ReadsWithin (decoder.limits.maxThreads * decoder.captureReads)
      ((decoder.captureAll head).run memory served).requests := by
  rcases decoder.listTrace_or_broken memory served [] head with ⟨_, _, t⟩ | ⟨_, _, t⟩
  · rw [t.run_captureAll.2]
    exact t.readsWithin
  · rw [t.run_captureAll.2]
    exact t.readsWithin

/-- Whatever the memory answers, walks and captures end, be it that a text overflows, and make no
more reads than the family and the limits allow, none of them at the null address. -/
theorem reads_bounded (decoder : Decoder) (memory : Memory) (served : Nat) :
    let family := decoder.version.family
    (∀ start,
      (∃ stack requests, (decoder.walk start).Yields memory served stack requests ∧
        stack.itemCount ≤ decoder.limits.maxDepth + 1 ∧
        stack.started ≤ decoder.limits.maxDepth ∧
        ∀ count, ReadsWithin (family.frameReads * min count stack.started)
          (((decoder.walk start).pulls count).run memory served).requests) ∨
      decoder.reader.OverflowsOn memory ∧
        ∃ frames requests, (decoder.walk start).BreaksOff memory served frames requests ∧
          frames.length + 1 ≤ decoder.limits.maxDepth ∧
          ∀ count, ReadsWithin (family.frameReads * min count (frames.length + 1))
            (((decoder.walk start).pulls count).run memory served).requests) ∧
    (∀ address, ReadsWithin family.stateReads
      ((decoder.reader.threadState address).run memory served).requests) ∧
    (∀ address, ReadsWithin (family.stateReads + family.frameReads * decoder.limits.maxDepth)
      ((decoder.capture address).run memory served).requests) ∧
    (∀ head, ReadsWithin (decoder.limits.maxThreads *
        (family.stateReads + family.frameReads * decoder.limits.maxDepth))
        ((decoder.captureAll head).run memory served).requests ∧
      ((∃ snapshot,
        decoder.ListTrace memory served [] head snapshot
          ((decoder.captureAll head).run memory served).requests ∧
        ((decoder.captureAll head).run memory served).outcome = .ok snapshot) ∨
      decoder.reader.OverflowsOn memory ∧
        ((decoder.captureAll head).run memory served).outcome = .overflow)) ∧
    family.stateReads ≤ 8 ∧ family.frameReads ≤ 18 := by
  intro family
  refine ⟨?_, fun address => decoder.readsWithin_threadState address memory served,
    fun address => decoder.readsWithin_capture address memory served, ?_, ?_⟩
  · intro start
    rcases Walk.trace_or_broken memory served (decoder.walk start) decoder.covers with
      ⟨stack, requests, t⟩ | ⟨frames, requests, t⟩
    · refine .inl ⟨stack, requests, t.yields decoder.covers, ?_, t.started_le decoder.covers,
        t.readsWithin_pulls decoder.covers⟩
      have frames : stack.frames.length ≤ decoder.limits.maxDepth := t.length_le decoder.covers
      have : stack.error.toList.length ≤ 1 := by cases stack.error <;> simp
      unfold Stack.itemCount
      omega
    · exact .inr ⟨t.overflowsOn decoder.covers, frames, requests, t.breaksOff decoder.covers,
        t.length_lt decoder.covers, t.readsWithin_pulls decoder.covers⟩
  · intro head
    refine ⟨decoder.readsWithin_captureAll head memory served, ?_⟩
    rcases decoder.captureAll_trace_or_overflow memory served head with
      ⟨snapshot, _, t, outcome, rfl⟩ | stopped
    · exact .inl ⟨snapshot, t, outcome⟩
    · exact .inr stopped
  · cases family <;> decide

end Decoder

end RemoteStack
