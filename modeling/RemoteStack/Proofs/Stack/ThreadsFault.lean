import RemoteStack.Proofs.Stack.Fault
import RemoteStack.Proofs.Stack.ThreadsOfImage

/-!
# One failing read in a list of threads

What a single read that fails makes of a capture of a process, compared with the same capture
of an image that answers every read. Each read belongs to one part of the capture: to the
state of a thread, or to a frame of its walk (`Decoder.BelongsTo`).

* **image again** — after the read that fails, the memory answers as the image does, and the
  rest of the list is what it was, however many reads came before
  (`Decoder.ListTrace.of_settles`);
* **walk** — a read of a frame cuts the stack of its thread there
  (`Walk.Trace.run_fault_within`);
* **list** — so a read of a state cuts the list, and a read of a frame damages one snapshot
  and leaves everything else as it is (`ProcessSnapshot.DamagedBy`,
  `Decoder.captureAll_under_fault`).
-/

namespace RemoteStack

/-! ## Memories that answer like an image -/

namespace Memory

/-- The memory with the read of one number failing. -/
def failingAt (memory : Memory) (number : Nat) (source : AccessError) : Memory :=
  fun n address length => if n = number then .error source else memory n address length

/-- From the read of a number on, the memory answers as the image does. -/
def SettlesOn (memory : Memory) (image : MemoryImage) (number : Nat) : Prop :=
  ∀ n, number ≤ n → memory n = Memory.ofImage image n

variable {memory : Memory} {image : MemoryImage} {number : Nat} {source : AccessError}

theorem SettlesOn.later (h : memory.SettlesOn image number) {more : Nat} (le : number ≤ more) :
    memory.SettlesOn image more := by
  intro n hn
  exact h n (Nat.le_trans le hn)

theorem failingAt_failsAt : (memory.failingAt number source).FailsAt number source :=
  fun _ _ => if_pos rfl

theorem failingAt_of_ne {n : Nat} (ne : n ≠ number) :
    memory.failingAt number source n = memory n := by
  funext address length
  exact if_neg ne

end Memory

/-- Where the memory answers as the image does, a probe runs as it does on the image. -/
theorem Probe.run_of_settles {α : Type} (probe : Probe α) {memory : Memory} {image : MemoryImage}
    {served : Nat} (settles : memory.SettlesOn image served) (first : Nat) :
    probe.run memory served = probe.run (.ofImage image) first := by
  rw [probe.run_ofImage image first served]
  apply probe.run_congr
  intro n _
  exact settles (served + n) (Nat.le_add_right _ _)

/-! ## Walks -/

namespace Walk

variable {memory other : Memory} {served number index : Nat} {walk : Walk} {stack : Stack}
  {requests : List Request} {source : AccessError}

/-- Every read of a walk is made by the pull for one of its frames. -/
theorem Trace.exists_frame_of_read (t : Trace memory served walk stack requests)
    (h : walk.resolver.reader.Covers) (made : number < requests.length) :
    ∃ index, walk.readsOf memory served index ≤ number ∧
      number < walk.readsOf memory served (index + 1) := by
  have all : walk.readsOf memory served stack.itemCount = requests.length :=
    congrArg List.length ((t.run_pulls h stack.itemCount).2.2 (Nat.le_refl _))
  rw [← all] at made
  -- one of the first pulls is the first that ends after the read
  generalize stack.itemCount = count at made
  induction count with
  | zero => exact absurd made (Nat.not_lt_zero _)
  | succ count ih =>
    by_cases before : number < walk.readsOf memory served count
    · exact ih before
    · exact ⟨count, Nat.not_lt.1 before, made⟩

/-- A read that fails while a frame is decoded cuts the stack in front of that frame. -/
theorem Trace.run_fault_within (t : Trace memory served walk stack requests)
    (h : walk.resolver.reader.Covers) (agree : Memory.AgreeFor served number memory other)
    (fails : other.FailsAt (served + number) source)
    (started : walk.readsOf memory served index ≤ number)
    (unfinished : number < walk.readsOf memory served (index + 1)) :
    ∃ request context, requests[number]? = some request ∧ index ≤ stack.frames.length ∧
      (requests.take (number + 1)).length = number + 1 ∧
      Trace other served walk
        ⟨stack.frames.take index,
          some (.unreadableMemory request.address request.length context source)⟩
        (requests.take (number + 1)) := by
  have made : number < requests.length :=
    Nat.lt_of_lt_of_le unfinished (t.run_pulls h (index + 1)).2.1.length_le
  obtain ⟨request, context, completed, hrequest, hcompleted, hother⟩ :=
    t.run_fault agree fails made
  have within : completed ≤ stack.frames.length := by
    apply Nat.le_of_not_lt
    intro beyond
    exact Nat.lt_irrefl _ ((hcompleted _).1 beyond).1
  have atMost : completed ≤ index := by
    apply Nat.le_of_not_lt
    intro beyond
    exact Nat.not_lt.2 ((hcompleted index).1 beyond).2 unfinished
  have atLeast : index ≤ completed := by
    cases index with
    | zero => exact Nat.zero_le _
    | succ last =>
      by_cases isFrame : last < stack.frames.length
      · exact (hcompleted last).2 ⟨isFrame, started⟩
      · -- after its last item the walk has made all its reads
        have enough : stack.itemCount ≤ last + 1 := by
          have : stack.error.toList.length ≤ 1 := by cases stack.error <;> simp
          unfold Stack.itemCount
          omega
        have all : walk.readsOf memory served (last + 1) = requests.length :=
          congrArg List.length ((t.run_pulls h (last + 1)).2.2 enough)
        omega
  obtain rfl : completed = index := Nat.le_antisymm atMost atLeast
  exact ⟨request, context, hrequest, within, List.length_take_of_le made, hother⟩

end Walk

/-! ## The parts of a capture -/

/-- What a read of a capture of a process is made for. -/
inductive Decoder.Part where
  /-- The state of a thread. -/
  | state
  /-- The frame of a number in the walk of a thread. -/
  | frame (index : Nat)
  deriving DecidableEq, Repr

/-- What a failure at a part of the thread of a number makes of a snapshot: in the state, it
ends the list before the thread; in a frame, it ends the stack of the thread before the frame
and leaves all else as it is. -/
def ProcessSnapshot.DamagedBy (whole damaged : ProcessSnapshot) (failure : DecodeError)
    (number : Nat) : Decoder.Part → Prop
  | .state => number ≤ whole.threads.length ∧
      damaged = ⟨whole.threads.take number, some failure⟩
  | .frame index => ∃ thread, whole.threads[number]? = some thread ∧
      index ≤ thread.frames.length ∧
      damaged = ⟨whole.threads.set number
        { thread with frames := thread.frames.take index, error := some failure }, whole.error⟩

/-- A thread in front is not damaged. -/
theorem ProcessSnapshot.DamagedBy.later {whole damaged : ProcessSnapshot} {failure : DecodeError}
    {number : Nat} {part : Decoder.Part} (h : whole.DamagedBy damaged failure number part)
    (thread : ThreadSnapshot) :
    DamagedBy ⟨thread :: whole.threads, whole.error⟩ ⟨thread :: damaged.threads, damaged.error⟩
      failure (number + 1) part := by
  cases part with
  | state =>
    obtain ⟨within, rfl⟩ := h
    exact ⟨Nat.succ_le_succ within, rfl⟩
  | frame index =>
    obtain ⟨damagedThread, hthread, within, rfl⟩ := h
    exact ⟨damagedThread, hthread, within, rfl⟩

namespace Decoder

/-- How many reads the state at an address takes on an image. -/
def stateCost (decoder : Decoder) (image : MemoryImage) (address : Address) : Nat :=
  ((decoder.reader.threadState address).readsOn image).length

/-- How many reads the capture of the thread at an address takes on an image. -/
def captureCost (decoder : Decoder) (image : MemoryImage) (address : Address) : Nat :=
  ((decoder.capture address).readsOn image).length

/-- How many reads the first frames of the walk from an address take on an image. -/
def framesCost (decoder : Decoder) (image : MemoryImage) (frame : Address) (count : Nat) : Nat :=
  (((decoder.walk frame).pulls count).readsOn image).length

/-- Along the list from `head` on an image, the read of a number is made for a part of the
thread of a number. Both are counted from zero. -/
inductive BelongsTo (decoder : Decoder) (image : MemoryImage) :
    Address → Nat → Nat → Part → Prop
  | state {head : Address} {number : Nat} : number < decoder.stateCost image head →
      BelongsTo decoder image head number 0 .state
  | frame {head : Address} {number index : Nat} {state : ThreadState} :
      (decoder.reader.threadState head).on image = .ok state →
      decoder.framesCost image state.frame index ≤ number →
      number < decoder.framesCost image state.frame (index + 1) →
      BelongsTo decoder image head (decoder.stateCost image head + number) 0 (.frame index)
  | later {head : Address} {number thread : Nat} {part : Part} {state : ThreadState} :
      (decoder.reader.threadState head).on image = .ok state →
      BelongsTo decoder image state.next number thread part →
      BelongsTo decoder image head (decoder.captureCost image head + number) (thread + 1) part

variable {decoder : Decoder} {image : MemoryImage} {other : Memory} {served number index : Nat}
  {visited : List Address} {next : Address} {snapshot : ProcessSnapshot}
  {requests : List Request} {source : AccessError}

theorem length_requests_threadState (decoder : Decoder) (image : MemoryImage) (address : Address)
    (served : Nat) :
    ((decoder.reader.threadState address).run (.ofImage image) served).requests.length =
      decoder.stateCost image address :=
  congrArg List.length (Probe.requests_ofImage _ image served)

theorem length_requests_capture (decoder : Decoder) (image : MemoryImage) (address : Address)
    (served : Nat) :
    ((decoder.capture address).run (.ofImage image) served).requests.length =
      decoder.captureCost image address :=
  congrArg List.length (Probe.requests_ofImage _ image served)

theorem readsOf_eq_framesCost (decoder : Decoder) (image : MemoryImage) (frame : Address)
    (served count : Nat) :
    (decoder.walk frame).readsOf (.ofImage image) served count =
      decoder.framesCost image frame count :=
  congrArg List.length (Probe.requests_ofImage _ image served)

/-! ## One thread -/

/-- On an image a captured thread is its state and its walk. -/
theorem exists_walk_of_capture {state : ThreadState} {thread : ThreadSnapshot}
    (hstate : ((decoder.reader.threadState next).run (.ofImage image) served).outcome = .ok state)
    (hthread : ((decoder.capture next).run (.ofImage image) served).outcome = .ok thread) :
    ∃ stack requests, (decoder.walk state.frame).Trace (.ofImage image)
        (served + decoder.stateCost image next) stack requests ∧
      thread = { toStack := stack, thread := state.threadId, threadState := state.address } ∧
      ((decoder.capture next).run (.ofImage image) served).requests =
        ((decoder.reader.threadState next).run (.ofImage image) served).requests ++ requests := by
  rcases capture_trace_or_broken hstate with
    ⟨stack, requests, t, outcome, reads⟩ | ⟨_, _, _, broken, _⟩
  · rw [length_requests_threadState] at t
    rw [hthread] at outcome
    exact ⟨stack, requests, t, Outcome.ok.inj outcome, reads⟩
  · rw [hthread] at broken
    cases broken

/-- A memory that answers all reads of a capture as the image does gives the same capture. -/
theorem run_of_agreeFor {state : ThreadState} {thread : ThreadSnapshot}
    (hstate : ((decoder.reader.threadState next).run (.ofImage image) served).outcome = .ok state)
    (hthread : ((decoder.capture next).run (.ofImage image) served).outcome = .ok thread)
    (agree : Memory.AgreeFor served (decoder.captureCost image next) (.ofImage image) other) :
    (decoder.reader.threadState next).run other served =
        (decoder.reader.threadState next).run (.ofImage image) served ∧
      (decoder.capture next).run other served =
        (decoder.capture next).run (.ofImage image) served := by
  rw [← length_requests_capture decoder image next served] at agree
  obtain ⟨_, _, _, _, reads⟩ := exists_walk_of_capture hstate hthread
  refine ⟨Probe.run_congr _ (agree.take ?_), Probe.run_congr _ agree⟩
  rw [reads, List.length_append]
  exact Nat.le_add_right _ _

/-- A read that fails in a frame of a thread cuts its stack, and the capture ends there. -/
theorem capture_of_fault {state : ThreadState} {thread : ThreadSnapshot}
    (hstate : ((decoder.reader.threadState next).run (.ofImage image) served).outcome = .ok state)
    (hthread : ((decoder.capture next).run (.ofImage image) served).outcome = .ok thread)
    (agree : Memory.AgreeFor served (decoder.stateCost image next + number) (.ofImage image) other)
    (fails : other.FailsAt (served + (decoder.stateCost image next + number)) source)
    (started : decoder.framesCost image state.frame index ≤ number)
    (unfinished : number < decoder.framesCost image state.frame (index + 1)) :
    ∃ request context, index ≤ thread.frames.length ∧
      ((decoder.capture next).run (.ofImage image) served).requests[
        decoder.stateCost image next + number]? = some request ∧
      ((decoder.reader.threadState next).run other served).outcome = .ok state ∧
      ((decoder.capture next).run other served).outcome = .ok { thread with
        frames := thread.frames.take index
        error := some (.unreadableMemory request.address request.length context source) } ∧
      ((decoder.capture next).run other served).requests.length =
        decoder.stateCost image next + number + 1 := by
  have stateReads := decoder.length_requests_threadState image next served
  obtain ⟨stack, requests, t, rfl, reads⟩ := exists_walk_of_capture hstate hthread
  -- the state is read before the read that fails, as it is on the image
  have same : (decoder.reader.threadState next).run other served =
      (decoder.reader.threadState next).run (.ofImage image) served := by
    apply Probe.run_congr
    rw [stateReads]
    exact agree.take (Nat.le_add_right _ _)
  have walkAgrees := agree.drop (decoder.stateCost image next)
  rw [Nat.add_sub_cancel_left] at walkAgrees
  rw [← Nat.add_assoc] at fails
  rw [← readsOf_eq_framesCost decoder image state.frame (served + decoder.stateCost image next)]
    at started unfinished
  obtain ⟨request, context, hrequest, within, length, cut⟩ :=
    t.run_fault_within decoder.covers walkAgrees fails started unfinished
  rw [← stateReads, ← same] at cut
  rw [← same] at hstate stateReads
  obtain ⟨outcome, faultReads⟩ := run_capture hstate cut
  refine ⟨request, context, within, ?_, hstate, outcome, ?_⟩
  · have after : ((decoder.reader.threadState next).run other served).requests.length ≤
        decoder.stateCost image next + number := by
      rw [stateReads]
      exact Nat.le_add_right _ _
    rw [reads, ← same, List.getElem?_append_right after, stateReads, Nat.add_sub_cancel_left]
    exact hrequest
  · rw [faultReads, List.length_append, length, stateReads, Nat.add_assoc]

/-! ## The list -/

namespace ListTrace

/-- A memory that answers as the image does gives the rest of the list as it is. -/
theorem of_settles
    (t : decoder.ListTrace (.ofImage image) served visited next snapshot requests) {first : Nat}
    (settles : other.SettlesOn image first) :
    ∃ requests, decoder.ListTrace other first visited next snapshot requests := by
  induction t generalizing first with
  | stopped stops => exact ⟨_, .stopped stops⟩
  | failed may hstate =>
    rw [← Probe.run_of_settles _ settles] at hstate
    exact ⟨_, .failed may hstate⟩
  | thread may hstate hthread _ ih =>
    rw [← Probe.run_of_settles _ settles] at hstate hthread
    obtain ⟨requests, t⟩ := ih (settles.later (Nat.le_add_right _ _))
    exact ⟨_, .thread may hstate hthread t⟩

/-- A read that fails in the state of the next thread ends the list there. -/
theorem of_fault_in_state (may : decoder.MayCapture visited next)
    (agree : Memory.AgreeFor served number (.ofImage image) other)
    (fails : other.FailsAt (served + number) source)
    (made : number < decoder.stateCost image next) :
    ∃ request context requests,
      ((decoder.reader.threadState next).run (.ofImage image) served).requests[number]? =
        some request ∧
      decoder.ListTrace other served visited next
        ⟨[], some (.unreadableMemory request.address request.length context source)⟩ requests := by
  rw [← length_requests_threadState decoder image next served] at made
  obtain ⟨request, context, hrequest, houtcome, _⟩ :=
    (decoder.reader.threadState_strict next).run_fault agree fails made
  exact ⟨request, context, _, hrequest, .failed may houtcome⟩

/-- A read that fails damages the snapshot where it belongs, and nothing else. -/
theorem run_fault (t : decoder.ListTrace (.ofImage image) served visited next snapshot requests)
    {thread : Nat} {part : Part} (belongs : decoder.BelongsTo image next number thread part)
    (made : number < requests.length)
    (agree : Memory.AgreeFor served number (.ofImage image) other)
    (fails : other.FailsAt (served + number) source)
    (settles : other.SettlesOn image (served + number + 1)) :
    ∃ request context damaged damagedRequests, requests[number]? = some request ∧
      decoder.ListTrace other served visited next damaged damagedRequests ∧
      snapshot.DamagedBy damaged
        (.unreadableMemory request.address request.length context source) thread part := by
  induction t generalizing number thread with
  | stopped => exact absurd made (Nat.not_lt_zero _)
  | @failed served visited next error may hstate =>
    cases belongs with
    | state within =>
      obtain ⟨request, context, requests, hrequest, faulty⟩ :=
        of_fault_in_state may agree fails within
      exact ⟨request, context, _, requests, hrequest, faulty, Nat.zero_le _, rfl⟩
    | frame read | later read =>
      -- the state that cannot be read leads nowhere
      rw [Probe.outcome_ofImage, read] at hstate
      cases hstate
  | @thread served visited next state captured rest requests may hstate hthread t ih =>
    have captureReads := length_requests_capture decoder image next served
    cases belongs with
    | state within =>
      obtain ⟨request, context, requests, hrequest, faulty⟩ :=
        of_fault_in_state may agree fails within
      obtain ⟨_, _, _, _, reads⟩ := exists_walk_of_capture hstate hthread
      refine ⟨request, context, _, requests, ?_, faulty, Nat.zero_le _, rfl⟩
      rw [reads, List.append_assoc, List.getElem?_append_left, hrequest]
      rw [length_requests_threadState]
      exact within
    | @frame _ number index readState read started unfinished =>
      obtain rfl : readState = state := by
        rw [Probe.outcome_ofImage, read] at hstate
        exact Outcome.ok.inj hstate
      obtain ⟨request, context, within, hrequest, hstate, hdamaged, length⟩ :=
        capture_of_fault hstate hthread agree fails started unfinished
      obtain ⟨restRequests, hrest⟩ := t.of_settles settles
      rw [Nat.add_assoc, ← length] at hrest
      refine ⟨request, context, _, _, ?_, .thread may hstate hdamaged hrest, captured, rfl, within,
        rfl⟩
      have made := (List.getElem?_eq_some_iff.1 hrequest).1
      rw [List.getElem?_append_left made, hrequest]
    | @later _ number thread part readState read belongs =>
      obtain rfl : readState = state := by
        rw [Probe.outcome_ofImage, read] at hstate
        exact Outcome.ok.inj hstate
      -- this thread is captured before the read that fails, as it is on the image
      obtain ⟨sameState, sameCapture⟩ :=
        run_of_agreeFor hstate hthread (agree.take (Nat.le_add_right _ number))
      rw [← captureReads] at agree fails settles made ⊢
      have later := agree.drop ((decoder.capture next).run (.ofImage image) served).requests.length
      rw [Nat.add_sub_cancel_left] at later
      rw [← Nat.add_assoc] at fails settles
      rw [List.length_append] at made
      obtain ⟨request, context, damaged, damagedRequests, hrequest, faulty, hdamaged⟩ :=
        ih belongs (Nat.lt_of_add_lt_add_left made) later fails settles
      rw [← sameState] at hstate
      rw [← sameCapture] at hthread faulty
      refine ⟨request, context, _, _, ?_, .thread may hstate hthread faulty,
        hdamaged.later captured⟩
      rw [List.getElem?_append_right (Nat.le_add_right _ _), Nat.add_sub_cancel_left, hrequest]

/-- Every read of a list is made for a part of a thread. -/
theorem exists_belongsTo
    (t : decoder.ListTrace (.ofImage image) served visited next snapshot requests)
    (made : number < requests.length) :
    ∃ thread part, decoder.BelongsTo image next number thread part := by
  induction t generalizing number with
  | stopped => exact absurd made (Nat.not_lt_zero _)
  | failed =>
    rw [length_requests_threadState] at made
    exact ⟨0, .state, .state made⟩
  | @thread served visited next state captured rest requests may hstate hthread t ih =>
    obtain ⟨stack, walkRequests, walk, _, reads⟩ := exists_walk_of_capture hstate hthread
    have captureReads := length_requests_capture decoder image next served
    have split := congrArg List.length reads
    rw [captureReads, List.length_append, length_requests_threadState] at split
    rw [List.length_append, captureReads] at made
    rw [Probe.outcome_ofImage] at hstate
    by_cases inState : number < decoder.stateCost image next
    · exact ⟨0, .state, .state inState⟩
    obtain ⟨rest, rfl⟩ := Nat.exists_eq_add_of_le (Nat.not_lt.1 inState)
    by_cases inWalk : rest < walkRequests.length
    · obtain ⟨index, started, unfinished⟩ := walk.exists_frame_of_read decoder.covers inWalk
      rw [readsOf_eq_framesCost] at started unfinished
      exact ⟨0, .frame index, .frame hstate started unfinished⟩
    · obtain ⟨later, rfl⟩ := Nat.exists_eq_add_of_le (Nat.not_lt.1 inWalk)
      rw [← Nat.add_assoc, ← split] at made ⊢
      obtain ⟨thread, part, belongs⟩ := ih (Nat.lt_of_add_lt_add_left made)
      exact ⟨thread + 1, part, .later hstate belongs⟩

end ListTrace

/-- Where one read of a capture of a process fails, and the image answers all others, the capture
has a result if it has one without the failure, that is, unless a text overflows. A failure in the
state of a thread ends the list there, and keeps the snapshots of the threads before. A failure in
a frame ends the stack of its thread before that frame, and every other snapshot and the end of the
list are what they were. -/
theorem captureAll_under_fault (decoder : Decoder) (image : MemoryImage) (head : Address)
    {number : Nat} (source : AccessError)
    (made : number < ((decoder.captureAll head).readsOn image).length) :
    (∃ whole damaged request,
      (decoder.captureAll head).on image = .ok whole ∧
      ((decoder.captureAll head).run ((Memory.ofImage image).failingAt number source) 0).outcome =
        .ok damaged ∧
      ((decoder.captureAll head).readsOn image)[number]? = some request ∧
      (∃ thread part, decoder.BelongsTo image head number thread part) ∧
      ∀ thread part, decoder.BelongsTo image head number thread part →
        ∃ context, whole.DamagedBy damaged
          (.unreadableMemory request.address request.length context source) thread part) ∨
    decoder.reader.OverflowsOn (.ofImage image) ∧
      (decoder.captureAll head).on image = .overflow := by
  rcases decoder.captureAll_trace_or_overflow (.ofImage image) 0 head with
    ⟨whole, requests, t, outcome, reads⟩ | ⟨text, outcome⟩
  · rw [Probe.outcome_ofImage] at outcome
    rw [Probe.requests_ofImage] at reads
    rw [reads] at made ⊢
    have agree : Memory.AgreeFor 0 number (.ofImage image)
        ((Memory.ofImage image).failingAt number source) := by
      intro n hn
      exact Memory.failingAt_of_ne (by omega)
    have fails : ((Memory.ofImage image).failingAt number source).FailsAt (0 + number) source := by
      rw [Nat.zero_add]
      exact Memory.failingAt_failsAt
    have settles : ((Memory.ofImage image).failingAt number source).SettlesOn image
        (0 + number + 1) := by
      intro n hn
      exact Memory.failingAt_of_ne (by omega)
    -- the read belongs to some part, and the run with the fault has a trace for that reason
    obtain ⟨thread, part, belongs⟩ := t.exists_belongsTo made
    obtain ⟨_, _, damaged, _, _, faulty, _⟩ := t.run_fault belongs made agree fails settles
    refine .inl ⟨whole, damaged, requests[number], outcome, faulty.run_captureAll.1,
      List.getElem?_eq_getElem made, ⟨thread, part, belongs⟩, ?_⟩
    intro thread part belongs
    obtain ⟨request, context, found, foundRequests, hrequest, hfound, hdamaged⟩ :=
      t.run_fault belongs made agree fails settles
    -- the memory with the fault gives one snapshot, whatever part the read is counted for
    obtain rfl : found = damaged := by
      have same := hfound.run_captureAll.1
      rw [faulty.run_captureAll.1] at same
      exact (Outcome.ok.inj same).symm
    rw [List.getElem?_eq_getElem made] at hrequest
    obtain rfl := Option.some.inj hrequest
    exact ⟨context, hdamaged⟩
  · rw [Probe.outcome_ofImage] at outcome
    exact .inr ⟨text, outcome⟩

/-- Two threads, the first of which runs one frame without a code object. The second read of
the frame fails: its thread loses the frame, and the other thread is what it was. -/
theorem captureAll_fault_in_frame :
    let decoder : Decoder :=
      { version := ⟨⟨2, 7⟩, .python2, ⟨.eight, .lp64⟩, by decide, by decide⟩ }
    let head : Address := .ofNat 0x1000
    let state : Bytes := [0, 0x30, 0, 0, 0, 0, 0, 0] ++ List.replicate 8 0 ++ [0, 0x20] ++
      List.replicate 200 0
    let image := ((MemoryImage.empty.map head state).map
      (.ofNat 0x2000) (List.replicate 400 0)).map (.ofNat 0x3000) (List.replicate 200 0)
    7 < ((decoder.captureAll head).readsOn image).length ∧
      decoder.BelongsTo image head 7 0 (.frame 0) ∧
      ∃ context, ((decoder.captureAll head).run
          ((Memory.ofImage image).failingAt 7 (.refused "gone")) 0).outcome = .ok {
        threads := [
          ⟨⟨[], some (.unreadableMemory (.ofNat 0x2020) 8 context (.refused "gone"))⟩, ⟨0⟩, head⟩,
          ⟨⟨[], none⟩, ⟨0⟩, .ofNat 0x3000⟩]
        error := none } := by
  intro decoder head state image
  have made : 7 < ((decoder.captureAll head).readsOn image).length := by
    decide +kernel
  have hstate : (decoder.reader.threadState head).on image =
      .ok ⟨head, .ofNat 0x3000, .null, .ofNat 0x2000, 0, ⟨0⟩, false, none⟩ := by
    apply Outcome.eq_ok_of_toOption
    decide +kernel
  have belongs : decoder.BelongsTo image head (decoder.stateCost image head + 1) 0 (.frame 0) :=
    .frame hstate (by decide) (by decide +kernel)
  rw [show decoder.stateCost image head = 6 by decide +kernel] at belongs
  obtain ⟨whole, damaged, request, hwhole, hdamaged, hrequest, _, h⟩ :=
    (decoder.captureAll_under_fault image head (.refused "gone") made).resolve_right
      fun stopped => absurd (stopped.1.family decoder.covers) (by decide)
  refine ⟨made, belongs, ?_⟩
  obtain ⟨context, damage⟩ := h 0 (.frame 0) belongs
  have undamaged : (decoder.captureAll head).on image = .ok {
      threads := [
        ⟨⟨[⟨0, .ofNat 0x2000, "<unknown>", "<unknown>", 0, .unknown, none⟩], none⟩, ⟨0⟩, head⟩,
        ⟨⟨[], none⟩, ⟨0⟩, .ofNat 0x3000⟩]
      error := none } := by
    apply Outcome.eq_ok_of_toOption
    decide +kernel
  have address : ((decoder.captureAll head).readsOn image)[7]? = some ⟨.ofNat 0x2020, 8⟩ := by
    decide +kernel
  rw [hwhole] at undamaged
  cases undamaged
  rw [address] at hrequest
  cases hrequest
  obtain ⟨_, ⟨⟩, _, rfl⟩ := damage
  exact ⟨context, hdamaged⟩

end Decoder

end RemoteStack
