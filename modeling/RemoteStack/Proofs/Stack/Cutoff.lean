import RemoteStack.Proofs.Memory.Region
import RemoteStack.Proofs.Stack.ThreadsOfImage

/-!
# Smaller limits

A limit on frames or threads cuts what is captured, and alters nothing before the cut. Compared
are two runs on the same memory that differ in the limit alone (`Cutoff`):

* **step** — a pull does the same under another limit, unless one of the limits is reached
  (`Walk.pull_under`);
* **frames** — so a walk under a smaller limit yields the first frames of the other, and comes to
  the same end if that is before the limit. At the limit it ends with the chain if the link behind
  the last frame is null, and otherwise because the chain goes on (`Walk.Trace.cut`), even where the
  other breaks off later (`Walk.BrokenTrace.cut`);
* **threads** — the capture of a thread does not depend on the limit on threads
  (`Decoder.capture_withMaxThreads`), and a list of threads is cut as a chain of frames is
  (`Decoder.ListTrace.cut`, `Decoder.BrokenListTrace.cut`).

`Decoder.limits_cut` is the law for both.
-/

namespace RemoteStack

/-! ## Two runs -/

/-- What a smaller limit, which leaves room for some items, makes of a run: the first items after
the same reads. If the items are fewer nothing changes, and otherwise the end is that of a
limit. -/
structure Cutoff {Item : Type} (room : Nat) (AtLimit : Option DecodeError → Prop)
    (items cut : List Item) (error cutError : Option DecodeError)
    (requests cutRequests : List Request) : Prop where
  first : cut = items.take room
  reads : cutRequests <+: requests
  short : items.length < room → cutError = error ∧ cutRequests = requests
  full : room ≤ items.length → AtLimit cutError

namespace Cutoff

variable {Item : Type} {room : Nat} {AtLimit AtLimit' : Option DecodeError → Prop}
  {items cut : List Item} {error cutError : Option DecodeError}
  {requests cutRequests : List Request}

/-- A limit that is reached leaves no item. -/
theorem atLimit (h : AtLimit cutError) :
    Cutoff 0 AtLimit items [] error cutError requests [] where
  first := rfl
  reads := List.nil_prefix
  short few := absurd few (Nat.not_lt_zero _)
  full _ := h

/-- A limit that is not reached leaves a run without items as it is. -/
theorem ended (pos : 0 < room) :
    Cutoff room AtLimit ([] : List Item) [] error error requests requests where
  first := List.take_nil.symm
  reads := List.prefix_rfl
  short _ := ⟨rfl, rfl⟩
  full few := absurd pos (Nat.not_lt.2 few)

theorem cons (h : Cutoff room AtLimit items cut error cutError requests cutRequests)
    (hlimit : ∀ error, AtLimit error → AtLimit' error) (item : Item) (made : List Request) :
    Cutoff (room + 1) AtLimit' (item :: items) (item :: cut) error cutError (made ++ requests)
      (made ++ cutRequests) where
  first := congrArg (item :: ·) h.first
  reads := (List.prefix_append_right_inj made).2 h.reads
  short few := by
    obtain ⟨same, all⟩ := h.short (Nat.lt_of_succ_lt_succ few)
    exact ⟨same, congrArg (made ++ ·) all⟩
  full enough := hlimit cutError (h.full (Nat.le_of_succ_le_succ enough))

theorem mono (h : Cutoff room AtLimit items cut error cutError requests cutRequests)
    (hlimit : ∀ error, AtLimit error → AtLimit' error) :
    Cutoff room AtLimit' items cut error cutError requests cutRequests :=
  ⟨h.first, h.reads, h.short, fun enough => hlimit cutError (h.full enough)⟩

end Cutoff

/-! ## Frames -/

/-- The end of a walk at its limit: without a failure if its chain has ended, and otherwise given
up at the next link. -/
def Stack.AtLimit (start : Address) (limit : Nat) (frames : List Frame)
    (error : Option DecodeError) : Prop :=
  error = (pending start frames).map (.corruptedChain · limit .depthExceeded)

namespace Walk

/-- The walk with another resolver and another limit. -/
def under (walk : Walk) (resolver : Resolver) (maxDepth : Nat) : Walk :=
  { walk with resolver, maxDepth }

variable {memory : Memory} {served : Nat} {walk : Walk} {resolver : Resolver} {maxDepth : Nat}
  {stack : Stack} {frames : List Frame} {requests : List Request}

/-- A pull does the same under another limit, if both limits are reached or none is. -/
theorem pull_under (decodes : (walk.under resolver maxDepth).decode = walk.decode)
    (same : maxDepth ≤ walk.depth ↔ walk.maxDepth ≤ walk.depth) :
    (walk.under resolver maxDepth).pull =
      walk.pull.bind fun pulled => .done (pulled.1, pulled.2.under resolver maxDepth) := by
  unfold pull
  rw [decodes]
  simp only [Probe.bind_eq, Probe.pure_eq]
  change (if walk.isFinished || walk.next.isNull then _ else if maxDepth ≤ walk.depth then _ else
    if walk.visited.contains walk.next then _ else _) = _
  by_cases ended : walk.isFinished || walk.next.isNull
  · rw [if_pos ended, if_pos ended]
    rfl
  rw [if_neg ended, if_neg ended]
  by_cases deep : walk.maxDepth ≤ walk.depth
  · rw [if_pos deep, if_pos (same.2 deep)]
    rfl
  rw [if_neg deep, if_neg (mt same.1 deep)]
  by_cases visited : walk.visited.contains walk.next
  · rw [if_pos visited, if_pos visited]
    rfl
  rw [if_neg visited, if_neg visited, Probe.bind_assoc]
  congr 1
  funext decoded
  cases decoded <;> rfl

theorem run_pull_under (decodes : (walk.under resolver maxDepth).decode = walk.decode)
    (same : maxDepth ≤ walk.depth ↔ walk.maxDepth ≤ walk.depth) {item : Item} {next : Walk}
    (hrun : (walk.pull.run memory served).outcome = .ok (item, next)) :
    ((walk.under resolver maxDepth).pull.run memory served).outcome =
        .ok (item, next.under resolver maxDepth) ∧
      ((walk.under resolver maxDepth).pull.run memory served).requests =
        (walk.pull.run memory served).requests := by
  rw [pull_under decodes same, Probe.outcome_bind_of_ok hrun, Probe.requests_bind_done]
  exact ⟨rfl, rfl⟩

theorem run_pull_under_overflow (decodes : (walk.under resolver maxDepth).decode = walk.decode)
    (same : maxDepth ≤ walk.depth ↔ walk.maxDepth ≤ walk.depth)
    (broken : (walk.pull.run memory served).outcome = .overflow) :
    ((walk.under resolver maxDepth).pull.run memory served).outcome = .overflow ∧
      ((walk.under resolver maxDepth).pull.run memory served).requests =
        (walk.pull.run memory served).requests := by
  rw [pull_under decodes same, Probe.requests_bind_done]
  exact ⟨Probe.outcome_bind_of_overflow broken, rfl⟩

/-- A walk whose limit is reached reads nothing more. -/
theorem trace_at_limit (running : walk.isFinished = false) (full : walk.maxDepth = walk.depth) :
    ∃ error, walk.Trace memory served ⟨[], error⟩ [] ∧
      Stack.AtLimit walk.next walk.depth [] error := by
  by_cases null : walk.next.isNull
  · refine ⟨none, .ended (.inr null), ?_⟩
    simp [Stack.AtLimit, Stack.pending, Address.nonNull?, null]
  · have notEnded : ¬walk.HasEnded := by simp [HasEnded, running, null]
    have deep := pull_of_deep notEnded (Nat.le_of_eq full)
    have outcome : (walk.pull.run memory served).outcome =
        .ok (some (.error (.corruptedChain walk.next walk.depth .depthExceeded)), walk.finish) := by
      rw [deep]
      rfl
    have silent : (walk.pull.run memory served).requests = [] := by
      rw [deep]
      rfl
    have failed : walk.Trace memory served _ _ := .failed outcome
    rw [silent] at failed
    refine ⟨_, failed, ?_⟩
    simp [Stack.AtLimit, Stack.pending, Address.nonNull?, null]

theorem cut_at_limit (running : walk.isFinished = false) (frames : List Frame)
    (error : Option DecodeError) (requests : List Request) :
    ∃ cut cutRequests,
      (walk.under walk.resolver walk.depth).Trace memory served cut cutRequests ∧
      Cutoff (walk.depth - walk.depth) (Stack.AtLimit walk.next walk.depth cut.frames) frames
        cut.frames error cut.error requests cutRequests := by
  obtain ⟨_, trace, atLimit⟩ : ∃ error,
      (walk.under walk.resolver walk.depth).Trace memory served ⟨[], error⟩ [] ∧
        Stack.AtLimit walk.next walk.depth [] error := trace_at_limit running rfl
  rw [Nat.sub_self]
  exact ⟨_, _, trace, .atLimit atLimit⟩

/-- A frame that is pulled below both limits stands in front of the cut that comes behind it. -/
theorem cut_frame (h : walk.resolver.reader.Covers) {limit : Nat} (below : walk.depth < limit)
    (le : limit ≤ walk.maxDepth) {frame : Frame}
    (hrun : (walk.pull.run memory served).outcome = .ok (some (.ok frame), walk.advance frame))
    {cut : Stack} {error : Option DecodeError} {cutRequests : List Request}
    (rest : ((walk.advance frame).under walk.resolver limit).Trace memory
      (served + (walk.pull.run memory served).requests.length) cut cutRequests)
    (cutoff : Cutoff (limit - (walk.advance frame).depth)
      (Stack.AtLimit (walk.advance frame).next limit cut.frames) frames cut.frames error cut.error
      requests cutRequests) :
    ∃ cut cutRequests, (walk.under walk.resolver limit).Trace memory served cut cutRequests ∧
      Cutoff (limit - walk.depth) (Stack.AtLimit walk.next limit cut.frames) (frame :: frames)
        cut.frames error cut.error ((walk.pull.run memory served).requests ++ requests)
        cutRequests := by
  have same : limit ≤ walk.depth ↔ walk.maxDepth ≤ walk.depth := by omega
  obtain ⟨outcome, reads⟩ := run_pull_under rfl same hrun
  cases pulled_of_run h hrun with
  | @frame _ link may index address previous =>
    rw [← reads] at rest
    refine ⟨_, _, .frame outcome rest, ?_⟩
    have room : limit - walk.depth = limit - (walk.advance frame).depth + 1 := by
      rw [depth_advance]
      omega
    rw [reads, room]
    refine cutoff.cons ?_ frame _
    -- a link that was left out stands for null, so the walk goes on at the link itself
    intro error atLimit
    show error = (Stack.pending walk.next (frame :: cut.frames)).map _
    rw [Stack.pending_cons previous]
    have next : (walk.advance frame).next = link := by
      show frame.previous.getD .null = link
      rw [previous, Address.getD_nonNull?]
    rwa [next] at atLimit

/-- A walk under a smaller limit, which is not passed yet, yields the first frames. -/
theorem Trace.cut (t : Trace memory served walk stack requests)
    (h : walk.resolver.reader.Covers) (running : walk.isFinished = false) {limit : Nat}
    (within : walk.depth ≤ limit) (le : limit ≤ walk.maxDepth) :
    ∃ cut cutRequests, (walk.under walk.resolver limit).Trace memory served cut cutRequests ∧
      Cutoff (limit - walk.depth) (Stack.AtLimit walk.next limit cut.frames) stack.frames
        cut.frames stack.error cut.error requests cutRequests := by
  induction t with
  | @ended served walk ended =>
    obtain rfl | below := Nat.eq_or_lt_of_le within
    · exact cut_at_limit running _ _ _
    · exact ⟨_, _, .ended ended, .ended (Nat.sub_pos_of_lt below)⟩
  | @failed served walk next error hrun =>
    obtain rfl | below := Nat.eq_or_lt_of_le within
    · exact cut_at_limit running _ _ _
    · have same : limit ≤ walk.depth ↔ walk.maxDepth ≤ walk.depth := by omega
      obtain ⟨outcome, reads⟩ := run_pull_under rfl same hrun
      exact ⟨_, _, .failed outcome, reads ▸ .ended (Nat.sub_pos_of_lt below)⟩
  | @frame served walk next frame stack requests hrun _ ih =>
    obtain rfl | below := Nat.eq_or_lt_of_le within
    · exact cut_at_limit running (stack.push frame).frames _ _
    · obtain ⟨_, rfl⟩ := eq_advance_of_frame h hrun
      obtain ⟨cut, cutRequests, rest, cutoff⟩ := ih h running below le
      exact cut_frame h below le hrun rest cutoff

/-- A walk under a smaller limit breaks off where the other does, or it yields as many frames as it
may before that. -/
theorem BrokenTrace.cut (t : BrokenTrace memory served walk frames requests)
    (h : walk.resolver.reader.Covers) (running : walk.isFinished = false) {limit : Nat}
    (within : walk.depth ≤ limit) (le : limit ≤ walk.maxDepth) :
    (frames.length < limit - walk.depth ∧
      (walk.under walk.resolver limit).BrokenTrace memory served frames requests) ∨
    limit - walk.depth ≤ frames.length ∧
      ∃ cut cutRequests, (walk.under walk.resolver limit).Trace memory served cut cutRequests ∧
        Cutoff (limit - walk.depth) (Stack.AtLimit walk.next limit cut.frames) frames cut.frames
          none cut.error requests cutRequests := by
  induction t with
  | @overflow served walk broken =>
    obtain rfl | below := Nat.eq_or_lt_of_le within
    · exact .inr ⟨Nat.le_of_eq (Nat.sub_self _), cut_at_limit running _ _ _⟩
    · have same : limit ≤ walk.depth ↔ walk.maxDepth ≤ walk.depth := by omega
      obtain ⟨outcome, reads⟩ := run_pull_under_overflow rfl same broken
      exact .inl ⟨Nat.sub_pos_of_lt below, reads ▸ .overflow outcome⟩
  | @frame served walk next frame frames requests hrun _ ih =>
    obtain rfl | below := Nat.eq_or_lt_of_le within
    · refine .inr ⟨?_, cut_at_limit running _ _ _⟩
      rw [Nat.sub_self]
      exact Nat.zero_le _
    · obtain ⟨_, rfl⟩ := eq_advance_of_frame h hrun
      have same : limit ≤ walk.depth ↔ walk.maxDepth ≤ walk.depth := by omega
      have room : limit - walk.depth = limit - (walk.advance frame).depth + 1 := by
        rw [depth_advance]
        omega
      rw [room, List.length_cons, Nat.succ_lt_succ_iff, Nat.succ_le_succ_iff, ← room]
      rcases ih h running below le with ⟨few, rest⟩ | ⟨enough, cut, cutRequests, rest, cutoff⟩
      · obtain ⟨outcome, reads⟩ := run_pull_under rfl same hrun
        rw [← reads] at rest ⊢
        exact .inl ⟨few, .frame outcome rest⟩
      · exact .inr ⟨enough, cut_frame h below le hrun rest cutoff⟩

/-- A walk whose resolver decodes in the same way has the same trace. -/
theorem Trace.under (t : Trace memory served walk stack requests)
    (h : walk.resolver.reader.Covers)
    (decodes : ∀ other : Walk, other.resolver = walk.resolver →
      (other.under resolver other.maxDepth).decode = other.decode) :
    (walk.under resolver walk.maxDepth).Trace memory served stack requests := by
  induction t with
  | ended ended => exact .ended ended
  | @failed served walk next error hrun =>
    obtain ⟨outcome, reads⟩ := run_pull_under (decodes walk rfl) Iff.rfl hrun
    exact reads ▸ .failed outcome
  | @frame served walk next frame stack requests hrun _ ih =>
    obtain ⟨outcome, reads⟩ := run_pull_under (decodes walk rfl) Iff.rfl hrun
    obtain ⟨_, rfl⟩ := eq_advance_of_frame h hrun
    have rest := ih h decodes
    rw [← reads] at rest ⊢
    exact .frame outcome rest

theorem BrokenTrace.under (t : BrokenTrace memory served walk frames requests)
    (h : walk.resolver.reader.Covers)
    (decodes : ∀ other : Walk, other.resolver = walk.resolver →
      (other.under resolver other.maxDepth).decode = other.decode) :
    (walk.under resolver walk.maxDepth).BrokenTrace memory served frames requests := by
  induction t with
  | @overflow served walk broken =>
    obtain ⟨outcome, reads⟩ := run_pull_under_overflow (decodes walk rfl) Iff.rfl broken
    exact reads ▸ .overflow outcome
  | @frame served walk next frame frames requests hrun _ ih =>
    obtain ⟨outcome, reads⟩ := run_pull_under (decodes walk rfl) Iff.rfl hrun
    obtain ⟨_, rfl⟩ := eq_advance_of_frame h hrun
    have rest := ih h decodes
    rw [← reads] at rest ⊢
    exact .frame outcome rest

end Walk

/-! ## Threads -/

namespace Decoder

variable {decoder : Decoder} {image : MemoryImage} {memory : Memory} {served : Nat}
  {visited : List Address} {next : Address} {snapshot : ProcessSnapshot} {requests : List Request}

/-- The decoder with another limit on threads. -/
def withMaxThreads (decoder : Decoder) (count : Nat) : Decoder :=
  { decoder with limits := { decoder.limits with maxThreads := count } }

/-- How many threads may be captured does not matter to the capture of one. -/
theorem capture_withMaxThreads (decoder : Decoder) (count : Nat) (address : Address)
    (memory : Memory) (served : Nat) :
    (((decoder.withMaxThreads count).capture address).run memory served).outcome =
        ((decoder.capture address).run memory served).outcome ∧
      (((decoder.withMaxThreads count).capture address).run memory served).requests =
        ((decoder.capture address).run memory served).requests := by
  cases hstate : ((decoder.reader.threadState address).run memory served).outcome with
  | error error =>
    have unread : (((decoder.withMaxThreads count).reader.threadState address).run memory
      served).outcome = .error error := hstate
    unfold capture
    simp only [Probe.bind_eq]
    rw [Probe.outcome_bind_of_error hstate, Probe.outcome_bind_of_error unread,
      Probe.requests_bind_of_error hstate, Probe.requests_bind_of_error unread]
    exact ⟨rfl, rfl⟩
  | overflow => exact absurd hstate (decoder.threadState_ne_overflow address memory served)
  | ok state =>
    have other : (((decoder.withMaxThreads count).reader.threadState address).run memory
      served).outcome = .ok state := hstate
    -- the limit on threads is in the resolvers, but nothing that they decode depends on it
    have decodes (walk : Walk) (same : walk.resolver = decoder.resolver) :
        (walk.under (decoder.withMaxThreads count).resolver walk.maxDepth).decode =
          walk.decode := by
      obtain ⟨_, _, _, _, _⟩ := walk
      cases same
      rfl
    rcases capture_trace_or_broken hstate with ⟨_, _, t, outcome, reads⟩ | ⟨_, _, t, outcome, reads⟩
    · rw [outcome, reads]
      exact run_capture other (t.under decoder.covers decodes)
    · rw [outcome, reads]
      exact run_capture_of_broken other (t.under decoder.covers decodes)

theorem threadAt?_withMaxThreads (decoder : Decoder) (count : Nat) (image : MemoryImage)
    (head : Address) (number : Nat) :
    (decoder.withMaxThreads count).threadAt? image head number =
      decoder.threadAt? image head number := by
  induction number generalizing head with
  | zero => rfl
  | succ number ih =>
    cases state : (decoder.reader.threadState head).on image with
    | ok found =>
      have same : ((decoder.withMaxThreads count).reader.threadState head).on image = .ok found :=
        state
      rw [threadAt?_succ state, threadAt?_succ same, ih]
    | error failure =>
      have same : ((decoder.withMaxThreads count).reader.threadState head).on image =
          .error failure := state
      rw [threadAt?, threadAt?, state, same]
    | overflow =>
      have same : ((decoder.withMaxThreads count).reader.threadState head).on image =
          .overflow := state
      rw [threadAt?, threadAt?, state, same]

/-- The end of a list at its limit: without a failure if there are no more threads, and otherwise
given up at the next state. -/
def AtLimit (decoder : Decoder) (image : MemoryImage) (head : Address) (room limit : Nat)
    (error : Option DecodeError) : Prop :=
  ∃ link, decoder.threadAt? image head room = some link ∧
    error = link.nonNull?.map (.corruptedChain · limit .depthExceeded)

/-- A list whose limit is reached reads nothing more. -/
theorem stopsAt_limit (full : decoder.limits.maxThreads = visited.length) :
    decoder.StopsAt visited next
      (next.nonNull?.map (.corruptedChain · visited.length .depthExceeded)) := by
  unfold Address.nonNull?
  by_cases null : next.isNull
  · rw [if_pos null]
    exact .ended null
  · rw [if_neg null]
    exact .deep null (Nat.le_of_eq full)

/-- Below both limits a list stops where it stopped. -/
theorem StopsAt.withMaxThreads {error? : Option DecodeError} {limit : Nat}
    (h : decoder.StopsAt visited next error?) (below : visited.length < limit)
    (le : limit ≤ decoder.limits.maxThreads) :
    (decoder.withMaxThreads limit).StopsAt visited next error? := by
  cases h with
  | ended null => exact .ended null
  | deep _ deep => omega
  | cycle nonNull _ again => exact .cycle nonNull below again

theorem cut_at_limit (threads : List ThreadSnapshot) (error : Option DecodeError)
    (requests : List Request) :
    ∃ cut cutRequests,
      (decoder.withMaxThreads visited.length).ListTrace (.ofImage image) served visited next cut
        cutRequests ∧
      Cutoff (visited.length - visited.length)
        (decoder.AtLimit image next (visited.length - visited.length) visited.length)
        threads cut.threads error cut.error requests cutRequests := by
  rw [Nat.sub_self]
  exact ⟨_, _, .stopped (stopsAt_limit rfl), .atLimit ⟨next, rfl, rfl⟩⟩

/-- A thread that is captured below both limits stands in front of the cut that comes behind it. -/
theorem cut_thread {limit : Nat} (below : visited.length < limit)
    {state : ThreadState} {thread : ThreadSnapshot} (may : decoder.MayCapture visited next)
    (hstate : ((decoder.reader.threadState next).run (.ofImage image) served).outcome = .ok state)
    (hthread : ((decoder.capture next).run (.ofImage image) served).outcome = .ok thread)
    {threads : List ThreadSnapshot} {error : Option DecodeError} {cut : ProcessSnapshot}
    {cutRequests : List Request}
    (rest : (decoder.withMaxThreads limit).ListTrace (.ofImage image)
      (served + ((decoder.capture next).run (.ofImage image) served).requests.length)
      (next :: visited) state.next cut cutRequests)
    (cutoff : Cutoff (limit - (next :: visited).length)
      (decoder.AtLimit image state.next (limit - (next :: visited).length) limit)
      threads cut.threads error cut.error requests cutRequests) :
    ∃ cut cutRequests,
      (decoder.withMaxThreads limit).ListTrace (.ofImage image) served visited next cut
        cutRequests ∧
      Cutoff (limit - visited.length)
        (decoder.AtLimit image next (limit - visited.length) limit)
        (thread :: threads) cut.threads error cut.error
        (((decoder.capture next).run (.ofImage image) served).requests ++ requests)
        cutRequests := by
  obtain ⟨outcome, reads⟩ := decoder.capture_withMaxThreads limit next (.ofImage image) served
  rw [← reads] at rest
  refine ⟨_, _, .thread ⟨may.nonNull, below, may.notVisited⟩ hstate (outcome.trans hthread) rest,
    ?_⟩
  have room : limit - visited.length = limit - (next :: visited).length + 1 := by
    rw [List.length_cons]
    omega
  rw [Probe.outcome_ofImage] at hstate
  rw [reads, room]
  refine cutoff.cons ?_ thread _
  rintro error ⟨link, reached, atLimit⟩
  exact ⟨link, (threadAt?_succ hstate _).trans reached, atLimit⟩

/-- A list under a smaller limit, which is not passed yet, gives the first threads. -/
theorem ListTrace.cut (t : decoder.ListTrace (.ofImage image) served visited next snapshot requests)
    {limit : Nat} (within : visited.length ≤ limit) (le : limit ≤ decoder.limits.maxThreads) :
    ∃ cut cutRequests,
      (decoder.withMaxThreads limit).ListTrace (.ofImage image) served visited next cut
        cutRequests ∧
      Cutoff (limit - visited.length)
        (decoder.AtLimit image next (limit - visited.length) limit)
        snapshot.threads cut.threads snapshot.error cut.error requests cutRequests := by
  induction t with
  | stopped stops =>
    obtain rfl | below := Nat.eq_or_lt_of_le within
    · exact cut_at_limit _ _ _
    · exact ⟨_, _, .stopped (stops.withMaxThreads below le), .ended (Nat.sub_pos_of_lt below)⟩
  | failed may hstate =>
    obtain rfl | below := Nat.eq_or_lt_of_le within
    · exact cut_at_limit _ _ _
    · exact ⟨_, _, .failed ⟨may.nonNull, below, may.notVisited⟩ hstate,
        .ended (Nat.sub_pos_of_lt below)⟩
  | thread may hstate hthread _ ih =>
    obtain rfl | below := Nat.eq_or_lt_of_le within
    · exact cut_at_limit _ _ _
    · obtain ⟨cut, cutRequests, rest, cutoff⟩ := ih below
      exact cut_thread below may hstate hthread rest cutoff

/-- A list under a smaller limit breaks off where the other does, or it gives as many threads as it
may before that. -/
theorem BrokenListTrace.cut {threads : List ThreadSnapshot}
    (t : decoder.BrokenListTrace (.ofImage image) served visited next threads requests)
    {limit : Nat} (within : visited.length ≤ limit) :
    (threads.length < limit - visited.length ∧
      (decoder.withMaxThreads limit).BrokenListTrace (.ofImage image) served visited next threads
        requests) ∨
    limit - visited.length ≤ threads.length ∧
      ∃ cut cutRequests,
        (decoder.withMaxThreads limit).ListTrace (.ofImage image) served visited next cut
          cutRequests ∧
        Cutoff (limit - visited.length)
          (decoder.AtLimit image next (limit - visited.length) limit)
          threads cut.threads none cut.error requests cutRequests := by
  induction t with
  | @overflow served visited next state may hstate broken =>
    obtain rfl | below := Nat.eq_or_lt_of_le within
    · exact .inr ⟨Nat.le_of_eq (Nat.sub_self _), cut_at_limit _ _ _⟩
    · obtain ⟨outcome, reads⟩ := decoder.capture_withMaxThreads limit next (.ofImage image) served
      exact .inl ⟨Nat.sub_pos_of_lt below,
        reads ▸ .overflow ⟨may.nonNull, below, may.notVisited⟩ hstate (outcome.trans broken)⟩
  | @thread served visited next state thread threads requests may hstate hthread _ ih =>
    obtain rfl | below := Nat.eq_or_lt_of_le within
    · refine .inr ⟨?_, cut_at_limit _ _ _⟩
      rw [Nat.sub_self]
      exact Nat.zero_le _
    · have room : limit - visited.length = limit - (next :: visited).length + 1 := by
        rw [List.length_cons]
        omega
      rw [room, List.length_cons, Nat.succ_lt_succ_iff, Nat.succ_le_succ_iff, ← room]
      rcases ih below with ⟨few, rest⟩ | ⟨enough, cut, cutRequests, rest, cutoff⟩
      · obtain ⟨outcome, reads⟩ := decoder.capture_withMaxThreads limit next (.ofImage image) served
        rw [← reads] at rest ⊢
        exact .inl ⟨few, .thread ⟨may.nonNull, below, may.notVisited⟩ hstate
          (outcome.trans hthread) rest⟩
      · exact .inr ⟨enough, cut_thread below may hstate hthread rest cutoff⟩

/-! ## The law -/

/-- Two walks from one frame, on a memory whose answers depend on the reads before them alone, and
two captures of one list of threads on an image, that differ in their limits: the run under the
smaller limit has the first frames or threads of the other. If these are fewer than it allows, both
runs come to the same end after the same reads, and otherwise it ends at the next link, without a
failure just if that is null. Where the run under the larger limit overflows, the other does so
after the same reads, or is cut in this way before. -/
theorem limits_cut (version : Version) (limits : Limits) (lineTable : LineTable)
    {smaller larger : Nat} (le : smaller ≤ larger) :
    let decoder : Decoder := ⟨version, limits, lineTable⟩
    (∀ (memory : Memory) (served : Nat) (start : Address),
      let walk (maxDepth : Nat) : Walk := { resolver := decoder.resolver, maxDepth, next := start }
      (∃ stack requests cut cutRequests, (walk larger).Yields memory served stack requests ∧
        (walk smaller).Yields memory served cut cutRequests ∧
        Cutoff smaller (Stack.AtLimit start smaller cut.frames) stack.frames cut.frames stack.error
          cut.error requests cutRequests) ∨
      decoder.reader.OverflowsOn memory ∧
        ∃ frames requests, (walk larger).BreaksOff memory served frames requests ∧
          ((frames.length < smaller ∧ (walk smaller).BreaksOff memory served frames requests) ∨
          smaller ≤ frames.length ∧ ∃ cut cutRequests,
            (walk smaller).Yields memory served cut cutRequests ∧
            Cutoff smaller (Stack.AtLimit start smaller cut.frames) frames cut.frames none cut.error
              requests cutRequests)) ∧
      ∀ (image : MemoryImage) (served : Nat) (head : Address),
        let run (maxThreads : Nat) :=
          ((decoder.withMaxThreads maxThreads).captureAll head).run (.ofImage image) served
        let AtLimit := decoder.AtLimit image head smaller smaller
        (∃ snapshot cut, (run larger).outcome = .ok snapshot ∧ (run smaller).outcome = .ok cut ∧
          Cutoff smaller AtLimit snapshot.threads cut.threads snapshot.error cut.error
            (run larger).requests (run smaller).requests) ∨
        decoder.reader.OverflowsOn (.ofImage image) ∧ (run larger).outcome = .overflow ∧
          (((run smaller).outcome = .overflow ∧
            (run smaller).requests = (run larger).requests) ∨
          ∃ threads cut, smaller ≤ threads.length ∧ (run smaller).outcome = .ok cut ∧
            (decoder.withMaxThreads larger).BrokenListTrace (.ofImage image) served [] head threads
              (run larger).requests ∧
            Cutoff smaller AtLimit threads cut.threads none cut.error (run larger).requests
              (run smaller).requests) := by
  intro decoder
  constructor
  · intro memory served start walk
    rcases Walk.trace_or_broken memory served (walk larger) decoder.covers with
      ⟨stack, requests, t⟩ | ⟨frames, requests, t⟩
    · obtain ⟨cut, cutRequests, cutTrace, cutoff⟩ :=
        t.cut decoder.covers rfl (Nat.zero_le smaller) le
      exact .inl ⟨stack, requests, cut, cutRequests, t.yields decoder.covers,
        cutTrace.yields decoder.covers, cutoff⟩
    · refine .inr ⟨t.overflowsOn decoder.covers, frames, requests, t.breaksOff decoder.covers, ?_⟩
      rcases t.cut decoder.covers rfl (Nat.zero_le smaller) le with
        ⟨few, broken⟩ | ⟨enough, cut, cutRequests, cutTrace, cutoff⟩
      · exact .inl ⟨few, broken.breaksOff decoder.covers⟩
      · exact .inr ⟨enough, cut, cutRequests, cutTrace.yields decoder.covers, cutoff⟩
  · intro image served head run AtLimit
    have atLimit_of (error : Option DecodeError) :
        (decoder.withMaxThreads larger).AtLimit image head smaller smaller error →
          AtLimit error := by
      rintro ⟨link, reached, atLimit⟩
      rw [threadAt?_withMaxThreads] at reached
      exact ⟨link, reached, atLimit⟩
    rcases (decoder.withMaxThreads larger).listTrace_or_broken (.ofImage image) served [] head with
      ⟨snapshot, requests, t⟩ | ⟨threads, requests, t⟩
    · obtain ⟨cut, cutRequests, cutTrace, cutoff⟩ := t.cut (Nat.zero_le smaller) le
      obtain ⟨outcome, reads⟩ := t.run_captureAll
      obtain ⟨cutOutcome, cutReads⟩ := cutTrace.run_captureAll
      rw [← reads, ← cutReads] at cutoff
      exact .inl ⟨snapshot, cut, outcome, cutOutcome, cutoff.mono atLimit_of⟩
    · obtain ⟨outcome, reads⟩ := t.run_captureAll
      refine .inr ⟨t.overflowsOn, outcome, ?_⟩
      rcases t.cut (Nat.zero_le smaller) with
        ⟨few, broken⟩ | ⟨enough, cut, cutRequests, cutTrace, cutoff⟩
      · obtain ⟨cutOutcome, cutReads⟩ := broken.run_captureAll
        exact .inl ⟨cutOutcome, cutReads.trans reads.symm⟩
      · obtain ⟨cutOutcome, cutReads⟩ := cutTrace.run_captureAll
        rw [← reads] at t
        rw [← reads, ← cutReads] at cutoff
        exact .inr ⟨threads, cut, enough, cutOutcome, t, cutoff.mono atLimit_of⟩

/-- The second of two frames is beyond a limit of one frame, and ends the chain for a limit of
two. -/
theorem second_frame_cut :
    let version : Version := ⟨⟨2, 7⟩, .python2, ⟨.eight, .lp64⟩, by decide, by decide⟩
    let decoder : Decoder := ⟨version, {}, .paired⟩
    let inner : Address := .ofNat 0x1000
    let outer : Address := .ofNat 0x2000
    let image := MemoryImage.ofRegions
      [⟨inner, List.replicate 24 0 ++ [0, 0x20] ++ List.replicate 400 0⟩,
       ⟨outer, List.replicate 426 0⟩]
    let walk (maxDepth : Nat) : Walk := { resolver := decoder.resolver, maxDepth, next := inner }
    1 ≤ 2 ∧ ∃ stack requests cut cutRequests,
      (walk 2).Yields (.ofImage image) 0 stack requests ∧ stack.error = none ∧
      (walk 1).Yields (.ofImage image) 0 cut cutRequests ∧ cut.frames = stack.frames.take 1 ∧
      cut.error = some (.corruptedChain outer 1 .depthExceeded) := by
  intro version decoder inner outer image walk
  obtain ⟨stack, requests, cut, cutRequests, yields, cutYields, cutoff⟩ :=
    ((limits_cut version {} .paired (by decide : 1 ≤ 2)).1 (.ofImage image) 0 inner).resolve_right
      fun broken => absurd (broken.1.family decoder.covers) (by decide)
  have complete : ((walk 2).stack.on image).toOption.map (·.error) = some none := by
    decide +kernel
  have deep : ((walk 1).stack.on image).toOption.map (·.error) =
      some (some (.corruptedChain outer 1 .depthExceeded)) := by
    decide +kernel
  rw [← Probe.outcome_ofImage _ image 0, yields.outcome_stack] at complete
  rw [← Probe.outcome_ofImage _ image 0, cutYields.outcome_stack] at deep
  exact ⟨by decide, stack, requests, cut, cutRequests, yields, Option.some.inj complete, cutYields,
    cutoff.first, Option.some.inj deep⟩

end Decoder

end RemoteStack
