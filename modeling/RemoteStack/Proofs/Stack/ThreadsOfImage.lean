import RemoteStack.Proofs.Probe.Still
import RemoteStack.Proofs.Stack.Kept

/-!
# Thread lists of still images

On an image that does not change, a capture of a process agrees with captures of single
threads: the states follow each other as their links say (`Decoder.threadAt?`), each thread is
captured as if it were captured alone, and the state that comes after the captured threads
says why there are no more (`Decoder.EndsAt`). The list loop has its own limit, its own
visited states and its own failures, and none of them costs a thread that was captured:

* **threads** — `ListTrace.captured`, `ListTrace.fresh` and `ListTrace.length_le`;
* **end** — `ListTrace.exists_last`;
* **agreement** — `Decoder.captureAll_followsList`.
-/

namespace RemoteStack

theorem Reader.threadState_address (reader : Reader) (address : Address) :
    (reader.threadState address).Ensures True (fun _ => True) (·.address = address) := by
  by_cases null : address.isNull
  · unfold threadState
    rw [if_pos null]
    trivial
  · rw [threadState_eq reader null]
    apply Probe.ensures_bind_of_forall
    intro layout
    apply Probe.ensures_bind_of_forall
    intro overflow
    unfold threadStateWith
    -- the six fields that every release has
    iterate 6
      apply Probe.ensures_bind_of_forall
      intro _
    rfl

namespace Decoder

variable {decoder : Decoder} {image : MemoryImage} {memory : Memory} {served : Nat}
  {visited : List Address} {next : Address} {snapshot : ProcessSnapshot}
  {requests : List Request}

/-- The state of the thread of a number in a list, as far as the states before can be read. -/
def threadAt? (decoder : Decoder) (image : MemoryImage) (head : Address) : Nat → Option Address
  | 0 => some head
  | number + 1 =>
    match (decoder.reader.threadState head).on image with
    | .ok state => decoder.threadAt? image state.next number
    | .error _ | .overflow => none

theorem threadAt?_succ {head : Address} {state : ThreadState}
    (h : (decoder.reader.threadState head).on image = .ok state) (number : Nat) :
    decoder.threadAt? image head (number + 1) = decoder.threadAt? image state.next number := by
  rw [threadAt?, h]

/-- A captured thread says which state it was captured from. -/
theorem threadState_of_capture {address : Address} {thread : ThreadSnapshot}
    (h : ((decoder.capture address).run memory served).outcome = .ok thread) :
    thread.threadState = address := by
  cases hstate : ((decoder.reader.threadState address).run memory served).outcome with
  | error error =>
    unfold capture at h
    simp only [Probe.bind_eq] at h
    rw [Probe.outcome_bind_of_error hstate] at h
    cases h
  | overflow => exact absurd hstate (decoder.threadState_ne_overflow address memory served)
  | ok state =>
    rcases capture_trace_or_broken hstate with ⟨_, _, _, captured, _⟩ | ⟨_, _, _, broken, _⟩
    · rw [h] at captured
      cases captured
      exact (decoder.reader.threadState_address address).of_ok hstate
    · rw [h] at broken
      cases broken

namespace ListTrace

/-- There are at most as many threads as the list may still go on with. -/
theorem length_le (t : decoder.ListTrace memory served visited next snapshot requests) :
    snapshot.threads.length ≤ decoder.limits.maxThreads - visited.length := by
  induction t with
  | stopped | failed => exact Nat.zero_le _
  | thread may _ _ _ ih =>
    have := may.count_lt
    rw [List.length_cons] at ih ⊢
    omega

/-- No thread is captured twice, and none that was visited before. -/
theorem fresh (t : decoder.ListTrace memory served visited next snapshot requests) :
    (snapshot.threads.map (·.threadState)).Nodup ∧
      ∀ address ∈ snapshot.threads.map (·.threadState), address ∉ visited := by
  induction t with
  | stopped | failed =>
    refine ⟨List.nodup_nil, ?_⟩
    intro address mem
    exact absurd mem List.not_mem_nil
  | thread may _ hthread _ ih =>
    obtain ⟨distinct, unvisited⟩ := ih
    rw [List.map_cons, threadState_of_capture hthread]
    refine ⟨List.nodup_cons.2 ⟨?_, distinct⟩, ?_⟩
    · -- the rest of the list has visited this thread
      intro later
      exact unvisited _ later List.mem_cons_self
    · intro address mem
      rcases List.mem_cons.1 mem with rfl | mem
      · exact may.notVisited
      · exact fun earlier => unvisited address mem (List.mem_cons_of_mem _ earlier)

/-- Each thread stands where the list says, and is captured as it is alone. -/
theorem captured (t : decoder.ListTrace (.ofImage image) served visited next snapshot requests)
    {number : Nat} {thread : ThreadSnapshot} (h : snapshot.threads[number]? = some thread) :
    decoder.threadAt? image next number = some thread.threadState ∧
      ¬thread.threadState.isNull ∧
      (decoder.capture thread.threadState).on image = .ok thread := by
  induction t generalizing number with
  | stopped | failed => cases h
  | thread may hstate hthread _ ih =>
    cases number with
    | zero =>
      cases h
      rw [threadState_of_capture hthread]
      rw [Probe.outcome_ofImage] at hthread
      exact ⟨rfl, may.nonNull, hthread⟩
    | succ number =>
      rw [Probe.outcome_ofImage] at hstate
      rw [threadAt?_succ hstate]
      exact ih h

end ListTrace

/-! ## The end of a list -/

/-- The list ends at the state `last`: it stops there, or the state cannot be read. -/
inductive Ends (decoder : Decoder) (image : MemoryImage) (visited : List Address)
    (last : Address) : Option DecodeError → Prop
  | stopped {error? : Option DecodeError} : decoder.StopsAt visited last error? →
      Ends decoder image visited last error?
  | failed {error : DecodeError} : decoder.MayCapture visited last →
      (decoder.reader.threadState last).on image = .error error →
      Ends decoder image visited last (some error)

/-- After its threads the list comes to a state where it ends. -/
theorem ListTrace.exists_last
    (t : decoder.ListTrace (.ofImage image) served visited next snapshot requests) :
    ∃ last, decoder.threadAt? image next snapshot.threads.length = some last ∧
      decoder.Ends image ((snapshot.threads.map (·.threadState)).reverse ++ visited) last
        snapshot.error := by
  induction t with
  | @stopped served visited next error? stops => exact ⟨next, rfl, .stopped stops⟩
  | @failed served visited next error may hstate =>
    rw [Probe.outcome_ofImage] at hstate
    exact ⟨next, rfl, .failed may hstate⟩
  | thread may hstate hthread _ ih =>
    obtain ⟨last, reached, ends⟩ := ih
    rw [Probe.outcome_ofImage] at hstate
    refine ⟨last, (threadAt?_succ hstate _).trans reached, ?_⟩
    rw [List.map_cons, List.reverse_cons, List.append_assoc, threadState_of_capture hthread]
    exact ends

/-- Why there are no more threads: the state that comes after those of the snapshot is null,
or more than may be captured, or one of them, or cannot be read. -/
structure EndsAt (decoder : Decoder) (image : MemoryImage) (snapshot : ProcessSnapshot)
    (last : Address) : Prop where
  complete : snapshot.error = none ↔ last.isNull
  deep : ¬last.isNull →
    (snapshot.error = some (.corruptedChain last snapshot.threads.length .depthExceeded) ↔
      snapshot.threads.length = decoder.limits.maxThreads)
  cycle : ¬last.isNull → snapshot.threads.length ≠ decoder.limits.maxThreads →
    (snapshot.error = some (.corruptedChain last snapshot.threads.length .cycle) ↔
      last ∈ snapshot.threads.map (·.threadState))
  unreadable : ¬last.isNull → snapshot.threads.length ≠ decoder.limits.maxThreads →
    last ∉ snapshot.threads.map (·.threadState) →
      ∃ error, (decoder.capture last).on image = .error error ∧ snapshot.error = some error

/-- A state that cannot be read fails its capture, with a failure that gives up no chain. -/
theorem capture_of_unreadable {address : Address} {error : DecodeError}
    (nonNull : ¬address.isNull)
    (h : (decoder.reader.threadState address).on image = .error error) :
    (decoder.capture address).on image = .error error ∧ error.IsLocal := by
  rw [← Probe.outcome_ofImage _ image 0] at h ⊢
  refine ⟨?_, decoder.isLocal_of_unread nonNull h⟩
  unfold capture
  exact Probe.outcome_bind_of_error h

theorem Ends.endsAt {last : Address}
    (h : decoder.Ends image (snapshot.threads.map (·.threadState)).reverse last snapshot.error)
    (within : snapshot.threads.length ≤ decoder.limits.maxThreads) :
    decoder.EndsAt image snapshot last := by
  obtain ⟨threads, error?⟩ := snapshot
  dsimp only at h within
  have count : (threads.map (·.threadState)).reverse.length = threads.length := by
    rw [List.length_reverse, List.length_map]
  have mem : last ∈ (threads.map (·.threadState)).reverse ↔ last ∈ threads.map (·.threadState) :=
    List.mem_reverse
  cases h with
  | stopped stops =>
    cases stops with
    | ended null =>
      exact ⟨⟨fun _ => null, fun _ => rfl⟩, fun nonNull => absurd null nonNull,
        fun nonNull => absurd null nonNull, fun nonNull => absurd null nonNull⟩
    | deep nonNull deep =>
      rw [count] at deep ⊢
      have full : threads.length = decoder.limits.maxThreads := Nat.le_antisymm within deep
      exact ⟨⟨nofun, fun null => absurd null nonNull⟩, fun _ => ⟨fun _ => full, fun _ => rfl⟩,
        fun _ shallow => absurd full shallow, fun _ shallow => absurd full shallow⟩
    | cycle nonNull shallow visited =>
      rw [count] at shallow ⊢
      have again := mem.1 visited
      exact ⟨⟨nofun, fun null => absurd null nonNull⟩,
        fun _ => ⟨nofun, fun full => absurd full (Nat.ne_of_lt shallow)⟩,
        fun _ _ => ⟨fun _ => again, fun _ => rfl⟩, fun _ _ new => absurd again new⟩
  | @failed error may hstate =>
    obtain ⟨fails, hlocal⟩ := capture_of_unreadable may.nonNull hstate
    have shallow := may.count_lt
    rw [count] at shallow
    -- the failure of a read is none of a chain
    have notChain : ∀ depth fault, some error ≠ some (.corruptedChain last depth fault) := by
      rintro depth fault ⟨⟩
      exact hlocal
    exact ⟨⟨nofun, fun null => absurd null may.nonNull⟩,
      fun _ => ⟨fun deep => absurd deep (notChain _ _),
        fun full => absurd full (Nat.ne_of_lt shallow)⟩,
      fun _ _ => ⟨fun cycle => absurd cycle (notChain _ _),
        fun again => absurd (mem.2 again) may.notVisited⟩,
      fun _ _ _ => ⟨error, fails, rfl⟩⟩

/-! ## Agreement -/

/-- The snapshot is what captures of single threads give along the list from `head` on. -/
structure FollowsList (decoder : Decoder) (image : MemoryImage) (head : Address)
    (snapshot : ProcessSnapshot) : Prop where
  length_le : snapshot.threads.length ≤ decoder.limits.maxThreads
  captured : ∀ {number : Nat} {thread : ThreadSnapshot},
    snapshot.threads[number]? = some thread →
      decoder.threadAt? image head number = some thread.threadState ∧
        ¬thread.threadState.isNull ∧
        (decoder.capture thread.threadState).on image = .ok thread
  distinct : (snapshot.threads.map (·.threadState)).Nodup
  ends : ∃ last, decoder.threadAt? image head snapshot.threads.length = some last ∧
    decoder.EndsAt image snapshot last

/-- A capture of a process agrees with the captures of its threads one by one: it has every thread
of the list up to the limit, to the first state that comes again, or to the first that cannot be
read, and says which of these it was. It has no result only where a text overflows. -/
theorem captureAll_followsList (decoder : Decoder) (image : MemoryImage) (head : Address) :
    (∃ snapshot,
      (∀ served, ((decoder.captureAll head).run (.ofImage image) served).outcome =
        .ok snapshot) ∧
      decoder.FollowsList image head snapshot) ∨
    decoder.reader.OverflowsOn (.ofImage image) ∧
      ∀ served, ((decoder.captureAll head).run (.ofImage image) served).outcome = .overflow := by
  rcases decoder.captureAll_trace_or_overflow (.ofImage image) 0 head with
    ⟨snapshot, requests, t, outcome, _⟩ | ⟨text, outcome⟩
  · rw [Probe.outcome_ofImage] at outcome
    obtain ⟨last, reached, ends⟩ := t.exists_last
    rw [List.append_nil] at ends
    refine .inl ⟨snapshot, ?_, t.length_le, t.captured, t.fresh.1, last, reached,
      ends.endsAt t.length_le⟩
    intro served
    rw [Probe.outcome_ofImage, outcome]
  · rw [Probe.outcome_ofImage] at outcome
    refine .inr ⟨text, ?_⟩
    intro served
    rw [Probe.outcome_ofImage, outcome]

/-- Two threads of 2.7, of which the second leads back to the first. -/
example :
    let decoder : Decoder :=
      { version := ⟨⟨2, 7⟩, .python2, ⟨.eight, .lp64⟩, by decide, by decide⟩ }
    let zeros (count : Nat) : Bytes := List.replicate count 0
    let head : Address := .ofNat 0x1000
    let next : Address := .ofNat 0x3000
    let image := MemoryImage.ofRegions [
      ⟨head, [0, 0x30] ++ zeros 15 ++ [0x20] ++ zeros 200⟩,
      ⟨.ofNat 0x2000, zeros 400⟩,
      ⟨next, [0, 0x10] ++ zeros 200⟩]
    let first : ThreadSnapshot :=
      ⟨⟨[⟨0, .ofNat 0x2000, "<unknown>", "<unknown>", 0, .unknown, none⟩], none⟩, ⟨0⟩, head⟩
    let second : ThreadSnapshot := ⟨⟨[], none⟩, ⟨0⟩, next⟩
    decoder.threadAt? image head 1 = some next ∧ decoder.threadAt? image head 2 = some head ∧
      (decoder.capture head).on image = .ok first ∧
      (decoder.capture next).on image = .ok second ∧
      (decoder.captureAll head).on image =
        .ok ⟨[first, second], some (.corruptedChain head 2 .cycle)⟩ := by
  decide +kernel

/-- Where the name of a frame overflows, there is no snapshot to agree with its thread. -/
theorem captureAll_stopped_in_list :
    ¬∀ (decoder : Decoder) (image : MemoryImage) (head : Address), ∃ snapshot,
      (∀ served, ((decoder.captureAll head).run (.ofImage image) served).outcome =
        .ok snapshot) ∧
      decoder.FollowsList image head snapshot := by
  intro follows
  obtain ⟨snapshot, captured, _⟩ :=
    follows UncountedName.decoder UncountedName.image UncountedName.thread
  have stopped : ((UncountedName.decoder.captureAll UncountedName.thread).run
      (.ofImage UncountedName.image) 0).outcome = .overflow := by
    decide +kernel
  rw [captured 0] at stopped
  cases stopped

end Decoder

end RemoteStack
