import RemoteStack.Proofs.Probe.Sequence
import RemoteStack.Proofs.Reader.Failure
import RemoteStack.Stack.Walk

/-!
# Traces of walks

What becomes of a walk on a memory, as a relation that follows it pull by pull:

* **step** — `Walk.Pulled` lists everything that one pull can do, with the condition under
  which it does it (`pull_ensures`);
* **run** — `Walk.Trace memory served walk stack requests` says that the walk, pulled to its
  end, yields `stack` and makes `requests`, and `Walk.BrokenTrace memory served walk frames
  requests` that it yields `frames` and then overflows. Every walk has one of the two
  (`trace_or_broken`), because each frame leaves less of `maxDepth`, and both are steps from frame
  to frame with a last pull behind them (`Trace.exists_steps`, `BrokenTrace.exists_steps`);
* **observation** — a trace decides what any number of pulls yields, and that those beyond
  the end read nothing (`Trace.yields`), and it is what `Walk.stack` finds (`Trace.run_stack`).
  Where a walk breaks off, every pull after its frames overflows (`BrokenTrace.breaksOff`).
-/

namespace RemoteStack

/-! ## Stacks as sequences of items -/

namespace Stack

/-- How many items there are before nothing more comes: the frames, and the failure. -/
def itemCount (stack : Stack) : Nat := stack.frames.length + stack.error.toList.length

/-- What the pull of a number yields: a frame, after the frames the failure, then nothing. -/
def item (stack : Stack) (number : Nat) : Walk.Item :=
  match stack.frames[number]? with
  | some frame => some (.ok frame)
  | none => if number = stack.frames.length then stack.error.map .error else none

/-- The stack with a frame in front. -/
def push (frame : Frame) (stack : Stack) : Stack :=
  { stack with frames := frame :: stack.frames }

@[simp] theorem itemCount_push (frame : Frame) (stack : Stack) :
    (stack.push frame).itemCount = stack.itemCount + 1 := by
  simp only [itemCount, push, List.length_cons]
  omega

@[simp] theorem item_push_zero (frame : Frame) (stack : Stack) :
    (stack.push frame).item 0 = some (.ok frame) := rfl

@[simp] theorem item_push_succ (frame : Frame) (stack : Stack) (number : Nat) :
    (stack.push frame).item (number + 1) = stack.item number := by
  simp only [item, push, List.getElem?_cons_succ, List.length_cons, Nat.add_right_cancel_iff]

theorem items_ended (count : Nat) :
    (List.range count).map (Stack.mk [] none).item = List.replicate count none := by
  refine List.eq_replicate_iff.2 ⟨by simp, ?_⟩
  intro item mem
  obtain ⟨number, _, rfl⟩ := List.mem_map.1 mem
  simp [item]

theorem items_failed (error : DecodeError) (count : Nat) :
    (List.range (count + 1)).map (Stack.mk [] (some error)).item =
      some (.error error) :: List.replicate count none := by
  rw [List.range_succ_eq_map, List.map_cons, List.map_map]
  congr 1
  refine List.eq_replicate_iff.2 ⟨by simp, ?_⟩
  intro item mem
  obtain ⟨number, _, rfl⟩ := List.mem_map.1 mem
  simp [item]

theorem items_push (frame : Frame) (stack : Stack) (count : Nat) :
    (List.range (count + 1)).map (stack.push frame).item =
      some (.ok frame) :: (List.range count).map stack.item := by
  rw [List.range_succ_eq_map, List.map_cons, List.map_map, item_push_zero]
  congr 1
  exact List.map_congr_left fun number _ => item_push_succ frame stack number

end Stack

namespace Walk

/-- Pulls a number of times, whatever comes. -/
def pulls (walk : Walk) : Nat → Probe (List Item)
  | 0 => return []
  | count + 1 => do
    let (item, walk) ← walk.pull
    let rest ← walk.pulls count
    return item :: rest

theorem pulls_succ (walk : Walk) (count : Nat) :
    walk.pulls (count + 1) = walk.pull.bind fun pulled =>
      (pulled.2.pulls count).bind fun rest => .done (pulled.1 :: rest) := rfl

/-! ## One pull -/

def HasEnded (walk : Walk) : Prop := walk.isFinished ∨ walk.next.isNull

def finish (walk : Walk) : Walk := { walk with isFinished := true }

@[simp] theorem depth_advance (walk : Walk) (frame : Frame) :
    (walk.advance frame).depth = walk.depth + 1 := rfl

/-- The walk may decode the frame that is next. -/
structure MayDecode (walk : Walk) : Prop where
  notEnded : ¬walk.HasEnded
  depth_lt : walk.depth < walk.maxDepth
  notVisited : walk.next ∉ walk.visited

/-- What one pull does. -/
inductive Pulled (walk : Walk) : Item × Walk → Prop
  | ended : walk.HasEnded → Pulled walk (none, walk)
  | deep : ¬walk.HasEnded → walk.maxDepth ≤ walk.depth →
      Pulled walk
        (some (.error (.corruptedChain walk.next walk.depth .depthExceeded)), walk.finish)
  | cycle : ¬walk.HasEnded → walk.depth < walk.maxDepth → walk.next ∈ walk.visited →
      Pulled walk (some (.error (.corruptedChain walk.next walk.depth .cycle)), walk.finish)
  | failed {error : DecodeError} : walk.MayDecode → error.IsLocal →
      Pulled walk (some (.error error), walk.finish)
  | frame {frame : Frame} {link : Address} : walk.MayDecode → frame.index = walk.depth →
      frame.address = walk.next → frame.previous = link.nonNull? →
      Pulled walk (some (.ok frame), walk.advance frame)

/-- A decoded frame stands where the walk is, and keeps a link that is not null. -/
theorem decode_ensures {walk : Walk} (h : walk.resolver.reader.Covers)
    (nonNull : ¬walk.next.isNull) :
    walk.decode.Ensures True DecodeError.IsLocal fun frame =>
      ∃ link : Address, frame.index = walk.depth ∧ frame.address = walk.next ∧
        frame.previous = link.nonNull? := by
  unfold decode
  apply (Reader.address_failsLocally h nonNull (Reader.mem_of_common (by decide))).bind
  intro link _
  apply (Resolver.position_failsLocally h nonNull).bind
  intro position _
  exact ⟨link, rfl, rfl, rfl⟩

theorem pull_of_hasEnded {walk : Walk} (h : walk.HasEnded) : walk.pull = .done (none, walk) := by
  unfold pull
  rw [if_pos (by simpa [HasEnded] using h)]
  rfl

/-- A walk that has not ended stops at its limit. -/
theorem pull_of_deep {walk : Walk} (notEnded : ¬walk.HasEnded) (deep : walk.maxDepth ≤ walk.depth) :
    walk.pull = walk.stop (.corruptedChain walk.next walk.depth .depthExceeded) := by
  unfold pull
  rw [if_neg (by simpa [HasEnded] using notEnded), if_pos deep]

/-- A walk that has not ended stops where it has been before. -/
theorem pull_of_visited {walk : Walk} (notEnded : ¬walk.HasEnded)
    (shallow : walk.depth < walk.maxDepth) (visited : walk.next ∈ walk.visited) :
    walk.pull = walk.stop (.corruptedChain walk.next walk.depth .cycle) := by
  unfold pull
  rw [if_neg (by simpa [HasEnded] using notEnded), if_neg (Nat.not_le.2 shallow),
    if_pos (by simpa using visited)]

theorem pull_of_mayDecode {walk : Walk} (h : walk.MayDecode) :
    walk.pull = walk.decode.attempt.bind fun
      | .ok frame => .done (some (.ok frame), walk.advance frame)
      | .error error => walk.stop error := by
  unfold pull
  rw [if_neg (by simpa [HasEnded] using h.notEnded), if_neg (Nat.not_le.2 h.depth_lt),
    if_neg (by simpa using h.notVisited)]
  rfl

/-- A walk that may not decode does what it does without a read. -/
theorem pull_of_not_mayDecode {walk : Walk} (h : ¬walk.MayDecode) :
    ∃ pulled, walk.Pulled pulled ∧
      (walk.pull = .done pulled ∨ ∃ event, walk.pull = .report event (.done pulled)) := by
  by_cases ended : walk.HasEnded
  · exact ⟨_, .ended ended, .inl (pull_of_hasEnded ended)⟩
  by_cases deep : walk.maxDepth ≤ walk.depth
  · exact ⟨_, .deep ended deep, .inr ⟨_, pull_of_deep ended deep⟩⟩
  have shallow : walk.depth < walk.maxDepth := Nat.not_le.1 deep
  by_cases visited : walk.next ∈ walk.visited
  · exact ⟨_, .cycle ended shallow visited, .inr ⟨_, pull_of_visited ended shallow visited⟩⟩
  exact absurd ⟨ended, shallow, visited⟩ h

/-- A pull never fails, and does one of the things that `Pulled` lists, unless it overflows. -/
theorem pull_ensures {walk : Walk} (h : walk.resolver.reader.Covers) :
    walk.pull.Ensures True (fun _ => False) walk.Pulled := by
  by_cases may : walk.MayDecode
  · have nonNull : ¬walk.next.isNull := fun null => may.notEnded (.inr null)
    rw [pull_of_mayDecode may, Probe.ensures_bind, Probe.ensures_attempt]
    refine (decode_ensures h nonNull).mono (fun error hlocal => .failed may hlocal) ?_
    rintro frame ⟨link, index, address, previous⟩
    exact .frame may index address previous
  · obtain ⟨pulled, hpulled, hpull | ⟨event, hpull⟩⟩ := pull_of_not_mayDecode may
    · rw [hpull]
      exact hpulled
    · rw [hpull]
      exact hpulled

/-- A pull overflows with a text of its frame. -/
theorem pull_overflowsOnlyIf {walk : Walk} (h : walk.resolver.reader.Covers) (memory : Memory) :
    walk.pull.OverflowsOnlyIf memory (walk.resolver.reader.OverflowsOn memory) := by
  by_cases may : walk.MayDecode
  · have nonNull : ¬walk.next.isNull := fun null => may.notEnded (.inr null)
    have decode : walk.decode.OverflowsOnlyIf memory (walk.resolver.reader.OverflowsOn memory) :=
      (Reader.address_failsLocally h nonNull
        (Reader.mem_of_common (by decide))).overflowsOnlyIf.bind fun _ =>
          (Resolver.position_overflowsOnlyIf h nonNull memory).bind fun _ _ => nofun
    rw [pull_of_mayDecode may]
    refine decode.attempt.bind fun outcome => ?_
    cases outcome <;> exact fun _ => nofun
  · obtain ⟨pulled, _, hpull | ⟨event, hpull⟩⟩ := pull_of_not_mayDecode may
    · rw [hpull]
      exact fun _ => nofun
    · rw [hpull]
      exact fun _ => nofun

/-! ## All pulls -/

/-- Pulled after `served` reads, the walk yields the frames, makes the requests, and is then the
last walk. -/
inductive Steps (memory : Memory) : Nat → Walk → List Frame → List Request → Walk → Prop
  | refl {served : Nat} {walk : Walk} : Steps memory served walk [] [] walk
  | frame {served : Nat} {walk next last : Walk} {frame : Frame} {frames : List Frame}
      {requests : List Request} :
      (walk.pull.run memory served).outcome = .ok (some (.ok frame), next) →
      Steps memory (served + (walk.pull.run memory served).requests.length) next frames requests
        last →
      Steps memory served walk (frame :: frames)
        ((walk.pull.run memory served).requests ++ requests) last

/-- Pulled to its end after `served` reads, the walk yields the stack and makes the
requests. -/
inductive Trace (memory : Memory) : Nat → Walk → Stack → List Request → Prop
  | ended {served : Nat} {walk : Walk} : walk.HasEnded → Trace memory served walk ⟨[], none⟩ []
  | failed {served : Nat} {walk next : Walk} {error : DecodeError} :
      (walk.pull.run memory served).outcome = .ok (some (.error error), next) →
      Trace memory served walk ⟨[], some error⟩ (walk.pull.run memory served).requests
  | frame {served : Nat} {walk next : Walk} {frame : Frame} {stack : Stack}
      {requests : List Request} :
      (walk.pull.run memory served).outcome = .ok (some (.ok frame), next) →
      Trace memory (served + (walk.pull.run memory served).requests.length) next stack requests →
      Trace memory served walk (stack.push frame)
        ((walk.pull.run memory served).requests ++ requests)

/-- Pulled after `served` reads, the walk yields the frames, and the pull behind them overflows;
all of these make the requests. -/
inductive BrokenTrace (memory : Memory) : Nat → Walk → List Frame → List Request → Prop
  | overflow {served : Nat} {walk : Walk} : (walk.pull.run memory served).outcome = .overflow →
      BrokenTrace memory served walk [] (walk.pull.run memory served).requests
  | frame {served : Nat} {walk next : Walk} {frame : Frame} {frames : List Frame}
      {requests : List Request} :
      (walk.pull.run memory served).outcome = .ok (some (.ok frame), next) →
      BrokenTrace memory (served + (walk.pull.run memory served).requests.length) next frames
        requests →
      BrokenTrace memory served walk (frame :: frames)
        ((walk.pull.run memory served).requests ++ requests)

variable {memory : Memory} {served : Nat} {walk last : Walk} {stack : Stack} {frames : List Frame}
  {requests : List Request}

theorem pulled_of_run {walk : Walk} (h : walk.resolver.reader.Covers) {pulled : Item × Walk}
    (hrun : (walk.pull.run memory served).outcome = .ok pulled) : walk.Pulled pulled :=
  (pull_ensures h).of_ok hrun

theorem hasEnded_of_failed {walk next : Walk} (h : walk.resolver.reader.Covers)
    {error : DecodeError}
    (hrun : (walk.pull.run memory served).outcome = .ok (some (.error error), next)) :
    next.HasEnded := by
  cases pulled_of_run h hrun <;> exact .inl rfl

/-- Only a pull that may decode overflows. -/
theorem mayDecode_of_overflow (broken : (walk.pull.run memory served).outcome = .overflow) :
    walk.MayDecode := by
  by_contra stuck
  obtain ⟨pulled, _, hpull | ⟨event, hpull⟩⟩ := pull_of_not_mayDecode stuck
  · rw [hpull] at broken
    cases broken
  · rw [hpull] at broken
    cases broken

/-- A walk that yielded a frame is the walk after that frame. -/
theorem eq_advance_of_frame {walk next : Walk} (h : walk.resolver.reader.Covers) {frame : Frame}
    (hrun : (walk.pull.run memory served).outcome = .ok (some (.ok frame), next)) :
    walk.depth < walk.maxDepth ∧ next = walk.advance frame := by
  cases pulled_of_run h hrun with
  | frame may => exact ⟨may.depth_lt, rfl⟩

/-- A walk has a trace, unless it breaks off. -/
theorem trace_or_broken (memory : Memory) (served : Nat) (walk : Walk)
    (h : walk.resolver.reader.Covers) :
    (∃ stack requests, walk.Trace memory served stack requests) ∨
      ∃ frames requests, walk.BrokenTrace memory served frames requests := by
  -- a walk that may decode is below its limit, so each frame leaves less of it
  induction hleft : walk.maxDepth - walk.depth using Nat.strongRecOn generalizing served walk with
  | ind left ih =>
    obtain ⟨pulled, hrun, hpulled⟩ | broken := (pull_ensures h).ok_or_overflow memory served
    · cases hpulled with
      | ended ended => exact .inl ⟨_, _, .ended ended⟩
      | deep | cycle | failed => exact .inl ⟨_, _, .failed hrun⟩
      | frame may =>
        rename_i frame link _ _ _
        have less : walk.maxDepth - (walk.advance frame).depth < left := by
          have := may.depth_lt
          rw [depth_advance]
          omega
        rcases ih _ less _ (walk.advance frame) h rfl with ⟨_, _, t⟩ | ⟨_, _, t⟩
        · exact .inl ⟨_, _, .frame hrun t⟩
        · exact .inr ⟨_, _, .frame hrun t⟩
    · exact .inr ⟨_, _, .overflow broken⟩

/-- Steps lead to a walk on the same reader, which is as much deeper as there are frames. -/
theorem Steps.last_eq (steps : Steps memory served walk frames requests last)
    (h : walk.resolver.reader.Covers) :
    last.resolver = walk.resolver ∧ last.depth = walk.depth + frames.length ∧
      last.maxDepth = walk.maxDepth := by
  induction steps with
  | refl => exact ⟨rfl, rfl, rfl⟩
  | frame hrun _ ih =>
    obtain ⟨_, rfl⟩ := eq_advance_of_frame h hrun
    obtain ⟨resolver, depth, maxDepth⟩ := ih h
    refine ⟨resolver, ?_, maxDepth⟩
    rw [depth, depth_advance, List.length_cons]
    omega

/-- A trace is steps from frame to frame, with the pull behind them that ends it. -/
theorem Trace.exists_steps (t : Trace memory served walk stack requests) :
    ∃ earlier last, Steps memory served walk stack.frames earlier last ∧
      requests = earlier ++ (last.pull.run memory (served + earlier.length)).requests := by
  induction t with
  | ended ended =>
    refine ⟨[], _, .refl, ?_⟩
    rw [pull_of_hasEnded ended]
    rfl
  | failed => exact ⟨[], _, .refl, rfl⟩
  | frame hrun _ ih =>
    obtain ⟨earlier, last, steps, rfl⟩ := ih
    refine ⟨_, last, .frame hrun steps, ?_⟩
    rw [List.append_assoc, List.length_append, Nat.add_assoc]

theorem BrokenTrace.exists_steps (t : BrokenTrace memory served walk frames requests) :
    ∃ earlier last, Steps memory served walk frames earlier last ∧
      (last.pull.run memory (served + earlier.length)).outcome = .overflow ∧
      requests = earlier ++ (last.pull.run memory (served + earlier.length)).requests := by
  induction t with
  | overflow broken => exact ⟨[], _, .refl, broken, rfl⟩
  | frame hrun _ ih =>
    obtain ⟨earlier, last, steps, broken, rfl⟩ := ih
    rw [Nat.add_assoc, ← List.length_append] at broken
    refine ⟨_, last, .frame hrun steps, broken, ?_⟩
    rw [List.append_assoc, List.length_append, Nat.add_assoc]

/-- Only a text breaks a walk off. -/
theorem BrokenTrace.overflowsOn (t : BrokenTrace memory served walk frames requests)
    (h : walk.resolver.reader.Covers) : walk.resolver.reader.OverflowsOn memory := by
  obtain ⟨_, last, steps, broken, _⟩ := t.exists_steps
  obtain ⟨resolver, _, _⟩ := steps.last_eq h
  rw [← resolver] at h ⊢
  exact pull_overflowsOnlyIf h memory _ broken

/-- A walk that breaks off is below its limit. -/
theorem BrokenTrace.length_lt (t : BrokenTrace memory served walk frames requests)
    (h : walk.resolver.reader.Covers) : frames.length < walk.maxDepth - walk.depth := by
  obtain ⟨_, last, steps, broken, _⟩ := t.exists_steps
  obtain ⟨_, depth, maxDepth⟩ := steps.last_eq h
  have := (mayDecode_of_overflow broken).depth_lt
  omega

/-! ## Observing a trace -/

theorem run_pulls_of_hasEnded (h : walk.HasEnded) (count : Nat) :
    (walk.pulls count).run memory served = ⟨.ok (List.replicate count none), [], []⟩ := by
  induction count with
  | zero => rfl
  | succ count ih =>
    rw [pulls_succ, pull_of_hasEnded h, Probe.done_bind,
      Probe.run_bind_of_ok _ (congrArg Run.outcome ih), ih]
    rfl

/-- Pulls after the first are those of the walk that it leaves. -/
theorem run_pulls_succ {item : Item} {next : Walk} {items : List Item} {count : Nat}
    (hrun : (walk.pull.run memory served).outcome = .ok (item, next))
    (hrest : ((next.pulls count).run memory
      (served + (walk.pull.run memory served).requests.length)).outcome = .ok items) :
    ((walk.pulls (count + 1)).run memory served).outcome = .ok (item :: items) ∧
      ((walk.pulls (count + 1)).run memory served).requests =
        (walk.pull.run memory served).requests ++
          ((next.pulls count).run memory
            (served + (walk.pull.run memory served).requests.length)).requests := by
  rw [pulls_succ, Probe.outcome_bind_of_ok hrun, Probe.requests_bind_of_ok hrun,
    Probe.outcome_bind_of_ok hrest, Probe.requests_bind_done]
  exact ⟨rfl, rfl⟩

/-- What pulls of a walk yield, and the reads that they make: pulls after the last item yield
nothing and read nothing, and `Walk.stack` is made of the items. -/
structure Yields (walk : Walk) (memory : Memory) (served : Nat) (stack : Stack)
    (requests : List Request) : Prop where
  items : ∀ count, ((walk.pulls count).run memory served).outcome =
    .ok ((List.range count).map stack.item)
  reads : ∀ count, stack.itemCount ≤ count →
    ((walk.pulls count).run memory served).requests = requests
  outcome_stack : (walk.stack.run memory served).outcome = .ok stack
  requests_stack : (walk.stack.run memory served).requests = requests

/-- Pulls yield the items of the trace; their reads are the first of the trace, and all of them
if the pulls are enough. -/
theorem Trace.run_pulls (t : Trace memory served walk stack requests)
    (h : walk.resolver.reader.Covers) (count : Nat) :
    ((walk.pulls count).run memory served).outcome = .ok ((List.range count).map stack.item) ∧
      ((walk.pulls count).run memory served).requests <+: requests ∧
      (stack.itemCount ≤ count → ((walk.pulls count).run memory served).requests = requests) := by
  induction t generalizing count with
  | ended ended =>
    rw [run_pulls_of_hasEnded ended, Stack.items_ended]
    exact ⟨rfl, List.prefix_rfl, fun _ => rfl⟩
  | @failed served walk next error hrun =>
    cases count with
    | zero => exact ⟨rfl, List.nil_prefix, by simp [Stack.itemCount]⟩
    | succ count =>
      -- the failure is the last item: the walk that it leaves has ended
      have silent : (next.pulls count).run memory
          (served + (walk.pull.run memory served).requests.length) = _ :=
        run_pulls_of_hasEnded (hasEnded_of_failed h hrun) count
      obtain ⟨items, requests⟩ := run_pulls_succ hrun (congrArg Run.outcome silent)
      rw [silent, List.append_nil] at requests
      exact ⟨by rw [items, Stack.items_failed], requests ▸ List.prefix_rfl, fun _ => requests⟩
  | @frame served walk next frame stack requests hrun _ ih =>
    cases count with
    | zero => exact ⟨rfl, List.nil_prefix, by simp⟩
    | succ count =>
      obtain ⟨_, rfl⟩ := eq_advance_of_frame h hrun
      obtain ⟨ihItems, ihPrefix, ihReads⟩ := ih h count
      obtain ⟨items, requests⟩ := run_pulls_succ hrun ihItems
      rw [requests, List.prefix_append_right_inj]
      refine ⟨by rw [items, Stack.items_push], ihPrefix, ?_⟩
      intro enough
      rw [Stack.itemCount_push] at enough
      rw [ihReads (Nat.le_of_succ_le_succ enough)]

/-- Taking as many items as there are gives the stack, and makes the requests. -/
theorem Trace.run_take (t : Trace memory served walk stack requests)
    (h : walk.resolver.reader.Covers) {count : Nat} (enough : stack.itemCount ≤ count) :
    ((walk.take count).run memory served).outcome = .ok stack ∧
      ((walk.take count).run memory served).requests = requests := by
  induction t generalizing count with
  | ended ended =>
    cases count with
    | zero => exact ⟨rfl, rfl⟩
    | succ count =>
      rw [take_succ, pull_of_hasEnded ended]
      exact ⟨rfl, rfl⟩
  | failed hrun =>
    cases count with
    | zero => simp [Stack.itemCount] at enough
    | succ count =>
      rw [take_succ, Probe.outcome_bind_of_ok hrun, Probe.requests_bind_of_ok hrun]
      exact ⟨rfl, List.append_nil _⟩
  | frame hrun _ ih =>
    cases count with
    | zero => simp at enough
    | succ count =>
      obtain ⟨_, rfl⟩ := eq_advance_of_frame h hrun
      rw [Stack.itemCount_push] at enough
      obtain ⟨ihOutcome, ihRequests⟩ := ih h (Nat.le_of_succ_le_succ enough)
      rw [take_succ, Probe.outcome_bind_of_ok hrun, Probe.requests_bind_of_ok hrun,
        Probe.outcome_bind_of_ok ihOutcome, Probe.requests_bind_done, ihRequests]
      exact ⟨rfl, rfl⟩

/-- There are at most as many frames as the walk may still decode. -/
theorem Trace.length_le (t : Trace memory served walk stack requests)
    (h : walk.resolver.reader.Covers) :
    stack.frames.length ≤ walk.maxDepth - walk.depth := by
  induction t with
  | ended | failed => exact Nat.zero_le _
  | @frame served walk next frame stack requests hrun _ ih =>
    obtain ⟨depth_lt, rfl⟩ := eq_advance_of_frame h hrun
    have := ih h
    rw [depth_advance] at this
    simp only [Stack.push, List.length_cons]
    change stack.frames.length ≤ walk.maxDepth - _ at this
    omega

theorem Trace.run_stack (t : Trace memory served walk stack requests)
    (h : walk.resolver.reader.Covers) :
    (walk.stack.run memory served).outcome = .ok stack ∧
      (walk.stack.run memory served).requests = requests := by
  refine t.run_take h ?_
  -- `Walk.stack` takes one item more than there may be frames: that one is for the failure
  have := t.length_le h
  have : stack.error.toList.length ≤ 1 := by cases stack.error <;> simp
  unfold Stack.itemCount
  omega

theorem Trace.yields (t : Trace memory served walk stack requests)
    (h : walk.resolver.reader.Covers) : walk.Yields memory served stack requests where
  items count := (t.run_pulls h count).1
  reads count := (t.run_pulls h count).2.2
  outcome_stack := (t.run_stack h).1
  requests_stack := (t.run_stack h).2

/-- What pulls of a walk yield that breaks off: the frames, and then the program stops, as it does
where the whole stack is taken. -/
structure BreaksOff (walk : Walk) (memory : Memory) (served : Nat) (frames : List Frame)
    (requests : List Request) : Prop where
  items : ∀ count ≤ frames.length, ((walk.pulls count).run memory served).outcome =
    .ok ((frames.take count).map fun frame => some (.ok frame))
  overflow : ∀ count, frames.length < count →
    ((walk.pulls count).run memory served).outcome = .overflow
  reads : ∀ count, frames.length < count →
    ((walk.pulls count).run memory served).requests = requests
  outcome_stack : (walk.stack.run memory served).outcome = .overflow
  requests_stack : (walk.stack.run memory served).requests = requests

/-- Pulls yield the frames and then overflow; their reads are the first ones, and all of them if
they overflow. -/
theorem BrokenTrace.run_pulls (t : BrokenTrace memory served walk frames requests) (count : Nat) :
    ((walk.pulls count).run memory served).requests <+: requests ∧
    (count ≤ frames.length → ((walk.pulls count).run memory served).outcome =
      .ok ((frames.take count).map fun frame => some (.ok frame))) ∧
    (frames.length < count → ((walk.pulls count).run memory served).outcome = .overflow ∧
      ((walk.pulls count).run memory served).requests = requests) := by
  induction t generalizing count with
  | overflow broken =>
    cases count with
    | zero => exact ⟨List.nil_prefix, fun _ => rfl, fun beyond => absurd beyond (Nat.not_lt_zero _)⟩
    | succ count =>
      rw [pulls_succ, Probe.outcome_bind_of_overflow broken,
        Probe.requests_bind_of_overflow broken]
      exact ⟨List.prefix_rfl, fun within => absurd within (Nat.not_succ_le_zero count),
        fun _ => ⟨rfl, rfl⟩⟩
  | frame hrun _ ih =>
    cases count with
    | zero => exact ⟨List.nil_prefix, fun _ => rfl, fun beyond => absurd beyond (Nat.not_lt_zero _)⟩
    | succ count =>
      obtain ⟨first, within, beyond⟩ := ih count
      rw [pulls_succ, Probe.outcome_bind_of_ok hrun, Probe.requests_bind_of_ok hrun,
        Probe.requests_bind_done]
      refine ⟨(List.prefix_append_right_inj _).2 first, ?_, ?_⟩
      · intro le
        rw [Probe.outcome_bind_of_ok (within (Nat.le_of_succ_le_succ le))]
        rfl
      · intro lt
        obtain ⟨outcome, reads⟩ := beyond (Nat.lt_of_succ_lt_succ lt)
        rw [Probe.outcome_bind_of_overflow outcome, reads]
        exact ⟨rfl, rfl⟩

/-- Taking more items than there are frames overflows. -/
theorem BrokenTrace.run_take (t : BrokenTrace memory served walk frames requests) {count : Nat}
    (enough : frames.length < count) :
    ((walk.take count).run memory served).outcome = .overflow ∧
      ((walk.take count).run memory served).requests = requests := by
  induction t generalizing count with
  | overflow broken =>
    obtain ⟨count, rfl⟩ := Nat.exists_eq_add_one_of_ne_zero (Nat.ne_of_gt enough)
    rw [take_succ, Probe.outcome_bind_of_overflow broken, Probe.requests_bind_of_overflow broken]
    exact ⟨rfl, rfl⟩
  | frame hrun _ ih =>
    cases count with
    | zero => exact absurd enough (Nat.not_lt_zero _)
    | succ count =>
      obtain ⟨outcome, reads⟩ := ih (Nat.lt_of_succ_lt_succ enough)
      rw [take_succ, Probe.outcome_bind_of_ok hrun, Probe.requests_bind_of_ok hrun,
        Probe.outcome_bind_of_overflow outcome, Probe.requests_bind_done, reads]
      exact ⟨rfl, rfl⟩

theorem BrokenTrace.breaksOff (t : BrokenTrace memory served walk frames requests)
    (h : walk.resolver.reader.Covers) : walk.BreaksOff memory served frames requests := by
  have beyond : frames.length < walk.maxDepth + 1 := by
    have := t.length_lt h
    omega
  exact ⟨fun count => (t.run_pulls count).2.1, fun count lt => ((t.run_pulls count).2.2 lt).1,
    fun count lt => ((t.run_pulls count).2.2 lt).2, (t.run_take beyond).1, (t.run_take beyond).2⟩

end Walk

end RemoteStack
