import RemoteStack.Proofs.Reader.Strict
import RemoteStack.Proofs.Stack.Sound

/-!
# One failing read

What a single read that fails makes of a walk, compared with the same walk on a memory that
answers it: the read is not tried again, its failure is not taken for a value, and nothing
that was decoded before is lost.

* **pull** — a pull that would make the read ends the walk there, with the failure of the
  read (`run_pull_fault`);
* **run** — the frames that were complete before the read stay, and the reads end with it,
  whether the walk would have come to its end or not (`Steps.run_fault`); a walk that makes no
  such read is the same walk (`Decoder.walk_under_fault`).
-/

namespace RemoteStack

namespace Walk

variable {memory other : Memory} {served number : Nat} {walk last : Walk} {stack : Stack}
  {frames : List Frame} {requests : List Request} {source : AccessError}

/-- How many reads the first pulls of a walk make. -/
def readsOf (walk : Walk) (memory : Memory) (served count : Nat) : Nat :=
  ((walk.pulls count).run memory served).requests.length

/-! ## One pull -/

/-- Only a pull that may decode reads. -/
theorem mayDecode_of_reads (reads : number < (walk.pull.run memory served).requests.length) :
    walk.MayDecode := by
  by_cases may : walk.MayDecode
  · exact may
  · obtain ⟨pulled, _, hpull | ⟨event, hpull⟩⟩ := pull_of_not_mayDecode may
    · rw [hpull] at reads
      exact absurd reads (Nat.not_lt_zero _)
    · rw [hpull] at reads
      exact absurd reads (Nat.not_lt_zero _)

/-- A pull that may decode makes the reads of the frame. -/
theorem run_pull_of_mayDecode (may : walk.MayDecode) (memory : Memory) (served : Nat) :
    (walk.pull.run memory served).requests = (walk.decode.run memory served).requests ∧
      ∀ error, (walk.decode.run memory served).outcome = .error error →
        (walk.pull.run memory served).outcome = .ok (some (.error error), walk.finish) := by
  have attempted := Probe.run_attempt memory served walk.decode
  rw [pull_of_mayDecode may]
  cases decoded : (walk.decode.run memory served).outcome with
  | ok frame =>
    rw [decoded] at attempted
    rw [Probe.requests_bind_of_ok (congrArg Run.outcome attempted), attempted]
    exact ⟨List.append_nil _, nofun⟩
  | error failure =>
    rw [decoded] at attempted
    rw [Probe.requests_bind_of_ok (congrArg Run.outcome attempted),
      Probe.outcome_bind_of_ok (congrArg Run.outcome attempted), attempted]
    refine ⟨List.append_nil _, ?_⟩
    rintro _ ⟨⟩
    rfl
  | overflow =>
    rw [decoded] at attempted
    rw [Probe.requests_bind_of_overflow (congrArg Run.outcome attempted), attempted]
    exact ⟨rfl, nofun⟩

/-- A pull that would make the read that fails ends the walk with the failure. -/
theorem run_pull_fault (agree : Memory.AgreeFor served number memory other)
    (fails : other.FailsAt (served + number) source)
    (made : number < (walk.pull.run memory served).requests.length) :
    ∃ request context, (walk.pull.run memory served).requests[number]? = some request ∧
      (walk.pull.run other served).outcome =
        .ok (some (.error (.unreadableMemory request.address request.length context source)),
          walk.finish) ∧
      (walk.pull.run other served).requests =
        (walk.pull.run memory served).requests.take (number + 1) := by
  have may := mayDecode_of_reads made
  obtain ⟨reads, _⟩ := run_pull_of_mayDecode may memory served
  obtain ⟨otherReads, otherFailure⟩ := run_pull_of_mayDecode may other served
  rw [reads] at made ⊢
  obtain ⟨request, context, hrequest, houtcome, hrequests⟩ :=
    walk.decode_strict.run_fault agree fails made
  exact ⟨request, context, hrequest, otherFailure _ houtcome, otherReads.trans hrequests⟩

/-! ## All pulls -/

/-- The pulls after a frame add their reads to those of the frame. -/
theorem readsOf_succ {item : Item} {next : Walk}
    (hrun : (walk.pull.run memory served).outcome = .ok (item, next)) (count : Nat) :
    walk.readsOf memory served (count + 1) = (walk.pull.run memory served).requests.length +
      next.readsOf memory (served + (walk.pull.run memory served).requests.length) count := by
  unfold readsOf
  rw [pulls_succ, Probe.requests_bind_of_ok hrun, Probe.requests_bind_done, List.length_append]

/-- The frames that were complete before the read that fails stay, and the walk ends with the
failure of the read, which is that of one of the frames or of the pull behind them. -/
theorem Steps.run_fault (steps : Steps memory served walk frames requests last)
    (agree : Memory.AgreeFor served number memory other)
    (fails : other.FailsAt (served + number) source)
    (made : number < (requests ++
      (last.pull.run memory (served + requests.length)).requests).length) :
    ∃ request context completed,
      (requests ++ (last.pull.run memory (served + requests.length)).requests)[number]? =
        some request ∧
      (∀ i, i < completed ↔ i < frames.length ∧ walk.readsOf memory served (i + 1) ≤ number) ∧
      Trace other served walk
        ⟨frames.take completed,
          some (.unreadableMemory request.address request.length context source)⟩
        ((requests ++ (last.pull.run memory (served + requests.length)).requests).take
          (number + 1)) := by
  induction steps generalizing number with
  | @refl served walk =>
    rw [List.nil_append, List.length_nil, Nat.add_zero served] at made ⊢
    obtain ⟨request, context, hrequest, houtcome, hrequests⟩ := run_pull_fault agree fails made
    refine ⟨request, context, 0, hrequest, ?_, ?_⟩
    · intro i
      simp
    · rw [← hrequests]
      exact .failed houtcome
  | @frame served walk next last frame frames requests hrun steps ih =>
    have shift : served + ((walk.pull.run memory served).requests ++ requests).length =
        served + (walk.pull.run memory served).requests.length + requests.length := by
      rw [List.length_append, Nat.add_assoc]
    rw [List.append_assoc, shift] at made ⊢
    by_cases within : number < (walk.pull.run memory served).requests.length
    · -- the frame is the one that is being read, so none of its walk is complete
      obtain ⟨request, context, hrequest, houtcome, hrequests⟩ :=
        run_pull_fault agree fails within
      refine ⟨request, context, 0, ?_, ?_, ?_⟩
      · rw [List.getElem?_append_left within, hrequest]
      · intro i
        have := readsOf_succ hrun i
        omega
      · rw [List.take_append_of_le_length within, ← hrequests]
        exact .failed houtcome
    · have before : (walk.pull.run memory served).requests.length ≤ number := Nat.not_lt.1 within
      -- the pull ends before the read that fails, so it is the same pull on both memories
      have same := walk.pull.run_congr (agree.take before)
      have split : served + (walk.pull.run memory served).requests.length +
          (number - (walk.pull.run memory served).requests.length) = served + number := by omega
      rw [List.length_append] at made
      obtain ⟨request, context, completed, hrequest, hcompleted, hrest⟩ :=
        ih (agree.drop _) (split.symm ▸ fails) (Nat.sub_lt_left_of_lt_add before made)
      refine ⟨request, context, completed + 1, ?_, ?_, ?_⟩
      · rw [List.getElem?_append_right before, hrequest]
      · intro i
        cases i with
        | zero =>
          have : next.readsOf memory
            (served + (walk.pull.run memory served).requests.length) 0 = 0 := rfl
          have := readsOf_succ hrun 0
          simp only [List.length_cons]
          omega
        | succ i =>
          have := readsOf_succ hrun (i + 1)
          have := hcompleted i
          simp only [List.length_cons]
          omega
      · rw [List.take_append, List.take_of_length_le (Nat.le_succ_of_le before),
          Nat.sub_add_comm before, ← same]
        rw [← same] at hrun hrest
        exact .frame hrun hrest

/-- So does a trace, which is steps with a pull behind them. -/
theorem Trace.run_fault (t : Trace memory served walk stack requests)
    (agree : Memory.AgreeFor served number memory other)
    (fails : other.FailsAt (served + number) source) (made : number < requests.length) :
    ∃ request context completed, requests[number]? = some request ∧
      (∀ i, i < completed ↔
        i < stack.frames.length ∧ walk.readsOf memory served (i + 1) ≤ number) ∧
      Trace other served walk
        ⟨stack.frames.take completed,
          some (.unreadableMemory request.address request.length context source)⟩
        (requests.take (number + 1)) := by
  obtain ⟨_, _, steps, rfl⟩ := t.exists_steps
  exact steps.run_fault agree fails made

end Walk

namespace Walk

/-- Where the walk on `memory` yields the frames and makes the requests, the walk on `other`
makes the requests up to the one of the number, keeps the frames that are complete before it,
ends with the failure of that request, and reads no more. -/
def CutAt (walk : Walk) (number : Nat) (source : AccessError) (memory other : Memory)
    (served : Nat) (frames : List Frame) (requests : List Request) : Prop :=
  ∃ request context completed, requests[number]? = some request ∧
    (∀ i, i < completed ↔
      i < frames.length ∧ walk.readsOf memory served (i + 1) ≤ number) ∧
    (requests.take (number + 1)).length = number + 1 ∧
    walk.Yields other served
      ⟨frames.take completed,
        some (.unreadableMemory request.address request.length context source)⟩
      (requests.take (number + 1))

/-- What becomes of the walk where the read of the number fails: one that makes fewer requests is
the same on both memories, and any other is cut there. -/
def FaultedAt (walk : Walk) (number : Nat) (source : AccessError) (memory other : Memory)
    (served : Nat) (frames : List Frame) (requests : List Request) : Prop :=
  if requests.length ≤ number then
    walk.stack.run other served = walk.stack.run memory served ∧
    ∀ count, (walk.pulls count).run other served = (walk.pulls count).run memory served
  else walk.CutAt number source memory other served frames requests

variable {memory other : Memory} {served number : Nat} {walk last : Walk} {frames : List Frame}
  {requests : List Request} {source : AccessError}

/-- Steps with a pull behind them are cut at each of their reads. -/
theorem Steps.cutAt (steps : Steps memory served walk frames requests last)
    (h : walk.resolver.reader.Covers) (agree : Memory.AgreeFor served number memory other)
    (fails : other.FailsAt (served + number) source)
    (made : number < (requests ++
      (last.pull.run memory (served + requests.length)).requests).length) :
    walk.CutAt number source memory other served frames
      (requests ++ (last.pull.run memory (served + requests.length)).requests) := by
  obtain ⟨request, context, completed, hrequest, hcompleted, hother⟩ :=
    steps.run_fault agree fails made
  exact ⟨request, context, completed, hrequest, hcompleted, List.length_take_of_le made,
    hother.yields h⟩

/-- A walk whose reads are answered in the same way is the same walk. -/
theorem faultedAt_of_cutAt (agree : Memory.AgreeFor served number memory other)
    (whole : (walk.stack.run memory served).requests = requests)
    (first : ∀ count, ((walk.pulls count).run memory served).requests <+: requests)
    (cut : number < requests.length →
      walk.CutAt number source memory other served frames requests) :
    walk.FaultedAt number source memory other served frames requests := by
  by_cases before : requests.length ≤ number
  · rw [FaultedAt, if_pos before]
    refine ⟨Probe.run_congr _ (agree.take ?_), ?_⟩
    · rw [whole]
      exact before
    · intro count
      exact Probe.run_congr _ (agree.take (Nat.le_trans (first count).length_le before))
  · rw [FaultedAt, if_neg before]
    exact cut (Nat.not_le.1 before)

end Walk

namespace Decoder

/-- Where one read of a walk fails and those before it are answered as they were, a walk that
makes no such read is the same, and any other is cut there. This holds of a walk that breaks off
as well. -/
theorem walk_under_fault (decoder : Decoder) (start : Address) {memory other : Memory}
    {served number : Nat} {source : AccessError}
    (agree : Memory.AgreeFor served number memory other)
    (fails : other.FailsAt (served + number) source) :
    let walk := decoder.walk start
    (∃ stack requests, walk.Yields memory served stack requests ∧
      walk.FaultedAt number source memory other served stack.frames requests) ∨
    decoder.reader.OverflowsOn memory ∧
      ∃ frames requests, walk.BreaksOff memory served frames requests ∧
        walk.FaultedAt number source memory other served frames requests := by
  intro walk
  have covers : walk.resolver.reader.Covers := decoder.covers
  rcases Walk.trace_or_broken memory served walk covers with ⟨stack, _, t⟩ | ⟨frames, _, t⟩
  · obtain ⟨_, _, steps, rfl⟩ := t.exists_steps
    exact .inl ⟨stack, _, t.yields covers, Walk.faultedAt_of_cutAt agree (t.run_stack covers).2
      (fun count => (t.run_pulls covers count).2.1) (steps.cutAt covers agree fails)⟩
  · obtain ⟨_, _, steps, _, rfl⟩ := t.exists_steps
    have broken := t.breaksOff covers
    exact .inr ⟨t.overflowsOn covers, frames, _, broken, Walk.faultedAt_of_cutAt agree
      broken.requests_stack (fun count => (t.run_pulls count).1) (steps.cutAt covers agree fails)⟩

/-- A frame of zeros takes three reads. Where the second one fails, the walk is cut there. -/
theorem walk_cut_at_second_read :
    let decoder : Decoder :=
      { version := ⟨⟨2, 7⟩, .python2, ⟨.eight, .lp64⟩, by decide, by decide⟩ }
    let zeros : Memory := fun _ _ length => .ok (List.replicate length 0)
    let disturbed := zeros.withFaults [⟨1, .fail "gone"⟩]
    Memory.AgreeFor 0 1 zeros disturbed ∧ disturbed.FailsAt 1 (.refused "gone") ∧
      ∃ stack requests, (decoder.walk (.ofNat 4096)).Yields zeros 0 stack requests ∧
        requests.length = 3 ∧
        (decoder.walk (.ofNat 4096)).CutAt 1 (.refused "gone") zeros disturbed 0 stack.frames
          requests := by
  intro decoder zeros disturbed
  have agree : Memory.AgreeFor 0 1 zeros disturbed := by
    intro n hn
    obtain rfl : n = 0 := Nat.lt_one_iff.1 hn
    rfl
  have fails : disturbed.FailsAt (0 + 1) (.refused "gone") := fun _ _ => rfl
  rcases decoder.walk_under_fault (.ofNat 4096) agree fails with
    ⟨stack, requests, yields, h⟩ | ⟨text, _⟩
  · have reads : requests.length = 3 := by
      rw [← yields.requests_stack]
      decide +kernel
    rw [Walk.FaultedAt, reads, if_neg (by decide)] at h
    exact ⟨agree, fails, stack, requests, yields, reads, h⟩
  · exact absurd (text.family decoder.covers) (by decide)

end Decoder

end RemoteStack
