import RemoteStack.Proofs.Stack.Failure

/-!
# Traces of thread lists

What becomes of a list of threads on a memory, as a relation that follows it thread by thread:

* **one thread** — a capture makes the reads of the state and then those of the walk, and it
  is the stack of that walk, or overflows with it (`Decoder.capture_trace_or_broken`);
* **step** — at each link the list stops without a read (`Decoder.StopsAt`), or may go on
  (`Decoder.MayCapture`);
* **run** — `decoder.ListTrace memory served visited next snapshot requests` says that the
  list, followed from `next` to its end, gives `snapshot` and makes `requests`, and
  `decoder.BrokenListTrace memory served visited next threads requests` that it captures
  `threads` and then overflows. They count no steps; that every list has one of them
  (`listTrace_or_broken`) says that following it comes to an end, because each thread leaves
  less of `maxThreads`;
* **observation** — a trace is what a capture of the process finds
  (`ListTrace.run_captureAll`, `BrokenListTrace.run_captureAll`).
-/

namespace RemoteStack

namespace Decoder

variable {decoder : Decoder} {memory : Memory} {served : Nat} {visited : List Address}
  {next : Address} {snapshot : ProcessSnapshot} {requests : List Request}

/-! ## One thread -/

/-- A snapshot is the stack of its walk, and makes the reads of the walk. -/
theorem run_snapshot {state : ThreadState} {stack : Stack}
    (t : (decoder.walk state.frame).Trace memory served stack requests) :
    ((decoder.snapshot state).run memory served).outcome =
        .ok { toStack := stack, thread := state.threadId, threadState := state.address } ∧
      ((decoder.snapshot state).run memory served).requests = requests := by
  have sound := t.soundFrom decoder.covers Bool.false_ne_true rfl
  refine ⟨outcome_snapshot t sound, ?_⟩
  obtain ⟨outcome, reads⟩ := t.run_stack decoder.covers
  unfold snapshot
  simp only [Probe.bind_eq]
  rw [Probe.requests_bind_of_ok outcome, reads]
  -- what follows the walk only reports events
  cases herror : stack.error with
  | none => exact List.append_nil _
  | some error =>
    have kept : ¬error.isFatal := (sound.endsWell.endsChain herror).not_isFatal
    simp only [if_neg kept]
    exact List.append_nil _

/-- A capture reads the state and then walks from its innermost frame. -/
theorem run_capture {address : Address} {state : ThreadState} {stack : Stack}
    (hstate : ((decoder.reader.threadState address).run memory served).outcome = .ok state)
    (t : (decoder.walk state.frame).Trace memory
      (served + ((decoder.reader.threadState address).run memory served).requests.length)
      stack requests) :
    ((decoder.capture address).run memory served).outcome =
        .ok { toStack := stack, thread := state.threadId, threadState := state.address } ∧
      ((decoder.capture address).run memory served).requests =
        ((decoder.reader.threadState address).run memory served).requests ++ requests := by
  obtain ⟨outcome, reads⟩ := run_snapshot t
  unfold capture
  simp only [Probe.bind_eq]
  rw [Probe.outcome_bind_of_ok hstate, Probe.requests_bind_of_ok hstate, outcome, reads]
  exact ⟨rfl, rfl⟩

/-- A capture overflows with its walk. -/
theorem run_capture_of_broken {address : Address} {state : ThreadState} {frames : List Frame}
    (hstate : ((decoder.reader.threadState address).run memory served).outcome = .ok state)
    (t : (decoder.walk state.frame).BrokenTrace memory
      (served + ((decoder.reader.threadState address).run memory served).requests.length)
      frames requests) :
    ((decoder.capture address).run memory served).outcome = .overflow ∧
      ((decoder.capture address).run memory served).requests =
        ((decoder.reader.threadState address).run memory served).requests ++ requests := by
  obtain ⟨outcome, reads⟩ := snapshot_of_broken t
  unfold capture
  simp only [Probe.bind_eq]
  rw [Probe.outcome_bind_of_ok hstate, Probe.requests_bind_of_ok hstate, outcome, reads]
  exact ⟨rfl, rfl⟩

/-- A capture that can read the state has a result, the stack of a walk, unless that breaks
off. -/
theorem capture_trace_or_broken {address : Address} {state : ThreadState}
    (hstate : ((decoder.reader.threadState address).run memory served).outcome = .ok state) :
    (∃ stack requests, (decoder.walk state.frame).Trace memory
        (served + ((decoder.reader.threadState address).run memory served).requests.length)
        stack requests ∧
      ((decoder.capture address).run memory served).outcome =
        .ok { toStack := stack, thread := state.threadId, threadState := state.address } ∧
      ((decoder.capture address).run memory served).requests =
        ((decoder.reader.threadState address).run memory served).requests ++ requests) ∨
    ∃ frames requests, (decoder.walk state.frame).BrokenTrace memory
        (served + ((decoder.reader.threadState address).run memory served).requests.length)
        frames requests ∧
      ((decoder.capture address).run memory served).outcome = .overflow ∧
      ((decoder.capture address).run memory served).requests =
        ((decoder.reader.threadState address).run memory served).requests ++ requests := by
  rcases decoder.walk_trace_or_broken memory
      (served + ((decoder.reader.threadState address).run memory served).requests.length)
      state.frame with ⟨stack, requests, t, _⟩ | ⟨frames, requests, t, _⟩
  · exact .inl ⟨stack, requests, t, run_capture hstate t⟩
  · exact .inr ⟨frames, requests, t, run_capture_of_broken hstate t⟩

/-- A capture overflows with a text. -/
theorem overflowsOn_of_capture {address : Address}
    (broken : ((decoder.capture address).run memory served).outcome = .overflow) :
    decoder.reader.OverflowsOn memory := by
  cases hstate : ((decoder.reader.threadState address).run memory served).outcome with
  | error error =>
    have failed : ((decoder.capture address).run memory served).outcome = .error error :=
      Probe.outcome_bind_of_error hstate
    rw [failed] at broken
    cases broken
  | overflow => exact absurd hstate (decoder.threadState_ne_overflow address memory served)
  | ok state =>
    rcases capture_trace_or_broken hstate with ⟨_, _, _, outcome, _⟩ | ⟨_, _, t, _⟩
    · rw [outcome] at broken
      cases broken
    · exact t.overflowsOn decoder.covers

/-! ## One link -/

/-- The list may go on with the thread whose state is at `next`. -/
structure MayCapture (decoder : Decoder) (visited : List Address) (next : Address) : Prop where
  nonNull : ¬next.isNull
  count_lt : visited.length < decoder.limits.maxThreads
  notVisited : next ∉ visited

/-- The list stops at `next`: at its end, at the limit, or where it has been before. -/
inductive StopsAt (decoder : Decoder) (visited : List Address) (next : Address) :
    Option DecodeError → Prop
  | ended : next.isNull → StopsAt decoder visited next none
  | deep : ¬next.isNull → decoder.limits.maxThreads ≤ visited.length →
      StopsAt decoder visited next (some (.corruptedChain next visited.length .depthExceeded))
  | cycle : ¬next.isNull → visited.length < decoder.limits.maxThreads → next ∈ visited →
      StopsAt decoder visited next (some (.corruptedChain next visited.length .cycle))

theorem stopsAt_or_mayCapture (decoder : Decoder) (visited : List Address) (next : Address) :
    (∃ error?, decoder.StopsAt visited next error?) ∨ decoder.MayCapture visited next := by
  by_cases null : next.isNull
  · exact .inl ⟨_, .ended null⟩
  by_cases deep : decoder.limits.maxThreads ≤ visited.length
  · exact .inl ⟨_, .deep null deep⟩
  have shallow : visited.length < decoder.limits.maxThreads := Nat.not_le.1 deep
  by_cases cycle : next ∈ visited
  · exact .inl ⟨_, .cycle null shallow cycle⟩
  · exact .inr ⟨null, shallow, cycle⟩

/-- A list that stops is given up without a read. -/
theorem captureFrom_of_stopsAt {error? : Option DecodeError}
    (h : decoder.StopsAt visited next error?) :
    decoder.captureFrom visited next (decoder.limits.maxThreads - visited.length) =
      .done ⟨[], error?⟩ := by
  cases remaining : decoder.limits.maxThreads - visited.length with
  | zero =>
    unfold captureFrom captureOnto
    cases h with
    | ended null => rw [if_pos null]; rfl
    | deep nonNull deep => rw [if_neg nonNull]; rfl
    | cycle nonNull shallow => omega
  | succ remaining =>
    rw [captureFrom_succ]
    cases h with
    | ended null => rw [if_pos null]
    | deep nonNull deep => omega
    | cycle nonNull shallow cycle =>
      rw [if_neg nonNull, if_pos (List.contains_iff_mem.2 cycle)]

/-- A list that may go on reads the state of the next thread. -/
theorem captureFrom_of_mayCapture (h : decoder.MayCapture visited next) :
    decoder.captureFrom visited next (decoder.limits.maxThreads - visited.length) =
      (decoder.reader.threadState next).attempt.bind fun
        | .error error => if error.isFatal then .failed error else .done ⟨[], some error⟩
        | .ok state => (decoder.snapshot state).bind fun thread =>
          (decoder.captureFrom (next :: visited) state.next
            (decoder.limits.maxThreads - (next :: visited).length)).bind fun rest =>
              .done { rest with threads := thread :: rest.threads } := by
  have remaining : decoder.limits.maxThreads - visited.length =
      decoder.limits.maxThreads - (next :: visited).length + 1 := by
    have := h.count_lt
    rw [List.length_cons]
    omega
  rw [remaining, captureFrom_succ, if_neg h.nonNull]
  exact if_neg (mt List.contains_iff_mem.1 h.notVisited)

/-! ## All links -/

/-- Followed from `next` on after `served` reads and the visited threads, the list gives the
snapshot and makes the requests. -/
inductive ListTrace (decoder : Decoder) (memory : Memory) :
    Nat → List Address → Address → ProcessSnapshot → List Request → Prop
  | stopped {served : Nat} {visited : List Address} {next : Address}
      {error? : Option DecodeError} : decoder.StopsAt visited next error? →
      ListTrace decoder memory served visited next ⟨[], error?⟩ []
  | failed {served : Nat} {visited : List Address} {next : Address} {error : DecodeError} :
      decoder.MayCapture visited next →
      ((decoder.reader.threadState next).run memory served).outcome = .error error →
      ListTrace decoder memory served visited next ⟨[], some error⟩
        ((decoder.reader.threadState next).run memory served).requests
  | thread {served : Nat} {visited : List Address} {next : Address} {state : ThreadState}
      {thread : ThreadSnapshot} {rest : ProcessSnapshot} {requests : List Request} :
      decoder.MayCapture visited next →
      ((decoder.reader.threadState next).run memory served).outcome = .ok state →
      ((decoder.capture next).run memory served).outcome = .ok thread →
      ListTrace decoder memory
        (served + ((decoder.capture next).run memory served).requests.length)
        (next :: visited) state.next rest requests →
      ListTrace decoder memory served visited next ⟨thread :: rest.threads, rest.error⟩
        (((decoder.capture next).run memory served).requests ++ requests)

/-- Followed from `next` on after `served` reads and the visited threads, the list captures the
threads, and the capture of the thread behind them overflows; all of these make the requests. -/
inductive BrokenListTrace (decoder : Decoder) (memory : Memory) :
    Nat → List Address → Address → List ThreadSnapshot → List Request → Prop
  | overflow {served : Nat} {visited : List Address} {next : Address} {state : ThreadState} :
      decoder.MayCapture visited next →
      ((decoder.reader.threadState next).run memory served).outcome = .ok state →
      ((decoder.capture next).run memory served).outcome = .overflow →
      BrokenListTrace decoder memory served visited next []
        ((decoder.capture next).run memory served).requests
  | thread {served : Nat} {visited : List Address} {next : Address} {state : ThreadState}
      {thread : ThreadSnapshot} {threads : List ThreadSnapshot} {requests : List Request} :
      decoder.MayCapture visited next →
      ((decoder.reader.threadState next).run memory served).outcome = .ok state →
      ((decoder.capture next).run memory served).outcome = .ok thread →
      BrokenListTrace decoder memory
        (served + ((decoder.capture next).run memory served).requests.length)
        (next :: visited) state.next threads requests →
      BrokenListTrace decoder memory served visited next (thread :: threads)
        (((decoder.capture next).run memory served).requests ++ requests)

/-- Every list comes to an end, unless it breaks off. -/
theorem listTrace_or_broken (decoder : Decoder) (memory : Memory) (served : Nat)
    (visited : List Address) (next : Address) :
    (∃ snapshot requests, decoder.ListTrace memory served visited next snapshot requests) ∨
      ∃ threads requests, decoder.BrokenListTrace memory served visited next threads requests := by
  -- a list that may go on is below its limit, so each thread leaves less of it
  induction hleft : decoder.limits.maxThreads - visited.length using Nat.strongRecOn
    generalizing served visited next with
  | ind left ih =>
    obtain ⟨error?, stops⟩ | may := decoder.stopsAt_or_mayCapture visited next
    · exact .inl ⟨_, _, .stopped stops⟩
    cases hstate : ((decoder.reader.threadState next).run memory served).outcome with
    | error error => exact .inl ⟨_, _, .failed may hstate⟩
    | overflow => exact absurd hstate (decoder.threadState_ne_overflow next memory served)
    | ok state =>
      rcases capture_trace_or_broken hstate with ⟨_, _, _, hthread, _⟩ | ⟨_, _, _, broken, _⟩
      · have less : decoder.limits.maxThreads - (next :: visited).length < left := by
          have := may.count_lt
          rw [List.length_cons]
          omega
        rcases ih _ less (served + ((decoder.capture next).run memory served).requests.length)
          (next :: visited) state.next rfl with ⟨_, _, t⟩ | ⟨_, _, t⟩
        · exact .inl ⟨_, _, .thread may hstate hthread t⟩
        · exact .inr ⟨_, _, .thread may hstate hthread t⟩
      · exact .inr ⟨_, _, .overflow may hstate broken⟩

/-- Only a text breaks a list off. -/
theorem BrokenListTrace.overflowsOn {threads : List ThreadSnapshot}
    (t : decoder.BrokenListTrace memory served visited next threads requests) :
    decoder.reader.OverflowsOn memory := by
  induction t with
  | overflow _ _ broken => exact overflowsOn_of_capture broken
  | thread _ _ _ _ ih => exact ih

/-! ## Observing a trace -/

/-- A list whose next state can be read goes on with the capture of the thread, which stands in
front of the others. -/
theorem run_captureFrom_of_state {state : ThreadState} (may : decoder.MayCapture visited next)
    (hstate : ((decoder.reader.threadState next).run memory served).outcome = .ok state) :
    (decoder.captureFrom visited next (decoder.limits.maxThreads - visited.length)).run memory
        served =
      ((decoder.capture next).bind fun thread =>
        (decoder.captureFrom (next :: visited) state.next
          (decoder.limits.maxThreads - (next :: visited).length)).bind fun rest =>
            .done { rest with threads := thread :: rest.threads }).run memory served := by
  have attempted := Probe.run_attempt memory served (decoder.reader.threadState next)
  rw [hstate] at attempted
  unfold capture
  simp only [Probe.bind_eq, Probe.bind_assoc]
  rw [captureFrom_of_mayCapture may, Probe.run_bind_of_ok _ hstate,
    Probe.run_bind_of_ok _ (congrArg Run.outcome attempted), attempted]

theorem ListTrace.run_captureFrom
    (t : decoder.ListTrace memory served visited next snapshot requests) :
    ((decoder.captureFrom visited next (decoder.limits.maxThreads - visited.length)).run memory
        served).outcome = .ok snapshot ∧
      ((decoder.captureFrom visited next (decoder.limits.maxThreads - visited.length)).run memory
        served).requests = requests := by
  induction t with
  | stopped stops =>
    rw [captureFrom_of_stopsAt stops]
    exact ⟨rfl, rfl⟩
  | @failed served visited next error may hstate =>
    have attempted := Probe.run_attempt memory served (decoder.reader.threadState next)
    rw [hstate] at attempted
    have hlocal : error.IsLocal := decoder.isLocal_of_unread may.nonNull hstate
    have kept : ¬error.isFatal := hlocal.endsChain.not_isFatal
    rw [captureFrom_of_mayCapture may, Probe.outcome_bind_of_ok (congrArg Run.outcome attempted),
      Probe.requests_bind_of_ok (congrArg Run.outcome attempted), attempted]
    simp only [if_neg kept]
    exact ⟨rfl, List.append_nil _⟩
  | thread may hstate hthread _ ih =>
    rw [run_captureFrom_of_state may hstate, Probe.outcome_bind_of_ok hthread,
      Probe.requests_bind_of_ok hthread, Probe.outcome_bind_of_ok ih.1, Probe.requests_bind_done,
      ih.2]
    exact ⟨rfl, rfl⟩

/-- A capture of a process finds what the trace of its list says. -/
theorem ListTrace.run_captureAll (t : decoder.ListTrace memory served [] next snapshot requests) :
    ((decoder.captureAll next).run memory served).outcome = .ok snapshot ∧
      ((decoder.captureAll next).run memory served).requests = requests := by
  obtain ⟨outcome, reads⟩ := t.run_captureFrom
  rw [List.length_nil, Nat.sub_zero] at outcome reads
  unfold captureAll
  simp only [Probe.bind_eq, Probe.pure_eq]
  rw [Probe.outcome_bind_of_ok outcome, Probe.requests_bind_of_ok outcome, reads]
  cases snapshot.error <;> exact ⟨rfl, List.append_nil _⟩

theorem BrokenListTrace.run_captureFrom {threads : List ThreadSnapshot}
    (t : decoder.BrokenListTrace memory served visited next threads requests) :
    ((decoder.captureFrom visited next (decoder.limits.maxThreads - visited.length)).run memory
        served).outcome = .overflow ∧
      ((decoder.captureFrom visited next (decoder.limits.maxThreads - visited.length)).run memory
        served).requests = requests := by
  induction t with
  | overflow may hstate broken =>
    rw [run_captureFrom_of_state may hstate]
    exact ⟨Probe.outcome_bind_of_overflow broken, Probe.requests_bind_of_overflow broken⟩
  | thread may hstate hthread _ ih =>
    rw [run_captureFrom_of_state may hstate, Probe.outcome_bind_of_ok hthread,
      Probe.requests_bind_of_ok hthread, Probe.outcome_bind_of_overflow ih.1,
      Probe.requests_bind_done, ih.2]
    exact ⟨rfl, rfl⟩

/-- A capture of a process overflows with its list. -/
theorem BrokenListTrace.run_captureAll {threads : List ThreadSnapshot}
    (t : decoder.BrokenListTrace memory served [] next threads requests) :
    ((decoder.captureAll next).run memory served).outcome = .overflow ∧
      ((decoder.captureAll next).run memory served).requests = requests := by
  obtain ⟨outcome, reads⟩ := t.run_captureFrom
  rw [List.length_nil, Nat.sub_zero] at outcome reads
  exact ⟨Probe.outcome_bind_of_overflow outcome,
    (Probe.requests_bind_of_overflow outcome).trans reads⟩

/-- So either its list has a trace, or it overflows with a text. -/
theorem captureAll_trace_or_overflow (decoder : Decoder) (memory : Memory) (served : Nat)
    (head : Address) :
    (∃ snapshot requests, decoder.ListTrace memory served [] head snapshot requests ∧
      ((decoder.captureAll head).run memory served).outcome = .ok snapshot ∧
      ((decoder.captureAll head).run memory served).requests = requests) ∨
    decoder.reader.OverflowsOn memory ∧
      ((decoder.captureAll head).run memory served).outcome = .overflow := by
  rcases decoder.listTrace_or_broken memory served [] head with ⟨_, _, t⟩ | ⟨_, _, t⟩
  · exact .inl ⟨_, _, t, t.run_captureAll⟩
  · exact .inr ⟨t.overflowsOn, t.run_captureAll.1⟩

end Decoder

end RemoteStack
