import RemoteStack.Proofs.Probe.Growth
import RemoteStack.Proofs.Probe.Still
import RemoteStack.Proofs.Stack.Fault
import RemoteStack.Proofs.Stack.Kept

/-!
# Captures of more memory

What becomes of a capture where more of the memory of the process was captured. A read that is
not answered is the one failure that more memory can mend; whatever else a capture finds, it
finds again.

* **pull** — a pull does on a larger memory what it did, or it ended the walk with a read that
  was not answered (`Walk.run_pull_grown`);
* **run** — so the trace of a walk stays its trace, or its stack is cut short of the frames on the
  larger memory (`Stack.CutShortOf`, `Walk.Trace.grown`);
* **capture** — the state of a thread is read strictly as well, so the same holds of a capture
  (`Decoder.capture_grown`). What was added may be a text that overflows, and then there is no
  capture of the larger memory.
-/

namespace RemoteStack

/-- The stack ended with a read that was not answered, and the frames before it are the first
ones of the others. -/
structure Stack.CutShortOf (stack : Stack) (longer : List Frame) : Prop where
  unreadable : ∃ error, stack.error = some error ∧ error.IsUnreadable
  frames : stack.frames <+: longer

theorem Stack.CutShortOf.push {stack : Stack} {longer : List Frame} (h : stack.CutShortOf longer)
    (frame : Frame) : (stack.push frame).CutShortOf (frame :: longer) :=
  ⟨h.unreadable, (List.prefix_cons_inj frame).2 h.frames⟩

/-! ## Walks -/

namespace Walk

variable {memory larger : Memory} {served : Nat} {walk : Walk} {stack : Stack}
  {frames : List Frame} {requests : List Request}

/-- A pull does on a larger memory what it did, or it ended the walk with a read that was not
answered. -/
theorem run_pull_grown (walk : Walk) (within : memory.Within larger) (served : Nat) :
    walk.pull.run larger served = walk.pull.run memory served ∨
      ∃ error, (walk.pull.run memory served).outcome = .ok (some (.error error), walk.finish) ∧
        error.IsUnreadable := by
  by_cases may : walk.MayDecode
  · rcases walk.decode_strict.run_grown within served with same | ⟨error, failed, unreadable⟩
    · have attempted : walk.decode.attempt.run larger served =
          walk.decode.attempt.run memory served := by
        rw [Probe.run_attempt, Probe.run_attempt, same]
      left
      rw [pull_of_mayDecode may]
      -- what follows the frame reads nothing
      cases decoded : (walk.decode.attempt.run memory served).outcome with
      | ok result =>
        rw [Probe.run_bind_of_ok _ decoded,
          Probe.run_bind_of_ok _ ((congrArg Run.outcome attempted).trans decoded), attempted]
        cases result <;> rfl
      | error failure =>
        rw [Probe.run_bind_of_error _ decoded,
          Probe.run_bind_of_error _ ((congrArg Run.outcome attempted).trans decoded), attempted]
      | overflow =>
        rw [Probe.run_bind_of_overflow _ decoded,
          Probe.run_bind_of_overflow _ ((congrArg Run.outcome attempted).trans decoded), attempted]
    · exact .inr ⟨error, (run_pull_of_mayDecode may memory served).2 error failed, unreadable⟩
  · obtain ⟨pulled, _, hpull | ⟨event, hpull⟩⟩ := pull_of_not_mayDecode may
    · rw [hpull]
      exact .inl rfl
    · rw [hpull]
      exact .inl rfl

/-- What a walk yields it yields on a larger memory, unless it is cut short of that, or of the
frames before an overflow. -/
theorem Trace.grown (t : Trace memory served walk stack requests)
    (h : walk.resolver.reader.Covers) (within : memory.Within larger) :
    Trace larger served walk stack requests ∨
      (∃ longer more, Trace larger served walk longer more ∧ stack.CutShortOf longer.frames) ∨
      ∃ frames more, BrokenTrace larger served walk frames more ∧ stack.CutShortOf frames := by
  induction t with
  | ended ended => exact .inl (.ended ended)
  | @failed served walk next error hrun =>
    rcases walk.run_pull_grown within served with same | ⟨_, failed, unreadable⟩
    · rw [← same] at hrun ⊢
      exact .inl (.failed hrun)
    · rw [failed] at hrun
      cases hrun
      right
      rcases trace_or_broken larger served walk h with ⟨longer, more, t⟩ | ⟨frames, more, t⟩
      · exact .inl ⟨longer, more, t, ⟨_, rfl, unreadable⟩, List.nil_prefix⟩
      · exact .inr ⟨frames, more, t, ⟨_, rfl, unreadable⟩, List.nil_prefix⟩
  | @frame served walk next frame stack requests hrun _ ih =>
    rcases walk.run_pull_grown within served with same | ⟨_, failed, _⟩
    · obtain ⟨_, rfl⟩ := eq_advance_of_frame h hrun
      rw [← same] at hrun ih ⊢
      rcases ih h with rest | ⟨longer, more, rest, cut⟩ | ⟨frames, more, rest, cut⟩
      · exact .inl (.frame hrun rest)
      · exact .inr (.inl ⟨longer.push frame, _, .frame hrun rest, cut.push frame⟩)
      · exact .inr (.inr ⟨frame :: frames, _, .frame hrun rest, cut.push frame⟩)
    · -- a pull that yielded a frame did not end the walk
      rw [failed] at hrun
      cases hrun

/-- A walk that breaks off does so on a larger memory as well. -/
theorem BrokenTrace.grown (t : BrokenTrace memory served walk frames requests)
    (within : memory.Within larger) : BrokenTrace larger served walk frames requests := by
  induction t with
  | @overflow served walk broken =>
    rcases walk.run_pull_grown within served with same | ⟨_, failed, _⟩
    · rw [← same] at broken ⊢
      exact .overflow broken
    · rw [failed] at broken
      cases broken
  | @frame served walk next frame frames requests hrun _ ih =>
    rcases walk.run_pull_grown within served with same | ⟨_, failed, _⟩
    · rw [← same] at hrun ih ⊢
      exact .frame hrun ih
    · rw [failed] at hrun
      cases hrun

end Walk

/-! ## Captures -/

namespace Decoder

/-- What becomes of a capture on a larger memory. -/
inductive Grown (before after : Run ThreadSnapshot) : Prop
  | same : after.outcome = before.outcome → after.requests = before.requests →
      Grown before after
  | unread {error : DecodeError} : before.outcome = .error error → error.IsUnreadable →
      Grown before after
  | cut {snapshot longer : ThreadSnapshot} : before.outcome = .ok snapshot →
      after.outcome = .ok longer → longer.thread = snapshot.thread →
      longer.threadState = snapshot.threadState →
      snapshot.toStack.CutShortOf longer.frames → Grown before after
  | stopped {snapshot : ThreadSnapshot} {frames : List Frame} : before.outcome = .ok snapshot →
      after.outcome = .overflow → snapshot.toStack.CutShortOf frames → Grown before after

/-- A capture met an address without memory. -/
def MeetsUnreadable : Outcome ThreadSnapshot → Prop
  | .ok snapshot => ∃ error, snapshot.error = some error ∧ error.IsUnreadable
  | .error error => error.IsUnreadable
  | .overflow => False

theorem Grown.same_of_readable {before after : Run ThreadSnapshot} (h : Grown before after)
    (readable : ¬MeetsUnreadable before.outcome) :
    after.outcome = before.outcome ∧ after.requests = before.requests := by
  cases h with
  | same outcome reads => exact ⟨outcome, reads⟩
  | unread failed unreadable =>
    rw [failed] at readable
    exact absurd unreadable readable
  | cut captured _ _ _ cut | stopped captured _ cut =>
    rw [captured] at readable
    exact absurd cut.unreadable readable

/-- A capture with a result keeps its thread and its frames, unless there is none any more. -/
theorem Grown.kept {before after : Run ThreadSnapshot} {snapshot : ThreadSnapshot}
    (h : Grown before after) (captured : before.outcome = .ok snapshot) :
    (∃ longer, after.outcome = .ok longer ∧ longer.thread = snapshot.thread ∧
      longer.threadState = snapshot.threadState ∧ snapshot.frames <+: longer.frames) ∨
    after.outcome = .overflow := by
  cases h with
  | same outcome => exact .inl ⟨snapshot, outcome.trans captured, rfl, rfl, List.prefix_rfl⟩
  | unread failed =>
    rw [failed] at captured
    cases captured
  | @cut short longer found more thread threadState cut =>
    rw [found] at captured
    cases captured
    exact .inl ⟨longer, more, thread, threadState, cut.frames⟩
  | stopped _ stopped => exact .inr stopped

theorem run_capture_grown (decoder : Decoder) (threadState : Address) {memory larger : Memory}
    (within : memory.Within larger) (served : Nat) :
    Grown ((decoder.capture threadState).run memory served)
      ((decoder.capture threadState).run larger served) := by
  have strict := decoder.reader.threadState_strict threadState
  rcases strict.run_grown within served with state | ⟨error, failed, unreadable⟩
  · cases hstate : ((decoder.reader.threadState threadState).run memory served).outcome with
    | error failure =>
      have hlarger := hstate
      rw [← state] at hlarger
      refine .same ?_ ?_
      · exact (Probe.outcome_bind_of_error hlarger).trans
          (Probe.outcome_bind_of_error hstate).symm
      · rw [capture, Probe.bind_eq, Probe.requests_bind_of_error hlarger,
          Probe.requests_bind_of_error hstate, state]
    | overflow => exact absurd hstate (decoder.threadState_ne_overflow threadState memory served)
    | ok threadState =>
      have hlarger := hstate
      rw [← state] at hlarger
      rcases capture_trace_or_broken hstate with
        ⟨_, _, t, outcome, reads⟩ | ⟨_, _, t, outcome, reads⟩
      · rcases t.grown decoder.covers within with same | ⟨_, _, t, cut⟩ | ⟨_, _, t, cut⟩
        · rw [← state] at same
          obtain ⟨outcomeLarger, readsLarger⟩ := run_capture hlarger same
          exact .same (outcomeLarger.trans outcome.symm) (by rw [readsLarger, reads, state])
        · rw [← state] at t
          exact .cut outcome (run_capture hlarger t).1 rfl rfl cut
        · rw [← state] at t
          exact .stopped outcome (run_capture_of_broken hlarger t).1 cut
      · have same := t.grown within
        rw [← state] at same
        obtain ⟨outcomeLarger, readsLarger⟩ := run_capture_of_broken hlarger same
        exact .same (outcomeLarger.trans outcome.symm) (by rw [readsLarger, reads, state])
  · exact .unread (Probe.outcome_bind_of_error failed) unreadable

/-- Where regions are added to an image apart from those that it has, a capture that met no
address without memory is the same. One that did keeps its thread and its frames, unless a text
that was added overflows. -/
theorem capture_grown (decoder : Decoder) (threadState : Address) {image larger : MemoryImage}
    (separate : larger.Separate) (added : ∀ region ∈ image.regions, region ∈ larger.regions)
    (served : Nat) :
    let before := (decoder.capture threadState).run (.ofImage image) served
    let after := (decoder.capture threadState).run (.ofImage larger) served
    let same := after.outcome = before.outcome ∧ after.requests = before.requests
    (∀ error, before.outcome = .error error → ¬error.IsUnreadable → same) ∧
    (before.outcome = .overflow → same) ∧
    ∀ snapshot, before.outcome = .ok snapshot →
      ((∀ error, snapshot.error = some error → ¬error.IsUnreadable) → same) ∧
      ∀ error, snapshot.error = some error → error.IsUnreadable →
        (∃ longer, after.outcome = .ok longer ∧ longer.thread = snapshot.thread ∧
          longer.threadState = snapshot.threadState ∧ snapshot.frames <+: longer.frames) ∨
        decoder.reader.OverflowsOn (.ofImage larger) ∧ after.outcome = .overflow := by
  intro before after same
  have grown : Grown before after :=
    decoder.run_capture_grown threadState (Memory.within_ofImage separate added) served
  refine ⟨?_, ?_, ?_⟩
  · intro error failed readable
    apply grown.same_of_readable
    rw [failed]
    exact readable
  · intro broken
    apply grown.same_of_readable
    rw [broken]
    exact id
  · intro snapshot captured
    constructor
    · intro readable
      apply grown.same_of_readable
      rw [captured]
      rintro ⟨error, kept, unreadable⟩
      exact readable error kept unreadable
    · intro _ _ _
      rcases grown.kept captured with longer | stopped
      · exact .inl longer
      · exact .inr ⟨overflowsOn_of_capture stopped, stopped⟩

/-- The frame that the only captured one returns to lies right behind it, and is added. -/
theorem capture_grown_by_caller :
    let decoder : Decoder :=
      { version := ⟨⟨2, 7⟩, .python2, ⟨.eight, .lp64⟩, by decide, by decide⟩ }
    let zeros (count : Nat) : Bytes := List.replicate count 0
    let state : Region := ⟨.ofNat 0x1000, zeros 17 ++ [0x20] ++ zeros 134⟩
    let inner : Region := ⟨.ofNat 0x2000, zeros 24 ++ [0x80, 0x21] ++ zeros 358⟩
    let outer : Region := ⟨.ofNat 0x2180, zeros 384⟩
    let image := MemoryImage.ofRegions [state, inner]
    let larger := MemoryImage.ofRegions [state, inner, outer]
    larger.Separate ∧ (∀ region ∈ image.regions, region ∈ larger.regions) ∧
      ∃ snapshot longer,
        ((decoder.capture state.start).run (.ofImage image) 0).outcome = .ok snapshot ∧
        snapshot.frames.length = 1 ∧
        snapshot.error = some (.unreadableMemory (.ofNat 0x2198) 8 "frame.f_back"
          (.unmapped (.ofNat 0x2198))) ∧
        ((decoder.capture state.start).run (.ofImage larger) 0).outcome = .ok longer ∧
        longer.thread = snapshot.thread ∧ snapshot.frames <+: longer.frames ∧
        longer.isComplete := by
  intro decoder zeros state inner outer image larger
  have separate : larger.Separate := by
    decide +kernel
  have added : ∀ region ∈ image.regions, region ∈ larger.regions := by
    decide +kernel
  let frame : Frame :=
    ⟨0, inner.start, "<unknown>", "<unknown>", 0, .unknown, some outer.start⟩
  let failure : DecodeError :=
    .unreadableMemory (.ofNat 0x2198) 8 "frame.f_back" (.unmapped (.ofNat 0x2198))
  have captured : (decoder.capture state.start).on image =
      .ok ⟨⟨[frame], some failure⟩, ⟨0⟩, state.start⟩ := by
    apply Outcome.eq_ok_of_toOption
    decide +kernel
  have complete : ((decoder.capture state.start).on larger).toOption.all (·.isComplete) := by
    decide +kernel
  rw [← Probe.outcome_ofImage _ image 0] at captured
  obtain ⟨_, _, ofOk⟩ := decoder.capture_grown state.start separate added 0
  obtain ⟨longer, more, thread, _, frames⟩ :=
    ((ofOk _ captured).2 failure rfl trivial).resolve_right fun stopped =>
      absurd (stopped.1.family decoder.covers) (by decide)
  rw [← Probe.outcome_ofImage _ larger 0, more] at complete
  exact ⟨separate, added, _, longer, captured, rfl, rfl, more, thread, frames, complete⟩

/-- A thread whose frame lacks its name is captured as far as it was; with the name, which
overflows, it is not captured at all. -/
theorem capture_stopped_by_added_name :
    ¬∀ (decoder : Decoder) (threadState : Address) (image larger : MemoryImage)
      (snapshot : ThreadSnapshot) (error : DecodeError), larger.Separate →
      (∀ region ∈ image.regions, region ∈ larger.regions) →
      ((decoder.capture threadState).run (.ofImage image) 0).outcome = .ok snapshot →
      snapshot.error = some error → error.IsUnreadable →
        ∃ longer, ((decoder.capture threadState).run (.ofImage larger) 0).outcome = .ok longer := by
  intro monotone
  let failure : DecodeError := .unreadableMemory (.ofNat 0x4010) 8 "unicode.length"
    (.unmapped (.ofNat 0x4010))
  have separate : UncountedName.image.Separate := by
    decide +kernel
  have added : ∀ region ∈ (MemoryImage.ofRegions UncountedName.unnamed).regions,
      region ∈ UncountedName.image.regions := by
    decide +kernel
  have captured : ((UncountedName.decoder.capture UncountedName.thread).run
      (.ofImage (.ofRegions UncountedName.unnamed)) 0).outcome =
        .ok ⟨⟨[], some failure⟩, ⟨0⟩, UncountedName.thread⟩ := by
    decide +kernel
  have stopped : ((UncountedName.decoder.capture UncountedName.thread).run
      (.ofImage UncountedName.image) 0).outcome = .overflow := by
    decide +kernel
  obtain ⟨longer, more⟩ := monotone _ _ _ _ _ failure separate added captured rfl trivial
  rw [stopped] at more
  cases more

end Decoder

end RemoteStack
