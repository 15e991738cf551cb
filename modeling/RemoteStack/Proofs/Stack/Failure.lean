import RemoteStack.Proofs.Stack.Sound

/-!
# How captures fail

A failure that makes every read meaningless cannot come up once a version is known, on
whatever memory: the catalog covers each version, so that every failure below a capture is
local to one address or gives up a chain. From the inside out:

* a stack fails in no other way (`Walk.take_ensures`), so a snapshot of a thread never fails
  (`Decoder.snapshot_ensures`);
* a list of threads keeps what was captured, and ends with such a failure at most
  (`Decoder.captureFrom_ensures`);
* so no capture of a process fails (`Decoder.captureAll_ensures`), and one of a thread only where
  the state of the thread is null or cannot be read (`Decoder.capture_ensures`).

All of them overflow where a text does, and then nothing is kept.
-/

namespace RemoteStack

/-- The failure that is kept beside the frames, if there is one, ended the chain. -/
def Stack.KeepsFailure (stack : Stack) : Prop := ∀ error ∈ stack.error, error.EndsChain

/-- The failures that are kept beside the threads, and with each of them. -/
structure ProcessSnapshot.KeepsFailures (snapshot : ProcessSnapshot) : Prop where
  ofList : ∀ error ∈ snapshot.error, error.EndsChain
  ofThreads : ∀ thread ∈ snapshot.threads, thread.toStack.KeepsFailure

theorem ProcessSnapshot.keepsFailures_ended : KeepsFailures ⟨[], none⟩ where
  ofList _ kept := absurd kept (Option.not_mem_none _)
  ofThreads _ mem := absurd mem List.not_mem_nil

theorem ProcessSnapshot.keepsFailures_stopped {error : DecodeError} (h : error.EndsChain) :
    KeepsFailures ⟨[], some error⟩ where
  ofList _ kept := Option.mem_some.1 kept ▸ h
  ofThreads _ mem := absurd mem List.not_mem_nil

theorem Walk.take_ensures {walk : Walk} (h : walk.resolver.reader.Covers) (count : Nat) :
    (walk.take count).Ensures True (fun _ => False) Stack.KeepsFailure := by
  induction count generalizing walk with
  | zero => exact nofun
  | succ count ih =>
    rw [take_succ]
    apply (pull_ensures h).bind
    intro pulled hpulled
    cases hpulled with
    | ended => exact nofun
    | deep | cycle =>
      rintro _ ⟨⟩
      trivial
    | failed _ hlocal =>
      rintro _ ⟨⟩
      exact hlocal.endsChain
    | @frame frame =>
      have rest : ((walk.advance frame).take count).Ensures True (fun _ => False)
          Stack.KeepsFailure := ih h
      exact rest.bind fun stack kept => kept

namespace Decoder

variable (decoder : Decoder)

theorem snapshot_ensures (state : ThreadState) :
    (decoder.snapshot state).Ensures True (fun _ => False) (·.toStack.KeepsFailure) := by
  unfold snapshot
  simp only [Probe.bind_eq, Probe.pure_eq]
  apply (Walk.take_ensures decoder.covers _).bind
  intro stack kept
  cases herror : stack.error with
  | none => exact kept
  | some error =>
    have notFatal : ¬error.isFatal := (kept error herror).not_isFatal
    -- only a fatal failure would have discarded the frames
    simp only [if_neg notFatal]
    exact kept

theorem captureFrom_ensures (visited : List Address) (next : Address) (remaining : Nat) :
    (decoder.captureFrom visited next remaining).Ensures True (fun _ => False)
      ProcessSnapshot.KeepsFailures := by
  induction remaining generalizing visited next with
  | zero =>
    unfold captureFrom captureOnto
    split
    · exact ProcessSnapshot.keepsFailures_ended
    · exact ProcessSnapshot.keepsFailures_stopped trivial
  | succ remaining ih =>
    rw [captureFrom_succ]
    split
    · exact ProcessSnapshot.keepsFailures_ended
    rename_i nonNull
    split
    · exact ProcessSnapshot.keepsFailures_stopped trivial
    -- a state that cannot be read ends the list, and keeps the threads before it
    rw [Probe.ensures_bind, Probe.ensures_attempt]
    refine (Reader.threadState_failsLocally decoder.covers nonNull).mono
      (fun error hlocal => ?_) fun state _ => ?_
    · have notFatal : ¬error.isFatal := hlocal.endsChain.not_isFatal
      simp only [if_neg notFatal]
      exact ProcessSnapshot.keepsFailures_stopped hlocal.endsChain
    · apply (decoder.snapshot_ensures state).bind
      intro snapshot kept
      apply (ih (next :: visited) state.next).bind
      intro rest keptRest
      refine ⟨keptRest.ofList, ?_⟩
      intro thread mem
      rcases List.mem_cons.1 mem with rfl | mem
      · exact kept
      · exact keptRest.ofThreads thread mem

theorem captureAll_ensures (head : Address) :
    (decoder.captureAll head).Ensures True (fun _ => False) ProcessSnapshot.KeepsFailures := by
  unfold captureAll
  simp only [Probe.bind_eq, Probe.pure_eq]
  apply (decoder.captureFrom_ensures [] head _).bind
  intro snapshot kept
  cases snapshot.error <;> exact kept

/-- A state that cannot be read fails with what lies at one address. -/
theorem isLocal_of_unread {memory : Memory} {served : Nat} {address : Address}
    {error : DecodeError} (nonNull : ¬address.isNull)
    (h : ((decoder.reader.threadState address).run memory served).outcome = .error error) :
    error.IsLocal := by
  have fails : (decoder.reader.threadState address).FailsLocally True :=
    Reader.threadState_failsLocally decoder.covers nonNull
  exact fails.of_error h

theorem capture_ensures {address : Address} (nonNull : ¬address.isNull) :
    (decoder.capture address).Ensures True DecodeError.IsLocal (·.toStack.KeepsFailure) := by
  apply (Reader.threadState_failsLocally decoder.covers nonNull).bind
  intro state _
  exact (decoder.snapshot_ensures state).mono (fun _ => False.elim) fun _ kept => kept

theorem capture_null {address : Address} (null : address.isNull) :
    decoder.capture address = .failed (.nullObject "thread state") := by
  unfold capture Reader.threadState
  rw [if_pos null]
  rfl

end Decoder

end RemoteStack
