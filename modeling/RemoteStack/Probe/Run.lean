import RemoteStack.Probe.Basic
import RemoteStack.Memory.Access

/-!
# Running probes

`Probe.run` answers the questions of a probe from a memory. Beside the result it records
the reads that were made and the events that were reported, both in order. A `Target` is a
captured image that is probed again and again: it counts the reads that it has served, and
faults may be planned for some of them.
-/

namespace RemoteStack

/-- A read: the address and the number of bytes asked for. -/
structure Request where
  address : Address
  length : Nat
  deriving DecidableEq, Repr

/-- What comes of a run. -/
inductive Outcome (α : Type) where
  | ok (value : α)
  | error (error : DecodeError)
  /-- The program stopped, as a number grew beyond a machine word. -/
  | overflow
  deriving DecidableEq, Repr

namespace Outcome

def toOption {α : Type} : Outcome α → Option α
  | .ok value => some value
  | .error _ | .overflow => none

/-- The outcome with the failure as a result. -/
def attempt {α : Type} : Outcome α → Outcome (Except DecodeError α)
  | .ok value => .ok (.ok value)
  | .error failure => .ok (.error failure)
  | .overflow => .overflow

theorem eq_ok_of_toOption {α : Type} {outcome : Outcome α} {value : α}
    (h : outcome.toOption = some value) : outcome = .ok value := by
  cases outcome <;> cases h
  rfl

end Outcome

structure Run (α : Type) where
  outcome : Outcome α
  requests : List Request
  events : List Log.Event

namespace Probe

/-- Runs a probe on a memory that has served `served` reads before. -/
def run {α : Type} (memory : Memory) (served : Nat) : Probe α → Run α
  | .done value => ⟨.ok value, [], []⟩
  | .failed error => ⟨.error error, [], []⟩
  | .overflow => ⟨.overflow, [], []⟩
  | .report event rest =>
    let run := rest.run memory served
    { run with events := event :: run.events }
  | .ask address length rest =>
    let run := (rest (memory served address length)).run memory (served + 1)
    { run with requests := ⟨address, length⟩ :: run.requests }

/-! ## Runs of composed probes -/

/-- After a result, the run goes on with the next probe and the reads served so far. -/
theorem run_bind_of_ok {α β : Type} {memory : Memory} {served : Nat} {probe : Probe α}
    {value : α} (next : α → Probe β) (h : (probe.run memory served).outcome = .ok value) :
    (probe.bind next).run memory served =
      let first := probe.run memory served
      let second := (next value).run memory (served + first.requests.length)
      ⟨second.outcome, first.requests ++ second.requests, first.events ++ second.events⟩ := by
  induction probe generalizing served with
  | done v => cases h; rfl
  | failed | overflow => cases h
  | report event rest ih => simp only [report_bind, run, ih h, List.cons_append]
  | ask address length rest ih =>
    simp only [ask_bind, run, ih _ h, List.cons_append, List.length_cons, Nat.add_assoc,
      Nat.add_comm 1]

/-- After a failure, the run is over. -/
theorem run_bind_of_error {α β : Type} {memory : Memory} {served : Nat} {probe : Probe α}
    {error : DecodeError} (next : α → Probe β)
    (h : (probe.run memory served).outcome = .error error) :
    (probe.bind next).run memory served =
      ⟨.error error, (probe.run memory served).requests, (probe.run memory served).events⟩ := by
  induction probe generalizing served with
  | done => cases h
  | failed e => cases h; rfl
  | overflow => cases h
  | report event rest ih => simp only [report_bind, run, ih h]
  | ask address length rest ih => simp only [ask_bind, run, ih _ h]

/-- After an overflow, too. -/
theorem run_bind_of_overflow {α β : Type} {memory : Memory} {served : Nat} {probe : Probe α}
    (next : α → Probe β) (h : (probe.run memory served).outcome = .overflow) :
    (probe.bind next).run memory served =
      ⟨.overflow, (probe.run memory served).requests, (probe.run memory served).events⟩ := by
  induction probe generalizing served with
  | done | failed => cases h
  | overflow => rfl
  | report event rest ih => simp only [report_bind, run, ih h]
  | ask address length rest ih => simp only [ask_bind, run, ih _ h]

/-- Taking a failure as a result changes neither the reads nor the events. -/
theorem run_attempt {α : Type} (memory : Memory) (served : Nat) (probe : Probe α) :
    probe.attempt.run memory served =
      ⟨(probe.run memory served).outcome.attempt, (probe.run memory served).requests,
        (probe.run memory served).events⟩ := by
  induction probe generalizing served with
  | done | failed | overflow => rfl
  | report event rest ih => simp only [attempt, run, ih]
  | ask address length rest ih => simp only [attempt, run, ih]

end Probe

/-- A captured image that is probed again and again. -/
structure Target where
  image : MemoryImage
  faults : List Fault := []
  served : Nat := 0

namespace Target

/-- The memory that the target answers from. -/
def memory (target : Target) : Memory := (Memory.ofImage target.image).withFaults target.faults

def run {α : Type} (target : Target) (probe : Probe α) : Run α × Target :=
  let run := probe.run target.memory target.served
  (run, { target with served := target.served + run.requests.length })

end Target

end RemoteStack
