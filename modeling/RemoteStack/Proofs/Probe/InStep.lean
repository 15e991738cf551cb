import Mathlib.Data.List.Forall2
import RemoteStack.Probe.Run

/-!
# Probes in step

Two probes are in step if nobody can tell them apart before they have their results: whatever the
answers are, they ask for the same bytes in the same order, and come to the same failure, to an
overflow or to results that are related. `Probe.InStep` says this of the two trees, without a word
about memory. Of the events only those of the finest level, which tell every value that is read,
may differ in their texts.

* **shared parts** — a probe that both have in common is in step with itself (`InStep.refl`);
* **sequence** — probes in step may be followed by probes that are in step for related results
  (`InStep.bind`, `InStep.after`);
* **failures as results** — probes in step stay so under `attempt` (`InStep.attempt`);
* **runs** — on one memory, the runs of probes in step make the same reads (`InStep.run`).
-/

namespace RemoteStack

/-- The events are the same, or both are of the finest level. -/
def Log.Event.Alike (event other : Log.Event) : Prop :=
  other = event ∨ event.level = .trace ∧ other.level = .trace

namespace Probe

variable {α β γ δ : Type} {R : α → β → Prop} {S : γ → δ → Prop}

/-- The same failure, or related results. -/
inductive SameResult (R : α → β → Prop) :
    Except DecodeError α → Except DecodeError β → Prop
  | ok {value : α} {other : β} : R value other → SameResult R (.ok value) (.ok other)
  | error (error : DecodeError) : SameResult R (.error error) (.error error)

/-- The same failure, an overflow of both, or related results. -/
inductive SameEnd (R : α → β → Prop) : Outcome α → Outcome β → Prop
  | ok {value : α} {other : β} : R value other → SameEnd R (.ok value) (.ok other)
  | error (error : DecodeError) : SameEnd R (.error error) (.error error)
  | overflow : SameEnd R .overflow .overflow

/-- The probes ask for the same bytes whatever the answers are, and come to the same end. -/
inductive InStep (R : α → β → Prop) : Probe α → Probe β → Prop
  | done {value : α} {other : β} : R value other → InStep R (.done value) (.done other)
  | failed (error : DecodeError) : InStep R (.failed error) (.failed error)
  | overflow : InStep R .overflow .overflow
  | report {event other : Log.Event} {rest : Probe α} {rest' : Probe β} : event.Alike other →
      InStep R rest rest' → InStep R (.report event rest) (.report other rest')
  | ask (address : Address) (length : Nat) {rest : Except AccessError Bytes → Probe α}
      {rest' : Except AccessError Bytes → Probe β} :
      (∀ answer, InStep R (rest answer) (rest' answer)) →
      InStep R (.ask address length rest) (.ask address length rest')

namespace InStep

/-! ## Composition -/

/-- A probe is in step with itself. -/
theorem refl {R : α → α → Prop} (hrefl : ∀ value, R value value) (probe : Probe α) :
    InStep R probe probe := by
  induction probe with
  | done value => exact .done (hrefl value)
  | failed error => exact .failed error
  | overflow => exact .overflow
  | report event rest ih => exact .report (.inl rfl) ih
  | ask address length rest ih => exact .ask address length ih

theorem bind {probe : Probe α} {other : Probe β} {next : α → Probe γ} {next' : β → Probe δ}
    (h : InStep R probe other)
    (hnext : ∀ value result, R value result → InStep S (next value) (next' result)) :
    InStep S (probe.bind next) (other.bind next') := by
  induction h with
  | done related => exact hnext _ _ related
  | failed error => exact .failed error
  | overflow => exact .overflow
  | report alike _ ih => exact .report alike ih
  | ask address length _ ih => exact .ask address length ih

/-- What comes after a shared part decides. -/
theorem after (probe : Probe α) {next : α → Probe γ} {next' : α → Probe δ}
    (hnext : ∀ value, InStep S (next value) (next' value)) :
    InStep S (probe.bind next) (probe.bind next') := by
  apply (refl (fun _ => rfl) probe : InStep Eq probe probe).bind
  rintro value _ rfl
  exact hnext value

theorem attempt {probe : Probe α} {other : Probe β} (h : InStep R probe other) :
    InStep (SameResult R) probe.attempt other.attempt := by
  induction h with
  | done related => exact .done (.ok related)
  | failed error => exact .done (.error error)
  | overflow => exact .overflow
  | report alike _ ih => exact .report alike ih
  | ask address length _ ih => exact .ask address length ih

/-! ## Runs -/

/-- Runs of probes in step come to the same end after the same reads. -/
theorem run {probe : Probe α} {other : Probe β} (h : InStep R probe other) (memory : Memory)
    (served : Nat) :
    SameEnd R (probe.run memory served).outcome (other.run memory served).outcome ∧
      (other.run memory served).requests = (probe.run memory served).requests ∧
      List.Forall₂ Log.Event.Alike (probe.run memory served).events
        (other.run memory served).events := by
  induction h generalizing served with
  | done related => exact ⟨.ok related, rfl, .nil⟩
  | failed error => exact ⟨.error error, rfl, .nil⟩
  | overflow => exact ⟨.overflow, rfl, .nil⟩
  | report alike _ ih =>
    obtain ⟨outcome, requests, events⟩ := ih served
    exact ⟨outcome, requests, .cons alike events⟩
  | ask address length _ ih =>
    obtain ⟨outcome, requests, events⟩ := ih (memory served address length) (served + 1)
    exact ⟨outcome, congrArg (_ :: ·) requests, events⟩

end InStep

end Probe

end RemoteStack
