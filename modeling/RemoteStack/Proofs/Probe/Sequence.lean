import RemoteStack.Probe.Run

/-!
# Runs of sequences

The outcome, the reads and the number of reads of a run of two probes in sequence, each in
terms of the runs of the parts: a part that has a result hands over to the next one, and a
part that fails or overflows is the end. A part that reads once makes its one request, whatever
comes of it.
-/

namespace RemoteStack.Probe

variable {α β : Type} {memory : Memory} {served : Nat} {probe : Probe α} {next : α → Probe β}

theorem outcome_bind_of_ok {value : α} (h : (probe.run memory served).outcome = .ok value) :
    ((probe.bind next).run memory served).outcome =
      ((next value).run memory (served + (probe.run memory served).requests.length)).outcome := by
  rw [run_bind_of_ok next h]

theorem requests_bind_of_ok {value : α} (h : (probe.run memory served).outcome = .ok value) :
    ((probe.bind next).run memory served).requests =
      (probe.run memory served).requests ++
        ((next value).run memory
          (served + (probe.run memory served).requests.length)).requests := by
  rw [run_bind_of_ok next h]

theorem outcome_bind_of_error {error : DecodeError}
    (h : (probe.run memory served).outcome = .error error) :
    ((probe.bind next).run memory served).outcome = .error error := by
  rw [run_bind_of_error next h]

theorem requests_bind_of_error {error : DecodeError}
    (h : (probe.run memory served).outcome = .error error) :
    ((probe.bind next).run memory served).requests = (probe.run memory served).requests := by
  rw [run_bind_of_error next h]

theorem outcome_bind_of_overflow (h : (probe.run memory served).outcome = .overflow) :
    ((probe.bind next).run memory served).outcome = .overflow := by
  rw [run_bind_of_overflow next h]

theorem requests_bind_of_overflow (h : (probe.run memory served).outcome = .overflow) :
    ((probe.bind next).run memory served).requests = (probe.run memory served).requests := by
  rw [run_bind_of_overflow next h]

/-- A result that is only changed leaves the reads as they are. -/
theorem requests_bind_done (change : α → β) :
    ((probe.bind fun value => .done (change value)).run memory served).requests =
      (probe.run memory served).requests := by
  cases h : (probe.run memory served).outcome with
  | ok value => exact (requests_bind_of_ok h).trans (List.append_nil _)
  | error error => exact requests_bind_of_error h
  | overflow => exact requests_bind_of_overflow h

/-! ## Single steps -/

theorem requests_readUpTo (address : Address) (length : Nat) (context : String)
    (memory : Memory) (served : Nat) :
    ((readUpTo address length context).run memory served).requests = [⟨address, length⟩] := by
  simp only [readUpTo, run]
  cases memory served address length <;> rfl

/-- A strict read asks once, also where too little arrives. -/
theorem requests_readExactly (address : Address) (length : Nat) (context : String)
    (memory : Memory) (served : Nat) :
    ((readExactly address length context).run memory served).requests = [⟨address, length⟩] := by
  have asked := requests_readUpTo address length context memory served
  unfold readExactly
  simp only [bind_eq, pure_eq]
  cases arrived : ((readUpTo address length context).run memory served).outcome with
  | error error => rw [requests_bind_of_error arrived, asked]
  | overflow => rw [requests_bind_of_overflow arrived, asked]
  | ok bytes =>
    rw [requests_bind_of_ok arrived, asked]
    split <;> rfl

/-- Events leave the result and the reads of what follows them as they are. -/
theorem run_reportAll_bind (events : List Log.Event) (next : Unit → Probe β) :
    (((reportAll events).bind next).run memory served).outcome =
        ((next ()).run memory served).outcome ∧
      (((reportAll events).bind next).run memory served).requests =
        ((next ()).run memory served).requests := by
  induction events with
  | nil => exact ⟨rfl, rfl⟩
  | cons event rest ih => exact ih

end RemoteStack.Probe
