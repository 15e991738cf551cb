import RemoteStack.Proofs.Probe.Sequence

/-!
# What a probe ensures

`probe.Ensures O P Q` says of a probe, without a word about memory, that every way through its
tree ends with a failure in `P` or with a result in `Q`, or else with an overflow, and then `O`
holds: a probe that ensures `False P Q` never overflows. A node that asks for bytes may get any
answer, and a different one each time. The statement composes:

* **sequence** — a probe ensures what its first part ensures of the rest (`ensures_bind`);
* **failures as results** — `attempt` moves `P` into `Q` (`ensures_attempt`);
* **runs** — what a probe ensures holds of each of its runs (`Ensures.of_ok`,
  `Ensures.of_error`, `Ensures.of_overflow`).

What the memory decides is left to the runs: `probe.OverflowsOnlyIf memory O` traces an overflow
to the part of the sequence that it comes from.
-/

namespace RemoteStack.Probe

variable {α β : Type} {O : Prop} {P P' : DecodeError → Prop} {Q Q' : α → Prop}

/-- On every memory the probe fails within `P`, or has a result in `Q`, or overflows although
`O` holds. -/
def Ensures (O : Prop) (P : DecodeError → Prop) (Q : α → Prop) : Probe α → Prop
  | .done value => Q value
  | .failed error => P error
  | .overflow => O
  | .report _ rest => rest.Ensures O P Q
  | .ask _ _ rest => ∀ answer, (rest answer).Ensures O P Q

@[simp] theorem ensures_done (value : α) : (done value).Ensures O P Q ↔ Q value := Iff.rfl

@[simp] theorem ensures_failed (error : DecodeError) :
    (failed error : Probe α).Ensures O P Q ↔ P error := Iff.rfl

@[simp] theorem ensures_overflow : (overflow : Probe α).Ensures O P Q ↔ O := Iff.rfl

@[simp] theorem ensures_report (event : Log.Event) (rest : Probe α) :
    (report event rest).Ensures O P Q ↔ rest.Ensures O P Q := Iff.rfl

@[simp] theorem ensures_ask (address : Address) (length : Nat)
    (rest : Except AccessError Bytes → Probe α) :
    (ask address length rest).Ensures O P Q ↔ ∀ answer, (rest answer).Ensures O P Q := Iff.rfl

/-! ## Composition -/

@[simp] theorem ensures_bind (probe : Probe α) (next : α → Probe β) {R : β → Prop} :
    (probe.bind next).Ensures O P R ↔
      probe.Ensures O P fun value => (next value).Ensures O P R := by
  induction probe with
  | done | failed | overflow => exact Iff.rfl
  | report event rest ih => exact ih
  | ask address length rest ih =>
    simp only [ask_bind, ensures_ask]
    exact forall_congr' ih

@[simp] theorem ensures_attempt (probe : Probe α) {R : Except DecodeError α → Prop} :
    probe.attempt.Ensures O P R ↔
      probe.Ensures O (fun error => R (.error error)) fun value => R (.ok value) := by
  induction probe with
  | done | failed | overflow => exact Iff.rfl
  | report event rest ih => exact ih
  | ask address length rest ih =>
    simp only [attempt, ensures_ask]
    exact forall_congr' ih

theorem Ensures.mono {probe : Probe α} (h : probe.Ensures O P Q)
    (hP : ∀ error, P error → P' error) (hQ : ∀ value, Q value → Q' value) :
    probe.Ensures O P' Q' := by
  induction probe with
  | done value => exact hQ value h
  | failed error => exact hP error h
  | overflow => exact h
  | report event rest ih => exact ih h
  | ask address length rest ih =>
    intro answer
    exact ih answer (h answer)

/-- What the first part ensures is what the rest may count on. -/
theorem Ensures.bind {probe : Probe α} {next : α → Probe β} {R : β → Prop}
    (h : probe.Ensures O P Q) (hnext : ∀ value, Q value → (next value).Ensures O P R) :
    (probe.bind next).Ensures O P R :=
  (ensures_bind probe next).2 (h.mono (fun _ error => error) hnext)

/-- A result that holds of every value holds whatever came before. -/
theorem ensures_bind_of_forall {probe : Probe α} {next : α → Probe β} {R : β → Prop}
    (h : ∀ value, (next value).Ensures True (fun _ => True) R) :
    (probe.bind next).Ensures True (fun _ => True) R := by
  induction probe with
  | done value => exact h value
  | failed | overflow => trivial
  | report event rest ih => exact ih
  | ask address length rest ih => exact ih

/-! ## Runs -/

variable {memory : Memory} {served : Nat} {probe : Probe α}

theorem Ensures.of_ok (h : probe.Ensures O P Q) {value : α}
    (hrun : (probe.run memory served).outcome = .ok value) : Q value := by
  -- `served` counts on at each read, and the answer picks the way through the tree
  induction probe generalizing served with
  | done => cases hrun; exact h
  | failed | overflow => cases hrun
  | report event rest ih => exact ih h hrun
  | ask address length rest ih => exact ih _ (h _) hrun

theorem Ensures.of_error (h : probe.Ensures O P Q) {error : DecodeError}
    (hrun : (probe.run memory served).outcome = .error error) : P error := by
  induction probe generalizing served with
  | done | overflow => cases hrun
  | failed => cases hrun; exact h
  | report event rest ih => exact ih h hrun
  | ask address length rest ih => exact ih _ (h _) hrun

theorem Ensures.of_overflow (h : probe.Ensures O P Q)
    (hrun : (probe.run memory served).outcome = .overflow) : O := by
  induction probe generalizing served with
  | done | failed => cases hrun
  | overflow => exact h
  | report event rest ih => exact ih h hrun
  | ask address length rest ih => exact ih _ (h _) hrun

/-- A probe that cannot fail has a result on every memory, unless it overflows. -/
theorem Ensures.ok_or_overflow (h : probe.Ensures O (fun _ => False) Q) (memory : Memory)
    (served : Nat) :
    (∃ value, (probe.run memory served).outcome = .ok value ∧ Q value) ∨
      (probe.run memory served).outcome = .overflow := by
  cases hrun : (probe.run memory served).outcome with
  | ok value => exact .inl ⟨value, rfl, h.of_ok hrun⟩
  | error error => exact (h.of_error hrun).elim
  | overflow => exact .inr rfl

/-! ## Where overflows come from -/

/-- On the memory the probe overflows only if `O` holds, whatever was read before. -/
def OverflowsOnlyIf (memory : Memory) (O : Prop) (probe : Probe α) : Prop :=
  ∀ served, (probe.run memory served).outcome = .overflow → O

theorem Ensures.overflowsOnlyIf (h : probe.Ensures O P Q) : probe.OverflowsOnlyIf memory O :=
  fun _ broken => h.of_overflow broken

/-- A sequence overflows in one of its parts. -/
theorem OverflowsOnlyIf.bind {next : α → Probe β} (h : probe.OverflowsOnlyIf memory O)
    (hnext : ∀ value, (next value).OverflowsOnlyIf memory O) :
    (probe.bind next).OverflowsOnlyIf memory O := by
  intro served broken
  cases hrun : (probe.run memory served).outcome with
  | ok value =>
    rw [outcome_bind_of_ok hrun] at broken
    exact hnext value _ broken
  | error error =>
    rw [outcome_bind_of_error hrun] at broken
    cases broken
  | overflow => exact h served hrun

theorem OverflowsOnlyIf.attempt (h : probe.OverflowsOnlyIf memory O) :
    probe.attempt.OverflowsOnlyIf memory O := by
  intro served broken
  rw [run_attempt] at broken
  cases hrun : (probe.run memory served).outcome with
  | ok | error =>
    rw [hrun] at broken
    cases broken
  | overflow => exact h served hrun

/-! ## Single steps -/

@[simp] theorem ensures_reportAll (events : List Log.Event) {R : Unit → Prop} :
    (reportAll events).Ensures O P R ↔ R () := by
  induction events with
  | nil => exact Iff.rfl
  | cons event rest ih => exact ih

@[simp] theorem ensures_trace (message : String) {R : Unit → Prop} :
    (trace message).Ensures O P R ↔ R () := Iff.rfl

@[simp] theorem ensures_debug (message : String) {R : Unit → Prop} :
    (debug message).Ensures O P R ↔ R () := Iff.rfl

@[simp] theorem ensures_warn (message : String) {R : Unit → Prop} :
    (warn message).Ensures O P R ↔ R () := Iff.rfl

theorem ensures_ofExcept {result : Except DecodeError α} :
    (ofExcept result).Ensures O P Q ↔
      (∀ error, result = .error error → P error) ∧ ∀ value, result = .ok value → Q value := by
  cases result with
  | ok value => simp [ofExcept]
  | error error => simp [ofExcept]

theorem ensures_readUpTo {address : Address} {length : Nat} {context : String}
    {R : Bytes → Prop} (fails : ∀ source, P (.unreadableMemory address length context source))
    (brings : ∀ bytes, R bytes) : (readUpTo address length context).Ensures O P R := by
  intro answer
  cases answer with
  | ok bytes => exact brings bytes
  | error source => exact fails source

/-- A strict read brings enough bytes, or fails as unreadable or as truncated. -/
theorem ensures_readExactly {address : Address} {length : Nat} {context : String}
    {R : Bytes → Prop} (fails : ∀ source, P (.unreadableMemory address length context source))
    (short : ∀ actual, P (.truncatedRead address length actual context))
    (brings : ∀ bytes, length ≤ bytes.length → R bytes) :
    (readExactly address length context).Ensures O P R := by
  simp only [readExactly, bind_eq, ensures_bind]
  apply ensures_readUpTo fails
  intro bytes
  by_cases h : bytes.length < length
  · rw [if_pos h]
    exact short bytes.length
  · rw [if_neg h]
    exact brings bytes (Nat.le_of_not_lt h)

end RemoteStack.Probe
