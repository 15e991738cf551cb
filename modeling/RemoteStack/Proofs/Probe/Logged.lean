import RemoteStack.Proofs.Probe.Bounded

/-!
# Which reads a probe makes

`probe.Logs P Q` says of a probe, without a word about memory, that every way through its tree
either fails or overflows after reads that are in `P`, or has a result that is in `Q` together with
the reads before it. The reads are those of the whole way, in their order:

* **sequence** — the first part hands on its result and the reads that it made, and the reads of
  the rest come behind them (`Logs.bind`); a part that does not read hands on its result alone
  (`Bounded.bind_logs`);
* **runs** — whatever the memory answers, and however it changes, a run takes one of the ways
  (`Makes.requests`, `Logs.requests_of_ok`).
-/

namespace RemoteStack.Probe

variable {α β : Type} {P P' : List Request → Prop} {Q Q' : α → List Request → Prop}
  {R : β → List Request → Prop}

/-- On every memory the probe fails or overflows after reads in `P`, or has a result that is in `Q`
with its reads. -/
def Logs : (List Request → Prop) → (α → List Request → Prop) → Probe α → Prop
  | _, Q, .done value => Q value []
  | P, _, .failed _ | P, _, .overflow => P []
  | P, Q, .report _ rest => rest.Logs P Q
  | P, Q, .ask address length rest => ∀ answer,
    (rest answer).Logs (fun later => P (⟨address, length⟩ :: later)) fun value later =>
      Q value (⟨address, length⟩ :: later)

/-- On every memory the reads of the probe are in `P`, whatever comes of them. -/
abbrev Makes (P : List Request → Prop) (probe : Probe α) : Prop := probe.Logs P fun _ => P

@[simp] theorem logs_done (value : α) : (done value).Logs P Q ↔ Q value [] := Iff.rfl

@[simp] theorem logs_failed (error : DecodeError) : (failed error).Logs P Q ↔ P [] := Iff.rfl

/-! ## Composition -/

theorem Logs.mono {probe : Probe α} (h : probe.Logs P Q) (hP : ∀ made, P made → P' made)
    (hQ : ∀ value made, Q value made → Q' value made) : probe.Logs P' Q' := by
  induction probe generalizing P P' Q Q' with
  | done value => exact hQ value [] h
  | failed | overflow => exact hP [] h
  | report event rest ih => exact ih h hP hQ
  | ask address length rest ih =>
    intro answer
    exact ih answer (h answer) (fun later => hP _) fun value later => hQ value _

theorem Makes.mono {probe : Probe α} (h : probe.Makes P) (hP : ∀ made, P made → P' made) :
    probe.Makes P' :=
  Logs.mono h hP fun _ => hP

/-- The reads of the rest come behind those of the first part. -/
theorem Logs.bind {probe : Probe α} {next : α → Probe β} (h : probe.Logs P Q)
    (hnext : ∀ value made, Q value made →
      (next value).Logs (fun later => P (made ++ later)) fun result later =>
        R result (made ++ later)) :
    (probe.bind next).Logs P R := by
  -- the predicates move on with each read, so that at the end `made` is what was read
  induction probe generalizing P Q R with
  | done value => exact hnext value [] h
  | failed | overflow => exact h
  | report event rest ih => exact ih h hnext
  | ask address length rest ih =>
    intro answer
    apply ih answer (h answer)
    intro value made hQ
    exact hnext value (⟨address, length⟩ :: made) hQ

/-- A result that is only changed takes no more reads. -/
theorem Makes.bind_done {probe : Probe α} (h : probe.Makes P) (change : α → β) :
    (probe.bind fun value => .done (change value)).Makes P := by
  apply Logs.bind h
  intro value made hP
  simpa using hP

/-- A first part that does not read leaves all reads to the rest. -/
theorem Bounded.bind_logs {S : α → Prop} {probe : Probe α} {next : α → Probe β}
    (h : probe.Bounded 0 S) (hP : P []) (hnext : ∀ value, S value → (next value).Logs P R) :
    (probe.bind next).Logs P R := by
  induction probe with
  | done value => exact hnext value h
  | failed | overflow => exact hP
  | report event rest ih => exact ih h
  | ask => exact h.elim

/-! ## Single steps -/

variable {address : Address} {length : Nat} {context : String}

theorem logs_readUpTo {Q : Bytes → List Request → Prop} (fails : P [⟨address, length⟩])
    (brings : ∀ bytes, Q bytes [⟨address, length⟩]) :
    (readUpTo address length context).Logs P Q := by
  intro answer
  cases answer with
  | ok bytes => exact brings bytes
  | error source => exact fails

theorem logs_readExactly {Q : Bytes → List Request → Prop} (fails : P [⟨address, length⟩])
    (brings : ∀ bytes, Q bytes [⟨address, length⟩]) :
    (readExactly address length context).Logs P Q := by
  have asked : (readUpTo address length context).Logs P fun _ made => made = [⟨address, length⟩] :=
    logs_readUpTo fails fun _ => rfl
  apply asked.bind
  rintro bytes _ rfl
  -- too few bytes are a failure, but they were asked for all the same
  by_cases short : bytes.length < length
  · rw [if_pos short]
    exact fails
  · rw [if_neg short]
    exact brings bytes

/-! ## Runs -/

/-- Whatever the memory answers, the reads of a run are among those that the probe may make. -/
theorem Makes.requests {probe : Probe α} (h : probe.Makes P) (memory : Memory) (served : Nat) :
    P (probe.run memory served).requests := by
  induction probe generalizing P served with
  | done | failed | overflow => exact h
  | report event rest ih => exact ih h served
  | ask address length rest ih => exact ih _ (h _) (served + 1)

/-- A run that has a result made the reads that belong to it. -/
theorem Logs.requests_of_ok {probe : Probe α} (h : probe.Logs P Q) {memory : Memory}
    {served : Nat} {value : α} (done : (probe.run memory served).outcome = .ok value) :
    Q value (probe.run memory served).requests := by
  induction probe generalizing P Q served with
  | done => exact Outcome.ok.inj done ▸ h
  | failed | overflow => cases done
  | report event rest ih => exact ih h done
  | ask address length rest ih => exact ih _ (h _) done

end RemoteStack.Probe
