import RemoteStack.Probe.Run

/-!
# How often a probe reads

`probe.Bounded limit Q` says of a probe, without a word about memory, that every way through
its tree asks at most `limit` times, never at the null address, and that a result is in `Q`.
Whatever the answers are, and however they change, they only choose the way:

* **sequence** — the limits of the parts add up (`Bounded.bind`);
* **failures as results** — `attempt` asks as often as the probe does (`Bounded.attempt`);
* **runs** — a run makes at most `limit` reads, none of them at null
  (`Bounded.readsWithin`).
-/

namespace RemoteStack

/-! ## Counted reads -/

/-- At most `limit` reads, none of them at the null address. -/
structure ReadsWithin (limit : Nat) (requests : List Request) : Prop where
  length_le : requests.length ≤ limit
  nonNull : ∀ request ∈ requests, ¬request.address.isNull

namespace ReadsWithin

variable {limit more : Nat} {request : Request} {requests later : List Request}

theorem nil : ReadsWithin limit [] where
  length_le := Nat.zero_le _
  nonNull _ mem := absurd mem List.not_mem_nil

theorem cons (nonNull : ¬request.address.isNull) (h : ReadsWithin limit requests) :
    ReadsWithin (limit + 1) (request :: requests) where
  length_le := Nat.succ_le_succ h.length_le
  nonNull := List.forall_mem_cons.2 ⟨nonNull, h.nonNull⟩

theorem append (h : ReadsWithin limit requests) (hlater : ReadsWithin more later) :
    ReadsWithin (limit + more) (requests ++ later) where
  length_le := by
    rw [List.length_append]
    exact Nat.add_le_add h.length_le hlater.length_le
  nonNull := List.forall_mem_append.2 ⟨h.nonNull, hlater.nonNull⟩

theorem of_le (h : ReadsWithin limit requests) (le : limit ≤ more) : ReadsWithin more requests where
  length_le := Nat.le_trans h.length_le le
  nonNull := h.nonNull

end ReadsWithin

namespace Probe

variable {α β : Type} {limit first rest : Nat} {Q Q' : α → Prop} {R : β → Prop}

/-- On every memory the probe asks at most `limit` times, never at null, and a result is in
`Q`. -/
def Bounded : Nat → (α → Prop) → Probe α → Prop
  | _, Q, .done value => Q value
  | _, _, .failed _ | _, _, .overflow => True
  | limit, Q, .report _ rest => rest.Bounded limit Q
  | 0, _, .ask .. => False
  | limit + 1, Q, .ask address _ rest =>
    ¬address.isNull ∧ ∀ answer, (rest answer).Bounded limit Q

/-- The probe asks at most `limit` times, never at null. -/
abbrev BoundedBy (limit : Nat) (probe : Probe α) : Prop := probe.Bounded limit fun _ => True

/-! ## Composition -/

theorem Bounded.mono {probe : Probe α} (h : probe.Bounded limit Q) {more : Nat}
    (le : limit ≤ more) (hQ : ∀ value, Q value → Q' value) : probe.Bounded more Q' := by
  induction probe generalizing limit more with
  | done value => exact hQ value h
  | failed | overflow => trivial
  | report event rest ih => exact ih h le
  | ask address length rest ih =>
    cases limit with
    | zero => exact h.elim
    | succ limit =>
      obtain ⟨more, rfl⟩ := Nat.exists_eq_add_one_of_ne_zero (Nat.ne_of_gt (Nat.zero_lt_of_lt le))
      exact ⟨h.1, fun answer => ih answer (h.2 answer) (Nat.le_of_succ_le_succ le)⟩

theorem BoundedBy.of_le {probe : Probe α} (h : probe.BoundedBy limit) {more : Nat}
    (le : limit ≤ more) : probe.BoundedBy more :=
  Bounded.mono h le fun _ _ => trivial

/-- The limits of two probes in sequence add up. -/
theorem Bounded.bind {probe : Probe α} {next : α → Probe β} (h : probe.Bounded first Q)
    (hnext : ∀ value, Q value → (next value).Bounded rest R) :
    (probe.bind next).Bounded (rest + first) R := by
  induction probe generalizing first with
  | done value => exact (hnext value h).mono (Nat.le_add_right _ _) fun _ => id
  | failed | overflow => trivial
  | report event rest ih => exact ih h
  | ask address length rest ih =>
    cases first with
    | zero => exact h.elim
    | succ first =>
      exact ⟨h.1, fun answer => ih answer (h.2 answer)⟩

/-- A result that is only changed takes no more reads. -/
theorem BoundedBy.bind_done {probe : Probe α} (h : probe.BoundedBy limit) (change : α → β) :
    (probe.bind fun value => .done (change value)).BoundedBy limit := by
  rw [← Nat.zero_add limit]
  exact Bounded.bind h fun _ _ => trivial

theorem Bounded.attempt {probe : Probe α} (h : probe.Bounded limit Q) :
    probe.attempt.Bounded limit fun
      | .ok value => Q value
      | .error _ => True := by
  induction probe generalizing limit with
  | done | failed => exact h
  | overflow => trivial
  | report event rest ih => exact ih h
  | ask address length rest ih =>
    cases limit with
    | zero => exact h.elim
    | succ limit => exact ⟨h.1, fun answer => ih answer (h.2 answer)⟩

/-! ## Single steps -/

theorem bounded_trace (message : String) : (trace message).BoundedBy 0 := trivial

theorem bounded_reportAll (events : List Log.Event) : (reportAll events).BoundedBy 0 := by
  induction events with
  | nil => trivial
  | cons event rest ih => exact ih

theorem bounded_ofExcept {result : Except DecodeError α}
    (h : ∀ value, result = .ok value → Q value) : (ofExcept result).Bounded 0 Q := by
  cases result with
  | ok value => exact h value rfl
  | error => trivial

theorem bounded_readUpTo {address : Address} (nonNull : ¬address.isNull) (length : Nat)
    (context : String) : (readUpTo address length context).BoundedBy 1 := by
  refine ⟨nonNull, ?_⟩
  intro answer
  cases answer <;> trivial

theorem bounded_readExactly {address : Address} (nonNull : ¬address.isNull) (length : Nat)
    (context : String) : (readExactly address length context).BoundedBy 1 := by
  apply (bounded_readUpTo nonNull length context).bind
  intro bytes _
  split <;> trivial

/-! ## Runs -/

/-- A run makes at most as many reads as the probe is bounded by. -/
theorem Bounded.readsWithin {probe : Probe α} (h : probe.Bounded limit Q) (memory : Memory)
    (served : Nat) : ReadsWithin limit (probe.run memory served).requests := by
  -- `served` counts on at each read, and the answer picks the way through the tree
  induction probe generalizing limit served with
  | done | failed | overflow => exact .nil
  | report event rest ih => exact ih h served
  | ask address length rest ih =>
    cases limit with
    | zero => exact h.elim
    | succ limit => exact .cons h.1 (ih _ (h.2 _) (served + 1))

end Probe

end RemoteStack
