import RemoteStack.Proofs.Probe.Ensures
import RemoteStack.Proofs.Probe.Still

/-!
# What a probe gives

`probe.Gives memory served value made` says that a run of the probe, after `served` reads, has the
result and makes the reads. The result and the reads are those of the parts, one after the other:

* **sequence** — a sequence gives what its second part gives after the reads of the first
  (`gives_bind_iff`);
* **single reads** — a read gives what the memory answers to it, and a strict one only if enough
  arrives (`gives_readUpTo_iff`, `gives_readExactly_iff`);
* **images** — on an image the reads before do not matter (`gives_ofImage_iff`), and images that
  answer alike the reads that are made give the same (`Gives.of_alike`).
-/

namespace RemoteStack.Probe

variable {α β : Type} {memory : Memory} {served : Nat} {made : List Request}

/-- After `served` reads the probe has the result, and makes the reads. -/
structure Gives (memory : Memory) (served : Nat) (probe : Probe α) (value : α)
    (made : List Request) : Prop where
  outcome : (probe.run memory served).outcome = .ok value
  requests : (probe.run memory served).requests = made

/-! ## Composition -/

@[simp] theorem gives_done_iff {result value : α} :
    (done result).Gives memory served value made ↔ value = result ∧ made = [] := by
  constructor
  · rintro ⟨outcome, requests⟩
    exact ⟨(Outcome.ok.inj outcome).symm, requests.symm⟩
  · rintro ⟨rfl, rfl⟩
    exact ⟨rfl, rfl⟩

@[simp] theorem not_gives_failed (error : DecodeError) (value : α) :
    ¬(failed error).Gives memory served value made :=
  fun h => nomatch h.outcome

@[simp] theorem not_gives_overflow (value : α) :
    ¬overflow.Gives memory served value made :=
  fun h => nomatch h.outcome

@[simp] theorem gives_report_iff {event : Log.Event} {rest : Probe α} {value : α} :
    (report event rest).Gives memory served value made ↔ rest.Gives memory served value made :=
  ⟨fun h => ⟨h.outcome, h.requests⟩, fun h => ⟨h.outcome, h.requests⟩⟩

/-- A sequence gives what its second part gives after the reads of the first. -/
theorem gives_bind_iff {probe : Probe α} {next : α → Probe β} {result : β} :
    (probe.bind next).Gives memory served result made ↔
      ∃ value first rest, probe.Gives memory served value first ∧
        (next value).Gives memory (served + first.length) result rest ∧ made = first ++ rest := by
  constructor
  · rintro ⟨outcome, requests⟩
    cases first : (probe.run memory served).outcome with
    | error error =>
      rw [outcome_bind_of_error first] at outcome
      cases outcome
    | overflow =>
      rw [outcome_bind_of_overflow first] at outcome
      cases outcome
    | ok value =>
      rw [outcome_bind_of_ok first] at outcome
      rw [requests_bind_of_ok first] at requests
      exact ⟨value, _, _, ⟨first, rfl⟩, ⟨outcome, rfl⟩, requests.symm⟩
  · rintro ⟨value, _, _, ⟨first, rfl⟩, ⟨rest, rfl⟩, rfl⟩
    exact ⟨(outcome_bind_of_ok first).trans rest, requests_bind_of_ok first⟩

theorem Gives.bind {probe : Probe α} {next : α → Probe β} {value : α} {result : β}
    {rest : List Request} (h : probe.Gives memory served value made)
    (hnext : (next value).Gives memory (served + made.length) result rest) :
    (probe.bind next).Gives memory served result (made ++ rest) :=
  gives_bind_iff.2 ⟨value, made, rest, h, hnext, rfl⟩

/-- A second part that makes no reads leaves those of the first as they are. -/
theorem Gives.bind_unread {probe : Probe α} {next : α → Probe β} {value : α} {result : β}
    (h : probe.Gives memory served value made)
    (hnext : (next value).Gives memory (served + made.length) result []) :
    (probe.bind next).Gives memory served result made := by
  have given := h.bind hnext
  rwa [List.append_nil] at given

/-- What follows a probe of one read comes behind that read. -/
theorem gives_bind_iff_of_single {probe : Probe α} {next : α → Probe β} {result : β}
    (single : ∀ value first, probe.Gives memory served value first →
      ∃ request, first = [request]) :
    (probe.bind next).Gives memory served result made ↔
      ∃ value request rest, probe.Gives memory served value [request] ∧
        (next value).Gives memory (served + 1) result rest ∧ made = request :: rest := by
  rw [gives_bind_iff]
  constructor
  · rintro ⟨value, first, rest, given, hrest, rfl⟩
    obtain ⟨request, rfl⟩ := single value first given
    exact ⟨value, request, rest, given, hrest, rfl⟩
  · rintro ⟨value, request, rest, given, hrest, rfl⟩
    exact ⟨value, [request], rest, given, hrest, rfl⟩

/-- A part that has a result leaves the reads that come next to the rest. -/
theorem Gives.requests_bind {probe : Probe α} {value : α}
    (h : probe.Gives memory served value made) (next : α → Probe β) :
    ((probe.bind next).run memory served).requests =
      made ++ ((next value).run memory (served + made.length)).requests := by
  rw [requests_bind_of_ok h.outcome, h.requests]

/-- An overflow behind a part that never overflows comes after a result of the part. -/
theorem Ensures.exists_gives {probe : Probe α} {next : α → Probe β} {P : DecodeError → Prop}
    {Q : α → Prop} (h : probe.Ensures False P Q)
    (broken : ((probe.bind next).run memory served).outcome = .overflow) :
    ∃ value made, probe.Gives memory served value made ∧
      ((next value).run memory (served + made.length)).outcome = .overflow := by
  cases hrun : (probe.run memory served).outcome with
  | ok value =>
    rw [outcome_bind_of_ok hrun] at broken
    exact ⟨value, _, ⟨hrun, rfl⟩, broken⟩
  | error error =>
    rw [outcome_bind_of_error hrun] at broken
    cases broken
  | overflow => exact (h.of_overflow hrun).elim

/-- A rest that never reads leaves the reads as they are. -/
theorem requests_bind_of_silent {probe : Probe α} {next : α → Probe β}
    (silent : ∀ value served, ((next value).run memory served).requests = []) :
    ((probe.bind next).run memory served).requests = (probe.run memory served).requests := by
  cases h : (probe.run memory served).outcome with
  | ok value => rw [requests_bind_of_ok h, silent, List.append_nil]
  | error error => exact requests_bind_of_error h
  | overflow => exact requests_bind_of_overflow h

theorem gives_reportAll_bind_iff {events : List Log.Event} {next : Unit → Probe α} {value : α} :
    ((reportAll events).bind next).Gives memory served value made ↔
      (next ()).Gives memory served value made := by
  obtain ⟨outcome, requests⟩ : (((reportAll events).bind next).run memory served).outcome =
      ((next ()).run memory served).outcome ∧
    (((reportAll events).bind next).run memory served).requests =
      ((next ()).run memory served).requests := run_reportAll_bind events next
  exact ⟨fun h => ⟨outcome ▸ h.outcome, requests ▸ h.requests⟩,
    fun h => ⟨outcome ▸ h.outcome, requests ▸ h.requests⟩⟩

/-! ## Single reads -/

variable {address : Address} {length : Nat} {context : String} {bytes : Bytes}

theorem gives_readUpTo_iff :
    (readUpTo address length context).Gives memory served bytes made ↔
      memory served address length = .ok bytes ∧ made = [⟨address, length⟩] := by
  have requests := requests_readUpTo address length context memory served
  have outcome : ((readUpTo address length context).run memory served).outcome = .ok bytes ↔
      memory served address length = .ok bytes := by
    simp only [readUpTo, run]
    cases memory served address length <;> simp [run]
  constructor
  · intro h
    exact ⟨outcome.1 h.outcome, h.requests.symm.trans requests⟩
  · rintro ⟨answered, rfl⟩
    exact ⟨outcome.2 answered, requests⟩

/-- A strict read gives what arrives, if that is enough. -/
theorem gives_readExactly_iff :
    (readExactly address length context).Gives memory served bytes made ↔
      memory served address length = .ok bytes ∧ length ≤ bytes.length ∧
        made = [⟨address, length⟩] := by
  unfold readExactly
  simp only [bind_eq, pure_eq, gives_bind_iff, gives_readUpTo_iff]
  constructor
  · rintro ⟨arrived, _, rest, ⟨answered, rfl⟩, given, rfl⟩
    by_cases short : arrived.length < length
    · rw [if_pos short] at given
      exact absurd given (not_gives_failed _ _)
    · rw [if_neg short, gives_done_iff] at given
      obtain ⟨rfl, rfl⟩ := given
      exact ⟨answered, Nat.le_of_not_lt short, rfl⟩
  · rintro ⟨answered, enough, rfl⟩
    refine ⟨bytes, [⟨address, length⟩], [], ⟨answered, rfl⟩, ?_, rfl⟩
    rw [if_neg (Nat.not_lt.2 enough)]
    exact gives_done_iff.2 ⟨rfl, rfl⟩

/-! ## Images -/

/-- On an image it does not matter how many reads came before. -/
theorem gives_ofImage_iff {probe : Probe α} {image : MemoryImage} {value : α} :
    probe.Gives (.ofImage image) served value made ↔
      probe.on image = .ok value ∧ probe.readsOn image = made := by
  rw [← outcome_ofImage probe image served, ← requests_ofImage probe image served]
  exact ⟨fun h => ⟨h.outcome, h.requests⟩, fun h => ⟨h.1, h.2⟩⟩

/-- Images that answer alike the reads that are made give the same. -/
theorem Gives.of_alike {probe : Probe α} {image other : MemoryImage} {value : α} (later : Nat)
    (h : probe.Gives (.ofImage image) served value made)
    (alike : ∀ request ∈ made, other.read request.address request.length =
      image.read request.address request.length) :
    probe.Gives (.ofImage other) later value made := by
  rw [gives_ofImage_iff] at h ⊢
  obtain ⟨outcome, rfl⟩ := h
  -- each answer is the same, and picks the same way through the tree
  induction probe with
  | done | failed | overflow => exact ⟨outcome, rfl⟩
  | report event rest ih => exact ih outcome alike
  | ask address length rest ih =>
    have requests (image : MemoryImage) : readsOn image (ask address length rest) =
        ⟨address, length⟩ :: (rest (image.read address length)).readsOn image :=
      congrArg (_ :: ·) (requests_ofImage _ image 1)
    rw [requests, List.forall_mem_cons] at alike
    obtain ⟨same, alike⟩ := alike
    obtain ⟨outcome, reads⟩ := ih _ outcome alike
    rw [requests, requests, on_ask, same]
    exact ⟨outcome, congrArg (_ :: ·) reads⟩

end RemoteStack.Probe
