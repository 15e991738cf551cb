import RemoteStack.Probe.Run

/-!
# Strict probes and disturbed memories

A run depends on nothing but the answers to the reads that it makes (`run_congr`). A probe
is `Strict` if it takes no read that failed for an answer: it ends there, with the failure
of that very read. Strictness composes (`Strict.bind`), and it fixes what a strict probe
makes of a memory in which one read fails (`Strict.run_fault`): the reads before it are made
as they were, and none after it.
-/

namespace RemoteStack

/-- Two memories answer the reads alike that are numbered from `served`, `count` of them. -/
def Memory.AgreeFor (served count : Nat) (memory other : Memory) : Prop :=
  ∀ n < count, other (served + n) = memory (served + n)

/-- The read of a number fails, whatever is asked for. -/
def Memory.FailsAt (memory : Memory) (number : Nat) (source : AccessError) : Prop :=
  ∀ address length, memory number address length = .error source

namespace Memory

variable {memory other : Memory} {served count : Nat}

theorem AgreeFor.head (h : AgreeFor served (count + 1) memory other) :
    other served = memory served := by
  have := h 0 (Nat.succ_pos count)
  rwa [Nat.add_zero] at this

/-- After some of the reads, the memories agree for the others. -/
theorem AgreeFor.drop (h : AgreeFor served count memory other) (made : Nat) :
    AgreeFor (served + made) (count - made) memory other := by
  intro n hn
  have := h (made + n) (by omega)
  rwa [← Nat.add_assoc] at this

theorem AgreeFor.take (h : AgreeFor served count memory other) {fewer : Nat}
    (hle : fewer ≤ count) : AgreeFor served fewer memory other := by
  intro n hn
  exact h n (Nat.lt_of_lt_of_le hn hle)

end Memory

namespace Probe

variable {α β : Type} {memory other : Memory} {served : Nat}

/-- Memories that answer alike the reads that are made give the same run. -/
theorem run_congr (probe : Probe α)
    (agree : Memory.AgreeFor served (probe.run memory served).requests.length memory other) :
    probe.run other served = probe.run memory served := by
  induction probe generalizing served with
  | done | failed | overflow => rfl
  | report event rest ih => simp only [run, ih agree]
  | ask address length rest ih =>
    have first := agree.head
    have later := agree.drop 1
    simp only [run, List.length_cons, Nat.add_sub_cancel] at later ⊢
    rw [first, ih _ later]

/-! ## Strictness -/

/-- A read that fails ends the probe, as unreadable. -/
def Strict : Probe α → Prop
  | .done _ | .failed _ | .overflow => True
  | .report _ rest => rest.Strict
  | .ask address length rest => (∀ answer, (rest answer).Strict) ∧
      ∀ source, ∃ context, rest (.error source) =
        .failed (.unreadableMemory address length context source)

theorem Strict.bind {probe : Probe α} {next : α → Probe β} (h : probe.Strict)
    (hnext : ∀ value, (next value).Strict) : (probe.bind next).Strict := by
  induction probe with
  | done value => exact hnext value
  | failed | overflow => trivial
  | report event rest ih => exact ih h
  | ask address length rest ih =>
    refine ⟨fun answer => ih answer (h.1 answer), ?_⟩
    intro source
    obtain ⟨context, hfails⟩ := h.2 source
    exact ⟨context, (congrArg (Probe.bind · next) hfails).trans (failed_bind _ next)⟩

theorem strict_trace (message : String) : (trace message).Strict := trivial

theorem strict_reportAll (events : List Log.Event) : (reportAll events).Strict := by
  induction events with
  | nil => trivial
  | cons event rest ih => exact ih

theorem strict_ofExcept (result : Except DecodeError α) : (ofExcept result).Strict := by
  cases result <;> trivial

theorem strict_readUpTo (address : Address) (length : Nat) (context : String) :
    (readUpTo address length context).Strict := by
  refine ⟨?_, fun source => ⟨context, rfl⟩⟩
  intro answer
  cases answer <;> trivial

theorem strict_readExactly (address : Address) (length : Nat) (context : String) :
    (readExactly address length context).Strict := by
  apply (strict_readUpTo address length context).bind
  intro bytes
  split <;> trivial

/-- A strict probe that would have made the read that fails ends with its failure. -/
theorem Strict.run_fault {probe : Probe α} (h : probe.Strict) {number : Nat}
    {source : AccessError} (agree : Memory.AgreeFor served number memory other)
    (fails : other.FailsAt (served + number) source)
    (made : number < (probe.run memory served).requests.length) :
    ∃ request context, (probe.run memory served).requests[number]? = some request ∧
      (probe.run other served).outcome =
        .error (.unreadableMemory request.address request.length context source) ∧
      (probe.run other served).requests =
        (probe.run memory served).requests.take (number + 1) := by
  -- each read takes one off `number`: at zero it is the read that fails, and strictness says
  -- that the probe ends there; before that both memories give the same answer
  induction probe generalizing served number with
  | done | failed | overflow => exact absurd made (Nat.not_lt_zero _)
  | report event rest ih => exact ih h agree fails made
  | ask address length rest ih =>
    cases number with
    | zero =>
      obtain ⟨context, hfails⟩ := h.2 source
      have failed : other served address length = .error source := fails address length
      refine ⟨⟨address, length⟩, context, rfl, ?_, ?_⟩
      · simp only [run, failed, hfails]
      · simp only [run, failed, hfails, List.take_succ_cons, List.take_zero]
    | succ number =>
      have first := agree.head
      have later := agree.drop 1
      rw [Nat.add_sub_cancel] at later
      rw [Nat.add_comm number, ← Nat.add_assoc] at fails
      obtain ⟨request, context, hrequest, houtcome, hrequests⟩ :=
        ih _ (h.1 _) later fails (Nat.lt_of_succ_lt_succ made)
      refine ⟨request, context, hrequest, ?_, ?_⟩
      · simp only [run, first, houtcome]
      · simp only [run, first, hrequests, List.take_succ_cons]

end Probe

end RemoteStack
