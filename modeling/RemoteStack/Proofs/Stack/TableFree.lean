import RemoteStack.Proofs.Probe.InStep
import RemoteStack.Proofs.Stack.ThreadList

/-!
# Captures with other line tables

How line tables are read is a parameter of a decoder. It decides on line numbers, and on nothing
else: no link, no failure and no read depends on what a line table says. Compared are two decoders
that differ in the line table alone, on one memory.

* **lines** — a line that does not come from a line table is the same with both, and one that does
  is what each line table says of the same bytes, first line and instruction
  (`LineUpToTables`, `Resolver.currentLine_inStep`);
* **frames** — so frames are the same up to such lines (`Frame.UpToTables`), the walks follow the
  same links (`Walk.pull_inStep`), and their stacks are the same up to such lines
  (`Walk.take_inStep`);
* **threads** — and so are the threads of a list (`Decoder.captureFrom_inStep`).

`Decoder.captureAll_upToTables` says what becomes of a capture.
-/

namespace RemoteStack

open Probe (InStep)

variable {first second : LineTable}

/-! ## The same up to line tables -/

/-- Lines from one source: the same, or what each line table says of the same instruction. -/
inductive LineUpToTables (first second : LineTable) : LineSource → Nat → Nat → Prop
  | same {source : LineSource} (line : Nat) : source ≠ .lineTable →
      LineUpToTables first second source line line
  | read (table : Bytes) (firstLine target : Nat) :
      LineUpToTables first second .lineTable (first table firstLine target)
        (second table firstLine target)

/-- The positions are the same, but for lines that come from a line table. -/
structure Position.UpToTables (first second : LineTable) (position other : Position) : Prop where
  same : other = { position with line := other.line }
  line : LineUpToTables first second position.lineSource position.line other.line

/-- The frames are the same, but for lines that come from a line table. -/
structure Frame.UpToTables (first second : LineTable) (frame other : Frame) : Prop where
  same : other = { frame with line := other.line }
  line : LineUpToTables first second frame.lineSource frame.line other.line

structure Stack.UpToTables (first second : LineTable) (stack other : Stack) : Prop where
  frames : List.Forall₂ (Frame.UpToTables first second) stack.frames other.frames
  error : other.error = stack.error

structure ThreadSnapshot.UpToTables (first second : LineTable)
    (snapshot other : ThreadSnapshot) : Prop
    extends snapshot.toStack.UpToTables first second other.toStack where
  thread : other.thread = snapshot.thread
  threadState : other.threadState = snapshot.threadState

structure ProcessSnapshot.UpToTables (first second : LineTable)
    (snapshot other : ProcessSnapshot) : Prop where
  threads : List.Forall₂ (ThreadSnapshot.UpToTables first second) snapshot.threads other.threads
  error : other.error = snapshot.error

/-! ## Positions -/

namespace Resolver

def withLineTable (resolver : Resolver) (lineTable : LineTable) : Resolver :=
  { resolver with lineTable }

/-- Whether a line table is read at all is decided without it. -/
theorem currentLine_inStep (resolver : Resolver) (frame : Address) (code : Code) :
    InStep (fun found other => other.2 = found.2 ∧
        LineUpToTables first second found.2 found.1 other.1)
      ((resolver.withLineTable first).currentLine frame code)
      ((resolver.withLineTable second).currentLine frame code) := by
  unfold currentLine
  simp only [Probe.bind_eq, Probe.pure_eq]
  apply InStep.after
  intro tracer
  split
  · apply InStep.after
    intro line
    exact .done ⟨rfl, .same _ nofun⟩
  · apply InStep.after
    intro last
    split
    · exact .done ⟨rfl, .same _ nofun⟩
    · apply InStep.after
      intro table?
      cases table? with
      | some table => exact .done ⟨rfl, .read table _ _⟩
      | none => exact .done ⟨rfl, .same _ nofun⟩

theorem position_inStep (resolver : Resolver) (frame : Address) :
    InStep (Position.UpToTables first second)
      ((resolver.withLineTable first).position frame)
      ((resolver.withLineTable second).position frame) := by
  unfold position
  simp only [Probe.bind_eq, Probe.pure_eq]
  apply InStep.after
  intro codeAddress
  split
  · apply InStep.after
    intro line
    exact .done ⟨rfl, .same _ nofun⟩
  · apply InStep.after
    intro code
    apply InStep.after
    intro function
    apply InStep.after
    intro file
    apply (resolver.currentLine_inStep frame code).bind
    rintro ⟨line, source⟩ ⟨otherLine, _⟩ ⟨rfl, found⟩
    -- the event tells the line
    exact .report (.inr ⟨rfl, rfl⟩) (.done ⟨rfl, found⟩)

end Resolver

/-! ## Walks -/

namespace Walk

def withLineTable (walk : Walk) (lineTable : LineTable) : Walk :=
  { walk with resolver := walk.resolver.withLineTable lineTable }

theorem decode_inStep (walk : Walk) :
    InStep (Frame.UpToTables first second) (walk.withLineTable first).decode
      (walk.withLineTable second).decode := by
  unfold decode
  simp only [Probe.bind_eq, Probe.pure_eq]
  apply InStep.after
  intro previous
  apply (walk.resolver.position_inStep walk.next).bind
  rintro ⟨function, file, line, source⟩ other ⟨same, found⟩
  rw [same]
  exact .done ⟨rfl, found⟩

/-- The pulls yield frames that are the same up to line tables, or the same failure, or nothing,
and the walks go on in the same way. -/
inductive PulledUpToTables (first second : LineTable) : Item × Walk → Item × Walk → Prop
  | ended (next : Walk) : PulledUpToTables first second
      (none, next.withLineTable first) (none, next.withLineTable second)
  | failed (error : DecodeError) (next : Walk) : PulledUpToTables first second
      (some (.error error), next.withLineTable first)
      (some (.error error), next.withLineTable second)
  | frame {frame other : Frame} (next : Walk) : frame.UpToTables first second other →
      PulledUpToTables first second
        (some (.ok frame), next.withLineTable first) (some (.ok other), next.withLineTable second)

theorem stop_inStep (walk : Walk) (error : DecodeError) :
    InStep (PulledUpToTables first second) ((walk.withLineTable first).stop error)
      ((walk.withLineTable second).stop error) :=
  .report (.inl rfl) (.done (.failed error { walk with isFinished := true }))

theorem pull_inStep (walk : Walk) :
    InStep (PulledUpToTables first second) (walk.withLineTable first).pull
      (walk.withLineTable second).pull := by
  -- all that a pull looks at before it decodes is the same in both walks
  by_cases ended : walk.HasEnded
  · have ended (lineTable : LineTable) : (walk.withLineTable lineTable).HasEnded := ended
    rw [pull_of_hasEnded (ended first), pull_of_hasEnded (ended second)]
    exact .done (.ended walk)
  have notEnded (lineTable : LineTable) : ¬(walk.withLineTable lineTable).HasEnded := ended
  by_cases deep : walk.maxDepth ≤ walk.depth
  · rw [pull_of_deep (notEnded first) deep, pull_of_deep (notEnded second) deep]
    exact walk.stop_inStep _
  have shallow : walk.depth < walk.maxDepth := Nat.not_le.1 deep
  by_cases visited : walk.next ∈ walk.visited
  · rw [pull_of_visited (notEnded first) shallow visited,
      pull_of_visited (notEnded second) shallow visited]
    exact walk.stop_inStep _
  rw [pull_of_mayDecode ⟨notEnded first, shallow, visited⟩,
    pull_of_mayDecode ⟨notEnded second, shallow, visited⟩]
  apply walk.decode_inStep.attempt.bind
  intro decoded other end'
  cases end' with
  | error error => exact walk.stop_inStep error
  | @ok frame other related =>
    have link : (walk.withLineTable second).advance other =
        (walk.advance frame).withLineTable second := by
      rw [related.same]
      rfl
    simp only [link]
    exact .done (.frame (walk.advance frame) related)

theorem take_inStep (walk : Walk) (count : Nat) :
    InStep (Stack.UpToTables first second) ((walk.withLineTable first).take count)
      ((walk.withLineTable second).take count) := by
  induction count generalizing walk with
  | zero => exact .done ⟨.nil, rfl⟩
  | succ count ih =>
    rw [take_succ, take_succ]
    apply walk.pull_inStep.bind
    intro pulled other same
    cases same with
    | ended next => exact .done ⟨.nil, rfl⟩
    | failed error next => exact .done ⟨.nil, rfl⟩
    | frame next related =>
      apply (ih next).bind
      intro stack rest same
      exact .done ⟨.cons related same.frames, same.error⟩

end Walk

/-! ## Threads -/

namespace Decoder

def withLineTable (decoder : Decoder) (lineTable : LineTable) : Decoder :=
  { decoder with lineTable }

theorem snapshot_inStep (decoder : Decoder) (state : ThreadState) :
    InStep (ThreadSnapshot.UpToTables first second)
      ((decoder.withLineTable first).snapshot state)
      ((decoder.withLineTable second).snapshot state) := by
  unfold snapshot
  simp only [Probe.bind_eq, Probe.pure_eq]
  apply ((decoder.walk state.frame).take_inStep (decoder.limits.maxDepth + 1)).bind
  rintro ⟨frames, _⟩ ⟨others, error⟩ ⟨related, rfl⟩
  have length : others.length = frames.length := related.length_eq.symm
  simp only [length]
  cases error with
  | none => exact .report (.inl rfl) (.done ⟨⟨related, rfl⟩, rfl, rfl⟩)
  | some error =>
    dsimp only
    split
    · exact .failed error
    · exact .report (.inl rfl) (.report (.inl rfl) (.done ⟨⟨related, rfl⟩, rfl, rfl⟩))

theorem captureFrom_inStep (decoder : Decoder) (visited : List Address) (next : Address)
    (remaining : Nat) :
    InStep (ProcessSnapshot.UpToTables first second)
      ((decoder.withLineTable first).captureFrom visited next remaining)
      ((decoder.withLineTable second).captureFrom visited next remaining) := by
  induction remaining generalizing visited next with
  | zero =>
    unfold captureFrom captureOnto
    split
    · exact .done ⟨.nil, rfl⟩
    · exact .done ⟨.nil, rfl⟩
  | succ remaining ih =>
    rw [captureFrom_succ, captureFrom_succ]
    split
    · exact .done ⟨.nil, rfl⟩
    split
    · exact .done ⟨.nil, rfl⟩
    apply InStep.after
    intro decoded
    cases decoded with
    | error error =>
      dsimp only
      split
      · exact .failed error
      · exact .done ⟨.nil, rfl⟩
    | ok state =>
      apply (decoder.snapshot_inStep state).bind
      intro thread other same
      apply (ih (next :: visited) state.next).bind
      intro rest others same'
      exact .done ⟨.cons same same'.threads, same'.error⟩

theorem captureAll_inStep (decoder : Decoder) (head : Address) :
    InStep (ProcessSnapshot.UpToTables first second)
      ((decoder.withLineTable first).captureAll head)
      ((decoder.withLineTable second).captureAll head) := by
  unfold captureAll
  simp only [Probe.bind_eq, Probe.pure_eq]
  apply (decoder.captureFrom_inStep [] head decoder.limits.maxThreads).bind
  rintro ⟨threads, _⟩ ⟨others, error⟩ ⟨related, rfl⟩
  have length : others.length = threads.length := related.length_eq.symm
  simp only [length]
  cases error with
  | none => exact .done ⟨related, rfl⟩
  | some error => exact .report (.inl rfl) (.done ⟨related, rfl⟩)

/-- With another line table, a capture of all threads makes the same reads in the same order, on
every memory, an image for one. It gives the same threads and frames and comes to the same
failures, but for the lines that come from a line table: each is what the line table in use says of
the same bytes. Where a text overflows, it does so with both. -/
theorem captureAll_upToTables (decoder : Decoder) (first second : LineTable) (head : Address)
    (memory : Memory) (served : Nat) :
    let run (lineTable : LineTable) :=
      ((decoder.withLineTable lineTable).captureAll head).run memory served
    (run second).requests = (run first).requests ∧
      List.Forall₂ Log.Event.Alike (run first).events (run second).events ∧
      ((∃ snapshot other, (run first).outcome = .ok snapshot ∧ (run second).outcome = .ok other ∧
        snapshot.UpToTables first second other) ∨
      decoder.reader.OverflowsOn memory ∧ (run first).outcome = .overflow ∧
        (run second).outcome = .overflow) := by
  intro run
  have inStep : InStep (ProcessSnapshot.UpToTables first second)
      ((decoder.withLineTable first).captureAll head)
      ((decoder.withLineTable second).captureAll head) := decoder.captureAll_inStep head
  obtain ⟨sameEnd, requests, events⟩ := inStep.run memory served
  refine ⟨requests, events, ?_⟩
  rcases (decoder.withLineTable first).captureAll_trace_or_overflow memory served head with
    ⟨snapshot, _, _, captured, _⟩ | ⟨text, stopped⟩
  · rw [captured] at sameEnd
    generalize hother : (run second).outcome = other at sameEnd
    cases sameEnd with
    | ok related => exact .inl ⟨snapshot, _, captured, rfl, related⟩
  · rw [stopped] at sameEnd
    generalize hother : (run second).outcome = other at sameEnd
    cases sameEnd
    exact .inr ⟨text, stopped, rfl⟩

end Decoder

end RemoteStack
