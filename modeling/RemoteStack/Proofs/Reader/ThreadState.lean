import RemoteStack.Stack.ThreadState

/-!
# The parts of a thread state

The state of a thread is read in two parts: the flags about recursion, where the layout has
them, and the fields that every release has. `threadState_eq` is the whole in terms of the
parts; what is to be said of the reading of a thread state is said of each part.
-/

namespace RemoteStack.Reader

/-- The flags about recursion, if the layout has a place for them. -/
def overflowFlags (reader : Reader) (layout : Layout) (address : Address) :
    Probe (Option OverflowFlags) :=
  if layout.hasField "overflowed" then do
    let overflowed ← reader.integer address .threadState "overflowed"
    let critical ← reader.integer address .threadState "recursion_critical"
    return some ⟨overflowed != 0, critical != 0⟩
  else return none

/-- The state of a thread whose flags have been read. -/
def threadStateWith (reader : Reader) (address : Address) (overflow : Option OverflowFlags) :
    Probe ThreadState := do
  let stored ← reader.integer address .threadState "thread_id"
  let next ← reader.address address .threadState "next"
  let interpreter ← reader.address address .threadState "interp"
  let frame ← reader.address address .threadState "frame"
  let recursionDepth ← reader.integer address .threadState "recursion_depth"
  let tracing ← reader.integer address .threadState "use_tracing"
  return {
    address
    next
    interpreter
    frame
    recursionDepth
    threadId := threadIdOf reader.version.abi stored
    useTracing := tracing != 0
    overflow }

/-- The state of a thread, part by part. -/
theorem threadState_eq (reader : Reader) {address : Address} (nonNull : ¬address.isNull) :
    reader.threadState address =
      (reader.layout .threadState).bind fun layout =>
        (reader.overflowFlags layout address).bind (reader.threadStateWith address) := by
  simp only [threadState, if_neg nonNull, Probe.bind_eq, Probe.pure_eq]
  congr 1
  funext layout
  unfold overflowFlags
  split
  · simp only [Probe.bind_eq, Probe.pure_eq, Probe.bind_assoc, Probe.done_bind]
    rfl
  · rfl

end RemoteStack.Reader
