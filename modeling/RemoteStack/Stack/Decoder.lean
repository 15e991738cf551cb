import RemoteStack.Stack.Walk
import RemoteStack.Stack.Snapshot

/-!
# Capturing stacks

A `Decoder` captures the stack of a thread, or of every thread of a list. It keeps nothing
between captures. A capture gives what it can: a failure within a stack ends that stack,
and a failure within the list ends the list, and the snapshot tells. Only a failure that
makes every read meaningless (`DecodeError.isFatal`) fails the capture.
-/

namespace RemoteStack

structure Decoder where
  version : Version
  limits : Limits := {}
  lineTable : LineTable := .paired

namespace Decoder

/-- The kinds of objects that a capture reads. -/
def neededKinds (version : Version) : List ObjectKind :=
  [.threadState, .frame, .code, version.textKind, version.lineTableKind]

/-- Makes sure that there is a layout of each kind. -/
def checkLayouts (reader : Reader) : List ObjectKind → Probe Unit
  | [] => return
  | kind :: rest => do
    let _ ← reader.layout kind
    checkLayouts reader rest

/-- A decoder for a version, once all its layouts are found. -/
def prepare (version : Version) : Probe Decoder := do
  checkLayouts { version, limits := {} } (neededKinds version)
  Probe.debug s!"stack decoder ready for {version.text}"
  return { version }

/-- The reader of the decoder; it uses the known layouts. -/
def reader (decoder : Decoder) : Reader := { version := decoder.version, limits := decoder.limits }

def resolver (decoder : Decoder) : Resolver :=
  { reader := decoder.reader, lineTable := decoder.lineTable }

def walk (decoder : Decoder) (frame : Address) : Walk :=
  { resolver := decoder.resolver, maxDepth := decoder.limits.maxDepth, next := frame }

/-- Captures the stack of a thread in a given state. -/
def snapshot (decoder : Decoder) (state : ThreadState) : Probe ThreadSnapshot := do
  let stack ← (decoder.walk state.frame).stack
  let id := state.threadId.text
  match stack.error with
  | none => pure ()
  | some error =>
    if error.isFatal then .failed error
    else
      Probe.warn
        s!"stack of thread {id} truncated after {stack.frames.length} frames: {error.message}"
  Probe.debug s!"captured {stack.frames.length} frames for thread {id}"
  return { toStack := stack, thread := state.threadId, threadState := state.address }

/-- Captures the stack of the thread whose state is at an address. -/
def capture (decoder : Decoder) (threadState : Address) : Probe ThreadSnapshot := do
  let state ← decoder.reader.threadState threadState
  decoder.snapshot state

/-- Captures the threads of a list from `next` on, at most `remaining` of them, after the
visited ones and the threads captured before; the last ones stand first. -/
def captureOnto (decoder : Decoder) (threads : List ThreadSnapshot) (visited : List Address)
    (next : Address) : Nat → Probe ProcessSnapshot
  | 0 =>
    if next.isNull then return ⟨threads.reverse, none⟩
    else
      return ⟨threads.reverse, some (.corruptedChain next visited.length .depthExceeded)⟩
  | remaining + 1 => do
    if next.isNull then return ⟨threads.reverse, none⟩
    if visited.contains next then
      return ⟨threads.reverse, some (.corruptedChain next visited.length .cycle)⟩
    match ← (decoder.reader.threadState next).attempt with
    | .error error =>
      if error.isFatal then .failed error
      else return ⟨threads.reverse, some error⟩
    | .ok state =>
      let snapshot ← decoder.snapshot state
      decoder.captureOnto (snapshot :: threads) (next :: visited) state.next remaining

/-- Captures the threads of a list from `next` on, at most `remaining` of them, after the
visited ones. -/
def captureFrom (decoder : Decoder) (visited : List Address) (next : Address)
    (remaining : Nat) : Probe ProcessSnapshot :=
  decoder.captureOnto [] visited next remaining

theorem captureOnto_eq_bind (decoder : Decoder) (threads : List ThreadSnapshot)
    (visited : List Address) (next : Address) (remaining : Nat) :
    decoder.captureOnto threads visited next remaining
      = (decoder.captureFrom visited next remaining).bind fun rest =>
        .done { rest with threads := threads.reverse ++ rest.threads } := by
  unfold captureFrom
  induction remaining generalizing threads visited next with
  | zero => unfold captureOnto; split <;> simp
  | succ remaining ih =>
    simp only [captureOnto, Probe.bind_eq, Probe.pure_eq]
    split
    · simp
    · split
      · simp
      · simp only [Probe.bind_assoc]
        congr 1
        funext outcome
        match outcome with
        | .error error => dsimp only; split <;> simp
        | .ok state =>
          simp only [Probe.bind_assoc]
          congr 1
          funext snapshot
          simp only [ih (snapshot :: threads), ih [snapshot], Probe.bind_assoc,
            Probe.done_bind, List.reverse_cons, List.reverse_nil, List.nil_append,
            List.append_assoc]

/-- To capture threads is to capture one and the others after it. -/
theorem captureFrom_succ (decoder : Decoder) (visited : List Address) (next : Address)
    (remaining : Nat) :
    decoder.captureFrom visited next (remaining + 1) =
      if next.isNull then .done ⟨[], none⟩
      else if visited.contains next then
        .done ⟨[], some (.corruptedChain next visited.length .cycle)⟩
      else (decoder.reader.threadState next).attempt.bind fun
        | .error error => if error.isFatal then .failed error else .done ⟨[], some error⟩
        | .ok state => (decoder.snapshot state).bind fun snapshot =>
          (decoder.captureFrom (next :: visited) state.next remaining).bind fun rest =>
            .done { rest with threads := snapshot :: rest.threads } := by
  simp only [captureFrom, captureOnto, Probe.bind_eq, Probe.pure_eq]
  split
  · rfl
  · split
    · rfl
    · congr 1
      funext outcome
      match outcome with
      | .error error => rfl
      | .ok state =>
        dsimp only
        congr 1
        funext snapshot
        exact captureOnto_eq_bind decoder [snapshot] (next :: visited) state.next remaining

/-- Captures every thread of the list that starts with the state at an address. -/
def captureAll (decoder : Decoder) (head : Address) : Probe ProcessSnapshot := do
  let snapshot ← decoder.captureFrom [] head decoder.limits.maxThreads
  match snapshot.error with
  | none => pure ()
  | some error =>
    Probe.warn
      s!"thread list truncated after {snapshot.threads.length} threads: {error.message}"
  return snapshot

end Decoder

end RemoteStack
