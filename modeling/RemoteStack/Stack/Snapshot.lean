import RemoteStack.Stack.Frame
import RemoteStack.Stack.ThreadState

/-!
# Snapshots

What was captured of one thread, and of all threads of a list. A snapshot of a process
keeps the threads that were captured before its list could not be followed any further.
-/

namespace RemoteStack

/-- What was captured of a thread. -/
structure ThreadSnapshot extends Stack where
  thread : ThreadId
  /-- The state that the capture started from. -/
  threadState : Address
  deriving DecidableEq, Repr

namespace ThreadSnapshot

/-- The stack was read to its outermost frame. -/
def isComplete (snapshot : ThreadSnapshot) : Bool := snapshot.toStack.isComplete

/-- The innermost frame, if one was decoded. -/
def innermost? (snapshot : ThreadSnapshot) : Option Frame := snapshot.frames.head?

end ThreadSnapshot

/-- What was captured of the threads of a list. -/
structure ProcessSnapshot where
  /-- The threads in the order of the list. -/
  threads : List ThreadSnapshot
  /-- Why the list was not followed to its end. -/
  error : Option DecodeError
  deriving DecidableEq, Repr

namespace ProcessSnapshot

/-- The list, and the stack of each thread, were read to their ends. -/
def isComplete (snapshot : ProcessSnapshot) : Bool :=
  snapshot.error.isNone && snapshot.threads.all (·.isComplete)

def frameCount (snapshot : ProcessSnapshot) : Nat :=
  snapshot.threads.foldr (fun thread count => thread.frames.length + count) 0

end ProcessSnapshot

end RemoteStack
