import RemoteStack.Stack.Position

/-!
# Frames and stacks

A `Frame` is a decoded activation of a function, and a `Stack` is what was decoded of the
frames of a thread, innermost first, with the reason why no more were, if there is one.
Both are plain values: they keep no link to the process but the addresses.
-/

namespace RemoteStack

structure Frame where
  /-- The number of frames inside this one. -/
  index : Nat
  address : Address
  function : String
  file : String
  line : Nat
  lineSource : LineSource
  /-- The calling frame; the outermost frame has none. -/
  previous : Option Address
  deriving DecidableEq, Repr

namespace Frame

def isOutermost (frame : Frame) : Bool := frame.previous.isNone

/-- The written form, such as `main (app.py:12)`. -/
def text (frame : Frame) : String := s!"{frame.function} ({frame.file}:{frame.line})"

end Frame

/-- The frames of a thread, innermost first, and why they are not all. -/
structure Stack where
  frames : List Frame
  error : Option DecodeError
  deriving DecidableEq, Repr

/-- The stack was read to its outermost frame. -/
def Stack.isComplete (stack : Stack) : Bool := stack.error.isNone

end RemoteStack
