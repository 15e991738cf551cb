import RemoteStack.Reader.Basic
import RemoteStack.Address

/-!
# Thread states

The interpreter keeps a state for each of its threads. The states form a list, and each
leads to the innermost frame of its thread. The 3.x releases add two flags about recursion.
-/

namespace RemoteStack

/-- The number that the interpreter knows a thread by. -/
structure ThreadId where
  number : Nat
  deriving DecidableEq, Repr

/-- The written form: hexadecimal. -/
def ThreadId.text (id : ThreadId) : String := "0x" ++ Address.hexDigits 0 id.number

structure OverflowFlags where
  /-- The recursion limit was exceeded, and calls are being left. -/
  overflowed : Bool
  /-- The next call must not fail. -/
  recursionCritical : Bool
  deriving DecidableEq, Repr

structure ThreadState where
  address : Address
  /-- The state of the next thread; null at the end of the list. -/
  next : Address
  /-- The interpreter that the thread belongs to. -/
  interpreter : Address
  /-- The innermost frame; null if the thread runs nothing. -/
  frame : Address
  recursionDepth : Int
  threadId : ThreadId
  /-- A trace or profile function is set. -/
  useTracing : Bool
  /-- The flags about recursion, in releases that have them. -/
  overflow : Option OverflowFlags
  deriving DecidableEq, Repr

namespace Reader

/-- The number of a thread is an unsigned number in the place of a C `long`. -/
def threadIdOf (abi : Abi) (stored : Int) : ThreadId :=
  ⟨(stored % LittleEndian.span abi.longSize).toNat⟩

def threadState (reader : Reader) (address : Address) : Probe ThreadState := do
  if address.isNull then .failed (.nullObject "thread state")
  else
    let layout ← reader.layout .threadState
    let pointer (field : String) := reader.address address .threadState field
    let integer (field : String) := reader.integer address .threadState field
    let overflow ←
      if layout.hasField "overflowed" then do
        let overflowed ← integer "overflowed"
        let critical ← integer "recursion_critical"
        pure (some ⟨overflowed != 0, critical != 0⟩)
      else pure none
    let stored ← integer "thread_id"
    let next ← pointer "next"
    let interpreter ← pointer "interp"
    let frame ← pointer "frame"
    let recursionDepth ← integer "recursion_depth"
    let tracing ← integer "use_tracing"
    return {
      address
      next
      interpreter
      frame
      recursionDepth
      threadId := threadIdOf reader.version.abi stored
      useTracing := tracing != 0
      overflow }

end Reader

end RemoteStack
