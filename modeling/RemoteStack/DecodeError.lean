import RemoteStack.Address
import RemoteStack.ObjectKind
import RemoteStack.Release

/-!
# Failures

What can go wrong while stacks are read. `AccessError` is why the memory of a process did
not answer; `DecodeError` is why a value could not be decoded. Two groups matter to the
callers: a `isFatal` failure says that no layout can be relied on, so no read makes sense;
a `isMemoryError` failure is that of a single read. `message` is the one place that words
them.
-/

namespace RemoteStack

/-- Why the memory of a process did not answer. -/
inductive AccessError where
  /-- No captured region holds the address. -/
  | unmapped (address : Address)
  /-- There is no process of this number. -/
  | noProcess (pid : Nat)
  /-- The platform refused, in its own words. -/
  | refused (text : String)
  deriving DecidableEq, Repr

def AccessError.message : AccessError → String
  | .unmapped address => s!"address {address.text} is not mapped"
  | .noProcess pid => s!"process {pid} not found"
  | .refused text => text

/-- Why a chain of frames or threads was abandoned. -/
inductive ChainFault where
  /-- A link leads back to a place that the chain has visited. -/
  | cycle
  /-- The chain goes on after as many links as may be followed. -/
  | depthExceeded
  deriving DecidableEq, Repr

def ChainFault.message : ChainFault → String
  | .cycle => "cycle"
  | .depthExceeded => "depth limit exceeded"

/-- Why a value could not be decoded. -/
inductive DecodeError where
  /-- No layout is known for the release on machines with pointers of this width. -/
  | unsupportedVersion (release : Release) (pointerWidth : Nat) (reason : String)
  /-- The layout of the kind has no such field, or one of another type. -/
  | unknownField (kind : ObjectKind) (field : String)
  /-- The memory did not answer the read. -/
  | unreadableMemory (address : Address) (length : Nat) (context : String) (source : AccessError)
  /-- The memory answered with fewer bytes than the value has. -/
  | truncatedRead (address : Address) (expected actual : Nat) (context : String)
  /-- The chain went wrong at the address, after `depth` good links. -/
  | corruptedChain (address : Address) (depth : Nat) (fault : ChainFault)
  /-- A value was asked of the null address. -/
  | nullObject (context : String)
  /-- The bytes at the address are not those of an object of the expected kind. -/
  | invalidObject (address : Address) (reason : String)
  /-- The process could not be reached. -/
  | inaccessible (source : AccessError)
  deriving DecidableEq, Repr

namespace DecodeError

/-- No read makes sense after this failure. -/
def isFatal : DecodeError → Bool
  | .unsupportedVersion .. | .unknownField .. => true
  | _ => false

/-- The failure is that of a single read. -/
def isMemoryError : DecodeError → Bool
  | .unreadableMemory .. | .truncatedRead .. => true
  | _ => false

def message : DecodeError → String
  | .unsupportedVersion release width reason =>
    s!"Unsupported interpreter version {release.text} ({width}-byte pointers): {reason}"
  | .unknownField kind field => s!"{kind.name} layout has no field named '{field}'"
  | .unreadableMemory address length context source =>
    s!"Unreadable memory at {address.text} ({length} bytes) while reading {context}: "
      ++ source.message
  | .truncatedRead address expected actual context =>
    s!"Truncated read at {address.text} while reading {context}: "
      ++ s!"expected {expected} bytes, got {actual}"
  | .corruptedChain address depth fault =>
    s!"Corrupted chain at {address.text} after {depth} links: {fault.message}"
  | .nullObject context => s!"Null object while reading {context}"
  | .invalidObject address reason => s!"Invalid object at {address.text}: {reason}"
  | .inaccessible source => s!"IO error: {source.message}"

end DecodeError

end RemoteStack
