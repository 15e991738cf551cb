import RemoteStack.Layout.Builtin
import RemoteStack.Limits
import RemoteStack.Reader.Field

/-!
# Readers

A `Reader` knows the version of the interpreter, the catalog of layouts and the limits, and
reads typed fields of objects. It remembers nothing of the process: every value is read
anew, because the process may have changed it.
-/

namespace RemoteStack

/-- What is needed to read the objects of an interpreter. -/
structure Reader where
  version : Version
  limits : Limits
  catalog : Catalog := .builtin

namespace Reader

def layout (reader : Reader) (kind : ObjectKind) : Probe Layout := do
  Probe.reportAll (reader.catalog.selectionEvents kind reader.version.release)
  Probe.ofExcept (reader.catalog.layoutFor kind reader.version)

/-- The failure of a field that is not of the expected type. -/
def wrongType (kind : ObjectKind) (field expected : String) : DecodeError :=
  .unknownField kind s!"{field} (not a {expected} field)"

/-- Reads a pointer field; that of a null object is null. -/
def address (reader : Reader) (object : Address) (kind : ObjectKind) (field : String) :
    Probe Address := do
  let layout ← reader.layout kind
  match ← layout.read object field with
  | .null => return .null
  | value =>
    match value.address? with
    | some address => return address
    | none => .failed (wrongType kind field "pointer")

/-- Reads an integer field; a null object has none. -/
def integer (reader : Reader) (object : Address) (kind : ObjectKind) (field : String) :
    Probe Int := do
  let layout ← reader.layout kind
  match ← layout.read object field with
  | .null => .failed (.nullObject s!"{kind.name}.{field}")
  | value =>
    match value.integer? with
    | some value => return value
    | none => .failed (wrongType kind field "integer")

def itemsPlace (layout : Layout) (object : Address) (field : String) : Probe Address := do
  match ← layout.read object field with
  | .items place => return place
  | _ => .failed (wrongType layout.kind field "trailing array")

/-- The number of items that an object claims to have, cut to a limit. -/
def clampedCount (object : Address) (claimed : Int) (limit : Nat) : Probe Nat := do
  if claimed < 0 then .failed (.invalidObject object s!"negative length {claimed}")
  else
    let count := claimed.toNat
    if limit < count then
      Probe.trace s!"clamping length {count} of object at {object.text} to {limit}"
    return min count limit

/-- The length of the read of an array. A word of 64 bits has to count it. -/
def arrayLength (count itemSize : Nat) : Probe Nat :=
  if count * itemSize < UInt64.size then return count * itemSize else .overflow

theorem arrayLength_of_lt {count itemSize : Nat} (fits : count * itemSize < UInt64.size) :
    arrayLength count itemSize = .done (count * itemSize) :=
  if_pos fits

theorem arrayLength_of_le {count itemSize : Nat} (exceeds : UInt64.size ≤ count * itemSize) :
    arrayLength count itemSize = .overflow :=
  if_neg (Nat.not_lt.2 exceeds)

end Reader

end RemoteStack
