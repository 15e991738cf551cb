import RemoteStack.Layout.Basic
import RemoteStack.Probe.Basic

/-!
# Reading one field

`Layout.read` reads a field of an object at an address: one bounded read at the place of
the field, or none if the object is null or the field is a trailing array. Null and
unreadable are different things: a null object has the value `FieldValue.null`, whereas a
read that fails, or that brings too little of a number or structure, fails the probe.
Characters may be cut short by the end of readable memory.
-/

namespace RemoteStack

inductive FieldValue where
  /-- The object is null; nothing was read. -/
  | null
  | integer (value : Int)
  | address (value : Address)
  /-- Characters within the object. -/
  | chars (bytes : Bytes)
  /-- A structure within the object. -/
  | bytes (bytes : Bytes)
  /-- The place of the first element of a trailing array; nothing was read. -/
  | items (place : Address)
  deriving DecidableEq, Repr

namespace FieldValue

/-- The number in an integer field. -/
def integer? : FieldValue → Option Int
  | integer value => some value
  | _ => none

/-- The address in a pointer field, or the place of a trailing array. -/
def address? : FieldValue → Option Address
  | address value => some value
  | items place => some place
  | _ => none

end FieldValue

def Bytes.untilZero (bytes : Bytes) : Bytes := bytes.takeWhile (· != 0)

def Layout.read (layout : Layout) (object : Address) (name : String) : Probe FieldValue := do
  if object.isNull then return .null
  let field ← Probe.ofExcept (layout.field name)
  let place ← Probe.ofExcept (field.addressIn object)
  let context := s!"{layout.kind.name}.{field.name}"
  Probe.trace s!"reading {context} at {place.text}"
  match field.type with
  | .integer _ =>
    let bytes ← Probe.readExactly place field.size context
    return .integer (LittleEndian.signed bytes)
  | .address =>
    let bytes ← Probe.readExactly place field.size context
    return .address (.ofNat (LittleEndian.unsigned bytes))
  | .chars capacity terminated =>
    let bytes ← Probe.readUpTo place capacity context
    return .chars (if terminated then bytes.untilZero else bytes)
  | .struct size _ =>
    let bytes ← Probe.readExactly place size context
    return .bytes bytes
  | .items _ => return .items place

end RemoteStack
