import RemoteStack.Reader.Basic

/-!
# Reading tuples

The items of a tuple are a trailing array of pointers, whose length stands in its head.
-/

namespace RemoteStack.Reader

/-- The items of a tuple, as many as the limit allows and the memory gives. -/
def tuple (reader : Reader) (object : Address) : Probe (List Address) := do
  if object.isNull then return []
  let size ← reader.integer object .tuple "ob_size"
  let count ← clampedCount object size reader.limits.maxTupleItems
  let layout ← reader.layout .tuple
  let items ← itemsPlace layout object "ob_item"
  let word := reader.version.abi.wordSize
  let length ← arrayLength count word
  let bytes ← Probe.readUpTo items length "tuple.ob_item"
  return (bytes.chunks word).map fun item => .ofNat (LittleEndian.unsigned item)

end RemoteStack.Reader
