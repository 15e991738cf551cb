import RemoteStack.Reader.Basic
import RemoteStack.Text.Utf8
import RemoteStack.Text.Utf16
import RemoteStack.Text.Ucs4

/-!
# Reading texts

Names of functions and files are byte strings in UTF-8 in the 2.x releases, and Unicode
texts in the 3.x releases: arrays of units of two or four bytes behind a pointer. Names of
types and built-in functions are C strings. Undecodable parts become replacement
characters, and a text that is readable in part is cut short rather than refused. A null
object has no text.
-/

namespace RemoteStack.Reader

/-- The characters of a byte string, whose length stands in its head. -/
def sizedChars (reader : Reader) (object : Address) (kind : ObjectKind) :
    Probe (Option Bytes) := do
  if object.isNull then return none
  let size ← reader.integer object kind "ob_size"
  let length ← clampedCount object size reader.limits.maxStringLength
  let layout ← reader.layout kind
  let chars ← itemsPlace layout object "ob_sval"
  if length = 0 then return some []
  let bytes ← Probe.readUpTo chars length s!"{kind.name}.ob_sval"
  return some bytes

def byteString (reader : Reader) (object : Address) : Probe (Option Bytes) :=
  reader.sizedChars object reader.version.lineTableKind

/-- The text of units in the size that the build uses. -/
def decodeUnits (abi : Abi) (bytes : Bytes) : String :=
  match abi.dataModel with
  | .lp64 => Text.Ucs4.decode bytes
  | .llp64 => Text.Utf16.decode bytes

def unicode (reader : Reader) (object : Address) : Probe (Option String) := do
  if object.isNull then return none
  let claimed ← reader.integer object .unicode "length"
  let units ← clampedCount object claimed reader.limits.maxStringLength
  let buffer ← reader.address object .unicode "str"
  if buffer.isNull || units == 0 then return some ""
  let abi := reader.version.abi
  let length ← arrayLength units abi.unicodeUnit
  let bytes ← Probe.readUpTo buffer length "unicode.str"
  return some (decodeUnits abi bytes)

/-- The name of a function or file. -/
def text (reader : Reader) (object : Address) : Probe (Option String) := do
  match reader.version.family with
  | .python2 =>
    let bytes? ← reader.sizedChars object .string
    return bytes?.map Text.Utf8.decode
  | .python3 => reader.unicode object

/-- A C string of at most `most` bytes. -/
def cString (address : Address) (most : Nat) : Probe (Option String) := do
  if address.isNull then return none
  let bytes ← Probe.readUpTo address most "C string"
  return some (Text.Utf8.decode bytes.untilZero)

/-- The name of the type of an object. -/
def typeName (reader : Reader) (object : Address) : Probe (Option String) := do
  let type ← reader.address object .object "ob_type"
  let name ← reader.address type .type "tp_name"
  cString name reader.limits.maxStringLength

/-- The name of a built-in function. -/
def builtinName (reader : Reader) (object : Address) : Probe (Option String) := do
  let method ← reader.address object .cfunction "m_ml"
  let name ← reader.address method .methodDef "ml_name"
  cString name reader.limits.maxStringLength

end RemoteStack.Reader
