import RemoteStack.Text.Transducer
import RemoteStack.LittleEndian

/-!
# UCS-4

`Ucs4.decode` reads little-endian units of four bytes, each of which is the number of a
character. A number that no character has becomes the replacement character, and a shorter
rest of bytes is dropped.
-/

namespace RemoteStack.Text.Ucs4

/-- The character of a number. -/
def charOf (unit : Nat) : Char := if unit.isValidChar then Char.ofNat unit else replacement

def decode (bytes : Bytes) : String :=
  String.ofList ((bytes.chunks 4).map fun unit => charOf (LittleEndian.unsigned unit))

end RemoteStack.Text.Ucs4
