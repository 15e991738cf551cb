import RemoteStack.Text.Transducer
import RemoteStack.LittleEndian

/-!
# UTF-16

`Utf16.decode` reads little-endian units of two bytes as UTF-16. A surrogate without its
partner becomes a replacement character, and an odd last byte is dropped.
-/

namespace RemoteStack.Text.Utf16

def isHigh (unit : Nat) : Bool := 0xd800 ≤ unit && unit < 0xdc00

def isLow (unit : Nat) : Bool := 0xdc00 ≤ unit && unit < 0xe000

/-- Takes a unit that does not end a pair which was begun. -/
def lead (unit : Nat) : List Char × Option Nat :=
  if isHigh unit then ([], some unit)
  else if isLow unit then ([replacement], none)
  else ([Char.ofNat unit], none)

/-- Takes a unit after the first of a pair. -/
def continued (high unit : Nat) : List Char × Option Nat :=
  if isLow unit then
    ([Char.ofNat (0x10000 + (high - 0xd800) * 0x400 + (unit - 0xdc00))], none)
  else
    let (emitted, next) := lead unit
    (replacement :: emitted, next)

/-- The decoder; its state is the first unit of a pair. -/
def transducer : Transducer Nat (Option Nat) where
  start := none
  step
    | none, unit => lead unit
    | some high, unit => continued high unit
  finish
    | none => []
    | some _ => [replacement]

def decode (bytes : Bytes) : String :=
  transducer.decode ((bytes.chunks 2).map LittleEndian.unsigned)

end RemoteStack.Text.Utf16
