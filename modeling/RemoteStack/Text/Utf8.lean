import RemoteStack.Text.Transducer
import RemoteStack.LittleEndian

/-!
# UTF-8

`Utf8.decode` reads bytes as UTF-8. Every longest run of bytes that begins a character and
does not end it, and every byte that cannot begin one, becomes one replacement character.
-/

namespace RemoteStack.Text.Utf8

/-- A character that was begun. -/
structure Pending where
  bits : Nat
  /-- How many bytes are missing, at least one. -/
  missing : Nat
  /-- The least byte that may come next. -/
  least : Nat
  /-- The greatest byte that may come next. -/
  greatest : Nat
  deriving DecidableEq, Repr

/-- Takes a byte that begins a character. The bounds on the second byte keep out what
another form is shorter for, surrogates, and numbers above the last character. -/
def lead (byte : UInt8) : List Char × Option Pending :=
  let b := byte.toNat
  if b < 0x80 then ([Char.ofNat b], none)
  else if b < 0xc2 then ([replacement], none)
  else if b < 0xe0 then ([], some ⟨b - 0xc0, 1, 0x80, 0xbf⟩)
  else if b = 0xe0 then ([], some ⟨0, 2, 0xa0, 0xbf⟩)
  else if b = 0xed then ([], some ⟨0xd, 2, 0x80, 0x9f⟩)
  else if b < 0xf0 then ([], some ⟨b - 0xe0, 2, 0x80, 0xbf⟩)
  else if b = 0xf0 then ([], some ⟨0, 3, 0x90, 0xbf⟩)
  else if b < 0xf4 then ([], some ⟨b - 0xf0, 3, 0x80, 0xbf⟩)
  else if b = 0xf4 then ([], some ⟨4, 3, 0x80, 0x8f⟩)
  else ([replacement], none)

/-- Takes a byte after those of a character that was begun. -/
def continued (pending : Pending) (byte : UInt8) : List Char × Option Pending :=
  let b := byte.toNat
  if pending.least ≤ b ∧ b ≤ pending.greatest then
    let bits := pending.bits * 64 + (b - 0x80)
    if pending.missing = 1 then ([Char.ofNat bits], none)
    else ([], some ⟨bits, pending.missing - 1, 0x80, 0xbf⟩)
  else
    let (emitted, next) := lead byte
    (replacement :: emitted, next)

/-- The decoder; its state is the character that was begun. -/
def transducer : Transducer UInt8 (Option Pending) where
  start := none
  step
    | none, byte => lead byte
    | some pending, byte => continued pending byte
  finish
    | none => []
    | some _ => [replacement]

def decode (bytes : Bytes) : String := transducer.decode bytes

end RemoteStack.Text.Utf8
