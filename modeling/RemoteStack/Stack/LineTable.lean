import RemoteStack.LittleEndian

/-!
# Line tables

A line table says on which line of the source each instruction of a code object stands. It
is a list of pairs of bytes: how many bytes of instructions further on, and how many lines
further down. `LineTable.paired` reads this format. Other formats can be read by another
`LineTable`.
-/

namespace RemoteStack

/-- The greatest number of a line, or of an instruction. -/
def lineMax : Nat := UInt32.size - 1

/-- How line tables are read: the line of an instruction, from the bytes of the table, the
first line of the code object and the offset of the instruction. -/
abbrev LineTable : Type := Bytes → Nat → Nat → Nat

namespace LineTable

/-- The sum, or the greatest line if it is beyond that. -/
def advance (n step : Nat) : Nat := min (n + step) lineMax

/-- The line of the instruction at `target`, when the pairs before have led to the given
instruction and line. The pairs count up to the first that leads past the target. -/
def pairedFrom (target instruction line : Nat) : Bytes → Nat
  | instructions :: lines :: rest =>
    let instruction := advance instruction instructions.toNat
    if target < instruction then line
    else pairedFrom target instruction (advance line lines.toNat) rest
  | _ => line

/-- Reads a table of pairs; an odd last byte is ignored. -/
def paired : LineTable := fun table firstLine target => pairedFrom target 0 firstLine table

end LineTable

end RemoteStack
