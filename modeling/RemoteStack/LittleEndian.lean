/-!
# Little-endian integers

Integers in memory stand with their least significant byte first. `unsigned` is the number
that bytes denote, and `signed` is the two's complement number; of more than eight bytes
only the first eight count for the latter. `span` counts the numbers that so many
bytes can denote, and `chunks` cuts an array into its elements.
-/

namespace RemoteStack

/-- The bytes of a piece of memory, in the order of their addresses. -/
abbrev Bytes : Type := List UInt8

namespace LittleEndian

/-- The number that the bytes denote. -/
def unsigned : Bytes → Nat
  | [] => 0
  | byte :: rest => byte.toNat + 256 * unsigned rest

/-- How many numbers so many bytes can denote. -/
def span : Nat → Nat
  | 0 => 1
  | size + 1 => 256 * span size

/-- The two's complement number that the bytes denote. -/
def signed (bytes : Bytes) : Int := (unsigned bytes : Int).bmod (span (min bytes.length 8))

theorem span_pos (size : Nat) : 0 < span size := by
  induction size with
  | zero => decide
  | succ size ih => exact Nat.mul_pos (by decide) ih

theorem unsigned_lt (bytes : Bytes) : unsigned bytes < span bytes.length := by
  induction bytes with
  | nil => decide
  | cons byte rest ih =>
    have := byte.toNat_lt
    simp only [unsigned, List.length_cons, span]
    omega

end LittleEndian

namespace Bytes

/-- Cuts `count` pieces of `size` off the front, after the pieces that were cut before. -/
def cut (size : Nat) (pieces : List Bytes) (bytes : Bytes) : Nat → List Bytes
  | 0 => pieces.reverse
  | count + 1 => cut size (bytes.take size :: pieces) (bytes.drop size) count

/-- Cuts bytes into pieces of `size`; a shorter rest is dropped. -/
def chunks (size : Nat) (bytes : Bytes) : List Bytes := cut size [] bytes (bytes.length / size)

theorem cut_eq_append (size : Nat) (pieces : List Bytes) (bytes : Bytes) (count : Nat) :
    cut size pieces bytes count = pieces.reverse ++ cut size [] bytes count := by
  induction count generalizing pieces bytes with
  | zero => simp [cut]
  | succ count ih => rw [cut, cut, ih, ih [_]]; simp

@[simp] theorem length_cut (size : Nat) (pieces : List Bytes) (bytes : Bytes) (count : Nat) :
    (cut size pieces bytes count).length = pieces.length + count := by
  induction count generalizing pieces bytes with
  | zero => simp [cut]
  | succ count ih => rw [cut, ih, List.length_cons]; omega

@[simp] theorem length_chunks (size : Nat) (bytes : Bytes) :
    (bytes.chunks size).length = bytes.length / size := by
  simp [chunks]

/-- Bytes that do not fill a piece are dropped. -/
theorem chunks_of_length_lt {size : Nat} {bytes : Bytes} (h : bytes.length < size) :
    bytes.chunks size = [] := by
  rw [chunks, Nat.div_eq_of_lt h]; rfl

/-- A full piece in front is the first piece. -/
theorem chunks_append {size : Nat} {piece : Bytes} (rest : Bytes) (pos : 0 < size)
    (h : piece.length = size) : (piece ++ rest).chunks size = piece :: rest.chunks size := by
  have count : (piece ++ rest).length / size = rest.length / size + 1 := by
    rw [List.length_append, h, Nat.add_div_left _ pos]
  rw [chunks, count, cut, cut_eq_append, List.take_left' h, List.drop_left' h]
  rfl

end Bytes

end RemoteStack
