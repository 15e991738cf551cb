import RemoteStack.LittleEndian

/-!
# Writing little-endian integers

`LittleEndian.encode size value` is what stands in a field of `size` bytes after `value` was
written there: the low bytes of its two's complement. The number that is read back:

* **unsigned** — the value modulo the span of the field (`unsigned_encode`);
* **signed** — the value brought between the ends of that span (`signed_encode`), which is the
  value itself if it `FitsSigned` in the field (`FitsSigned.bmod`).
-/

namespace RemoteStack.LittleEndian

/-- The low `size` bytes of the two's complement of a value. -/
def encode : Nat → Int → Bytes
  | 0, _ => []
  | size + 1, value => UInt8.ofNat (value % 256).toNat :: encode size (value / 256)

/-- A signed field of `size` bytes holds the value. -/
def FitsSigned (size : Nat) (value : Int) : Prop :=
  -(span size : Int) ≤ value * 2 ∧ value * 2 < span size

instance (size : Nat) (value : Int) : Decidable (FitsSigned size value) :=
  inferInstanceAs (Decidable (_ ∧ _))

@[simp] theorem length_encode (size : Nat) (value : Int) : (encode size value).length = size := by
  induction size generalizing value with
  | zero => rfl
  | succ size ih => rw [encode, List.length_cons, ih]

theorem encode_zero (size : Nat) : encode size 0 = List.replicate size 0 := by
  induction size with
  | zero => rfl
  | succ size ih =>
    rw [encode, List.replicate_succ]
    exact congrArg _ ih

/-- Bytes denote the value that they were written from, modulo their span. -/
theorem unsigned_encode (size : Nat) (value : Int) :
    (unsigned (encode size value) : Int) = value % span size := by
  induction size generalizing value with
  | zero =>
    show (0 : Int) = value % 1
    rw [Int.emod_one]
  | succ size ih =>
    have low : ((UInt8.ofNat (value % 256).toNat).toNat : Int) = value % 256 := by
      rw [UInt8.toNat_ofNat']
      omega
    have digits : (span (size + 1) : Int) = 256 * span size := rfl
    -- one digit in front of the digits of the quotient: the quotients by the span agree
    have quotient : value / 256 / span size = value / (256 * span size) :=
      Int.ediv_ediv_of_nonneg (by decide)
    have digit := Int.mul_ediv_add_emod value 256
    rw [encode, unsigned, Int.natCast_add, Int.natCast_mul, ih, low, digits,
      Int.emod_def value (256 * _), Int.emod_def (value / 256), quotient, Int.mul_sub,
      Int.mul_assoc]
    omega

theorem unsigned_encode_of_lt {size n : Nat} (h : n < span size) :
    unsigned (encode size n) = n := by
  have := unsigned_encode size n
  rw [Int.emod_eq_of_lt (Int.natCast_nonneg n) (Int.ofNat_lt.2 h)] at this
  exact Int.ofNat.inj this

theorem signed_encode {size : Nat} (h : size ≤ 8) (value : Int) :
    signed (encode size value) = value.bmod (span size) := by
  rw [signed, unsigned_encode, length_encode, Nat.min_eq_left h, Int.emod_bmod]

theorem FitsSigned.bmod {size : Nat} {value : Int} (fits : FitsSigned size value) :
    value.bmod (span size) = value :=
  Int.bmod_eq_of_le_mul_two fits.1 fits.2

end RemoteStack.LittleEndian
