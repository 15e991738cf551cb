import RemoteStack.Text.Numeral
import RemoteStack.Text.Blank
import RemoteStack.Rejection

/-!
# Addresses of the observed process

An `Address` is a 64-bit position in the memory of the observed process. It says nothing
about what lies there: the process keeps running, so any address may be stale. The null
address ends every chain (no calling frame, no name, no next thread) and is never read.

Addresses are written as `0x` and sixteen hexadecimal digits, and read from hexadecimal or
decimal text by `Address.parse`.
-/

namespace RemoteStack

/-- A position in the memory of the observed process. -/
structure Address where
  word : UInt64
  deriving DecidableEq, Repr

namespace Address

/-- The address as a number. -/
def toNat (address : Address) : Nat := address.word.toNat

/-- The address that a number denotes modulo 2^64. -/
def ofNat (n : Nat) : Address := ⟨UInt64.ofNat n⟩

/-- The address that ends every chain. -/
def null : Address := ⟨0⟩

instance : Inhabited Address := ⟨null⟩

/-- The address ends a chain. -/
def isNull (address : Address) : Bool := address == null

/-- The address, unless it is null. -/
def nonNull? (address : Address) : Option Address :=
  if address.isNull then none else some address

/-! ## Moving -/

/-- The address `offset` bytes further on, unless that lies outside the 64-bit space. -/
def add? (address : Address) (offset : Nat) : Option Address :=
  if address.toNat + offset < UInt64.size then some (ofNat (address.toNat + offset)) else none

/-- The address `offset` bytes further on, going round at 2^64. -/
def wrappingAdd (address : Address) (offset : Nat) : Address := ofNat (address.toNat + offset)

theorem toNat_lt (address : Address) : address.toNat < UInt64.size := address.word.toNat_lt

theorem toNat_ofNat {n : Nat} (h : n < UInt64.size) : (ofNat n).toNat = n := by
  show (UInt64.ofNat n).toNat = n
  rw [UInt64.toNat_ofNat', Nat.mod_eq_of_lt h]

@[ext] theorem ext_toNat {a b : Address} (h : a.toNat = b.toNat) : a = b := by
  cases a; cases b; simp_all [toNat, UInt64.toNat_inj]

@[simp] theorem ofNat_toNat (address : Address) : ofNat address.toNat = address :=
  ext_toNat (toNat_ofNat address.toNat_lt)

/-- A checked step lands where the sum of the numbers says. -/
theorem toNat_of_add? {address moved : Address} {offset : Nat}
    (h : address.add? offset = some moved) : moved.toNat = address.toNat + offset := by
  unfold add? at h
  split at h
  · cases h; exact toNat_ofNat ‹_›
  · cases h

/-! ## Text -/

/-- The hexadecimal digits of a number, with zeros in front up to `width` digits. -/
def hexDigits (width n : Nat) : String :=
  String.ofList ((Base.hexadecimal.render n).leftpad width '0')

/-- The written form: `0x` and sixteen digits. -/
def text (address : Address) : String := "0x" ++ hexDigits 16 address.toNat

/-- The written form without zeros in front. -/
def shortText (address : Address) : String := "0x" ++ hexDigits 0 address.toNat

/-- The number that a text spells, if it fits an address: `0x` or `0X` announces hexadecimal
digits, and digits alone are decimal. -/
def spelled? : List Char → Option Nat
  | '0' :: 'x' :: digits => Base.hexadecimal.unsigned? 64 digits
  | '0' :: 'X' :: digits => Base.hexadecimal.unsigned? 64 digits
  | digits => Base.decimal.unsigned? 64 digits

/-- Reads an address; blanks around it are ignored. -/
def parse (input : String) : Except Rejection Address :=
  match spelled? (Text.trim input.toList) with
  | some n => .ok (ofNat n)
  | none => .error (.address input)

end Address

end RemoteStack
