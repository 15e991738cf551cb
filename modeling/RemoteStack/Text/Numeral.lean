/-!
# Numerals

Natural numbers written in base ten or sixteen. `Base.render` writes the digits of a
number, most significant first, with lower-case letters; `Base.value?` reads digits of
either case back. On top of them stand the two number grammars that the command line and
the environment use:

* `Base.unsigned?` reads an unsigned word: an optional plus sign, then at least one
  digit, denoting a value that fits the word;
* `signedWord?` reads a 64-bit signed word in base ten, with an optional sign.
-/

namespace RemoteStack

/-- The bases that addresses, limits and process numbers are written in. -/
inductive Base where
  | decimal
  | hexadecimal
  deriving DecidableEq, Repr

namespace Base

def radix : Base → Nat
  | .decimal => 10
  | .hexadecimal => 16

theorem two_le_radix (base : Base) : 2 ≤ base.radix := by
  cases base <;> decide

/-! ## Writing -/

/-- The character of a digit below sixteen. -/
def digitChar (digit : Nat) : Char :=
  if digit < 10 then Char.ofNat ('0'.toNat + digit) else Char.ofNat ('a'.toNat + (digit - 10))

/-- The digits of a number, most significant first; zero is written with one digit. -/
def render (base : Base) (n : Nat) : List Char :=
  if n < base.radix then [digitChar n]
  else base.render (n / base.radix) ++ [digitChar (n % base.radix)]
termination_by n
decreasing_by
  have := base.two_le_radix
  exact Nat.div_lt_self (by omega) (by omega)

/-! ## Reading -/

/-- The value of a character as a digit of the base, in either case. -/
def digit? (base : Base) (c : Char) : Option Nat :=
  let value :=
    if '0' ≤ c ∧ c ≤ '9' then c.toNat - '0'.toNat
    else if 'a' ≤ c ∧ c ≤ 'f' then c.toNat - 'a'.toNat + 10
    else if 'A' ≤ c ∧ c ≤ 'F' then c.toNat - 'A'.toNat + 10
    else base.radix
  if value < base.radix then some value else none

/-- The number that a list of digits denotes after the digits of `high`. -/
def valueFrom? (base : Base) (high : Nat) : List Char → Option Nat
  | [] => some high
  | c :: rest =>
    match base.digit? c with
    | some digit => base.valueFrom? (high * base.radix + digit) rest
    | none => none

/-- The number that a non-empty list of digits denotes. -/
def value? (base : Base) (digits : List Char) : Option Nat :=
  if digits.isEmpty then none else base.valueFrom? 0 digits

def dropPlus : List Char → List Char
  | '+' :: digits => digits
  | digits => digits

/-- Reads an unsigned word of `bits` bits: an optional plus sign and at least one digit. -/
def unsigned? (base : Base) (bits : Nat) (text : List Char) : Option Nat :=
  (base.value? (dropPlus text)).filter (· < 1 <<< bits)

end Base

/-- Reads a signed 64-bit word in base ten: an optional sign and at least one digit. -/
def signedWord? : List Char → Option Int
  | '-' :: digits => (Base.decimal.value? digits).bind fun n =>
      if n ≤ 1 <<< 63 then some (-(n : Int)) else none
  | text => (Base.decimal.unsigned? 63 text).map Int.ofNat

end RemoteStack
