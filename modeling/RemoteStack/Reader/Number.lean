import RemoteStack.Reader.Basic

/-!
# Reading integers

The 2.x releases keep a machine integer in its object. The 3.x releases keep the magnitude
of an integer as an array of digits, least significant first, and its sign as the sign of
the digit count. Digits have 15 bits in units of two bytes, or 30 bits in units of four.
What does not fit 64 bits is refused: more digits than 126 bits hold without being read,
and fewer after they were read.
-/

namespace RemoteStack.Reader

/-- The bits and the bytes of a digit. -/
structure DigitForm where
  bits : Nat
  bytes : Nat
  deriving DecidableEq, Repr

/-- The form of the digits in a field. -/
def DigitForm.ofType : FieldType → DigitForm
  | .items .digit15 => ⟨15, 2⟩
  | _ => ⟨30, 4⟩

/-- The magnitude of digits, least significant first, each of which is put below the bits
of the later ones. -/
def magnitude (bits : Nat) (digits : List Nat) : Nat :=
  digits.foldr (fun digit high => (high <<< bits) ||| digit) 0

/-- The number fits a signed word of 64 bits. -/
def fitsWord (value : Int) : Bool := -(1 <<< 63 : Nat) ≤ value && value < (1 <<< 63 : Nat)

/-- The value of an integer of any size. -/
def long (reader : Reader) (object : Address) : Probe Int := do
  let size ← reader.integer object .long "ob_size"
  let layout ← reader.layout .long
  let digits ← Probe.ofExcept (layout.field "ob_digit")
  let form := DigitForm.ofType digits.type
  let count := size.natAbs
  if count = 0 then return 0
  if 126 / form.bits < count then
    .failed (.invalidObject object s!"integer with {count} digits does not fit in 64 bits")
  else
    let place ← Probe.ofExcept (digits.addressIn object)
    let length ← arrayLength count form.bytes
    let bytes ← Probe.readExactly place length "long.ob_digit"
    let magnitude := magnitude form.bits ((bytes.chunks form.bytes).map LittleEndian.unsigned)
    let value : Int := if size < 0 then -magnitude else magnitude
    if fitsWord value then return value
    else .failed (.invalidObject object s!"integer {value} does not fit in 64 bits")

/-- The value of a small integer. -/
def int (reader : Reader) (object : Address) : Probe Int :=
  match reader.version.family with
  | .python2 => reader.integer object .int "ob_ival"
  | .python3 => reader.long object

end RemoteStack.Reader
