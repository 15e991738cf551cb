import RemoteStack.Proofs.Encoding.LittleEndian
import RemoteStack.Text.Ucs4
import RemoteStack.Text.Utf16
import RemoteStack.Text.Utf8

/-!
# Writing texts

The encoders that belong to the decoders of texts, and that each decoder takes back what its
encoder wrote:

* **transducers** — units that are one character are emitted as it whatever follows
  (`Transducer.Takes`), and so a text is decoded character by character (`decode_flatMap`);
* **UTF-8** — `Utf8.decode_encode`;
* **UTF-16** — `Utf16.decode_encode`, where a character beyond 0xffff is a pair of units;
* **UCS-4** — `Ucs4.decode_encode`.
-/

namespace RemoteStack.Text

/-- No character has the number of a surrogate, or one beyond the last. -/
theorem char_cases (char : Char) :
    char.toNat < 0xd800 ∨ 0xdfff < char.toNat ∧ char.toNat < 0x110000 := char.valid

namespace Transducer

variable {Unit State : Type}

/-- The units are the character, whatever comes after them. -/
def Takes (transducer : Transducer Unit State) (units : List Unit) (char : Char) : Prop :=
  ∀ rest, transducer.decodeFrom transducer.start (units ++ rest) =
    char :: transducer.decodeFrom transducer.start rest

theorem decode_flatMap {transducer : Transducer Unit State} {encode : Char → List Unit}
    (takes : ∀ char, transducer.Takes (encode char) char)
    (ends : transducer.finish transducer.start = []) (text : String) :
    transducer.decode (text.toList.flatMap encode) = text := by
  have chars (list : List Char) :
      transducer.decodeFrom transducer.start (list.flatMap encode) = list := by
    induction list with
    | nil => exact ends
    | cons char rest ih => rw [List.flatMap_cons, takes char, ih]
  rw [decode, chars, String.ofList_toList]

end Transducer

/-! ## UTF-8 -/

namespace Utf8

def encode (text : String) : Bytes := text.toList.flatMap String.utf8EncodeChar

/-- A byte that goes on with a character adds six bits. -/
theorem continued_of_between (bits missing : Nat) {least greatest low : Nat} (hlow : low < 64)
    (hleast : least ≤ low + 0x80) (hgreatest : low + 0x80 ≤ greatest) :
    continued ⟨bits, missing, least, greatest⟩ (UInt8.ofNat (low + 0x80)) =
      if missing = 1 then ([Char.ofNat (bits * 64 + low)], none)
      else ([], some ⟨bits * 64 + low, missing - 1, 0x80, 0xbf⟩) := by
  have byte : (UInt8.ofNat (low + 0x80)).toNat = low + 0x80 := by
    rw [UInt8.toNat_ofNat']
    omega
  simp only [continued, byte, Nat.add_sub_cancel]
  rw [if_pos ⟨hleast, hgreatest⟩]

theorem lead_one {n : Nat} (h : n < 0x80) : lead (UInt8.ofNat n) = ([Char.ofNat n], none) := by
  have byte : (UInt8.ofNat n).toNat = n := by
    rw [UInt8.toNat_ofNat']
    omega
  simp only [lead, byte]
  rw [if_pos h]

theorem lead_two {high : Nat} (least : 2 ≤ high) (most : high < 32) :
    lead (UInt8.ofNat (high + 0xc0)) = ([], some ⟨high, 1, 0x80, 0xbf⟩) := by
  have byte : (UInt8.ofNat (high + 0xc0)).toNat = high + 0xc0 := by
    rw [UInt8.toNat_ofNat']
    omega
  simp only [lead, byte, Nat.add_sub_cancel]
  rw [if_neg (by omega), if_neg (by omega), if_pos (by omega)]

/-- The bounds on the byte after the first of three let every character through. -/
theorem lead_three (high middle : Nat) (most : high < 16) (hmiddle : middle < 64)
    (long : high = 0 → 32 ≤ middle) (noSurrogate : high = 13 → middle < 32) :
    ∃ least greatest, lead (UInt8.ofNat (high + 0xe0)) = ([], some ⟨high, 2, least, greatest⟩) ∧
      least ≤ middle + 0x80 ∧ middle + 0x80 ≤ greatest := by
  have byte : (UInt8.ofNat (high + 0xe0)).toNat = high + 0xe0 := by
    rw [UInt8.toNat_ofNat']
    omega
  simp only [lead, byte, Nat.add_sub_cancel]
  rw [if_neg (by omega), if_neg (by omega), if_neg (by omega)]
  -- the second byte is bounded below after 0xe0 and above after 0xed
  by_cases first : high = 0
  · subst first
    exact ⟨0xa0, 0xbf, rfl, by have := long rfl; omega, by omega⟩
  rw [if_neg (by omega)]
  by_cases surrogates : high = 13
  · subst surrogates
    exact ⟨0x80, 0x9f, rfl, by omega, by have := noSurrogate rfl; omega⟩
  rw [if_neg (by omega), if_pos (by omega)]
  exact ⟨0x80, 0xbf, rfl, by omega, by omega⟩

/-- The bounds on the byte after the first of four let every character through. -/
theorem lead_four (high middle : Nat) (most : high < 5) (hmiddle : middle < 64)
    (long : high = 0 → 16 ≤ middle) (last : high = 4 → middle < 16) :
    ∃ least greatest, lead (UInt8.ofNat (high + 0xf0)) = ([], some ⟨high, 3, least, greatest⟩) ∧
      least ≤ middle + 0x80 ∧ middle + 0x80 ≤ greatest := by
  have byte : (UInt8.ofNat (high + 0xf0)).toNat = high + 0xf0 := by
    rw [UInt8.toNat_ofNat']
    omega
  simp only [lead, byte, Nat.add_sub_cancel]
  rw [if_neg (by omega), if_neg (by omega), if_neg (by omega), if_neg (by omega),
    if_neg (by omega), if_neg (by omega)]
  -- the second byte is bounded below after 0xf0 and above after 0xf4
  by_cases first : high = 0
  · subst first
    exact ⟨0x90, 0xbf, rfl, by have := long rfl; omega, by omega⟩
  rw [if_neg (by omega)]
  by_cases most : high = 4
  · subst most
    exact ⟨0x80, 0x8f, rfl, by omega, by have := last rfl; omega⟩
  rw [if_pos (by omega)]
  exact ⟨0x80, 0xbf, rfl, by omega, by omega⟩

theorem decodeFrom_lead {byte : UInt8} {emitted : List Char} {next : Option Pending}
    (h : lead byte = (emitted, next)) (rest : Bytes) :
    transducer.decodeFrom none (byte :: rest) = emitted ++ transducer.decodeFrom next rest := by
  rw [Transducer.decodeFrom_cons]
  show (lead byte).1 ++ transducer.decodeFrom (lead byte).2 rest = _
  rw [h]

theorem decodeFrom_more {bits missing least greatest low : Nat} (hlow : low < 64)
    (hleast : least ≤ low + 0x80) (hgreatest : low + 0x80 ≤ greatest) (hmissing : missing ≠ 1)
    (rest : Bytes) :
    transducer.decodeFrom (some ⟨bits, missing, least, greatest⟩)
        (UInt8.ofNat (low + 0x80) :: rest) =
      transducer.decodeFrom (some ⟨bits * 64 + low, missing - 1, 0x80, 0xbf⟩) rest := by
  have step := continued_of_between bits missing hlow hleast hgreatest
  rw [if_neg hmissing] at step
  rw [Transducer.decodeFrom_cons]
  show (continued _ _).1 ++ transducer.decodeFrom (continued _ _).2 rest = _
  rw [step]
  rfl

theorem decodeFrom_last {bits low : Nat} (hlow : low < 64) {least greatest : Nat}
    (hleast : least ≤ low + 0x80) (hgreatest : low + 0x80 ≤ greatest) (rest : Bytes) :
    transducer.decodeFrom (some ⟨bits, 1, least, greatest⟩) (UInt8.ofNat (low + 0x80) :: rest) =
      Char.ofNat (bits * 64 + low) :: transducer.decodeFrom none rest := by
  have step := continued_of_between bits 1 hlow hleast hgreatest
  rw [if_pos rfl] at step
  rw [Transducer.decodeFrom_cons]
  show (continued _ _).1 ++ transducer.decodeFrom (continued _ _).2 rest = _
  rw [step]
  rfl

/-- The bytes of a character are the character. -/
theorem takes_char (char : Char) : transducer.Takes (String.utf8EncodeChar char) char := by
  intro rest
  have valid := char_cases char
  have whole := Char.ofNat_toNat char
  show transducer.decodeFrom none _ = char :: transducer.decodeFrom none rest
  unfold String.utf8EncodeChar
  simp only [show char.val.toNat = char.toNat from rfl]
  generalize char.toNat = n at valid whole ⊢
  -- one to four bytes; in each case the bits of the bytes make the number again
  split
  · rw [List.cons_append, decodeFrom_lead (lead_one (by omega)), whole]
    rfl
  split
  · have number : n / 64 % 32 * 64 + n % 64 = n := by omega
    rw [List.cons_append, decodeFrom_lead (lead_two (by omega) (by omega)), List.cons_append,
      List.nil_append, List.nil_append, decodeFrom_last (by omega) (by omega) (by omega), number,
      whole]
  split
  · have number : (n / 4096 % 16 * 64 + n / 64 % 64) * 64 + n % 64 = n := by omega
    obtain ⟨least, greatest, hlead, hleast, hgreatest⟩ :=
      lead_three (n / 4096 % 16) (n / 64 % 64) (by omega) (by omega) (by omega) (by omega)
    rw [List.cons_append, decodeFrom_lead hlead, List.cons_append, List.cons_append,
      List.nil_append, List.nil_append, decodeFrom_more (by omega) hleast hgreatest (by decide),
      decodeFrom_last (by omega) (by omega) (by omega), number, whole]
  · have number : ((n / 262144 % 8 * 64 + n / 4096 % 64) * 64 + n / 64 % 64) * 64 + n % 64 = n := by
      omega
    obtain ⟨least, greatest, hlead, hleast, hgreatest⟩ :=
      lead_four (n / 262144 % 8) (n / 4096 % 64) (by omega) (by omega) (by omega) (by omega)
    rw [List.cons_append, decodeFrom_lead hlead, List.cons_append, List.cons_append,
      List.cons_append, List.nil_append, List.nil_append,
      decodeFrom_more (by omega) hleast hgreatest (by decide),
      decodeFrom_more (by omega) (by omega) (by omega) (by decide),
      decodeFrom_last (by omega) (by omega) (by omega), number, whole]

theorem decode_encode (text : String) : decode (encode text) = text :=
  Transducer.decode_flatMap takes_char rfl text

end Utf8

/-! ## Units of several bytes -/

/-- The bytes of units of `size` bytes. -/
def encodeUnits (size : Nat) (units : List Nat) : Bytes :=
  units.flatMap fun (unit : Nat) => LittleEndian.encode size unit

@[simp] theorem length_encodeUnits (size : Nat) (units : List Nat) :
    (encodeUnits size units).length = units.length * size := by
  induction units with
  | nil => exact (Nat.zero_mul size).symm
  | cons unit rest ih =>
    rw [encodeUnits, List.flatMap_cons, List.length_append, LittleEndian.length_encode,
      List.length_cons, Nat.add_mul, Nat.one_mul, Nat.add_comm]
    exact congrArg (· + size) ih

theorem unsigned_chunks {size : Nat} (pos : 0 < size) {units : List Nat}
    (fits : ∀ unit ∈ units, unit < LittleEndian.span size) :
    ((encodeUnits size units).chunks size).map LittleEndian.unsigned = units := by
  induction units with
  | nil => rw [encodeUnits, List.flatMap_nil, Bytes.chunks_of_length_lt pos, List.map_nil]
  | cons unit rest ih =>
    have bytes : encodeUnits size (unit :: rest) =
        LittleEndian.encode size unit ++ encodeUnits size rest := List.flatMap_cons
    rw [bytes, Bytes.chunks_append _ pos (LittleEndian.length_encode size unit), List.map_cons,
      LittleEndian.unsigned_encode_of_lt (fits unit List.mem_cons_self),
      ih fun unit mem => fits unit (List.mem_cons_of_mem _ mem)]

/-! ## UTF-16 -/

namespace Utf16

def unitsOf (char : Char) : List Nat :=
  if char.toNat < 0x10000 then [char.toNat]
  else [0xd800 + (char.toNat - 0x10000) / 0x400, 0xdc00 + (char.toNat - 0x10000) % 0x400]

def units (text : String) : List Nat := text.toList.flatMap unitsOf

theorem units_lt (text : String) : ∀ unit ∈ units text, unit < LittleEndian.span 2 := by
  intro unit mem
  show unit < 0x10000
  obtain ⟨char, _, mem⟩ := List.mem_flatMap.1 mem
  have valid := char_cases char
  unfold unitsOf at mem
  split at mem
  · obtain rfl := List.mem_singleton.1 mem
    omega
  · rcases List.mem_cons.1 mem with rfl | mem
    · omega
    · rw [List.mem_singleton.1 mem]
      omega

theorem decodeFrom_lead {unit : Nat} {emitted : List Char} {next : Option Nat}
    (h : lead unit = (emitted, next)) (rest : List Nat) :
    transducer.decodeFrom none (unit :: rest) = emitted ++ transducer.decodeFrom next rest := by
  rw [Transducer.decodeFrom_cons]
  show (lead unit).1 ++ transducer.decodeFrom (lead unit).2 rest = _
  rw [h]

/-- The two units of a character beyond 0xffff. -/
theorem decodeFrom_pair {high low : Nat} (hhigh : high < 0x400) (hlow : low < 0x400)
    (rest : List Nat) :
    transducer.decodeFrom none ((0xd800 + high) :: (0xdc00 + low) :: rest) =
      Char.ofNat (0x10000 + high * 0x400 + low) :: transducer.decodeFrom none rest := by
  have first : lead (0xd800 + high) = ([], some (0xd800 + high)) := by
    simp only [lead, isHigh, Bool.and_eq_true, decide_eq_true_eq]
    rw [if_pos (by omega)]
  have second : continued (0xd800 + high) (0xdc00 + low) =
      ([Char.ofNat (0x10000 + high * 0x400 + low)], none) := by
    simp only [continued, isLow, Bool.and_eq_true, decide_eq_true_eq, Nat.add_sub_cancel_left]
    rw [if_pos (by omega)]
  rw [decodeFrom_lead first, List.nil_append, Transducer.decodeFrom_cons]
  show (continued _ _).1 ++ transducer.decodeFrom (continued _ _).2 rest = _
  rw [second]
  rfl

/-- The units of a character are the character. -/
theorem takes_char (char : Char) : transducer.Takes (unitsOf char) char := by
  intro rest
  have valid := char_cases char
  have whole := Char.ofNat_toNat char
  show transducer.decodeFrom none _ = char :: transducer.decodeFrom none rest
  unfold unitsOf
  generalize char.toNat = n at valid whole ⊢
  split
  · have alone : lead n = ([char], none) := by
      simp only [lead, isHigh, isLow, Bool.and_eq_true, decide_eq_true_eq]
      rw [if_neg (by omega), if_neg (by omega), whole]
    rw [List.cons_append, decodeFrom_lead alone]
    rfl
  · have number : 0x10000 + (n - 0x10000) / 0x400 * 0x400 + (n - 0x10000) % 0x400 = n := by omega
    rw [List.cons_append, List.cons_append, List.nil_append,
      decodeFrom_pair (by omega) (by omega), number, whole]

theorem decode_encode (text : String) : decode (encodeUnits 2 (units text)) = text := by
  rw [decode, unsigned_chunks (by decide) (units_lt text)]
  exact Transducer.decode_flatMap takes_char rfl text

end Utf16

/-! ## UCS-4 -/

namespace Ucs4

/-- The units of a text: one for each character. -/
def units (text : String) : List Nat := text.toList.map Char.toNat

theorem units_lt (text : String) : ∀ unit ∈ units text, unit < LittleEndian.span 4 := by
  intro unit mem
  obtain ⟨char, _, rfl⟩ := List.mem_map.1 mem
  have valid := char_cases char
  show char.toNat < 0x100000000
  omega

theorem charOf_toNat (char : Char) : charOf char.toNat = char := by
  have valid : char.toNat.isValidChar := char.valid
  rw [charOf, if_pos valid, Char.ofNat_toNat]

theorem decode_encode (text : String) : decode (encodeUnits 4 (units text)) = text := by
  have chars : ((encodeUnits 4 (units text)).chunks 4).map
      (fun unit => charOf (LittleEndian.unsigned unit)) = text.toList := by
    rw [← Function.comp_def charOf, ← List.map_map,
      unsigned_chunks (by decide) (units_lt text), units, List.map_map]
    refine (List.map_congr_left fun char _ => charOf_toNat char).trans (List.map_id _)
  rw [decode, chars, String.ofList_toList]

end Ucs4

end RemoteStack.Text
