import Mathlib.Data.Nat.Digits.Lemmas
import RemoteStack.Proofs.Encoding.Array
import RemoteStack.Proofs.Reader.Logged
import RemoteStack.Reader.Number

/-!
# Reading integers of any size

An integer with digits is written as the digits of its magnitude in their base, the least
significant first, behind their number, which has the sign of the integer. A reader:

* **joins the digits** — what it shifts and joins is the number in the base, if the digits are
  below the base (`magnitude_eq_ofDigits`). Whatever the digits are, nothing that it computes on
  the way has more than 127 bits (`magnitude_lt`);
* **takes what fits a word** — the integer, if it fits 64 bits, and no other (`on_long`);
* **refuses many digits unread** — more than 126 bits of them, of which only the number is read
  (`long_of_many`). An integer that fits a word has no more.

`Reader.int_of_digits` puts these together for the versions whose integers have digits.
-/

namespace RemoteStack

open LittleEndian (FitsSigned)

/-- The form of the digits of a release. -/
def Release.digitForm (release : Release) : Reader.DigitForm :=
  if release = ⟨3, 0⟩ then ⟨15, 2⟩ else ⟨30, 4⟩

/-- How many digits are read at most. -/
def Release.mostDigits (release : Release) : Nat := if release = ⟨3, 0⟩ then 8 else 4

namespace Reader

/-! ## Digits -/

/-- Digits below their base are joined to the number that they denote. -/
theorem magnitude_eq_ofDigits {bits : Nat} {digits : List Nat}
    (below : ∀ digit ∈ digits, digit < 2 ^ bits) :
    magnitude bits digits = Nat.ofDigits (2 ^ bits) digits := by
  induction digits with
  | nil => rfl
  | cons digit high ih =>
    have first := below digit List.mem_cons_self
    have rest := ih fun other mem => below other (List.mem_cons_of_mem _ mem)
    show magnitude bits high <<< bits ||| digit = _
    rw [rest, ← Nat.shiftLeft_add_eq_or_of_lt first, Nat.shiftLeft_eq, Nat.ofDigits_cons,
      Nat.add_comm, Nat.mul_comm]

/-- Digits may have bits beyond their base, but a number of them has no more beyond its own. -/
theorem magnitude_lt {bits slack : Nat} {digits : List Nat}
    (below : ∀ digit ∈ digits, digit < 2 ^ (bits + slack)) :
    magnitude bits digits < 2 ^ (bits * digits.length + slack) := by
  induction digits with
  | nil => exact Nat.two_pow_pos _
  | cons digit high ih =>
    have first := below digit List.mem_cons_self
    have rest := ih fun other mem => below other (List.mem_cons_of_mem _ mem)
    have exponent : bits * (digit :: high).length + slack = bits * high.length + slack + bits := by
      rw [List.length_cons, Nat.mul_succ]
      omega
    rw [exponent]
    apply Nat.or_lt_two_pow
    · rw [Nat.shiftLeft_eq, Nat.pow_add]
      exact Nat.mul_lt_mul_of_pos_right rest (Nat.two_pow_pos bits)
    · apply Nat.lt_of_lt_of_le first
      apply Nat.pow_le_pow_right (by decide)
      omega

/-- Nothing that is computed from the digits, the last of which is taken first, has more than 127
bits: neither what is shifted nor what a digit is joined to. -/
def Narrow (bits : Nat) (digits : List Nat) : Prop :=
  ∀ digit high, digit :: high <:+ digits →
    magnitude bits high <<< bits < 2 ^ 127 ∧ magnitude bits (digit :: high) < 2 ^ 127

theorem narrow_of_lt {bits : Nat} (slack : Nat) {digits : List Nat}
    (below : ∀ digit ∈ digits, digit < 2 ^ (bits + slack))
    (few : bits * digits.length + slack ≤ 127) : Narrow bits digits := by
  intro digit high suffix
  have shorter : bits * (high.length + 1) ≤ bits * digits.length :=
    Nat.mul_le_mul_left bits suffix.length_le
  rw [Nat.mul_succ] at shorter
  have within {n : Nat} (h : n ≤ bits * high.length + bits + slack) : 2 ^ n ≤ 2 ^ 127 :=
    Nat.pow_le_pow_right (by decide) (by omega)
  have highBelow : ∀ other ∈ high, other < 2 ^ (bits + slack) := by
    intro other mem
    exact below other (suffix.subset (List.mem_cons_of_mem _ mem))
  have upper := magnitude_lt highBelow
  constructor
  · rw [Nat.shiftLeft_eq]
    calc magnitude bits high * 2 ^ bits < 2 ^ (bits * high.length + slack) * 2 ^ bits :=
          Nat.mul_lt_mul_of_pos_right upper (Nat.two_pow_pos bits)
      _ = 2 ^ (bits * high.length + slack + bits) := (Nat.pow_add ..).symm
      _ ≤ 2 ^ 127 := within (by omega)
  · have all := magnitude_lt fun other mem => below other (suffix.subset mem)
    apply Nat.lt_of_lt_of_le all
    apply within
    rw [List.length_cons, Nat.mul_succ]

theorem fitsWord_iff {value : Int} : fitsWord value ↔ -2 ^ 63 ≤ value ∧ value < 2 ^ 63 := by
  simp [fitsWord]

end Reader

/-! ## Units -/

namespace LittleEndian

theorem span_eq_two_pow (size : Nat) : span size = 2 ^ (8 * size) := by
  induction size with
  | zero => rfl
  | succ size ih => rw [span, ih, Nat.mul_succ, Nat.pow_add, Nat.mul_comm]

theorem length_le_of_mem_chunks {size : Nat} {bytes piece : Bytes}
    (mem : piece ∈ bytes.chunks size) : piece.length ≤ size := by
  unfold Bytes.chunks at mem
  revert mem
  generalize bytes.length / size = count
  induction count generalizing bytes with
  | zero => simp [Bytes.cut]
  | succ count ih =>
    rw [Bytes.cut, Bytes.cut_eq_append]
    intro mem
    rcases List.mem_append.1 mem with first | later
    · obtain rfl : piece = bytes.take size := by simpa using first
      exact List.length_take_le size bytes
    · exact ih later

/-- A unit denotes no more than its bytes can. -/
theorem unsigned_lt_of_mem_chunks {size unit : Nat} {bytes : Bytes}
    (mem : unit ∈ (bytes.chunks size).map unsigned) : unit < 2 ^ (8 * size) := by
  obtain ⟨piece, hpiece, rfl⟩ := List.mem_map.1 mem
  have length := length_le_of_mem_chunks hpiece
  apply Nat.lt_of_lt_of_le (unsigned_lt piece)
  rw [span_eq_two_pow]
  exact Nat.pow_le_pow_right (by decide) (Nat.mul_le_mul_left 8 length)

end LittleEndian

/-! ## Integers -/

/-- The digits of the magnitude of an integer, the least significant first, without zeros behind
the last. -/
def Release.digitsOf (release : Release) (value : Int) : List Nat :=
  Nat.digits (2 ^ release.digitForm.bits) value.natAbs

/-- Their number, with the sign of the integer. -/
def Release.sizeOf (release : Release) (value : Int) : Int :=
  value.sign * (release.digitsOf value).length

/-- The image maps an integer object from its head to its last digit. -/
structure MemoryImage.MapsDigits (image : MemoryImage) (version : Version) (object : Address)
    (size : Int) (digits : List Nat) : Prop where
  /-- The size fits the field that it is written to. -/
  counted : FitsSigned version.abi.wordSize size
  shown : ∃ layout bytes, Catalog.builtin.layoutFor .long version = .ok layout ∧
    image.Shows ⟨object, bytes⟩ ∧ layout.Stores bytes "ob_size" size ∧
    layout.StoresUnits bytes "ob_digit" version.release.digitForm.bytes digits

namespace Reader

/-- A digit has no more bits than its unit. As many digits as are read at most take 127 bits at
most, with the bits that their units have beyond them, and more bits than a word. -/
theorem digitForm_bounds (release : Release) :
    let form := release.digitForm
    0 < form.bytes ∧ form.bits ≤ 8 * form.bytes ∧
      form.bits * release.mostDigits + (8 * form.bytes - form.bits) ≤ 127 ∧
      63 < form.bits * release.mostDigits ∧ 126 / form.bits = release.mostDigits := by
  unfold Release.digitForm Release.mostDigits
  by_cases early : release = ⟨3, 0⟩
  · simp [early]
  · simp [early]

/-- Whatever the units of few digits hold, nothing that is computed from them is too wide. -/
theorem narrow_of_units (release : Release) {bytes : Bytes}
    (few : bytes.length ≤ release.mostDigits * release.digitForm.bytes) :
    Narrow release.digitForm.bits
      ((bytes.chunks release.digitForm.bytes).map LittleEndian.unsigned) := by
  obtain ⟨pos, room, most, _⟩ := digitForm_bounds release
  have number : bytes.length / release.digitForm.bytes ≤ release.mostDigits :=
    Nat.div_le_of_le_mul (by rwa [Nat.mul_comm])
  have bits := Nat.mul_le_mul_left release.digitForm.bits number
  refine narrow_of_lt (8 * release.digitForm.bytes - release.digitForm.bits) ?_ ?_
  · intro digit mem
    rw [Nat.add_sub_cancel' room]
    exact LittleEndian.unsigned_lt_of_mem_chunks mem
  · rw [List.length_map, Bytes.length_chunks]
    omega

variable {version : Version} {image : MemoryImage} {object : Address}

/-- Where integers have digits, their number and the digits are declared. -/
theorem declares_digits (family : version.family = .python3) (limits : Limits) :
    let reader : Reader := { version, limits }
    reader.Declares .long (.word "ob_size") ∧
      ∃ layout field, Catalog.builtin.layoutFor .long version = .ok layout ∧
        layout.field "ob_digit" = .ok field ∧
        DigitForm.ofType field.type = version.release.digitForm := by
  intro reader
  have declared (decl : FieldDecl)
      (mem : decl ∈ [.word "ob_size", .items "ob_digit" (Catalog.digitItem version.release)]) :
      reader.Declares .long decl :=
    Catalog.builtin_declares_digits version.release version.release_mem_supported
      (family ▸ version.release_mem) decl mem
  obtain ⟨layout, field, hlayout, hfield, htype, _⟩ :=
    (declared _ (List.mem_cons_of_mem _ List.mem_cons_self)).exists_field
  refine ⟨declared _ List.mem_cons_self, layout, field, hlayout, hfield, ?_⟩
  rw [htype]
  show DigitForm.ofType (.items (Catalog.digitItem version.release)) = _
  unfold Catalog.digitItem Release.digitForm
  split <;> rfl

/-- The number of digits is read, with its sign. -/
theorem on_size (family : version.family = .python3) (limits : Limits) {size : Int}
    {digits : List Nat} (maps : image.MapsDigits version object size digits) :
    let reader : Reader := { version, limits }
    (reader.integer object .long "ob_size").on image = .ok size := by
  obtain ⟨layout, bytes, hlayout, shows, stores, _⟩ := maps.shown
  exact on_integer (declares_digits family limits).1 hlayout shows stores maps.counted

/-- What is read of an integer of few digits: what they are joined to, if it fits a word. -/
theorem on_long (family : version.family = .python3) (limits : Limits) {size : Int}
    {digits : List Nat} (maps : image.MapsDigits version object size digits)
    (below : ∀ digit ∈ digits, digit < 2 ^ version.release.digitForm.bits)
    (number : size.natAbs = digits.length) (few : digits.length ≤ version.release.mostDigits) :
    let reader : Reader := { version, limits }
    let magnitude : Int := magnitude version.release.digitForm.bits digits
    let value := if size < 0 then -magnitude else magnitude
    (reader.long object).on image = if fitsWord value then .ok value
      else .error (.invalidObject object s!"integer {value} does not fit in 64 bits") := by
  intro reader joined value
  obtain ⟨_, layout, field, hlayout, hfield, hform⟩ := declares_digits family limits
  obtain ⟨found, bytes, hfound, shows, _, units⟩ := maps.shown
  obtain rfl : found = layout := Except.ok.inj (hfound.symm.trans hlayout)
  obtain ⟨pos, room, _, _, most⟩ := digitForm_bounds version.release
  unfold long
  simp only [Probe.bind_eq, Probe.pure_eq]
  rw [Probe.on_bind_of_ok (on_size family limits maps), Probe.on_bind_of_ok (on_layout hlayout)]
  simp only [hfield, Probe.ofExcept, Probe.done_bind, hform, number, most]
  by_cases empty : digits = []
  · -- without digits nothing is read
    have zero : value = 0 := by simp [value, joined, empty, Reader.magnitude]
    rw [zero, if_pos (by simp [empty]), if_pos (by decide)]
    rfl
  · have place := shows.addressIn (units.offset_lt hfield pos empty)
    obtain ⟨counted, hread⟩ := shows.read_units units hfield pos empty (Nat.le_refl _)
    rw [List.take_length] at hread
    have enough : digits.length * version.release.digitForm.bytes ≤
        (Text.encodeUnits version.release.digitForm.bytes digits).length := by
      rw [Text.length_encodeUnits]
    have fits : ∀ digit ∈ digits, digit < LittleEndian.span version.release.digitForm.bytes := by
      intro digit mem
      rw [LittleEndian.span_eq_two_pow]
      exact Nat.lt_of_lt_of_le (below digit mem) (Nat.pow_le_pow_right (by decide) room)
    have some : digits.length ≠ 0 := by simpa using empty
    rw [if_neg some, if_neg (by omega), place]
    simp only [Probe.done_bind, arrayLength_of_lt counted]
    rw [Probe.on_bind_of_ok (Probe.on_readExactly hread enough _), Text.unsigned_chunks pos fits]
    show (if fitsWord value then Probe.done value else Probe.failed _).on image = _
    split <;> rfl

/-- Too many digits are refused, and only their number is read. -/
theorem long_of_many (family : version.family = .python3) (limits : Limits) (object : Address)
    {memory : Memory} {served : Nat} {size : Int}
    (many : version.release.mostDigits < size.natAbs) :
    let reader : Reader := { version, limits }
    ((reader.integer object .long "ob_size").run memory served).outcome = .ok size →
      ((reader.long object).run memory served).outcome = .error (.invalidObject object
          s!"integer with {size.natAbs} digits does not fit in 64 bits") ∧
        reader.AskedOnce object .long (.word "ob_size")
          ((reader.long object).run memory served).requests := by
  intro reader sized
  obtain ⟨declared, layout, field, hlayout, hfield, hform⟩ := declares_digits family limits
  obtain ⟨_, _, _, _, most⟩ := digitForm_bounds version.release
  have asked := declared.integer_logs.requests_of_ok sized
  unfold long
  simp only [Probe.bind_eq, Probe.pure_eq]
  rw [Probe.outcome_bind_of_ok sized, Probe.requests_bind_of_ok sized,
    (run_layout_bind hlayout).1, (run_layout_bind hlayout).2]
  simp only [hfield, Probe.ofExcept, Probe.done_bind, hform, most]
  rw [if_neg (by omega), if_pos many]
  refine ⟨rfl, ?_⟩
  show reader.AskedOnce object .long _ (_ ++ [])
  rw [List.append_nil]
  exact asked

/-! ## Values -/

theorem one_lt_base (release : Release) : 1 < 2 ^ release.digitForm.bits := by
  obtain ⟨_, _, _, most, _⟩ := digitForm_bounds release
  apply Nat.one_lt_two_pow
  rintro zero
  simp [zero] at most

theorem digitsOf_lt {release : Release} {value : Int} :
    ∀ digit ∈ release.digitsOf value, digit < 2 ^ release.digitForm.bits := by
  intro digit mem
  exact Nat.digits_lt_base (one_lt_base release) mem

/-- The digits of an integer are joined to it again. -/
theorem joined_digitsOf (release : Release) (value : Int) :
    let magnitude : Int := magnitude release.digitForm.bits (release.digitsOf value)
    (if release.sizeOf value < 0 then -magnitude else magnitude) = value := by
  have joined : magnitude release.digitForm.bits (release.digitsOf value) = value.natAbs := by
    rw [magnitude_eq_ofDigits digitsOf_lt]
    exact Nat.ofDigits_digits _ _
  rw [joined]
  show (if release.sizeOf value < 0 then -(value.natAbs : Int) else value.natAbs) = value
  by_cases negative : value < 0
  · have someDigits : release.digitsOf value ≠ [] :=
      Nat.digits_ne_nil_iff_ne_zero.2 (by omega)
    have number := List.length_pos_iff.2 someDigits
    have size : release.sizeOf value < 0 := by
      simp only [Release.sizeOf, Int.sign_eq_neg_one_of_neg negative]
      omega
    rw [if_pos size]
    omega
  · have size : 0 ≤ release.sizeOf value :=
      Int.mul_nonneg (Int.sign_nonneg_iff.2 (by omega)) (Int.natCast_nonneg _)
    rw [if_neg (by omega)]
    omega

theorem natAbs_sizeOf (release : Release) (value : Int) :
    (release.sizeOf value).natAbs = (release.digitsOf value).length := by
  rw [Release.sizeOf, Int.natAbs_mul, Int.natAbs_sign, Int.natAbs_natCast]
  by_cases zero : value = 0
  · simp [zero, Release.digitsOf]
  · rw [if_neg zero, Nat.one_mul]

/-- An integer that fits a word has few digits. -/
theorem length_digitsOf_le {release : Release} {value : Int}
    (fits : -2 ^ 63 ≤ value ∧ value < 2 ^ 63) :
    (release.digitsOf value).length ≤ release.mostDigits := by
  obtain ⟨_, _, _, most, _⟩ := digitForm_bounds release
  apply (Nat.digits_length_le_iff (one_lt_base release) _).2
  calc value.natAbs ≤ 2 ^ 63 := by omega
    _ < 2 ^ (release.digitForm.bits * release.mostDigits) :=
      Nat.pow_lt_pow_right (by decide) most
    _ = (2 ^ release.digitForm.bits) ^ release.mostDigits := Nat.pow_mul ..

end Reader

/-- The image maps an integer, as its digits and their number. -/
def MemoryImage.MapsLong (image : MemoryImage) (version : Version) (object : Address)
    (value : Int) : Prop :=
  image.MapsDigits version object (version.release.sizeOf value) (version.release.digitsOf value)

namespace Reader

/-- In the versions whose integers have digits, an integer that is mapped as its digits is read as
itself if it fits a word, and refused otherwise, and nothing that is computed from few digits, of
whatever bits, is too wide. More digits are refused when their number was read, on every memory. -/
theorem int_of_digits (version : Version) (family : version.family = .python3) (limits : Limits) :
    let reader : Reader := { version, limits }
    let release := version.release
    (∀ (image : MemoryImage) (object : Address) (value : Int),
      image.MapsLong version object value →
        (-2 ^ 63 ≤ value ∧ value < 2 ^ 63 → (reader.int object).on image = .ok value) ∧
        (¬(-2 ^ 63 ≤ value ∧ value < 2 ^ 63) →
          ∃ reason, (reader.int object).on image = .error (.invalidObject object reason))) ∧
      (∀ bytes : Bytes, bytes.length ≤ release.mostDigits * release.digitForm.bytes →
        Narrow release.digitForm.bits
          ((bytes.chunks release.digitForm.bytes).map LittleEndian.unsigned)) ∧
      ∀ (object : Address) (memory : Memory) (served : Nat) (size : Int),
        ((reader.integer object .long "ob_size").run memory served).outcome = .ok size →
          release.mostDigits < size.natAbs →
            let run := (reader.int object).run memory served
            (∃ reason, run.outcome = .error (.invalidObject object reason)) ∧
              reader.AskedOnce object .long (.word "ob_size") run.requests := by
  intro reader release
  have int (object : Address) : reader.int object = reader.long object := by
    unfold Reader.int
    rw [show reader.version.family = .python3 from family]
  refine ⟨?_, fun bytes few => narrow_of_units release few, ?_⟩
  · intro image object value maps
    rw [int]
    by_cases few : (release.digitsOf value).length ≤ release.mostDigits
    · have found := on_long family limits maps digitsOf_lt (natAbs_sizeOf release value) few
      simp only [joined_digitsOf, fitsWord_iff] at found
      constructor
      · intro fits
        rw [found, if_pos fits]
      · intro outside
        exact ⟨_, found.trans (if_neg outside)⟩
    · -- an integer of more digits fits no word, and is refused for their number
      have many : release.mostDigits < (release.sizeOf value).natAbs := by
        rw [natAbs_sizeOf]
        omega
      have sized := Probe.outcome_ofImage (reader.integer object .long "ob_size") image 0
      rw [on_size family limits maps] at sized
      have refused := (long_of_many family limits object many sized).1
      rw [Probe.outcome_ofImage] at refused
      constructor
      · intro fits
        exact absurd (length_digitsOf_le fits) few
      · intro _
        exact ⟨_, refused⟩
  · intro object memory served size sized many
    obtain ⟨outcome, requests⟩ := long_of_many family limits object many sized
    rw [int]
    exact ⟨⟨_, outcome⟩, requests⟩

/-- The least number of a word has three digits of 30 bits and is read; the number of the same
digits without the sign fits no word. The least size of all is refused after it was read. -/
theorem int_of_least_word :
    let version : Version := ⟨⟨3, 1⟩, .python3, ⟨.eight, .lp64⟩, by decide, by decide⟩
    let reader : Reader := { version, limits := {} }
    let object : Address := .ofNat 0x1000
    let bytes (size : Int) : Bytes :=
      List.replicate 16 0 ++ LittleEndian.encode 8 size ++ Text.encodeUnits 4 [0, 0, 8]
    let image (size : Int) := MemoryImage.ofRegions [⟨object, bytes size⟩]
    let run := (reader.int object).run (.ofImage (image (-2 ^ 63))) 0
    (image (-3)).MapsLong version object (-2 ^ 63) ∧
      (reader.int object).on (image (-3)) = .ok (-2 ^ 63) ∧
      (image 3).MapsLong version object (2 ^ 63) ∧
      (∃ reason, (reader.int object).on (image 3) = .error (.invalidObject object reason)) ∧
      (∃ reason, run.outcome = .error (.invalidObject object reason)) ∧
      reader.AskedOnce object .long (.word "ob_size") run.requests := by
  intro version reader object bytes image run
  have digits (value : Int) (magnitude : value.natAbs = 2 ^ 63) :
      version.release.digitsOf value = [0, 0, 8] := by
    simp [Release.digitsOf, Release.digitForm, version, magnitude]
  have shows (size : Int) (spread : MemoryImage.Spread [⟨object, bytes size⟩]) :
      (image size).Shows ⟨object, bytes size⟩ :=
    (spread.holds List.mem_cons_self).shows
  have least : (image (-3)).MapsLong version object (-2 ^ 63) := by
    have size : version.release.sizeOf (-2 ^ 63) = -3 := by
      rw [Release.sizeOf, digits _ (by decide)]
      rfl
    rw [MemoryImage.MapsLong, size, digits _ (by decide)]
    exact ⟨by decide, _, bytes (-3), rfl, shows _ (by decide), by decide +kernel, by decide +kernel⟩
  have tooLarge : (image 3).MapsLong version object (2 ^ 63) := by
    have size : version.release.sizeOf (2 ^ 63) = 3 := by
      rw [Release.sizeOf, digits _ (by decide)]
      rfl
    rw [MemoryImage.MapsLong, size, digits _ (by decide)]
    exact ⟨by decide, _, bytes 3, rfl, shows _ (by decide), by decide +kernel, by decide +kernel⟩
  obtain ⟨values, _, sizes⟩ := int_of_digits version rfl {}
  have sized : ((reader.integer object .long "ob_size").run (.ofImage (image (-2 ^ 63)))
      0).outcome = .ok (-2 ^ 63) := by
    rw [Probe.outcome_ofImage]
    exact Outcome.eq_ok_of_toOption (by decide +kernel)
  have refused := sizes object (.ofImage (image (-2 ^ 63))) 0 (-2 ^ 63) sized (by decide)
  exact ⟨least, (values _ object _ least).1 (by decide), tooLarge,
    (values _ object _ tooLarge).2 (by decide), refused⟩

end Reader

end RemoteStack
