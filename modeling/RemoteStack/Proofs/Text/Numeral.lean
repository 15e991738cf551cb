import Mathlib.Data.List.Forall2
import Mathlib.Data.Nat.Digits.Defs
import Mathlib.Tactic.Ring
import RemoteStack.Text.Numeral

/-!
# Numerals and what they denote

Which numerals denote a number, said without a way to read or to write them: the digits of a base
stand in two rows, small and capital, and a numeral is a non-empty list of digits that denotes the
value of its digits in the base (`Base.Denotes`). An unsigned word may have a plus sign in front
(`Base.Written`).

* **reading** — `value?` and `unsigned?` read what denotes a number, and nothing else
  (`Base.value?_eq_some_iff`, `Base.unsigned?_eq_some_iff`);
* **writing** — `render` writes a numeral of its number (`Base.denotes_render`), which it stays with
  zeros in front (`Base.Denotes.zeros`).
-/

namespace RemoteStack.Base

variable {base : Base} {c : Char} {digit n : Nat} {digits text : List Char}

/-! ## Digits -/

/-- The digits in ascending order. -/
def smallDigits : List Char :=
  ['0', '1', '2', '3', '4', '5', '6', '7', '8', '9', 'a', 'b', 'c', 'd', 'e', 'f']

/-- The digits in ascending order, in capital letters. -/
def capitalDigits : List Char :=
  ['0', '1', '2', '3', '4', '5', '6', '7', '8', '9', 'A', 'B', 'C', 'D', 'E', 'F']

/-- The character is the digit of this value. -/
def IsDigit (base : Base) (c : Char) (digit : Nat) : Prop :=
  digit < base.radix ∧ (smallDigits[digit]? = some c ∨ capitalDigits[digit]? = some c)

theorem radix_pos (base : Base) : 0 < base.radix :=
  Nat.lt_of_lt_of_le Nat.zero_lt_two base.two_le_radix

theorem radix_le (base : Base) : base.radix ≤ 16 := by
  cases base <;> decide

theorem digit?_small (base : Base) : ∀ digit < base.radix,
    smallDigits[digit]?.bind base.digit? = some digit := by
  cases base <;> decide

theorem digit?_capital (base : Base) : ∀ digit < base.radix,
    capitalDigits[digit]?.bind base.digit? = some digit := by
  cases base <;> decide

theorem lt_of_digit? (found : base.digit? c = some digit) : digit < base.radix ∧ c.toNat < 128 := by
  have le_toNat {high : Char} (h : c ≤ high) : c.toNat ≤ high.toNat := h
  unfold digit? at found
  simp only [Option.ite_none_right_eq_some, Option.some.injEq] at found
  obtain ⟨lt, rfl⟩ := found
  refine ⟨lt, ?_⟩
  split at lt
  · exact Nat.lt_of_le_of_lt (le_toNat (And.right ‹_›)) (by decide)
  split at lt
  · exact Nat.lt_of_le_of_lt (le_toNat (And.right ‹_›)) (by decide)
  split at lt
  · exact Nat.lt_of_le_of_lt (le_toNat (And.right ‹_›)) (by decide)
  · exact absurd lt (Nat.lt_irrefl _)

theorem digit?_stands (base : Base) : ∀ n < 128, ∀ digit ∈ base.digit? (Char.ofNat n),
    smallDigits[digit]? = some (Char.ofNat n) ∨ capitalDigits[digit]? = some (Char.ofNat n) := by
  cases base <;> decide +kernel

theorem digit?_eq_some_iff : base.digit? c = some digit ↔ base.IsDigit c digit := by
  constructor
  · intro found
    obtain ⟨lt, ascii⟩ := lt_of_digit? found
    have stands := base.digit?_stands c.toNat ascii digit
    rw [Char.ofNat_toNat] at stands
    exact ⟨lt, stands found⟩
  · rintro ⟨lt, small | capital⟩
    · have found := base.digit?_small digit lt
      rwa [small] at found
    · have found := base.digit?_capital digit lt
      rwa [capital] at found

/-! ## Numerals -/

/-- The digits, of which there is at least one, denote the number. -/
def Denotes (base : Base) (digits : List Char) (n : Nat) : Prop :=
  digits ≠ [] ∧ ∃ values, List.Forall₂ base.IsDigit digits values ∧
    Nat.ofDigits base.radix values.reverse = n

/-- A numeral with a plus sign in front, or without one. -/
inductive Written (base : Base) : List Char → Nat → Prop
  | plain {digits : List Char} {n : Nat} : base.Denotes digits n → Written base digits n
  | plus {digits : List Char} {n : Nat} : base.Denotes digits n → Written base ('+' :: digits) n

theorem Denotes.isDigit_of_mem (h : base.Denotes digits n) (mem : c ∈ digits) :
    ∃ digit, base.IsDigit c digit := by
  obtain ⟨-, values, areDigits, -⟩ := h
  induction areDigits with
  | nil => cases mem
  | cons isDigit _ ih =>
    rcases List.mem_cons.1 mem with rfl | mem
    · exact ⟨_, isDigit⟩
    · exact ih mem

/-! ## Reading -/

theorem valueFrom?_eq_some_iff {high : Nat} : base.valueFrom? high digits = some n ↔
    ∃ values, List.Forall₂ base.IsDigit digits values ∧
      high * base.radix ^ values.length + Nat.ofDigits base.radix values.reverse = n := by
  induction digits generalizing high with
  | nil => simp [valueFrom?]
  | cons c rest ih =>
    have step : base.valueFrom? high (c :: rest) =
        (base.digit? c).bind fun digit => base.valueFrom? (high * base.radix + digit) rest := by
      rw [valueFrom?]
      cases base.digit? c <;> rfl
    -- the first digit moves over to the digits that were read before
    have moved (digit : Nat) (values : List Nat) :
        high * base.radix ^ (digit :: values).length +
            Nat.ofDigits base.radix (digit :: values).reverse =
          (high * base.radix + digit) * base.radix ^ values.length +
            Nat.ofDigits base.radix values.reverse := by
      rw [Nat.ofDigits_reverse_cons, List.length_cons]
      ring
    simp only [step, Option.bind_eq_some_iff, digit?_eq_some_iff, ih]
    constructor
    · rintro ⟨digit, isDigit, values, areDigits, rfl⟩
      exact ⟨digit :: values, .cons isDigit areDigits, moved digit values⟩
    · rintro ⟨_, areDigits, rfl⟩
      cases areDigits with
      | @cons _ digit _ values isDigit areDigits =>
        exact ⟨digit, isDigit, values, areDigits, (moved digit values).symm⟩

theorem value?_eq_some_iff : base.value? digits = some n ↔ base.Denotes digits n := by
  unfold value? Denotes
  cases digits with
  | nil => simp
  | cons c rest => simp [valueFrom?_eq_some_iff]

theorem Denotes.plus_notMem (h : base.Denotes digits n) : '+' ∉ digits := by
  intro mem
  obtain ⟨digit, isDigit⟩ := h.isDigit_of_mem mem
  have found := digit?_eq_some_iff.2 isDigit
  cases base <;> cases found

theorem unsigned?_eq_some_iff {bits : Nat} :
    base.unsigned? bits text = some n ↔ base.Written text n ∧ n < 2 ^ bits := by
  have written : base.value? (dropPlus text) = some n ↔ base.Written text n := by
    rw [value?_eq_some_iff]
    constructor
    · unfold dropPlus
      split
      · exact .plus
      · exact .plain
    · intro h
      cases h with
      | plus denotes => exact denotes
      | plain denotes =>
        unfold dropPlus
        split
        · exact absurd List.mem_cons_self denotes.plus_notMem
        · exact denotes
  simp [unsigned?, Option.filter_eq_some_iff, written, Nat.one_shiftLeft]

/-! ## Writing -/

theorem isDigit_digitChar (lt : digit < base.radix) : base.IsDigit (digitChar digit) digit := by
  have stands : ∀ digit < 16, smallDigits[digit]? = some (digitChar digit) := by decide
  exact ⟨lt, .inl (stands digit (Nat.lt_of_lt_of_le lt base.radix_le))⟩

theorem denotes_render (base : Base) (n : Nat) : base.Denotes (base.render n) n := by
  fun_induction render base n with
  | case1 n lt =>
    exact ⟨nofun, [n], .cons (isDigit_digitChar lt) .nil, Nat.ofDigits_singleton⟩
  | case2 n nlt ih =>
    obtain ⟨_, values, areDigits, value⟩ := ih
    have isDigit : base.IsDigit (digitChar (n % base.radix)) (n % base.radix) :=
      isDigit_digitChar (Nat.mod_lt n base.radix_pos)
    refine ⟨by simp, values ++ [n % base.radix], ?_, ?_⟩
    · exact List.rel_append areDigits (.cons isDigit .nil)
    · rw [List.reverse_append, List.reverse_singleton, List.singleton_append, Nat.ofDigits_cons,
        value]
      exact Nat.mod_add_div n base.radix

theorem Denotes.zeros (h : base.Denotes digits n) (count : Nat) :
    base.Denotes (List.replicate count '0' ++ digits) n := by
  have zero : base.IsDigit '0' 0 := ⟨base.radix_pos, .inl rfl⟩
  induction count with
  | zero => exact h
  | succ count ih =>
    obtain ⟨_, values, areDigits, value⟩ := ih
    refine ⟨nofun, 0 :: values, .cons zero areDigits, ?_⟩
    rw [Nat.ofDigits_reverse_zero_cons, value]

end RemoteStack.Base
