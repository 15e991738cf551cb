import Mathlib.Data.List.DropRight
import RemoteStack.Address
import RemoteStack.Proofs.Text.Numeral

/-!
# Written addresses

The texts that are read as addresses, said as a grammar: an address is spelled by hexadecimal
digits behind `0x` or `0X`, or by decimal digits, with a plus sign or without one right before the
digits (`Address.Spells`), and blanks may stand around it (`Address.SpelledIn`).

* **blanks** — trimming takes the blanks at both ends away and nothing else
  (`Text.exists_blanks`, `Text.trim_of_blanks`);
* **reading** — what is read is what the text spells, if that fits an address
  (`Address.parse_eq_ok_iff`);
* **writing** — each written form spells its address (`Address.spells_hexDigits`,
  `Address.spells_decimal`).

`Address.parse_spelled` says which texts are read, and that every written form is read back.
-/

namespace RemoteStack

namespace Base

theorem IsDigit.not_isBlank {base : Base} {c : Char} {digit : Nat} (h : base.IsDigit c digit) :
    ¬Text.isBlank c := by
  have solid : (smallDigits ++ capitalDigits).any Text.isBlank = false := by decide
  have mem : c ∈ smallDigits ++ capitalDigits := by
    rcases h.2 with small | capital
    · exact List.mem_append_left _ (List.mem_of_getElem? small)
    · exact List.mem_append_right _ (List.mem_of_getElem? capital)
  exact List.any_eq_false.1 solid c mem

theorem Written.not_isBlank {base : Base} {text : List Char} {n : Nat} (h : base.Written text n) :
    ∀ c ∈ text, ¬Text.isBlank c := by
  have solid {digits : List Char} (denotes : base.Denotes digits n) :
      ∀ c ∈ digits, ¬Text.isBlank c := by
    intro c mem
    obtain ⟨digit, isDigit⟩ := denotes.isDigit_of_mem mem
    exact isDigit.not_isBlank
  cases h with
  | plain denotes => exact solid denotes
  | plus denotes => exact List.forall_mem_cons.2 ⟨by decide, solid denotes⟩

end Base

/-! ## Blanks -/

namespace Text

/-- Every character is blank. -/
def Blanks (text : List Char) : Prop := ∀ c ∈ text, isBlank c

instance (text : List Char) : Decidable (Blanks text) :=
  decidable_of_iff (text.all isBlank) List.all_eq_true

theorem exists_blanks (text : List Char) :
    ∃ before after, text = before ++ trim text ++ after ∧ Blanks before ∧ Blanks after := by
  refine ⟨text.takeWhile isBlank, (text.dropWhile isBlank).rtakeWhile isBlank, ?_, ?_, ?_⟩
  · have inner : trim text ++ (text.dropWhile isBlank).rtakeWhile isBlank =
        text.dropWhile isBlank := List.rdropWhile_append_rtakeWhile ..
    rw [List.append_assoc, inner, List.takeWhile_append_dropWhile]
  · intro c mem
    exact List.mem_takeWhile_imp mem
  · intro c mem
    exact List.mem_rtakeWhile_imp mem

/-- Blanks around a text without blanks are taken away. -/
theorem trim_of_blanks {before text after : List Char} (hbefore : Blanks before)
    (hafter : Blanks after) (solid : ∀ c ∈ text, ¬isBlank c) :
    trim (before ++ text ++ after) = text := by
  have front : (before ++ text ++ after).dropWhile isBlank = (text ++ after).dropWhile isBlank := by
    rw [List.append_assoc, List.dropWhile_append_of_pos hbefore]
  unfold trim
  rw [front]
  cases text with
  | nil =>
    rw [List.nil_append, List.dropWhile_eq_nil_iff.2 hafter]
    rfl
  | cons c rest =>
    have hc : ¬isBlank c := solid c List.mem_cons_self
    have behind : ∀ c ∈ after.reverse, isBlank c := by
      intro c mem
      exact hafter c (List.mem_reverse.1 mem)
    have last : (c :: rest).reverse.dropWhile isBlank = (c :: rest).reverse := by
      rw [List.dropWhile_eq_self_iff]
      intro pos
      exact solid _ (List.mem_reverse.1 (List.getElem_mem pos))
    rw [List.cons_append, List.dropWhile_cons_of_neg hc, ← List.cons_append, List.reverse_append,
      List.dropWhile_append_of_pos behind, last, List.reverse_reverse]

end Text

namespace Address

open Text

variable {text : List Char} {n : Nat}

/-! ## The grammar -/

/-- The text spells the number: in hexadecimal digits behind `0x` or `0X`, or in decimal digits. -/
inductive Spells : List Char → Nat → Prop
  | hexadecimal {marker : Char} {text : List Char} {n : Nat} : marker = 'x' ∨ marker = 'X' →
      Base.hexadecimal.Written text n → Spells ('0' :: marker :: text) n
  | decimal {text : List Char} {n : Nat} : Base.decimal.Written text n → Spells text n

/-- The text spells the number, between blanks. -/
def SpelledIn (text : List Char) (n : Nat) : Prop :=
  ∃ before spelled after, text = before ++ spelled ++ after ∧ Blanks before ∧ Blanks after ∧
    Spells spelled n

theorem Spells.not_isBlank (h : Spells text n) : ∀ c ∈ text, ¬isBlank c := by
  cases h with
  | hexadecimal marker written =>
    refine List.forall_mem_cons.2 ⟨by decide, List.forall_mem_cons.2 ⟨?_, written.not_isBlank⟩⟩
    rcases marker with rfl | rfl
    · decide
    · decide
  | decimal written => exact written.not_isBlank

theorem spelledIn_iff : SpelledIn text n ↔ Spells (trim text) n := by
  constructor
  · rintro ⟨before, spelled, after, rfl, hbefore, hafter, spells⟩
    rwa [trim_of_blanks hbefore hafter spells.not_isBlank]
  · intro spells
    obtain ⟨before, after, split, hbefore, hafter⟩ := exists_blanks text
    exact ⟨before, trim text, after, split, hbefore, hafter, spells⟩

/-! ## Reading -/

theorem spells_marked_iff {marker : Char} (h : marker = 'x' ∨ marker = 'X') :
    Spells ('0' :: marker :: text) n ↔ Base.hexadecimal.Written text n := by
  constructor
  · intro spells
    cases spells with
    | hexadecimal _ written => exact written
    | decimal written =>
      cases written with
      | plain denotes =>
        obtain ⟨digit, isDigit⟩ :=
          denotes.isDigit_of_mem (List.mem_cons_of_mem '0' List.mem_cons_self)
        have found := Base.digit?_eq_some_iff.2 isDigit
        rcases h with rfl | rfl <;> cases found
  · exact .hexadecimal h

theorem spells_unmarked_iff (small : ∀ digits, text ≠ '0' :: 'x' :: digits)
    (capital : ∀ digits, text ≠ '0' :: 'X' :: digits) :
    Spells text n ↔ Base.decimal.Written text n := by
  constructor
  · intro spells
    cases spells with
    | hexadecimal marker =>
      rcases marker with rfl | rfl
      · exact absurd rfl (small _)
      · exact absurd rfl (capital _)
    | decimal written => exact written
  · exact .decimal

theorem spelled?_eq_some_iff : spelled? text = some n ↔ Spells text n ∧ n < 2 ^ 64 := by
  unfold spelled?
  split
  · rw [Base.unsigned?_eq_some_iff, spells_marked_iff (.inl rfl)]
  · rw [Base.unsigned?_eq_some_iff, spells_marked_iff (.inr rfl)]
  · rw [Base.unsigned?_eq_some_iff, spells_unmarked_iff ‹_› ‹_›]

theorem parse_eq_ok_iff {input : String} {address : Address} : parse input = .ok address ↔
    ∃ n, SpelledIn input.toList n ∧ n < 2 ^ 64 ∧ address = ofNat n := by
  have judged : parse input = .ok address ↔
      ∃ n, spelled? (trim input.toList) = some n ∧ address = ofNat n := by
    unfold parse
    cases spelled? (trim input.toList) with
    | some n => simp [eq_comm]
    | none => simp
  simp only [judged, spelled?_eq_some_iff, spelledIn_iff, and_assoc]

/-- A text that is not read is refused, with the text. -/
theorem parse_eq_error_iff {input : String} : parse input = .error (.address input) ↔
    ∀ n, SpelledIn input.toList n → 2 ^ 64 ≤ n := by
  have judged : parse input = .error (.address input) ↔ spelled? (trim input.toList) = none := by
    unfold parse
    cases spelled? (trim input.toList) <;> simp
  simp only [judged, Option.eq_none_iff_forall_ne_some, ne_eq, spelled?_eq_some_iff,
    spelledIn_iff, not_and, Nat.not_lt]

/-! ## Writing -/

/-- Hexadecimal digits spell their number, with zeros in front or without. -/
theorem spells_hexDigits (width n : Nat) : Spells ("0x" ++ hexDigits width n).toList n := by
  have denotes := (Base.hexadecimal.denotes_render n).zeros
    (width - (Base.hexadecimal.render n).length)
  have split : ("0x" ++ hexDigits width n).toList =
      '0' :: 'x' :: (Base.hexadecimal.render n).leftpad width '0' := by
    simp [hexDigits]
  rw [split]
  exact .hexadecimal (.inl rfl) (.plain denotes)

theorem spells_decimal (n : Nat) : Spells (String.ofList (Base.decimal.render n)).toList n := by
  rw [String.toList_ofList]
  exact .decimal (.plain (Base.decimal.denotes_render n))

/-! ## The law -/

/-- A text is read as an address just if it spells a number below 2^64 between blanks, and then as
the address of that number; any other text is refused. So the written form of an address, the one
without zeros in front and the decimal one are read back, also with blanks around them. -/
theorem parse_spelled :
    (∀ input address, parse input = .ok address ↔
      ∃ n, SpelledIn input.toList n ∧ n < 2 ^ 64 ∧ address = ofNat n) ∧
    (∀ input, parse input = .error (.address input) ↔
      ∀ n, SpelledIn input.toList n → 2 ^ 64 ≤ n) ∧
    ∀ (address : Address) (before after : String), Blanks before.toList → Blanks after.toList →
      ∀ written ∈ [address.text, address.shortText,
        String.ofList (Base.decimal.render address.toNat)],
        parse (before ++ written ++ after) = .ok address := by
  refine ⟨fun _ _ => parse_eq_ok_iff, fun _ => parse_eq_error_iff, ?_⟩
  intro address before after hbefore hafter
  have read {written : String} (spells : Spells written.toList address.toNat) :
      parse (before ++ written ++ after) = .ok address := by
    refine parse_eq_ok_iff.2 ⟨address.toNat, ?_, address.toNat_lt, (ofNat_toNat address).symm⟩
    refine ⟨before.toList, written.toList, after.toList, ?_, hbefore, hafter, spells⟩
    rw [String.toList_append, String.toList_append]
  simp only [List.forall_mem_cons]
  exact ⟨read (spells_hexDigits 16 _), read (spells_hexDigits 0 _), read (spells_decimal _), nofun⟩

theorem parse_spelled_between_blanks :
    let address : Address := ⟨0xff⟩
    Blanks " \t".toList ∧ Blanks "\u3000".toList ∧
      address.shortText ∈ [address.text, address.shortText,
        String.ofList (Base.decimal.render address.toNat)] ∧
      parse (" \t" ++ address.shortText ++ "\u3000") = .ok address := by
  intro address
  have before : Blanks " \t".toList := by decide
  have after : Blanks "\u3000".toList := by decide
  have written : address.shortText ∈ [address.text, address.shortText,
      String.ofList (Base.decimal.render address.toNat)] :=
    List.mem_cons_of_mem _ List.mem_cons_self
  exact ⟨before, after, written, parse_spelled.2.2 address _ _ before after _ written⟩

example : parse "0X+00fF" = .ok ⟨255⟩ := by decide +kernel
example : (parse "+0xff").toOption = none := by decide +kernel

end Address

end RemoteStack
