import RemoteStack.Proofs.Encoding.Text

/-!
# Texts that are cut short

The units of a text, cut anywhere, are decoded to a beginning of the text. Only where the cut
falls within a character, one replacement character stands behind it (`Shortens`):

* **transducers** — what was emitted is never taken back, so only the units of the character that
  the cut falls into count; a transducer for which these are one replacement character
  (`Transducer.Breaks`) cuts texts (`cut_flatMap`);
* **UTF-8** and **UTF-16** — `Utf8.shortens_take`, `Utf16.shortens_take`;
* **UCS-4** — a character is a single unit, and a rest of a unit is dropped, so nothing but the
  beginning of the text is left (`Ucs4.decode_take_prefix`).
-/

namespace RemoteStack.Text

/-- A beginning of the text, with at most one replacement character behind it. -/
def Shortens (cut text : String) : Prop :=
  ∃ front, front <+: text.toList ∧
    (cut.toList = front ∨ cut.toList = front ++ [replacement])

theorem shortens_of_prefix {cut text : String} (h : cut.toList <+: text.toList) :
    Shortens cut text :=
  ⟨_, h, .inl rfl⟩

namespace Transducer

variable {Unit State : Type}

/-- The first units of a character, but not all of them, are one replacement character. -/
def Breaks (transducer : Transducer Unit State) (units : List Unit) : Prop :=
  ∀ count, 0 < count → count < units.length →
    transducer.decodeFrom transducer.start (units.take count) = [replacement]

variable {transducer : Transducer Unit State} {encode : Char → List Unit}

theorem cut_flatMap (takes : ∀ char, transducer.Takes (encode char) char)
    (breaks : ∀ char, transducer.Breaks (encode char))
    (ends : transducer.finish transducer.start = []) (chars : List Char) (count : Nat) :
    ∃ front, front <+: chars ∧
      let cut := transducer.decodeFrom transducer.start ((chars.flatMap encode).take count)
      (cut = front ∨ cut = front ++ [replacement]) := by
  induction chars generalizing count with
  | nil =>
    refine ⟨[], List.prefix_refl _, .inl ?_⟩
    rw [List.flatMap_nil, List.take_nil]
    exact ends
  | cons char rest ih =>
    rw [List.flatMap_cons]
    by_cases within : count < (encode char).length
    · -- the cut falls into the first character, or before it
      rw [List.take_append_of_le_length (Nat.le_of_lt within)]
      refine ⟨[], List.nil_prefix, ?_⟩
      by_cases none : count = 0
      · left
        rw [none, List.take_zero]
        exact ends
      · right
        exact breaks char count (by omega) within
    · obtain ⟨front, before, cut⟩ := ih (count - (encode char).length)
      rw [List.take_append, List.take_of_length_le (by omega), takes char]
      exact ⟨char :: front, (List.prefix_cons_inj char).2 before,
        cut.imp (congrArg (char :: ·)) (congrArg (char :: ·))⟩

theorem shortens_take (takes : ∀ char, transducer.Takes (encode char) char)
    (breaks : ∀ char, transducer.Breaks (encode char))
    (ends : transducer.finish transducer.start = []) (text : String) (count : Nat) :
    Shortens (transducer.decode ((text.toList.flatMap encode).take count)) text := by
  obtain ⟨front, before, cut⟩ := cut_flatMap takes breaks ends text.toList count
  refine ⟨front, before, ?_⟩
  rw [decode, String.toList_ofList]
  exact cut

end Transducer

/-! ## UTF-8 -/

namespace Utf8

/-- A character that was begun, and not ended, is one replacement character. -/
theorem breaks_char (char : Char) : transducer.Breaks (String.utf8EncodeChar char) := by
  intro count some within
  have valid := char_cases char
  show transducer.decodeFrom none _ = _
  unfold String.utf8EncodeChar at within ⊢
  simp only [show char.val.toNat = char.toNat from rfl] at within ⊢
  generalize char.toNat = n at valid within ⊢
  -- up to three bytes of two to four
  split at within <;> rename_i one
  · rw [List.length_singleton] at within
    omega
  rw [if_neg one]
  split at within <;> rename_i two
  · obtain rfl : count = 1 := by simp at within; omega
    rw [if_pos two, List.take_succ_cons, decodeFrom_lead (lead_two (by omega) (by omega))]
    rfl
  rw [if_neg two]
  split at within <;> rename_i three
  · obtain ⟨least, greatest, hlead, hleast, hgreatest⟩ :=
      lead_three (n / 4096 % 16) (n / 64 % 64) (by omega) (by omega) (by omega) (by omega)
    rw [if_pos three]
    obtain rfl | rfl : count = 1 ∨ count = 2 := by simp at within; omega
    · rw [List.take_succ_cons, decodeFrom_lead hlead]
      rfl
    · rw [List.take_succ_cons, decodeFrom_lead hlead, List.take_succ_cons, List.nil_append,
        decodeFrom_more (by omega) hleast hgreatest (by decide)]
      rfl
  · obtain ⟨least, greatest, hlead, hleast, hgreatest⟩ :=
      lead_four (n / 262144 % 8) (n / 4096 % 64) (by omega) (by omega) (by omega) (by omega)
    rw [if_neg three]
    obtain rfl | rfl | rfl : count = 1 ∨ count = 2 ∨ count = 3 := by simp at within; omega
    · rw [List.take_succ_cons, decodeFrom_lead hlead]
      rfl
    · rw [List.take_succ_cons, decodeFrom_lead hlead, List.take_succ_cons, List.nil_append,
        decodeFrom_more (by omega) hleast hgreatest (by decide)]
      rfl
    · rw [List.take_succ_cons, decodeFrom_lead hlead, List.take_succ_cons, List.nil_append,
        decodeFrom_more (by omega) hleast hgreatest (by decide), List.take_succ_cons,
        decodeFrom_more (by omega) (by omega) (by omega) (by decide)]
      rfl

theorem shortens_take (text : String) (count : Nat) :
    Shortens (decode ((encode text).take count)) text :=
  Transducer.shortens_take takes_char breaks_char rfl text count

end Utf8

/-! ## Units of several bytes -/

/-- Bytes that are cut keep the units that are whole. -/
theorem unsigned_chunks_take {size : Nat} (pos : 0 < size) {units : List Nat}
    (fits : ∀ unit ∈ units, unit < LittleEndian.span size) (count : Nat) :
    (Bytes.chunks size ((encodeUnits size units).take count)).map LittleEndian.unsigned =
      units.take (count / size) := by
  induction units generalizing count with
  | nil => rw [encodeUnits, List.flatMap_nil, List.take_nil, Bytes.chunks_of_length_lt pos,
      List.map_nil, List.take_nil]
  | cons unit rest ih =>
    have first := LittleEndian.length_encode size unit
    rw [encodeUnits, List.flatMap_cons]
    by_cases within : count < size
    · rw [Nat.div_eq_of_lt within, List.take_zero, Bytes.chunks_of_length_lt, List.map_nil]
      exact Nat.lt_of_le_of_lt (List.length_take_le _ _) within
    · have more : count / size = (count - size) / size + 1 := by
        rw [← Nat.add_div_right _ pos, Nat.sub_add_cancel (Nat.le_of_not_lt within)]
      rw [List.take_append, List.take_of_length_le (by omega), first,
        Bytes.chunks_append _ pos first, List.map_cons,
        LittleEndian.unsigned_encode_of_lt (fits unit List.mem_cons_self), more,
        List.take_succ_cons]
      exact congrArg _ (ih (fun other mem => fits other (List.mem_cons_of_mem _ mem)) _)

/-! ## UTF-16 -/

namespace Utf16

/-- The first unit of a pair is one replacement character. -/
theorem breaks_char (char : Char) : transducer.Breaks (unitsOf char) := by
  intro count some within
  have valid := char_cases char
  show transducer.decodeFrom none _ = _
  unfold unitsOf at within ⊢
  generalize char.toNat = n at valid within ⊢
  split at within <;> rename_i alone
  · rw [List.length_singleton] at within
    omega
  · have begun : lead (0xd800 + (n - 0x10000) / 0x400) =
        ([], Option.some (0xd800 + (n - 0x10000) / 0x400)) := by
      simp only [lead, isHigh, Bool.and_eq_true, decide_eq_true_eq]
      rw [if_pos (by omega)]
    obtain rfl : count = 1 := by simp at within; omega
    rw [if_neg alone, List.take_succ_cons, decodeFrom_lead begun]
    rfl

theorem shortens_take (text : String) (count : Nat) :
    Shortens (decode ((encodeUnits 2 (units text)).take count)) text := by
  rw [decode, unsigned_chunks_take (by decide) (units_lt text)]
  exact Transducer.shortens_take takes_char breaks_char rfl text _

end Utf16

/-! ## UCS-4 -/

namespace Ucs4

theorem decode_take (text : String) (count : Nat) :
    decode ((encodeUnits 4 (units text)).take count) =
      String.ofList (text.toList.take (count / 4)) := by
  have chars : (Bytes.chunks 4 ((encodeUnits 4 (units text)).take count)).map
      (fun unit => charOf (LittleEndian.unsigned unit)) = text.toList.take (count / 4) := by
    rw [← Function.comp_def charOf, ← List.map_map,
      unsigned_chunks_take (by decide) (units_lt text), units, ← List.map_take, List.map_map]
    exact (List.map_congr_left fun char _ => charOf_toNat char).trans (List.map_id _)
  rw [decode, chars]

theorem decode_take_prefix (text : String) (count : Nat) :
    (decode ((encodeUnits 4 (units text)).take count)).toList <+: text.toList := by
  rw [decode_take, String.toList_ofList]
  exact List.take_prefix _ _

end Ucs4

end RemoteStack.Text
