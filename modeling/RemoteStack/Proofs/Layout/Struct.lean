import Mathlib.Algebra.Order.Floor.Div
import Mathlib.Order.Bounds.Basic
import RemoteStack.Proofs.Layout.Placement

/-!
# Layouts as C structures

Which layout a C compiler gives a structure with some declarations, said without the way to find
it: each field stands at the least multiple of its alignment behind the field before it, and the
size is the least multiple of the largest alignment that takes in the last field
(`Layout.IsStruct`).

* **rounding up** — `alignUp` finds the least multiple (`isLeast_alignUp`);
* **fields** — so `place` finds the places from any start on, and no others are right
  (`Layout.packed_iff`);
* **size** — the alignments are folded to the largest (`Layout.isGreatest_maxAlign`), and one that
  is a power of two divides every larger one, and so the size (`Layout.IsStruct.align_dvd_size`);
* **front** — what comes later has no say in where the first fields stand (`Layout.take_place`).

`Layout.ofDecls_isStruct` is the law of layouts. The numbers in it have no bound; but as no field
ends behind the object, those of an object whose size fits a machine word fit one as well.
-/

namespace RemoteStack

theorem isLeast_alignUp (n : Nat) {align : Nat} (pos : 1 ≤ align) :
    IsLeast {place | n ≤ place ∧ align ∣ place} (alignUp n align) := by
  refine ⟨⟨le_alignUp n align, ?_⟩, ?_⟩
  · unfold alignUp
    split
    · obtain rfl : align = 1 := by omega
      exact Nat.one_dvd n
    · exact Nat.dvd_mul_left align _
  · rintro place ⟨le, count, rfl⟩
    unfold alignUp
    split
    · exact le
    · rw [← Nat.ceilDiv_eq_add_pred_div, Nat.mul_comm]
      exact Nat.mul_le_mul_left align ((ceilDiv_le_iff_le_mul pos).2 le)

/-- The declaration that the field was placed for. -/
def Field.decl (field : Field) : FieldDecl := ⟨field.name, field.type⟩

namespace Layout

variable {abi : Abi} {start : Nat} {field : Field} {rest fields : List Field}
  {decls : List FieldDecl}

/-! ## Fields -/

/-- Where the last of the fields ends; without any, where they start. -/
def endOf (start : Nat) (fields : List Field) : Nat :=
  match fields.getLast? with
  | some last => last.offset + last.size
  | none => start

theorem endOf_cons (start : Nat) (field : Field) (rest : List Field) :
    endOf start (field :: rest) = endOf (field.offset + field.size) rest := by
  unfold endOf
  rw [List.getLast?_cons]
  cases rest.getLast? <;> rfl

/-- Each field stands at the least multiple of its alignment behind the field before it. -/
structure Packed (abi : Abi) (start : Nat) (fields : List Field) : Prop where
  sized : ∀ field ∈ fields, field.size = field.type.size abi
  offset : ∀ position field, fields[position]? = some field →
    IsLeast {place | endOf start (fields.take position) ≤ place ∧ field.type.align abi ∣ place}
      field.offset

theorem packed_cons_iff : Packed abi start (field :: rest) ↔
    field.size = field.type.size abi ∧
      IsLeast {place | start ≤ place ∧ field.type.align abi ∣ place} field.offset ∧
      Packed abi (field.offset + field.size) rest := by
  constructor
  · intro h
    refine ⟨h.sized field List.mem_cons_self, h.offset 0 field rfl, ?_, ?_⟩
    · intro later mem
      exact h.sized later (List.mem_cons_of_mem field mem)
    · intro position later hlater
      have least := h.offset (position + 1) later hlater
      rwa [List.take_succ_cons, endOf_cons] at least
  · rintro ⟨size, first, behind⟩
    constructor
    · intro later mem
      rcases List.mem_cons.1 mem with rfl | mem
      · exact size
      · exact behind.sized later mem
    · intro position later hlater
      cases position with
      | zero =>
        obtain rfl := Option.some.inj hlater
        exact first
      | succ position =>
        rw [List.take_succ_cons, endOf_cons]
        exact behind.offset position later hlater

/-- The fields of the declarations are packed just if they stand where they are placed. -/
theorem packed_iff (aligned : ∀ decl ∈ decls, 1 ≤ decl.type.align abi) :
    fields.map Field.decl = decls ∧ Packed abi start fields ↔ fields = place abi start decls := by
  induction decls generalizing start fields with
  | nil =>
    constructor
    · rintro ⟨declared, _⟩
      exact List.map_eq_nil_iff.1 declared
    · rintro rfl
      exact ⟨rfl, nofun, nofun⟩
  | cons decl decls ih =>
    have first := isLeast_alignUp start (aligned decl List.mem_cons_self)
    have ih {start : Nat} {fields : List Field} := @ih start fields
      fun later mem => aligned later (List.mem_cons_of_mem decl mem)
    constructor
    · rintro ⟨declared, packed⟩
      cases fields with
      | nil => cases declared
      | cons field rest =>
        obtain ⟨rfl, others⟩ := List.cons.inj declared
        obtain ⟨size, least, behind⟩ := packed_cons_iff.1 packed
        have offset : field.offset = alignUp start (field.type.align abi) := least.unique first
        rw [offset, size] at behind
        have placed : field = ⟨field.name, alignUp start (field.type.align abi),
            field.type.size abi, field.type⟩ := by
          rw [← size, ← offset]
        exact congrArg₂ List.cons placed (ih.1 ⟨others, behind⟩)
    · rintro rfl
      obtain ⟨declared, behind⟩ := ih.2 rfl
      exact ⟨congrArg (decl :: ·) declared, packed_cons_iff.2 ⟨rfl, first, behind⟩⟩

theorem endOf_place (abi : Abi) (start : Nat) (decls : List FieldDecl) :
    endOf start (place abi start decls) = extent abi start decls := by
  induction decls generalizing start with
  | nil => rfl
  | cons decl rest ih =>
    rw [place, endOf_cons, extent]
    exact ih _

/-- The first fields are those of the first declarations. -/
theorem take_place (abi : Abi) (start count : Nat) (decls : List FieldDecl) :
    (place abi start decls).take count = place abi start (decls.take count) := by
  induction decls generalizing start count with
  | nil => rw [List.take_nil, place, List.take_nil]
  | cons decl rest ih =>
    cases count with
    | zero => rfl
    | succ count =>
      rw [place, List.take_succ_cons, ih, List.take_succ_cons]
      rfl

/-! ## Size -/

/-- The alignments of the declarations, and that of a structure without any. -/
def alignments (abi : Abi) (decls : List FieldDecl) : List Nat :=
  1 :: decls.map (·.type.align abi)

theorem isGreatest_maxAlign (abi : Abi) (decls : List FieldDecl) :
    IsGreatest {align | align ∈ alignments abi decls} (maxAlign abi decls) :=
  List.max?_eq_some_iff.1 List.max?_cons'

/-- Of powers of two, the least divides the others. -/
theorem dvd_of_isPowerOfTwo {n m : Nat} (hn : n.isPowerOfTwo) (hm : m.isPowerOfTwo) (le : n ≤ m) :
    n ∣ m := by
  obtain ⟨exponent, rfl⟩ := hn
  obtain ⟨other, rfl⟩ := hm
  exact Nat.pow_dvd_pow 2 ((Nat.pow_le_pow_iff_right Nat.one_lt_two).1 le)

/-! ## The law -/

/-- The layout is that of a C structure with the declarations. -/
structure IsStruct (layout : Layout) (decls : List FieldDecl) : Prop where
  declared : layout.fields.map Field.decl = decls
  packed : Packed layout.abi 0 layout.fields
  size : ∃ largest, IsGreatest {align | align ∈ alignments layout.abi decls} largest ∧
    IsLeast {size | endOf 0 layout.fields ≤ size ∧ largest ∣ size} layout.size

namespace IsStruct

variable {layout other : Layout}

/-- The declarations and the machine leave no choice. -/
theorem unique (h : layout.IsStruct decls) (h' : other.IsStruct decls)
    (aligned : ∀ decl ∈ decls, 1 ≤ decl.type.align layout.abi) (same : other.abi = layout.abi) :
    other.fields = layout.fields ∧ other.size = layout.size := by
  have fields := (packed_iff aligned).1 ⟨h.declared, h.packed⟩
  have packed := h'.packed
  obtain ⟨largest, greatest, least⟩ := h.size
  obtain ⟨largest', greatest', least'⟩ := h'.size
  rw [same] at packed greatest'
  have fields' := (packed_iff aligned).1 ⟨h'.declared, packed⟩
  obtain rfl := greatest.unique greatest'
  rw [fields'] at least'
  rw [fields] at least
  exact ⟨fields'.trans fields.symm, least'.unique least⟩

/-- If all alignments are powers of two, the size is a multiple of each. -/
theorem align_dvd_size (h : layout.IsStruct decls)
    (powers : ∀ decl ∈ decls, (decl.type.align layout.abi).isPowerOfTwo) {decl : FieldDecl}
    (mem : decl ∈ decls) : decl.type.align layout.abi ∣ layout.size := by
  have powers : ∀ align ∈ alignments layout.abi decls, align.isPowerOfTwo := by
    refine List.forall_mem_cons.2 ⟨Nat.isPowerOfTwo_one, ?_⟩
    exact List.forall_mem_map.2 powers
  have mem : decl.type.align layout.abi ∈ alignments layout.abi decls :=
    List.mem_cons_of_mem 1 (List.mem_map_of_mem mem)
  obtain ⟨largest, greatest, ⟨_, size⟩, _⟩ := h.size
  have align : decl.type.align layout.abi ∣ largest :=
    dvd_of_isPowerOfTwo (powers _ mem) (powers _ greatest.1) (greatest.2 mem)
  exact Nat.dvd_trans align size

end IsStruct

theorem isStruct_ofDecls (kind : ObjectKind) (range : ReleaseRange)
    (aligned : ∀ decl ∈ decls, 1 ≤ decl.type.align abi) :
    (ofDecls kind range abi decls).IsStruct decls := by
  obtain ⟨declared, packed⟩ := (packed_iff aligned).2 (rfl : place abi 0 decls = _)
  have greatest := isGreatest_maxAlign abi decls
  refine ⟨declared, packed, maxAlign abi decls, greatest, ?_⟩
  have pos : 1 ≤ maxAlign abi decls := greatest.2 List.mem_cons_self
  show IsLeast {size | endOf 0 (place abi 0 decls) ≤ size ∧ _} _
  rw [endOf_place]
  exact isLeast_alignUp _ pos

/-- The layout of declarations is that of the C structure with these fields, on every machine, and
nothing else is. So the fields stand one after the other within the object and share no byte, and
if all alignments are powers of two then the size is a multiple of each. Where the first fields
stand depends on the first declarations alone. -/
theorem ofDecls_isStruct (kind : ObjectKind) (range : ReleaseRange) (abi : Abi)
    (decls : List FieldDecl) (aligned : ∀ decl ∈ decls, 1 ≤ decl.type.align abi) :
    let layout := ofDecls kind range abi decls
    layout.IsStruct decls ∧
      (∀ other : Layout, other.abi = abi → other.IsStruct decls →
        other.fields = layout.fields ∧ other.size = layout.size) ∧
      layout.WellPlaced ∧ layout.fields.Pairwise Field.Apart ∧
      ((∀ decl ∈ decls, (decl.type.align abi).isPowerOfTwo) →
        ∀ decl ∈ decls, decl.type.align abi ∣ layout.size) ∧
      ∀ count otherKind otherRange others, others.take count = decls.take count →
        (ofDecls otherKind otherRange abi others).fields.take count =
          layout.fields.take count := by
  intro layout
  have struct : layout.IsStruct decls := isStruct_ofDecls kind range aligned
  have placed : layout.WellPlaced := ofDecls_wellPlaced kind range abi decls
  refine ⟨struct, ?_, placed, placed.ordered.imp .inl, ?_, ?_⟩
  · intro other same struct'
    exact struct.unique struct' aligned same
  · intro powers decl mem
    exact struct.align_dvd_size powers mem
  · intro count _ _ others same
    show (place abi 0 others).take count = (place abi 0 decls).take count
    rw [take_place, take_place, same]

/-- A structure of five bytes that are aligned to eight, between a byte and digits. -/
theorem ofDecls_isStruct_mixed :
    let abi : Abi := ⟨.eight, .lp64⟩
    let decls : List FieldDecl :=
      [⟨"flag", .integer .byte⟩, ⟨"body", .struct 5 8⟩, ⟨"digits", .items .digit15⟩]
    let layout := ofDecls .object (.single ⟨2, 7⟩) abi decls
    (∀ decl ∈ decls, 1 ≤ decl.type.align abi) ∧
      (∀ decl ∈ decls, (decl.type.align abi).isPowerOfTwo) ∧
      layout.IsStruct decls ∧ layout.fields.map (·.offset) = [0, 8, 14] ∧ layout.size = 16 ∧
      ∀ decl ∈ decls, decl.type.align abi ∣ layout.size := by
  intro abi decls layout
  have aligned : ∀ decl ∈ decls, 1 ≤ decl.type.align abi := by decide
  have powers : ∀ decl ∈ decls, (decl.type.align abi).isPowerOfTwo := by
    simp only [decls, List.forall_mem_cons]
    exact ⟨⟨0, rfl⟩, ⟨3, rfl⟩, ⟨1, rfl⟩, nofun⟩
  obtain ⟨struct, _, _, _, multiple, _⟩ :=
    ofDecls_isStruct .object (.single ⟨2, 7⟩) abi decls aligned
  exact ⟨aligned, powers, struct, by decide, by decide, multiple powers⟩

end Layout

end RemoteStack
