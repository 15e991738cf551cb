import Mathlib.Data.List.Nodup
import Mathlib.Data.List.Pairwise
import RemoteStack.Proofs.Layout.Selection

/-!
# Where fields are placed

The fields of a layout that was made from declarations follow each other without overlap and
end within the size of the layout (`Layout.WellPlaced`, `ofDecls_wellPlaced`). So fields of
different names share no byte (`WellPlaced.apart`), and what is written into one of them is
seen in no other.
-/

namespace RemoteStack

theorem le_alignUp (n align : Nat) : n ≤ alignUp n align := by
  unfold alignUp
  split
  · exact Nat.le_refl n
  · rename_i more
    -- rounding down takes less than `align` away
    have rest : (n + align - 1) % align < align := Nat.mod_lt _ (by omega)
    have := Nat.div_add_mod' (n + align - 1) align
    omega

/-- The fields share no byte. -/
def Field.Apart (field other : Field) : Prop :=
  field.offset + field.size ≤ other.offset ∨ other.offset + other.size ≤ field.offset

instance : Std.Symm Field.Apart := ⟨fun _ _ => Or.symm⟩

namespace Layout

/-- The fields stand one after the other, within the object. -/
structure WellPlaced (layout : Layout) : Prop where
  ordered : layout.fields.Pairwise fun field later => field.offset + field.size ≤ later.offset
  inside : ∀ field ∈ layout.fields, field.offset + field.size ≤ layout.size

theorem cursor_le_of_mem_place {abi : Abi} {cursor : Nat} {decls : List FieldDecl} {field : Field}
    (mem : field ∈ place abi cursor decls) : cursor ≤ field.offset := by
  induction decls generalizing cursor with
  | nil => cases mem
  | cons decl rest ih =>
    have start := le_alignUp cursor (decl.type.align abi)
    rcases List.mem_cons.1 mem with rfl | mem
    · exact start
    · have := ih mem
      omega

theorem place_ordered (abi : Abi) (cursor : Nat) (decls : List FieldDecl) :
    (place abi cursor decls).Pairwise fun field later =>
      field.offset + field.size ≤ later.offset := by
  induction decls generalizing cursor with
  | nil => exact .nil
  | cons decl rest ih =>
    exact List.pairwise_cons.2 ⟨fun later mem => cursor_le_of_mem_place mem, ih _⟩

theorem cursor_le_extent (abi : Abi) (cursor : Nat) (decls : List FieldDecl) :
    cursor ≤ extent abi cursor decls := by
  induction decls generalizing cursor with
  | nil => exact Nat.le_refl cursor
  | cons decl rest ih =>
    have start := le_alignUp cursor (decl.type.align abi)
    have := ih (alignUp cursor (decl.type.align abi) + decl.type.size abi)
    rw [extent]
    omega

theorem end_le_extent {abi : Abi} {cursor : Nat} {decls : List FieldDecl} {field : Field}
    (mem : field ∈ place abi cursor decls) :
    field.offset + field.size ≤ extent abi cursor decls := by
  induction decls generalizing cursor with
  | nil => cases mem
  | cons decl rest ih =>
    rcases List.mem_cons.1 mem with rfl | mem
    · exact cursor_le_extent abi _ rest
    · exact ih mem

/-- A placed field has the name and the type of a declaration, and the size of the type. -/
theorem exists_decl_of_mem_place {abi : Abi} {cursor : Nat} {decls : List FieldDecl}
    {field : Field} (mem : field ∈ place abi cursor decls) :
    ∃ decl ∈ decls, field.name = decl.name ∧ field.type = decl.type ∧
      field.size = decl.type.size abi := by
  induction decls generalizing cursor with
  | nil => cases mem
  | cons decl rest ih =>
    rcases List.mem_cons.1 mem with rfl | mem
    · exact ⟨decl, List.mem_cons_self, rfl, rfl, rfl⟩
    · obtain ⟨decl, hdecl, same⟩ := ih mem
      exact ⟨decl, List.mem_cons_of_mem _ hdecl, same⟩

theorem map_name_place (abi : Abi) (cursor : Nat) (decls : List FieldDecl) :
    (place abi cursor decls).map (·.name) = decls.map (·.name) := by
  induction decls generalizing cursor with
  | nil => rfl
  | cons decl rest ih => exact congrArg (decl.name :: ·) (ih _)

theorem ofDecls_wellPlaced (kind : ObjectKind) (range : ReleaseRange) (abi : Abi)
    (decls : List FieldDecl) : (ofDecls kind range abi decls).WellPlaced where
  ordered := place_ordered abi 0 decls
  inside _ mem := Nat.le_trans (end_le_extent mem) (le_alignUp _ _)

/-! ## Fields by name -/

theorem field_eq_ok {layout : Layout} {name : String} {field : Field}
    (h : layout.field name = .ok field) : layout.fields.find? (·.name == name) = some field := by
  unfold Layout.field at h
  split at h
  · cases h
    assumption
  · cases h

theorem mem_of_field {layout : Layout} {name : String} {field : Field}
    (h : layout.field name = .ok field) : field ∈ layout.fields :=
  List.mem_of_find?_eq_some (field_eq_ok h)

theorem name_of_field {layout : Layout} {name : String} {field : Field}
    (h : layout.field name = .ok field) : field.name = name := by
  have named := List.find?_some (field_eq_ok h)
  exact eq_of_beq named

/-- Where no two fields have one name, a field is found by its own. -/
theorem field_of_mem {layout : Layout} {field : Field}
    (distinct : (layout.fields.map (·.name)).Nodup) (mem : field ∈ layout.fields) :
    layout.field field.name = .ok field := by
  unfold Layout.field
  cases found : layout.fields.find? (·.name == field.name) with
  | none => simpa using List.find?_eq_none.1 found field mem
  | some other =>
    have named : other.name = field.name := by simpa using List.find?_some found
    have same := List.inj_on_of_nodup_map distinct (List.mem_of_find?_eq_some found) mem named
    exact congrArg Except.ok same

namespace WellPlaced

variable {layout : Layout} {name otherName : String} {field other : Field}

theorem apart_of_mem (h : layout.WellPlaced) (hfield : field ∈ layout.fields)
    (hother : other ∈ layout.fields) (ne : field ≠ other) : field.Apart other := by
  have apart : layout.fields.Pairwise Field.Apart := h.ordered.imp .inl
  exact apart.forall hfield hother ne

theorem end_le (h : layout.WellPlaced) (hfield : layout.field name = .ok field) :
    field.offset + field.size ≤ layout.size :=
  h.inside field (mem_of_field hfield)

theorem apart (h : layout.WellPlaced) (hfield : layout.field name = .ok field)
    (hother : layout.field otherName = .ok other) (ne : name ≠ otherName) :
    field.Apart other := by
  have distinct : field ≠ other := by
    rintro rfl
    exact ne ((name_of_field hfield).symm.trans (name_of_field hother))
  exact h.apart_of_mem (mem_of_field hfield) (mem_of_field hother) distinct

/-- What is not the last field ends before it. -/
theorem end_le_last (h : layout.WellPlaced) (hfield : layout.field name = .ok field)
    (hlast : layout.fields.getLast? = some other) (ne : field ≠ other) :
    field.offset + field.size ≤ other.offset := by
  obtain ⟨front, hfront⟩ := List.getLast?_eq_some_iff.1 hlast
  have ordered := h.ordered
  have mem := mem_of_field hfield
  rw [hfront] at ordered mem
  rcases List.mem_append.1 mem with mem | mem
  · exact (List.pairwise_append.1 ordered).2.2 field mem other (List.mem_singleton.2 rfl)
  · exact absurd (List.mem_singleton.1 mem) ne

end WellPlaced

end Layout

theorem Catalog.wellPlaced_of_layoutFor {catalog : Catalog} {kind : ObjectKind}
    {version : Version} {layout : Layout} (h : catalog.layoutFor kind version = .ok layout) :
    layout.WellPlaced := by
  obtain ⟨entry, _, _, rfl⟩ := layoutFor_eq_ok_iff.1 h
  exact Layout.ofDecls_wellPlaced _ _ _ _

end RemoteStack
