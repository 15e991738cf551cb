import RemoteStack.Proofs.Encoding.Field

/-!
# Objects from contents

An object of a kind that the built-in catalog knows, from contents for all of its fields.

* **names** — contents give a number or an address under the name of a field (`Contents.number`,
  `Contents.target`);
* **objects** — the contents can be written into any region that has room for the object
  (`MemoryImage.KeepsObject.write_object`), and a reader that `ReadsContents` finds under each
  declared name what was written (`Reader.ReadsContents.on_integer`,
  `Reader.ReadsContents.on_address`).
-/

namespace RemoteStack

/-! ## Contents by name -/

namespace Content

variable {abi : Abi} {type : FieldType}

/-- The value of an integer; zero for any other content. -/
def number : {type : FieldType} → Content abi type → Int
  | _, integer value _ => value
  | _, _ => 0

/-- The target of a pointer; null for any other content. -/
def target : {type : FieldType} → Content abi type → Address
  | _, address target _ => target
  | _, _ => .null

theorem found_of_integer {width : IntWidth} (content : Content abi type)
    (h : type = .integer width) (place : Address) :
    content.found place = .integer content.number := by
  subst h
  cases content
  rfl

theorem found_of_address (content : Content abi type) (h : type = .address) (place : Address) :
    content.found place = .address content.target := by
  subst h
  cases content
  rfl

end Content

namespace Contents

variable {abi : Abi}

/-- What is written into the field of a name, if there is one. -/
def named? (contents : Contents abi) (layout : Layout) (name : String) :
    Option ((type : FieldType) × Content abi type) :=
  match layout.field name with
  | .ok field => some ⟨field.type, contents field⟩
  | .error _ => none

/-- The integer that is written into the field of a name; zero without such a field. -/
def number (contents : Contents abi) (layout : Layout) (name : String) : Int :=
  ((contents.named? layout name).map (·.2.number)).getD 0

/-- The address that is written into the field of a name; null without such a field. -/
def target (contents : Contents abi) (layout : Layout) (name : String) : Address :=
  ((contents.named? layout name).map (·.2.target)).getD .null

variable {contents others : Contents abi} {layout : Layout} {name : String} {field : Field}

theorem named?_of_field (hfield : layout.field name = .ok field) :
    contents.named? layout name = some ⟨field.type, contents field⟩ := by
  rw [named?, hfield]

/-- Contents that agree in the fields of some names have the same under each of the names. -/
theorem named?_congr {names : List String}
    (same : ∀ field ∈ layout.fields, field.name ∈ names → others field = contents field)
    (mem : name ∈ names) : others.named? layout name = contents.named? layout name := by
  unfold named?
  split
  · rename_i field hfield
    rw [same field (Layout.mem_of_field hfield) (Layout.name_of_field hfield ▸ mem)]
  · rfl

end Contents

/-! ## Written objects -/

namespace Catalog

/-- The entries of the built-in catalog declare no field twice. -/
theorem builtin_names : ∀ entry ∈ builtin.entries, (entry.fields.map (·.name)).Nodup := by
  decide +kernel

/-- The fields that they declare take room on every machine. -/
theorem builtin_sizes (abi : Abi) : ∀ entry ∈ builtin.entries, ∀ decl ∈ entry.fields,
    0 < decl.type.size abi := by
  obtain ⟨pointerWidth, dataModel⟩ := abi
  cases pointerWidth <;> cases dataModel <;> decide +kernel

theorem sized_of_layoutFor {kind : ObjectKind} {version : Version} {layout : Layout}
    (h : builtin.layoutFor kind version = .ok layout) :
    layout.Sized ∧ (layout.fields.map (·.name)).Nodup := by
  obtain ⟨entry, position, found, rfl⟩ := layoutFor_eq_ok_iff.1 h
  have mem := (select?_eq_some_iff.1 found).mem
  refine ⟨Layout.ofDecls_sized entry.kind entry.range (builtin_sizes version.abi entry mem), ?_⟩
  rw [CatalogEntry.layout, Layout.ofDecls, Layout.map_name_place]
  exact builtin_names entry mem

end Catalog

namespace Reader

/-- The reader finds an object of the kind at the address, and reads its fields as the contents. -/
structure ReadsContents (reader : Reader) (image : MemoryImage) (kind : ObjectKind)
    (object : Address) {layout : Layout} (contents : Contents layout.abi) : Prop where
  found : reader.catalog.layoutFor kind reader.version = .ok layout
  nonNull : ¬object.isNull
  reads : ∀ field ∈ layout.fields, ∃ place,
    (layout.read object field.name).on image = .ok ((contents field).found place)

namespace ReadsContents

variable {reader : Reader} {image : MemoryImage} {kind : ObjectKind} {object : Address}
  {layout : Layout} {contents : Contents layout.abi} {name : String}

theorem exists_read (h : reader.ReadsContents image kind object contents) {type : FieldType}
    (declared : reader.Declares kind ⟨name, type⟩) :
    ∃ field place, layout.field name = .ok field ∧ field.type = type ∧
      (layout.read object name).on image = .ok ((contents field).found place) := by
  obtain ⟨field, hfield, htype, _⟩ := declared.exists_field_in h.found
  obtain ⟨place, hread⟩ := h.reads field (Layout.mem_of_field hfield)
  rw [Layout.name_of_field hfield] at hread
  exact ⟨field, place, hfield, htype, hread⟩

theorem on_integer (h : reader.ReadsContents image kind object contents) {width : IntWidth}
    (declared : reader.Declares kind ⟨name, .integer width⟩) :
    (reader.integer object kind name).on image = .ok (contents.number layout name) := by
  obtain ⟨field, place, hfield, htype, hread⟩ := h.exists_read declared
  rw [Content.found_of_integer _ htype] at hread
  rw [Contents.number, Contents.named?_of_field hfield]
  exact on_integer_of_read h.found hread

theorem on_address (h : reader.ReadsContents image kind object contents)
    (declared : reader.Declares kind ⟨name, .address⟩) :
    (reader.address object kind name).on image = .ok (contents.target layout name) := by
  obtain ⟨field, place, hfield, htype, hread⟩ := h.exists_read declared
  rw [Content.found_of_address _ htype] at hread
  rw [Contents.target, Contents.named?_of_field hfield]
  exact on_address_of_read h.found hread

end ReadsContents

end Reader

/-- An object that lies within a kept region can be written field by field, in any order, and is
then read as its contents. -/
theorem MemoryImage.KeepsObject.write_object {image : MemoryImage} {layout : Layout}
    {object : Address} {region : Region} (h : image.KeepsObject layout object region)
    (nonNull : ¬object.isNull) {reader : Reader} (known : reader.catalog = .builtin)
    {kind : ObjectKind} (found : reader.catalog.layoutFor kind reader.version = .ok layout)
    (contents : Contents layout.abi) {order : List Field} (complete : layout.Order order) :
    ∃ written after, image.writeContents contents object order = .ok written ∧
      written.KeepsObject layout object after ∧
      reader.ReadsContents written kind object contents := by
  obtain ⟨sized, distinct⟩ := Catalog.sized_of_layoutFor (known ▸ found)
  obtain ⟨written, after, hwritten, kept, stored⟩ := h.writeContents sized contents complete.mem
  refine ⟨written, after, hwritten, kept, found, nonNull, ?_⟩
  intro field mem
  have inline (inline : field.IsInline) : after.fieldBytes object field = (contents field).encode :=
    stored field mem (.inl (complete.complete field mem inline))
  obtain ⟨_, outcome, _⟩ :=
    kept.run_read sized distinct nonNull mem (contents field) inline 0
  rw [Probe.outcome_ofImage] at outcome
  exact ⟨_, outcome⟩

end RemoteStack
