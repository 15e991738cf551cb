import RemoteStack.Layout.Builtin
import RemoteStack.Proofs.Layout.Selection

/-!
# Declared fields

A catalog `Covers` a version if the entries that it chooses for the version declare every
field that a capture of stacks asks for, with the type that it is asked for as
(`captureFields`). The built-in catalog covers every version (`builtin_covers`): a single
field that one of its entries lacked would be a failure of the whole capture.

What an entry declares is found again in each of its layouts (`exists_field`), so nothing
beyond this module looks into the lists of declarations.
-/

namespace RemoteStack

/-! ## Declarations and placed fields -/

namespace Layout

/-- The first field of a name stands where the first declaration of the name was. -/
theorem find?_place (abi : Abi) (cursor : Nat) (decls : List FieldDecl) (name : String) :
    ∃ offset, (place abi cursor decls).find? (·.name == name) =
      (decls.find? (·.name == name)).map fun decl =>
        ⟨decl.name, offset, decl.type.size abi, decl.type⟩ := by
  induction decls generalizing cursor with
  | nil => exact ⟨0, rfl⟩
  | cons decl rest ih =>
    by_cases h : decl.name == name
    · exact ⟨alignUp cursor (decl.type.align abi), by simp [place, h]⟩
    · obtain ⟨offset, hrest⟩ :=
        ih (alignUp cursor (decl.type.align abi) + decl.type.size abi)
      exact ⟨offset, by simp [place, h, hrest]⟩

end Layout

namespace Catalog

/-- The declaration of a name in the entry that the catalog chooses for a kind. -/
def declared? (catalog : Catalog) (release : Release) (kind : ObjectKind) (name : String) :
    Option FieldDecl :=
  (catalog.select? kind release).bind fun chosen => chosen.1.fields.find? (·.name == name)

/-- A declared field is in the layout, with the size that its type has on the machine. -/
theorem exists_field {catalog : Catalog} {version : Version} {kind : ObjectKind}
    {decl : FieldDecl}
    (h : catalog.declared? version.release kind decl.name = some decl) :
    ∃ layout field, catalog.layoutFor kind version = .ok layout ∧
      layout.field decl.name = .ok field ∧ field.type = decl.type ∧
      field.size = decl.type.size version.abi := by
  obtain ⟨⟨entry, index⟩, hchosen, hfind⟩ := Option.bind_eq_some_iff.1 h
  obtain ⟨offset, hplace⟩ := Layout.find?_place version.abi 0 entry.fields decl.name
  refine ⟨entry.layout version.abi, ⟨decl.name, offset, decl.type.size version.abi, decl.type⟩,
    layoutFor_eq_ok_iff.2 ⟨entry, index, hchosen, rfl⟩, ?_, rfl, rfl⟩
  rw [hfind] at hplace
  simp only [Layout.field, CatalogEntry.layout, Layout.ofDecls, hplace, Option.map_some]

/-- A name that is not declared is in no layout. -/
theorem hasField_eq_false {catalog : Catalog} {version : Version} {kind : ObjectKind}
    {name : String} {layout : Layout}
    (h : catalog.declared? version.release kind name = none)
    (hlayout : catalog.layoutFor kind version = .ok layout) : layout.hasField name = false := by
  obtain ⟨entry, index, hchosen, rfl⟩ := layoutFor_eq_ok_iff.1 hlayout
  obtain ⟨offset, hplace⟩ := Layout.find?_place version.abi 0 entry.fields name
  rw [declared?, hchosen, Option.bind_some] at h
  rw [h, Option.map_none, List.find?_eq_none] at hplace
  rw [Layout.hasField, List.any_eq_false]
  exact hplace

/-! ## What a capture asks for -/

open FieldDecl

/-- The fields that a capture of stacks reads in every release. -/
def commonFields : List (ObjectKind × FieldDecl) :=
  [(.threadState, long "thread_id"), (.threadState, pointer "next"),
   (.threadState, pointer "interp"), (.threadState, pointer "frame"),
   (.threadState, int "recursion_depth"), (.threadState, int "use_tracing"),
   (.frame, pointer "f_back"), (.frame, pointer "f_code"), (.frame, pointer "f_trace"),
   (.frame, int "f_lasti"), (.frame, int "f_lineno"),
   (.code, int "co_argcount"), (.code, pointer "co_name"), (.code, pointer "co_filename"),
   (.code, int "co_firstlineno"), (.code, pointer "co_lnotab")]

/-- The fields that it reads in the releases of one family. -/
def familyFields : Family → List (ObjectKind × FieldDecl)
  | .python2 => [(.string, word "ob_size"), (.string, items "ob_sval" .char)]
  | .python3 =>
    [(.threadState, byte "overflowed"), (.threadState, byte "recursion_critical"),
     (.code, int "co_kwonlyargcount"), (.unicode, word "length"), (.unicode, pointer "str"),
     (.bytes, word "ob_size"), (.bytes, items "ob_sval" .char)]

/-- The fields that a capture of stacks reads, with the kinds of their objects. -/
def captureFields (family : Family) : List (ObjectKind × FieldDecl) :=
  commonFields ++ familyFields family

/-- The catalog declares what a capture of stacks of the version reads, and no flags about
recursion where a thread state has none. -/
structure Covers (catalog : Catalog) (version : Version) : Prop where
  declares : ∀ kind decl, (kind, decl) ∈ captureFields version.family →
    catalog.declared? version.release kind decl.name = some decl
  flagless : version.family = .python2 →
    catalog.declared? version.release .threadState "overflowed" = none

/-- Every field that is read is declared in every release of the family. -/
theorem builtin_declared (family : Family) : ∀ release ∈ Release.supported,
    release ∈ family.range → ∀ access ∈ captureFields family,
      builtin.declared? release access.1 access.2.name = some access.2 := by
  -- the releases and the accesses are finite lists, so each look-up is computed
  cases family <;> decide +kernel

theorem builtin_covers (version : Version) : builtin.Covers version where
  declares kind decl mem :=
    builtin_declared version.family version.release version.release_mem_supported
      version.release_mem (kind, decl) mem
  flagless family := by
    have flagless : ∀ release ∈ Release.supported, release ∈ Family.python2.range →
        builtin.declared? release .threadState "overflowed" = none := by
      decide +kernel
    exact flagless version.release version.release_mem_supported
      (family ▸ version.release_mem)

/-! ## What other readers ask for -/

/-- The fields that tuples, Unicode texts and the names of types and built-in functions are read
by, in every release. -/
def objectFields : List (ObjectKind × FieldDecl) :=
  [(.object, pointer "ob_type"), (.type, pointer "tp_name"), (.cfunction, pointer "m_ml"),
   (.methodDef, pointer "ml_name"), (.unicode, word "length"), (.unicode, pointer "str"),
   (.tuple, word "ob_size"), (.tuple, items "ob_item" .address)]

/-- Each of these fields is declared in every release. -/
theorem builtin_declares_objects : ∀ release ∈ Release.supported, ∀ access ∈ objectFields,
    builtin.declared? release access.1 access.2.name = some access.2 := by
  decide +kernel

/-- The digits of the integers of a release. -/
def digitItem (release : Release) : ItemKind := if release = ⟨3, 0⟩ then .digit15 else .digit30

/-- Where integers have digits, these stand behind their number. -/
theorem builtin_declares_digits : ∀ release ∈ Release.supported, release ∈ Family.python3.range →
    ∀ decl ∈ [word "ob_size", items "ob_digit" (digitItem release)],
      builtin.declared? release .long decl.name = some decl := by
  decide +kernel

end Catalog

end RemoteStack
