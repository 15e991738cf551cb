import RemoteStack.Layout.Field

/-!
# Layouts

A `Layout` gives the places of the fields of one kind of object. `Layout.ofDecls` places
declarations as a C compiler does: each field goes to the next multiple of its alignment,
and the size is rounded up to the largest alignment.
-/

namespace RemoteStack

/-- The least multiple of `align` that is at least `n`; alignments 0 and 1 change nothing. -/
def alignUp (n align : Nat) : Nat :=
  if align ≤ 1 then n else (n + align - 1) / align * align

/-- The places of the fields of one kind of object. -/
structure Layout where
  kind : ObjectKind
  /-- The releases that the layout holds for. -/
  range : ReleaseRange
  abi : Abi
  fields : List Field
  /-- The size of the object, with one element of a trailing array. -/
  size : Nat
  deriving DecidableEq, Repr

namespace Layout

/-! ## Placing fields -/

/-- Places the declarations from `cursor` on. -/
def place (abi : Abi) (cursor : Nat) : List FieldDecl → List Field
  | [] => []
  | decl :: rest =>
    let offset := alignUp cursor (decl.type.align abi)
    let size := decl.type.size abi
    ⟨decl.name, offset, size, decl.type⟩ :: place abi (offset + size) rest

/-- Where the declarations end when they are placed from `cursor` on. -/
def extent (abi : Abi) (cursor : Nat) : List FieldDecl → Nat
  | [] => cursor
  | decl :: rest =>
    extent abi (alignUp cursor (decl.type.align abi) + decl.type.size abi) rest

/-- The largest alignment of the declarations, at least 1. -/
def maxAlign (abi : Abi) (decls : List FieldDecl) : Nat :=
  (decls.map (·.type.align abi)).foldl max 1

/-- The layout of the declarations, in their order. -/
def ofDecls (kind : ObjectKind) (range : ReleaseRange) (abi : Abi) (decls : List FieldDecl) :
    Layout where
  kind
  range
  abi
  fields := place abi 0 decls
  size := alignUp (extent abi 0 decls) (maxAlign abi decls)

/-! ## Looking fields up -/

/-- The layout has a field of this name. -/
def hasField (layout : Layout) (name : String) : Bool := layout.fields.any (·.name == name)

/-- The field of this name; of several, the first. -/
def field (layout : Layout) (name : String) : Except DecodeError Field :=
  match layout.fields.find? (·.name == name) with
  | some field => .ok field
  | none => .error (.unknownField layout.kind name)

end Layout

end RemoteStack
