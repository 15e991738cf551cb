import RemoteStack.Version

/-!
# Types of fields

What a field of an object holds, and how much room it takes on a given machine. A trailing
array has as many elements as the object says elsewhere; its size is that of one element.
-/

namespace RemoteStack

/-- The C type of an integer field. -/
inductive IntWidth where
  | byte
  | int
  | long
  /-- A size, as wide as a pointer. -/
  | word
  deriving DecidableEq, Repr

def IntWidth.size (abi : Abi) : IntWidth → Nat
  | .byte => 1
  | .int => 4
  | .long => abi.longSize
  | .word => abi.wordSize

/-- The elements of a trailing array. -/
inductive ItemKind where
  | address
  | char
  /-- Digits of 15 bits, in units of two bytes. -/
  | digit15
  /-- Digits of 30 bits, in units of four bytes. -/
  | digit30
  deriving DecidableEq, Repr

def ItemKind.size (abi : Abi) : ItemKind → Nat
  | .address => abi.wordSize
  | .char => 1
  | .digit15 => 2
  | .digit30 => 4

inductive FieldType where
  | integer (width : IntWidth)
  | address
  /-- Characters within the object; if terminated they end before the first zero. -/
  | chars (capacity : Nat) (terminated : Bool)
  /-- A structure that is read as it stands. -/
  | struct (size align : Nat)
  /-- An array that the object ends with. -/
  | items (item : ItemKind)
  deriving DecidableEq, Repr

namespace FieldType

def size (abi : Abi) : FieldType → Nat
  | .integer width => width.size abi
  | .address => abi.wordSize
  | .chars capacity _ => capacity
  | .struct size _ => size
  | .items item => item.size abi

/-- The alignment in bytes; zero asks for nothing, as one does. -/
def align (abi : Abi) : FieldType → Nat
  | .integer width => width.size abi
  | .address => abi.wordSize
  | .chars _ _ => 1
  | .struct _ align => align
  | .items item => item.size abi

/-- The short name in layout reports. -/
def label : FieldType → String
  | .integer .byte => "char"
  | .integer .int => "int"
  | .integer .long => "long"
  | .integer .word => "ssize"
  | .address => "ptr"
  | .chars _ _ => "chars"
  | .struct _ _ => "struct"
  | .items .address => "ptr[]"
  | .items .char => "char[]"
  | .items .digit15 | .items .digit30 => "digit[]"

end FieldType

/-- A field without a place: its name and its type. -/
structure FieldDecl where
  name : String
  type : FieldType
  deriving DecidableEq, Repr

/-- A field at its place within an object. -/
structure Field where
  name : String
  /-- The distance from the start of the object. -/
  offset : Nat
  /-- The size in bytes; of a trailing array, that of one element. -/
  size : Nat
  type : FieldType
  deriving DecidableEq, Repr

/-- The address of the field in an object, unless it lies outside the address space. -/
def Field.addressIn (field : Field) (object : Address) : Except DecodeError Address :=
  match object.add? field.offset with
  | some address => .ok address
  | none => .error (.invalidObject object s!"field {field.name} overflows the address space")

end RemoteStack
