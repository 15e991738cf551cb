import RemoteStack.Text.Keyword
import RemoteStack.Rejection

/-!
# Kinds of interpreter objects

The kinds of objects and records in the memory of the interpreter that have a layout.
-/

namespace RemoteStack

/-- A kind of object in the memory of the interpreter. -/
inductive ObjectKind where
  /-- The head that every object begins with. -/
  | object
  /-- A compiled body of code. -/
  | code
  /-- A function made from a body of code. -/
  | function
  /-- The activation of a body of code. -/
  | frame
  /-- The state of one thread. -/
  | threadState
  /-- A byte string of the 2.x releases. -/
  | string
  /-- A byte string of the 3.x releases. -/
  | bytes
  | unicode
  | tuple
  | type
  /-- A machine integer of the 2.x releases. -/
  | int
  /-- An integer of any size. -/
  | long
  /-- A function that is built into the interpreter. -/
  | cfunction
  /-- The description that a built-in function refers to. -/
  | methodDef
  deriving DecidableEq, Repr

namespace ObjectKind

/-- Every kind, in the order of declaration. -/
def all : List ObjectKind :=
  [.object, .code, .function, .frame, .threadState, .string, .bytes, .unicode, .tuple, .type,
   .int, .long, .cfunction, .methodDef]

/-- The name of the kind in reports and on the command line. -/
def name : ObjectKind → String
  | .object => "object"
  | .code => "code"
  | .function => "function"
  | .frame => "frame"
  | .threadState => "threadstate"
  | .string => "string"
  | .bytes => "bytes"
  | .unicode => "unicode"
  | .tuple => "tuple"
  | .type => "type"
  | .int => "int"
  | .long => "long"
  | .cfunction => "cfunction"
  | .methodDef => "methoddef"

/-- Reads the name of a kind in any case. -/
def parse (input : String) : Except Rejection ObjectKind :=
  match all.find? (·.name == Text.small input) with
  | some kind => .ok kind
  | none => .error (.objectKind input)

end ObjectKind

end RemoteStack
