import RemoteStack.Log.Level
import RemoteStack.Text.Numeral
import RemoteStack.Text.Blank
import RemoteStack.Text.Quoted

/-!
# Limits

Bounds that keep the decoding of a corrupted or changing memory finite. Each limit has a
default, and an environment variable that replaces it. A variable that holds no number is
reported and otherwise ignored.
-/

namespace RemoteStack

/-- How much is decoded at most. -/
structure Limits where
  /-- Frames of one thread. -/
  maxDepth : Nat := 256
  /-- Bytes of one string: `Reader.sizedChars` and `Reader.cString` count bytes, but
  `Reader.unicode` counts units of two or four bytes. -/
  maxStringLength : Nat := 4096
  /-- Items of one tuple. -/
  maxTupleItems : Nat := 1024
  /-- Threads of one list. -/
  maxThreads : Nat := 512
  deriving DecidableEq, Repr

namespace Limits

/-! ## The environment -/

def depthVariable : String := "PYSCOPE_MAX_DEPTH"
def stringVariable : String := "PYSCOPE_MAX_STRING_LEN"
def tupleVariable : String := "PYSCOPE_MAX_TUPLE_ITEMS"
def threadVariable : String := "PYSCOPE_MAX_THREADS"

/-- The variables that replace the limits, in the order of the limits. -/
def variableNames : List String :=
  [depthVariable, stringVariable, tupleVariable, threadVariable]

/-- Reads a limit: blanks around a number that fits 64 bits. -/
def parse? (input : String) : Option Nat := Base.decimal.unsigned? 64 (Text.trim input.toList)

/-- The limit that a variable asks for, and what the log says about it. -/
def chosen (environment : String → Option String) (name : String) (standard : Nat) :
    Nat × List Log.Event :=
  match environment name with
  | none => (standard, [])
  | some input =>
    match parse? input with
    | some limit => (limit, [])
    | none =>
      (standard, [⟨.warn, s!"ignoring invalid {name}={Text.quoted input}, keeping default"⟩])

/-- The limits that the environment asks for, and what the log says about them. -/
def ofEnvironment (environment : String → Option String) : Limits × List Log.Event :=
  let standard : Limits := {}
  let (maxDepth, depthEvents) := chosen environment depthVariable standard.maxDepth
  let (maxStringLength, stringEvents) :=
    chosen environment stringVariable standard.maxStringLength
  let (maxTupleItems, tupleEvents) := chosen environment tupleVariable standard.maxTupleItems
  let (maxThreads, threadEvents) := chosen environment threadVariable standard.maxThreads
  ({ maxDepth, maxStringLength, maxTupleItems, maxThreads },
    depthEvents ++ stringEvents ++ tupleEvents ++ threadEvents)

end Limits

end RemoteStack
